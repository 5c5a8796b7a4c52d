import Formula.Proofs.Lexer.Respelling

/-!
# What can be declared can be read

Names and symbols are checked when they are declared. The lexer does not ask for that check: it cuts
its runs by classes of characters of its own, in an order of their own, and looks up what the table
holds, whether it was checked or not.

**The two agree.** What is read has a name or a symbol that passes the check
(`Lexer.wellNamed_of_read`), under every table. What passes it is read from a text that says nothing
else, whatever shorter or longer names and symbols there are (`readText_declared`). So a name that
would be refused is of no use where it is entered without a check.
-/

namespace Formula

variable {σ : Type}

/-- **The name or the symbol of the token is one by the check of its declaration.** -/
def Token.WellNamed : Token σ → Prop
  | var name _ => Name.isValid name = true
  | function f => Name.isValid f.name = true
  | operator o => o.check ≠ .error (.invalidSymbol o.symbol)
  | number _ | opening | closing | separator => True

/-- The text is read to its end, to these tokens. -/
def Lexer.ReadsTo (symbols : Symbols σ) (implicit : Bool) (text : String)
    (tokens : List (Token σ)) : Prop :=
  (readText symbols implicit text).tokens = tokens ∧ (readText symbols implicit text).error? = none

/-! ## What is read passes the check -/

/-- What may be read after some token has a name or a symbol that passes the check. -/
theorem Token.ReadableAfter.wellNamed {symbols : Symbols σ} {previous : Option (Token σ)}
    {token : Token σ} (readable : token.ReadableAfter symbols previous) : token.WellNamed := by
  cases token with
  | var name slot => exact readable.2.2.1
  | function f => exact readable.2.2
  | operator o => exact Operator.check_symbol_iff.mpr ⟨readable.1, readable.2.1⟩
  | _ => trivial

namespace Lexer

/-- **Every token of a reading has a name or a symbol that passes the check**, whatever the table
holds. -/
theorem wellNamed_of_read (lexer : Lexer σ) (cursor : Cursor σ) :
    ∀ token ∈ (lexer.readFrom cursor).tokens, token.WellNamed := by
  refine readFrom_induction (motive := fun _ tokens => ∀ token ∈ tokens, token.WellNamed) ?_ ?_
    cursor
  · intro cursor _ token mem
    cases mem
  · intro cursor lexeme after stepped rest
    refine List.forall_mem_cons.mpr ⟨?_, rest⟩
    obtain ⟨-, product | ⟨c, _, n, front, read_ok, -, unmet⟩⟩ := next_cases stepped
    · have named : (Token.operator Operator.times : Token σ).NamedIn .empty :=
        Operator.namedIn_of_builtin (by simp [Operator.builtins]) rfl
      rw [product]
      exact Operator.check_symbol_iff.mpr ⟨named.1, named.2.1⟩
    · exact (readableAfter_of_read front read_ok unmet).wellNamed

/-- So it is where a text is read to given tokens. -/
theorem ReadsTo.wellNamed {symbols : Symbols σ} {implicit : Bool} {text : String}
    {tokens : List (Token σ)} (reads : ReadsTo symbols implicit text tokens) :
    ∀ token ∈ tokens, token.WellNamed := by
  rw [← reads.1]
  exact wellNamed_of_read _ _

/-! ## What passes the check is read -/

section Alone

variable {symbols : Symbols σ} (implicit : Bool)

/-- A token that may be read first is read from its spelling. -/
theorem readsTo_single {token : Token σ} {spelling : String}
    (spells : token.SpelledBy spelling.toList) (readable : token.ReadableAfter symbols none)
    (called : Called [token]) : ReadsTo symbols implicit spelling [token] := by
  have spaced : Spaced [token] spelling.toList := by
    have alone : Spaced [token] (spelling.toList ++ []) := .token spells (by simp) .done
    rwa [List.append_nil] at alone
  exact readFrom_spaced spaced ⟨readable, trivial⟩ called

/-- The name of a variable is read as this variable, where no bracket comes after it. -/
theorem readsTo_var {name : String} (declared : symbols.isVariable name = true)
    (valid : Name.isValid name = true) : ReadsTo symbols implicit name [.var name 0] :=
  readsTo_single implicit rfl ⟨rfl, declared, valid, rfl⟩ trivial

/-- The symbol of an operator is read as this operator. -/
theorem readsTo_operator {o : Operator σ} (declared : symbols.declaredOperator? o.symbol = some o)
    (valid : o.check = .ok ()) : ReadsTo symbols implicit o.symbol [.operator o] := by
  obtain ⟨some_character, characters⟩ := Operator.symbol_of_check valid
  refine readsTo_single implicit rfl ⟨some_character, characters, ?_⟩ trivial
  rw [Symbols.operator?, declared]

/-- The name of a function is read as this function, where a bracket opens after it. -/
theorem readsTo_call {f : Function σ} (known : symbols.function? f.name = some f)
    (valid : Name.isValid f.name = true) :
    ReadsTo symbols implicit (f.name ++ "(") [.function f, .opening] := by
  let lexer : Lexer σ := ⟨symbols, implicit, f.name ++ "("⟩
  have name : lexer.next ⟨f.name.toList ++ ['('], 0, none⟩ =
      .found ⟨.function f, f.name.toList, 0⟩
        ⟨['('], 0 + f.name.toList.length, some (.function f)⟩ := by
    refine next_name valid rfl ?_ ?_
    · rintro c ⟨⟩
      decide +kernel
    · have opens : opensNext ['('] = true := by decide
      simp [named?, opens, lexer, known]
  have bracket : lexer.next ⟨['('], 0 + f.name.toList.length, some (.function f)⟩ =
      .found ⟨.opening, ['('], 0 + f.name.toList.length⟩
        ⟨[], 0 + f.name.toList.length + 1, some .opening⟩ :=
    next_single (by decide) (.inl ⟨by decide, rfl, rfl⟩)
  have last : lexer.next ⟨[], 0 + f.name.toList.length + 1, some .opening⟩ = .finished := rfl
  have reading : readText symbols implicit lexer.text =
      ⟨[⟨.function f, f.name.toList, 0⟩, ⟨.opening, ['('], 0 + f.name.toList.length⟩], none⟩ := by
    have start : readText symbols implicit lexer.text =
        lexer.readFrom ⟨f.name.toList ++ ['('], 0, none⟩ := by
      rw [readText, String.toList_append]
      rfl
    rw [start, readFrom_found name, readFrom_found bracket, readFrom_finished last]
    rfl
  show (readText symbols implicit lexer.text).tokens = _ ∧
    (readText symbols implicit lexer.text).error? = none
  rw [reading]
  exact ⟨rfl, rfl⟩

end Alone

end Lexer

/-- **What is declared is read back if and only if its declaration passes the check**, whatever else
the table holds: a variable from its name, a function from its name with a bracket after it, and an
operator of one or two operands from its symbol. No token of any text has a name or a symbol that
does not pass it. -/
theorem readText_declared (symbols : Symbols σ) (implicit : Bool) :
    (∀ name, symbols.isVariable name = true →
      (Lexer.ReadsTo symbols implicit name [.var name 0] ↔ Name.isValid name = true)) ∧
    (∀ name f, symbols.functions.find? (fun g => g.name == name) = some f →
      (Lexer.ReadsTo symbols implicit (name ++ "(") [.function f, .opening] ↔
        Name.isValid name = true)) ∧
    (∀ symbol o, symbols.declaredOperator? symbol = some o → o.arity = 1 ∨ o.arity = 2 →
      (Lexer.ReadsTo symbols implicit symbol [.operator o] ↔ o.check = .ok ())) ∧
    ∀ text, ∀ token ∈ (Lexer.readText symbols implicit text).tokens, token.WellNamed := by
  refine ⟨fun name declared => ⟨fun reads => ?_, ?_⟩, fun name f declared => ?_,
    fun symbol o declared arity => ?_, fun text => Lexer.wellNamed_of_read _ _⟩
  · exact reads.wellNamed _ List.mem_cons_self
  · exact Lexer.readsTo_var implicit declared
  · have known : symbols.function? name = some f := by
      rw [Symbols.function?, declared]
      rfl
    obtain rfl : f.name = name := Lexer.name_of_function? known
    constructor
    · intro reads
      exact reads.wellNamed _ List.mem_cons_self
    · exact Lexer.readsTo_call implicit known
  · obtain rfl : o.symbol = symbol := by simpa using List.find?_some declared
    constructor
    · intro reads
      exact Operator.check_eq_ok_iff.mpr ⟨reads.wellNamed _ List.mem_cons_self, arity⟩
    · exact Lexer.readsTo_operator implicit declared

/-- Of names and symbols that start alike, each is read back, and a declared function hides the
built-in one. The name `1a` starts with a digit: it is declared without a check, and never read. -/
theorem readText_declared_alike :
    let f (name : String) : Function Unit := ⟨name, 1, true, Rule.ofFunction fun _ => .ok 0⟩
    let o (symbol : String) : Operator Unit := ⟨symbol, 1, true, 9, Rule.ofFunction fun _ => .ok 0⟩
    let symbols : Symbols Unit := ⟨["a", "a1", "1a"], [f "si", f "sin"], [o "!", o "!!"]⟩
    Lexer.ReadsTo symbols true "a1" [.var "a1" 0] ∧
      ¬ Lexer.ReadsTo symbols true "1a" [.var "1a" 0] ∧
      Lexer.ReadsTo symbols true "sin(" [.function (f "sin"), .opening] ∧
      Lexer.ReadsTo symbols true "!!" [.operator (o "!!")] := by
  intro f o symbols
  obtain ⟨vars, functions, operators, -⟩ := readText_declared symbols true
  refine ⟨(vars "a1" rfl).mpr (by decide +kernel), fun reads => ?_, ?_, ?_⟩
  · have valid := (vars "1a" rfl).mp reads
    have invalid : Name.isValid "1a" = false := by decide +kernel
    rw [invalid] at valid
    cases valid
  · exact (functions "sin" (f "sin") rfl).mpr (by decide +kernel)
  · refine (operators "!!" (o "!!") rfl (.inl rfl)).mpr (Operator.check_of_isUnary rfl ?_ ?_)
    · simp [o]
    · simp [o]
      decide

end Formula
