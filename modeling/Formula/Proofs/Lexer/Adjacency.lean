import Formula.Proofs.Lexer.Spelling

/-!
# Where operands meet

Where an operand starts right after a number, a variable or a closing bracket, a product sign is put
between the two, or the reading fails. An operator that follows its operand completes it as well,
but nothing is put there: **operands meet at such operators, and nowhere else** (`readText_parted`).
So no two operands meet in any text if and only if the table has no operator of this kind.
-/

namespace Formula

variable {σ : Type}

/-- An operand starts only where one is due: not right after a token that completes one. -/
def Token.Parted (token next : Token σ) : Prop :=
  next.startsOperand = true → token.awaitsOperand = true

/-! ## The check of an operator -/

namespace Operator

variable {o : Operator σ}

/-- The check has nothing to say against a symbol of operator characters, at least one. -/
theorem check_symbol_iff :
    o.check ≠ .error (.invalidSymbol o.symbol) ↔
      o.symbol.toList ≠ [] ∧ ∀ c ∈ o.symbol.toList, isSymbolCharacter c = true := by
  have valid_iff : (o.symbol.toList.isEmpty || !o.symbol.toList.all isSymbolCharacter) = false ↔
      o.symbol.toList ≠ [] ∧ ∀ c ∈ o.symbol.toList, isSymbolCharacter c = true := by
    simp
  rw [← valid_iff, check]
  cases o.symbol.toList.isEmpty || !o.symbol.toList.all isSymbolCharacter with
  | true => simp
  | false =>
    simp only [Bool.false_eq_true, if_false, iff_true]
    split <;> simp

/-- An operator passes the check if its symbol does, and it takes one or two operands. -/
theorem check_eq_ok_iff :
    o.check = .ok () ↔
      o.check ≠ .error (.invalidSymbol o.symbol) ∧ (o.arity = 1 ∨ o.arity = 2) := by
  unfold check
  split
  · simp
  · split
    · rename_i arity
      simp only [reduceCtorEq, false_iff, not_and, not_or]
      exact fun _ => arity
    · rename_i arity
      simp only [ne_eq, reduceCtorEq, not_false_eq_true, true_and, true_iff]
      by_contra other
      exact arity (not_or.mp other)

/-- An operator that takes one operand can be declared if its symbol is made of operator
characters. -/
theorem check_of_isUnary (unary : o.isUnary = true) (some_character : o.symbol.toList ≠ [])
    (characters : ∀ c ∈ o.symbol.toList, isSymbolCharacter c = true) : o.check = .ok () :=
  check_eq_ok_iff.mpr
    ⟨check_symbol_iff.mpr ⟨some_character, characters⟩, .inl (arity_of_isUnary unary)⟩

/-- The symbol of an operator that can be declared. -/
theorem symbol_of_check (h : o.check = .ok ()) :
    o.symbol.toList ≠ [] ∧ ∀ c ∈ o.symbol.toList, isSymbolCharacter c = true :=
  check_symbol_iff.mp (check_eq_ok_iff.mp h).1

end Operator

/-- Operators that follow their operand are found for their symbols among the declared ones. -/
theorem Symbols.declaredOperator?_of_follows {symbols : Symbols σ} {operandDue : Bool}
    {symbol : String} {o : Operator σ} (follows : o.followsOperand = true)
    (h : symbols.operator? operandDue symbol = some o) :
    symbols.declaredOperator? symbol = some o := by
  rcases operator?_cases h with declared | ⟨c, arity, -, built_in⟩
  · exact declared
  · have sides := Operator.followsOperand_of_builtin (List.mem_of_find?_eq_some built_in)
    rw [follows] at sides
    cases sides

namespace Lexer

variable {lexer : Lexer σ}

/-! ## Operators that are read -/

/-- An operator that is read stands for its symbol, which is a run of operator characters. -/
theorem readOperator_symbol {symbols : Symbols σ} {operandDue : Bool} {position n : Nat}
    {cs : List Char} {o : Operator σ}
    (h : readOperator symbols operandDue position cs = .ok (o, n)) :
    symbols.operator? operandDue o.symbol = some o ∧
      ∀ c ∈ o.symbol.toList, Operator.isSymbolCharacter c = true := by
  unfold readOperator at h
  split at h
  · rename_i best
    cases h
    have found := longest_answer best
    have symbol := symbol_of_operator? found
    refine ⟨by rw [symbol]; exact found, ?_⟩
    have within : n ≤ symbolLength cs :=
      Nat.le_trans (longest_le best) (Nat.min_le_left _ _)
    intro c mem
    rw [symbol, String.toList_ofList] at mem
    exact List.all_eq_true.mp List.all_takeWhile c (take_subset_run within mem)
  · cases h

/-- The class of the character that a token starts with. -/
def Lead.ofToken : Token σ → Lead
  | .number _ => numeral
  | .var _ _ | .function _ => name
  | .operator _ => symbol
  | .opening => opening
  | .closing => closing
  | .separator => separator

/-- What is read is of the class of its first character. -/
theorem lead_of_read {here : Cursor σ} {c : Char} {token : Token σ} {n : Nat}
    (h : lexer.read here c = .ok (token, n)) : Lead.of c = Lead.ofToken token := by
  unfold read at h
  split at h <;> rename_i lead <;> rw [lead]
  · cases literal : readLiteral here.position here.rest with
    | error error =>
      rw [literal] at h
      cases h
    | ok found =>
      rw [literal] at h
      cases h
      rfl
  · cases h
    rfl
  · cases h
    rfl
  · cases h
    rfl
  · cases symbol : readOperator lexer.symbols here.operandDue here.position here.rest with
    | error error =>
      rw [symbol] at h
      cases h
    | ok found =>
      rw [symbol] at h
      cases h
      rfl
  · rcases named?_cases (readName_named h) with ⟨f, rfl, -⟩ | ⟨name, rfl, -⟩ <;> rfl
  · cases h

/-- **An operator that is read** has a symbol of operator characters, and is what the table has for
it in this place. -/
theorem operator_of_read {here : Cursor σ} {c : Char} {rest : List Char} {o : Operator σ} {n : Nat}
    (front : here.rest = c :: rest) (h : lexer.read here c = .ok (.operator o, n)) :
    o.symbol.toList ≠ [] ∧ (∀ c ∈ o.symbol.toList, Operator.isSymbolCharacter c = true) ∧
      lexer.symbols.operator? here.operandDue o.symbol = some o := by
  have spelling : here.rest.take n = o.symbol.toList := (read_spelled front h).1
  have some_symbol : o.symbol.toList ≠ [] := by
    rw [← spelling, Ne, List.take_eq_nil_iff, not_or, front]
    exact ⟨Nat.ne_of_gt (read_pos front h), List.cons_ne_nil _ _⟩
  have lead : Lead.of c = .symbol := lead_of_read h
  rw [read, lead] at h
  cases found : readOperator lexer.symbols here.operandDue here.position here.rest with
  | error error =>
    rw [found] at h
    cases h
  | ok pair =>
    rw [found] at h
    cases h
    obtain ⟨known, characters⟩ := readOperator_symbol found
    exact ⟨some_symbol, characters, known⟩

/-- **An operator of a reading that follows its operand is declared**, and the table has it for its
symbol. -/
theorem readFrom_follows (cursor : Cursor σ) {o : Operator σ}
    (mem : .operator o ∈ (lexer.readFrom cursor).tokens) (follows : o.followsOperand = true) :
    lexer.symbols.declaredOperator? o.symbol = some o ∧ o.check = .ok () := by
  revert mem
  refine readFrom_induction
    (motive := fun _ tokens => .operator o ∈ tokens →
      lexer.symbols.declaredOperator? o.symbol = some o ∧ o.check = .ok ()) ?_ ?_ cursor
  · intro cursor _ mem
    cases mem
  · intro cursor lexeme after stepped rest mem
    rcases List.mem_cons.mp mem with here | later
    · obtain ⟨-, product | ⟨c, left, n, front, read_ok, -, -⟩⟩ := next_cases stepped
      · rw [← here] at product
        cases product
        cases follows
      · rw [← here] at read_ok
        obtain ⟨some_symbol, characters, known⟩ := operator_of_read front read_ok
        exact ⟨Symbols.declaredOperator?_of_follows follows known,
          Operator.check_of_isUnary (Operator.isUnary_of_followsOperand follows) some_symbol
            characters⟩
    · exact rest later

/-! ## An operator between two literals -/

/-- **An operator that follows its operand meets the next one**, where it is declared. -/
theorem tokens_around {o : Operator σ} (symbols : Symbols σ) (implicit : Bool)
    (declared : symbols.declaredOperator? o.symbol = some o) (valid : o.check = .ok ())
    {one : Float} (value : Decimal.readLiteral ['1'] = some one) :
    let reading :=
      readText symbols implicit (String.ofList ('1' :: (o.symbol.toList ++ ['1'])))
    reading.tokens = [.number one, .operator o, .number one] ∧ reading.error? = none := by
  obtain ⟨some_character, characters⟩ := Operator.symbol_of_check valid
  let lexer : Lexer σ :=
    ⟨symbols, implicit, String.ofList ('1' :: (o.symbol.toList ++ ['1']))⟩
  have first : lexer.next ⟨'1' :: (o.symbol.toList ++ ['1']), 0, none⟩ =
      .found ⟨.number one, ['1'], 0⟩ ⟨o.symbol.toList ++ ['1'], 1, some (.number one)⟩ := by
    refine next_number value rfl fun c head => ?_
    obtain ⟨d, more, symbol⟩ := List.exists_cons_of_ne_nil some_character
    have same : d = c := by simpa [symbol] using head
    subst same
    have kind := lead_of_isSymbolCharacter (characters d (by simp [symbol]))
    exact ⟨kind.2.1, kind.2.2.1, kind.2.2.2.1⟩
  have found : symbols.operator? false (String.ofList o.symbol.toList) = some o := by
    rw [String.ofList_toList, Symbols.operator?, declared]
  have second : lexer.next ⟨o.symbol.toList ++ ['1'], 1, some (.number one)⟩ =
      .found ⟨.operator o, o.symbol.toList, 1⟩
        ⟨['1'], 1 + o.symbol.toList.length, some (.operator o)⟩ :=
    next_symbol some_character characters
      (by simp [Operator.isSymbolCharacter, Operator.symbolCharacters]) found
  have third : lexer.next ⟨['1'], 1 + o.symbol.toList.length, some (.operator o)⟩ =
      .found ⟨.number one, ['1'], 1 + o.symbol.toList.length⟩
        ⟨[], 1 + o.symbol.toList.length + 1, some (.number one)⟩ :=
    next_number value (by simp [Token.endsOperand]) (by simp)
  have last : lexer.next ⟨[], 1 + o.symbol.toList.length + 1, some (.number one)⟩ = .finished := rfl
  have reading : readText symbols implicit lexer.text =
      ⟨[⟨.number one, ['1'], 0⟩, ⟨.operator o, o.symbol.toList, 1⟩,
        ⟨.number one, ['1'], 1 + o.symbol.toList.length⟩], none⟩ := by
    have start : readText symbols implicit lexer.text =
        lexer.readFrom ⟨'1' :: (o.symbol.toList ++ ['1']), 0, none⟩ := by
      rw [readText, String.toList_ofList]
      rfl
    rw [start, readFrom_found first, readFrom_found second, readFrom_found third,
      readFrom_finished last]
    rfl
  show (readText symbols implicit lexer.text).tokens = _ ∧
    (readText symbols implicit lexer.text).error? = none
  rw [reading]
  exact ⟨rfl, rfl⟩

end Lexer

/-- **Operands meet at operators that follow an operand, and nowhere else**, whatever the text and
whether products may be implied or not. So in no text that is read to its end do operands meet, if
and only if the table has no operator of this kind. -/
theorem readText_parted (symbols : Symbols σ) :
    (∀ implicit text, (Lexer.readText symbols implicit text).tokens.IsChain fun token next =>
        token.Parted next ∨ token.followsOperand = true) ∧
      ((∀ implicit text, (Lexer.readText symbols implicit text).error? = none →
          (Lexer.readText symbols implicit text).tokens.IsChain Token.Parted) ↔
        ∀ o, symbols.declaredOperator? o.symbol = some o → o.check = .ok () →
          o.followsOperand = false) := by
  have meeting : ∀ implicit text, (Lexer.readText symbols implicit text).tokens.IsChain
      fun token next => token.Parted next ∨ token.followsOperand = true := by
    intro implicit text
    have unmet := Lexer.readFrom_unmet ⟨symbols, implicit, text⟩ (.start text.toList)
    refine List.IsChain.imp (fun token next apart => ?_) unmet
    cases token with
    | operator o =>
      cases follows : o.followsOperand with
      | true => exact .inr follows
      | false => exact .inl fun _ => by simp [Token.awaitsOperand, follows]
    | number x => exact .inl fun starts => by rw [apart rfl] at starts; cases starts
    | var name slot => exact .inl fun starts => by rw [apart rfl] at starts; cases starts
    | closing => exact .inl fun starts => by rw [apart rfl] at starts; cases starts
    | _ => exact .inl fun _ => rfl
  refine ⟨meeting, fun parted o declared valid => ?_, fun none_follows implicit text _ => ?_⟩
  · obtain ⟨one, value⟩ : ∃ one, Decimal.readLiteral ['1'] = some one := ⟨_, rfl⟩
    obtain ⟨tokens, ended⟩ := Lexer.tokens_around symbols true declared valid value
    have chain := parted _ _ ended
    rw [tokens] at chain
    have here := (List.isChain_cons_cons.mp (List.isChain_cons_cons.mp chain).2).1
    simpa [Token.awaitsOperand] using here rfl
  · have sides : ∀ token ∈ (Lexer.readText symbols implicit text).tokens,
        token.followsOperand = false := by
      intro token mem
      cases token with
      | operator o =>
        cases follows : o.followsOperand with
        | false => exact follows
        | true =>
          obtain ⟨declared, valid⟩ := Lexer.readFrom_follows _ mem follows
          rw [none_follows o declared valid] at follows
          cases follows
      | _ => rfl
    have chain := meeting implicit text
    exact chain.imp_of_mem_imp fun token next mem _ either =>
      either.resolve_right (by rw [sides token mem]; exact Bool.false_ne_true)

/-- **Operands meet after an operator that follows its operand**: in `1!1` no product is implied,
and nothing is reported. -/
theorem operands_meet_after_factorial :
    let factorial : Operator Unit := ⟨"!", 1, true, 10001, Rule.ofFunction fun _ => .ok 1⟩
    let symbols : Symbols Unit := ⟨[], [], [factorial]⟩
    ∀ implicit : Bool, (Lexer.readText symbols implicit "1!1").error? = none ∧
      ¬ (Lexer.readText symbols implicit "1!1").tokens.IsChain Token.Parted := by
  intro factorial symbols implicit
  obtain ⟨one, value⟩ : ∃ one, Decimal.readLiteral ['1'] = some one := ⟨_, rfl⟩
  have valid : factorial.check = .ok () :=
    Operator.check_of_isUnary rfl (by simp [factorial]) (by simp [factorial]; decide)
  have declared : symbols.declaredOperator? factorial.symbol = some factorial := by
    simp [Symbols.declaredOperator?, symbols]
  obtain ⟨tokens, ended⟩ := Lexer.tokens_around symbols implicit declared valid value
  have text : String.ofList ('1' :: (factorial.symbol.toList ++ ['1'])) = "1!1" := by decide
  rw [text] at tokens ended
  refine ⟨ended, fun parted => ?_⟩
  rw [tokens] at parted
  have here := (List.isChain_cons_cons.mp (List.isChain_cons_cons.mp parted).2).1
  have awaits : (Token.operator factorial).awaitsOperand = true := here rfl
  simp [Token.awaitsOperand, Operator.followsOperand, Operator.isUnary, factorial] at awaits

end Formula
