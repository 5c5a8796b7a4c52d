import Formula.Proofs.Lexer.Recognition

/-!
# The longest match

Where a name starts, all its characters up to the first that is not part of a name are its run, and
likewise for the symbol of an operator. The lexer looks the parts of a run up one by one, names and
symbols alike from the longest to the shortest. **What it finds is the longest part that is known**
(`Lexer.longest_run`): no longer one is, and nothing shorter is taken.

A name may be that of a function and of a variable, and then it is what comes after it that counts. A
bracket that opens next comes after the whole run and after no other part of it, so that **a function
is called by the whole run or not at all** (`Lexer.readName_called`), whatever else is declared. If
none is called, the parts of the run name variables only (`Lexer.named?_uncalled`).

`Lexer.NameStep` and `Lexer.SymbolStep` state the two rules without the search. Each leaves one
outcome in every place, and the next step is that outcome (`next_longest`).
-/

namespace Formula

variable {σ : Type}

/-- **The longest part at the front of a run that is known.** It has a character or more. -/
structure LongestPart (known : String → Prop) (run part : List Char) : Prop where
  front : part <+: run
  visible : part ≠ []
  found : known (String.ofList part)
  longest : ∀ other, other <+: run → known (String.ofList other) → other.length ≤ part.length

/-- No two parts are the longest. -/
theorem LongestPart.unique {known : String → Prop} {run part other : List Char}
    (first : LongestPart known run part) (second : LongestPart known run other) : part = other := by
  have shorter := second.longest part first.front first.found
  have longer := first.longest other second.front second.found
  exact (List.prefix_of_prefix_length_le first.front second.front shorter).eq_of_length_le longer

namespace Symbols

/-- **The function that a name calls**: the latest one that is declared under it, or the built-in one
where none is. -/
inductive Calls (symbols : Symbols σ) (name : String) (f : Function σ) : Prop where
  | declared (found : symbols.functions.find? (fun g => g.name == name) = some f)
  | builtIn (undeclared : ∀ g ∈ symbols.functions, g.name ≠ name)
      (found : Function.builtin? name = some f)

/-- An operator is declared under the symbol, or built in under it. -/
def HasSymbol (symbols : Symbols σ) (symbol : String) : Prop :=
  (∃ o ∈ symbols.operators, o.symbol = symbol) ∨
    ∃ o ∈ Operator.builtins (σ := σ), o.symbol = symbol

/-- **The operator that a symbol stands for**: the latest one that is declared under it, or a
built-in one where none is. Of two built-in ones it is the one that goes before its operand where an
operand is due, and the one that goes between two where none is. -/
inductive StandsFor (symbols : Symbols σ) (due : Bool) (symbol : String) (o : Operator σ) :
    Prop where
  | declared (found : symbols.declaredOperator? symbol = some o)
  | builtIn (undeclared : ∀ p ∈ symbols.operators, p.symbol ≠ symbol)
      (mem : o ∈ Operator.builtins) (named : o.symbol = symbol)
      (fits : ∀ p ∈ Operator.builtins (σ := σ), p.symbol = symbol → p.precedesOperand = due →
        o.precedesOperand = due)

variable {symbols : Symbols σ}

/-! ## Look-up -/

theorem function?_eq_some_iff {name : String} {f : Function σ} :
    symbols.function? name = some f ↔ symbols.Calls name f := by
  rw [function?, Option.orElse_eq_orElse, Option.orElse_eq_or, Option.or_eq_some_iff]
  have undeclared : symbols.functions.find? (fun g => g.name == name) = none ↔
      ∀ g ∈ symbols.functions, g.name ≠ name := by
    simp
  rw [undeclared]
  constructor
  · rintro (declared | ⟨undeclared, built_in⟩)
    · exact .declared declared
    · exact .builtIn undeclared built_in
  · rintro (declared | ⟨undeclared, built_in⟩)
    · exact .inl declared
    · exact .inr ⟨undeclared, built_in⟩

theorem declaredOperator?_eq_none_iff {symbol : String} :
    symbols.declaredOperator? symbol = none ↔ ∀ o ∈ symbols.operators, o.symbol ≠ symbol := by
  simp [declaredOperator?]

end Symbols

/-- The built-in operator of a symbol and a number of operands, as one that is built in. -/
theorem Operator.builtin?_eq_some_iff {c : Char} {arity : Nat} {o : Operator σ} :
    builtin? c arity = some o ↔
      o ∈ builtins ∧ o.symbol = String.singleton c ∧ o.arity = arity := by
  constructor
  · intro found
    have matched := List.find?_some found
    simp only [Bool.and_eq_true, beq_iff_eq] at matched
    exact ⟨List.mem_of_find?_eq_some found, matched.2, matched.1⟩
  · rintro ⟨mem, symbol, rfl⟩
    obtain ⟨d, single, found⟩ := builtin?_of_mem mem
    have same : [d] = [c] := by rw [← single, symbol, String.toList_singleton]
    cases same
    exact found

/-- A symbol that nothing is declared under stands for the built-in operator that fits the place, or
for the only one that there is. -/
theorem Operator.builtin?_or_eq_some_iff {c : Char} {due : Bool} {o : Operator σ} :
    (builtin? c (if due then 1 else 2) <|> builtin? c (3 - if due then 1 else 2)) = some o ↔
      o ∈ builtins ∧ o.symbol = String.singleton c ∧
        ∀ p ∈ builtins (σ := σ), p.symbol = String.singleton c → p.precedesOperand = due →
          o.precedesOperand = due := by
  have arity_iff : ∀ p ∈ builtins (σ := σ), (p.arity = if due then 1 else 2) ↔
      p.precedesOperand = due := by
    intro p mem
    rw [arity_of_precedesOperand mem]
    cases p.precedesOperand <;> cases due <;> simp
  have other_arity : ∀ p ∈ builtins (σ := σ), p.precedesOperand ≠ due →
      p.arity = 3 - if due then 1 else 2 := by
    intro p mem unfit
    rw [arity_of_precedesOperand mem]
    revert unfit
    cases p.precedesOperand <;> cases due <;> simp
  rw [Option.orElse_eq_orElse, Option.orElse_eq_or, Option.or_eq_some_iff, builtin?_eq_some_iff]
  constructor
  · rintro (⟨mem, symbol, arity⟩ | ⟨none_fits, found⟩)
    · exact ⟨mem, symbol, fun _ _ _ _ => (arity_iff o mem).mp arity⟩
    · obtain ⟨mem, symbol, -⟩ := builtin?_eq_some_iff.mp found
      refine ⟨mem, symbol, fun p among named fits => ?_⟩
      have missed := builtin?_eq_some_iff.mpr ⟨among, named, (arity_iff p among).mpr fits⟩
      rw [none_fits] at missed
      cases missed
  · rintro ⟨mem, symbol, best⟩
    by_cases fits : o.precedesOperand = due
    · exact .inl ⟨mem, symbol, (arity_iff o mem).mpr fits⟩
    · refine .inr ⟨?_, builtin?_eq_some_iff.mpr ⟨mem, symbol, other_arity o mem fits⟩⟩
      rw [Option.eq_none_iff_forall_ne_some]
      intro p found
      obtain ⟨among, named, arity⟩ := builtin?_eq_some_iff.mp found
      exact fits (best p among named ((arity_iff p among).mp arity))

namespace Symbols

variable {symbols : Symbols σ} {due : Bool} {symbol : String}

/-- **The operator that is looked up for a symbol is the one that it stands for.** -/
theorem operator?_eq_some_iff {o : Operator σ} :
    symbols.operator? due symbol = some o ↔ symbols.StandsFor due symbol o := by
  constructor
  · intro found
    unfold operator? at found
    split at found
    · rename_i declared
      cases found
      exact .declared declared
    · rename_i undeclared
      split at found
      · rename_i c single
        have named : symbol = String.singleton c := by
          apply String.ext
          rw [single, String.toList_singleton]
        obtain ⟨mem, same, fits⟩ := Operator.builtin?_or_eq_some_iff.mp found
        rw [← named] at same fits
        exact .builtIn (declaredOperator?_eq_none_iff.mp undeclared) mem same fits
      · cases found
  · rintro (declared | ⟨undeclared, mem, rfl, fits⟩)
    · rw [operator?, declared]
    · obtain ⟨c, single, -⟩ := Operator.builtin?_of_mem mem
      have named : o.symbol = String.singleton c := by
        apply String.ext
        rw [single, String.toList_singleton]
      rw [operator?, declaredOperator?_eq_none_iff.mpr undeclared, single]
      rw [named] at fits
      exact Operator.builtin?_or_eq_some_iff.mpr ⟨mem, named, fits⟩

/-- A symbol stands for an operator in every place, or in none. -/
theorem isSome_operator?_iff : (symbols.operator? due symbol).isSome ↔ symbols.HasSymbol symbol := by
  rw [Option.isSome_iff_exists]
  constructor
  · rintro ⟨o, found⟩
    rcases operator?_eq_some_iff.mp found with declared | ⟨-, mem, named, -⟩
    · exact .inl ⟨o, List.mem_of_find?_eq_some declared, by simpa using List.find?_some declared⟩
    · exact .inr ⟨o, mem, named⟩
  · intro known
    cases declared : symbols.declaredOperator? symbol with
    | some o => exact ⟨o, operator?_eq_some_iff.mpr (.declared declared)⟩
    | none =>
      have undeclared := declaredOperator?_eq_none_iff.mp declared
      rcases known with ⟨o, mem, named⟩ | ⟨o, mem, named⟩
      · exact absurd named (undeclared o mem)
      · by_cases better : ∃ p ∈ Operator.builtins (σ := σ), p.symbol = symbol ∧
          p.precedesOperand = due
        · obtain ⟨p, among, named, fits⟩ := better
          exact ⟨p, operator?_eq_some_iff.mpr (.builtIn undeclared among named fun _ _ _ _ => fits)⟩
        · refine ⟨o, operator?_eq_some_iff.mpr (.builtIn undeclared mem named ?_)⟩
          exact fun p among named fits => absurd ⟨p, among, named, fits⟩ better

end Symbols

namespace Lexer

/-! ## The rules -/

/-- After blanks or none, a bracket opens. -/
def BracketNext (text : List Char) : Prop :=
  ∃ blanks c rest, text = blanks ++ c :: rest ∧ (∀ b ∈ blanks, Unicode.isBlank b = true) ∧
    isOpening c = true

/-- The characters up to the first that is not part of a name. -/
def Cursor.nameRun (here : Cursor σ) : List Char := here.rest.takeWhile Name.isPart

/-- The characters up to the first that no symbol may have. -/
def Cursor.symbolRun (here : Cursor σ) : List Char :=
  here.rest.takeWhile Operator.isSymbolCharacter

/-- The run of name characters calls the function: it is its name, and a bracket opens after it. -/
def Cursor.CallsHere (here : Cursor σ) (symbols : Symbols σ) (f : Function σ) : Prop :=
  BracketNext (here.rest.drop here.nameRun.length) ∧ symbols.Calls (String.ofList here.nameRun) f

/-- **The step where a name starts**: all of the run is read as the function that it calls. If it
calls none, the longest part of it that is a variable is read. If there is none, all of the run is
unknown. -/
inductive NameStep (lexer : Lexer σ) (here : Cursor σ) : Step σ → Prop where
  | function {f : Function σ} (calls : here.CallsHere lexer.symbols f) :
      NameStep lexer here (here.take (.function f) here.nameRun.length)
  | var {part : List Char} (uncalled : ∀ f, ¬ here.CallsHere lexer.symbols f)
      (best : LongestPart (· ∈ lexer.symbols.vars) here.nameRun part) :
      NameStep lexer here (here.take (.var (String.ofList part) 0) part.length)
  | unknown (uncalled : ∀ f, ¬ here.CallsHere lexer.symbols f)
      (undeclared : ∀ part, part <+: here.nameRun → part ≠ [] →
        String.ofList part ∉ lexer.symbols.vars) :
      NameStep lexer here
        (.failed (.unknownName (String.ofList here.nameRun) here.position lexer.text))

/-- **The step where a symbol starts**: the longest part of the run that is a symbol is read as the
operator that it stands for in this place. If there is none, all of the run is unknown. -/
inductive SymbolStep (lexer : Lexer σ) (here : Cursor σ) : Step σ → Prop where
  | operator {part : List Char} {o : Operator σ}
      (best : LongestPart lexer.symbols.HasSymbol here.symbolRun part)
      (stands : lexer.symbols.StandsFor here.operandDue (String.ofList part) o) :
      SymbolStep lexer here (here.take (.operator o) part.length)
  | unknown (unknown : ∀ part, part <+: here.symbolRun → part ≠ [] →
        ¬ lexer.symbols.HasSymbol (String.ofList part)) :
      SymbolStep lexer here
        (.failed (.unknownOperator (String.ofList here.symbolRun) here.position))

/-! ## The search -/

section Search

variable {α : Type} {answer : Nat → Option α} {n : Nat}

/-- What is found has no answer above it. -/
theorem longest_eq_some_iff {k : Nat} {a : α} :
    longest answer n = some (a, k) ↔
      0 < k ∧ k ≤ n ∧ answer k = some a ∧ ∀ j, k < j → j ≤ n → answer j = none := by
  induction n with
  | zero =>
    constructor
    · intro h
      cases h
    · rintro ⟨pos, le, -⟩
      omega
  | succ n ih =>
    rw [longest]
    cases top : answer (n + 1) with
    | some b =>
      constructor
      · rintro ⟨⟩
        exact ⟨Nat.succ_pos n, Nat.le_refl _, top, fun j above le => by omega⟩
      · rintro ⟨-, le, found, above⟩
        have here : k = n + 1 := by
          by_contra other
          have missed := above (n + 1) (by omega) (Nat.le_refl _)
          rw [top] at missed
          cases missed
        rw [here, top] at found
        cases found
        rw [here]
    | none =>
      dsimp only
      rw [ih]
      constructor
      · rintro ⟨pos, le, found, above⟩
        refine ⟨pos, Nat.le_succ_of_le le, found, fun j above_k le => ?_⟩
        rcases Nat.le_succ_iff.mp le with le | rfl
        · exact above j above_k le
        · exact top
      · rintro ⟨pos, le, found, above⟩
        have other : k ≠ n + 1 := by
          rintro rfl
          rw [top] at found
          cases found
        exact ⟨pos, by omega, found, fun j above_k le => above j above_k (Nat.le_succ_of_le le)⟩

theorem longest_eq_none_iff :
    longest answer n = none ↔ ∀ k, 0 < k → k ≤ n → answer k = none := by
  induction n with
  | zero => exact ⟨fun _ k pos le => by omega, fun _ => rfl⟩
  | succ n ih =>
    rw [longest]
    cases top : answer (n + 1) with
    | some b =>
      constructor
      · intro h
        cases h
      · intro missed
        rw [missed (n + 1) (Nat.succ_pos n) (Nat.le_refl _)] at top
        cases top
    | none =>
      dsimp only
      rw [ih]
      constructor
      · intro missed k pos le
        rcases Nat.le_succ_iff.mp le with le | rfl
        · exact missed k pos le
        · exact top
      · exact fun missed k pos le => missed k pos (Nat.le_succ_of_le le)

/-- **The search finds the longest part of a run that is known**, or none where none is, if the parts
that have an answer are those that are known. -/
theorem longest_run (answer : Nat → Option α) {run : List Char} {known : String → Prop}
    (answers : ∀ part, part <+: run → part ≠ [] →
      ((answer part.length).isSome ↔ known (String.ofList part))) :
    (∀ a k, longest answer run.length = some (a, k) →
        ∃ part, LongestPart known run part ∧ part.length = k ∧ answer k = some a) ∧
      (longest answer run.length = none →
        ∀ part, part <+: run → part ≠ [] → ¬ known (String.ofList part)) := by
  have missed : ∀ part, part <+: run → part ≠ [] → answer part.length = none →
      ¬ known (String.ofList part) := by
    intro part front visible nothing also
    have found := (answers part front visible).mpr also
    rw [nothing] at found
    cases found
  refine ⟨fun a k found => ?_, fun nothing part front visible => ?_⟩
  · obtain ⟨pos, le, found, above⟩ := longest_eq_some_iff.mp found
    have length : (run.take k).length = k := List.length_take_of_le le
    have front : run.take k <+: run := List.take_prefix k run
    have visible : run.take k ≠ [] := List.ne_nil_of_length_pos (length.symm ▸ pos)
    refine ⟨run.take k, ⟨front, visible, ?_, fun other within also => ?_⟩, length, found⟩
    · rw [← answers _ front visible, length, found]
      rfl
    · rw [length]
      by_contra longer
      have some_character : other ≠ [] := List.ne_nil_of_length_pos (by omega)
      exact missed other within some_character (above _ (by omega) within.length_le) also
  · refine missed part front visible ?_
    exact longest_eq_none_iff.mp nothing _ (List.length_pos_of_ne_nil visible) front.length_le

end Search

/-! ## Names -/

theorem opensNext_iff {text : List Char} : opensNext text = true ↔ BracketNext text := by
  constructor
  · intro opens
    unfold opensNext at opens
    split at opens
    · cases opens
    · rename_i c rest front
      refine ⟨text.takeWhile Unicode.isBlank, c, rest, ?_, ?_, opens⟩
      · rw [← front, List.takeWhile_append_dropWhile]
      · exact fun b mem => List.all_eq_true.mp List.all_takeWhile b mem
  · rintro ⟨blanks, c, rest, rfl, blank, opens⟩
    induction blanks with
    | nil => exact (opensNext_cons (lead_of_isOpening opens).1 rest).trans opens
    | cons b blanks ih =>
      obtain ⟨here, later⟩ := List.forall_mem_cons.mp blank
      rw [List.cons_append, opensNext_blank here]
      exact ih later

/-- No bracket opens inside of a run of name characters. -/
theorem opensNext_inside {cs : List Char} {k : Nat} (inside : k < nameLength cs) :
    opensNext (cs.drop k) = false := by
  have within : k < cs.length :=
    Nat.lt_of_lt_of_le inside (List.takeWhile_sublist Name.isPart).length_le
  have part : Name.isPart cs[k] = true := by
    have found := (List.takeWhile_prefix Name.isPart).getElem inside
    rw [← found]
    exact List.all_eq_true.mp List.all_takeWhile _ (List.getElem_mem inside)
  have visible : Unicode.isBlank cs[k] = false :=
    eq_false_of_excludes Name.isPart_eq_false_of_isBlank part
  rw [List.drop_eq_getElem_cons within, opensNext_cons visible]
  apply Bool.eq_false_iff.mpr
  intro opens
  simp only [isOpening, Bool.or_eq_true, beq_iff_eq] at opens
  rcases opens with (same | same) | same
  all_goals
    rw [same] at part
    exact absurd part (by decide +kernel)

section Names

variable {symbols : Symbols σ} {text : String} {position : Nat} {here : Cursor σ}

/-- **A run that calls a function is read as this function**, whatever its parts are. -/
theorem readName_called {f : Function σ} (calls : here.CallsHere symbols f)
    (visible : here.nameRun ≠ []) :
    readName symbols text position here.rest = .ok (.function f, here.nameRun.length) := by
  obtain ⟨opens, calls⟩ := calls
  obtain ⟨n, length⟩ := Nat.exists_eq_add_one.mpr (List.length_pos_of_ne_nil visible)
  have whole : here.rest.take here.nameRun.length = here.nameRun :=
    take_of_prefix_run (List.prefix_refl _)
  have named : named? symbols here.rest here.nameRun.length = some (.function f) := by
    unfold named?
    dsimp only
    rw [whole, if_pos (opensNext_iff.mpr opens), Symbols.function?_eq_some_iff.mpr calls]
  have run : nameLength here.rest = n + 1 := length
  rw [readName, run, longest, ← length, named]

/-- A run that calls no function names variables only. -/
theorem named?_uncalled (uncalled : ∀ f, ¬ here.CallsHere symbols f) {part : List Char}
    (front : part <+: here.nameRun) :
    named? symbols here.rest part.length =
      if symbols.isVariable (String.ofList part) then some (.var (String.ofList part) 0)
      else none := by
  have taken : here.rest.take part.length = part := take_of_prefix_run front
  have none_called : (if opensNext (here.rest.drop part.length) then
      symbols.function? (String.ofList part) else none) = none := by
    rcases Nat.lt_or_ge part.length here.nameRun.length with inside | whole
    · rw [opensNext_inside inside, if_neg Bool.false_ne_true]
    · obtain rfl : part = here.nameRun := front.eq_of_length_le whole
      split
      · rename_i opens
        rw [Option.eq_none_iff_forall_ne_some]
        intro f found
        exact uncalled f ⟨opensNext_iff.mp opens, Symbols.function?_eq_some_iff.mp found⟩
      · rfl
  unfold named?
  dsimp only
  rw [taken, none_called]

/-- **What a run of name characters is read as follows the rule.** -/
theorem nameStep_readName {lexer : Lexer σ} (visible : here.nameRun ≠ []) :
    NameStep lexer here
      (match readName lexer.symbols lexer.text here.position here.rest with
      | .ok (token, n) => here.take token n
      | .error e => .failed e) := by
  by_cases called : ∃ f, here.CallsHere lexer.symbols f
  · obtain ⟨f, calls⟩ := called
    rw [readName_called calls visible]
    exact .function calls
  · have uncalled : ∀ f, ¬ here.CallsHere lexer.symbols f := not_exists.mp called
    have declared : ∀ part, lexer.symbols.isVariable (String.ofList part) = true ↔
        String.ofList part ∈ lexer.symbols.vars := fun part => List.contains_iff_mem
    have answers : ∀ part, part <+: here.nameRun → part ≠ [] →
        ((named? lexer.symbols here.rest part.length).isSome ↔
          String.ofList part ∈ lexer.symbols.vars) := by
      intro part front _
      rw [named?_uncalled uncalled front, ← declared]
      split <;> simp_all
    obtain ⟨best, nothing⟩ := longest_run (named? lexer.symbols here.rest) answers
    have length : nameLength here.rest = here.nameRun.length := rfl
    rw [readName, length]
    cases search : longest (named? lexer.symbols here.rest) here.nameRun.length with
    | none =>
      have whole : here.rest.take here.nameRun.length = here.nameRun :=
        take_of_prefix_run (List.prefix_refl _)
      dsimp only
      rw [whole]
      exact .unknown uncalled (nothing search)
    | some pair =>
      obtain ⟨token, k⟩ := pair
      obtain ⟨part, longest_part, rfl, named⟩ := best token k search
      rw [named?_uncalled uncalled longest_part.front,
        if_pos ((declared part).mpr longest_part.found)] at named
      cases named
      exact .var uncalled longest_part

end Names

/-! ## Symbols -/

/-- **What a run of operator characters is read as follows the rule.** -/
theorem symbolStep_readOperator (lexer : Lexer σ) (here : Cursor σ) :
    SymbolStep lexer here
      (match readOperator lexer.symbols here.operandDue here.position here.rest with
      | .ok (o, n) => here.take (.operator o) n
      | .error e => .failed e) := by
  have taken : ∀ part, part <+: here.symbolRun → here.rest.take part.length = part :=
    fun part front => take_of_prefix_run front
  have answers : ∀ part, part <+: here.symbolRun → part ≠ [] →
      ((lexer.symbols.operator? here.operandDue
        (String.ofList (here.rest.take part.length))).isSome ↔
          lexer.symbols.HasSymbol (String.ofList part)) := by
    intro part front _
    rw [taken part front, Symbols.isSome_operator?_iff]
  obtain ⟨best, nothing⟩ := longest_run
    (fun n => lexer.symbols.operator? here.operandDue (String.ofList (here.rest.take n))) answers
  have length : symbolLength here.rest = here.symbolRun.length := rfl
  rw [readOperator, longest_symbol, length]
  cases search : longest (fun n => lexer.symbols.operator? here.operandDue
      (String.ofList (here.rest.take n))) here.symbolRun.length with
  | none =>
    dsimp only
    rw [taken _ (List.prefix_refl _)]
    exact .unknown (nothing search)
  | some pair =>
    obtain ⟨o, k⟩ := pair
    obtain ⟨part, longest_part, rfl, known⟩ := best o k search
    rw [taken part longest_part.front] at known
    exact .operator longest_part (Symbols.operator?_eq_some_iff.mp known)

/-! ## One outcome -/

/-- **In every place the rule for names leaves one outcome.** -/
theorem NameStep.unique {lexer : Lexer σ} {here : Cursor σ} {step other : Step σ}
    (first : NameStep lexer here step) (second : NameStep lexer here other) : step = other := by
  cases first with
  | function calls =>
    cases second with
    | function calls' =>
      have found := Symbols.function?_eq_some_iff.mpr calls.2
      rw [Symbols.function?_eq_some_iff.mpr calls'.2] at found
      cases found
      rfl
    | var uncalled => exact absurd calls (uncalled _)
    | unknown uncalled => exact absurd calls (uncalled _)
  | var uncalled best =>
    cases second with
    | function calls => exact absurd calls (uncalled _)
    | var _ best' => rw [best.unique best']
    | unknown _ undeclared => exact absurd best.found (undeclared _ best.front best.visible)
  | unknown uncalled undeclared =>
    cases second with
    | function calls => exact absurd calls (uncalled _)
    | var _ best => exact absurd best.found (undeclared _ best.front best.visible)
    | unknown => rfl

/-- **In every place the rule for symbols leaves one outcome.** -/
theorem SymbolStep.unique {lexer : Lexer σ} {here : Cursor σ} {step other : Step σ}
    (first : SymbolStep lexer here step) (second : SymbolStep lexer here other) :
    step = other := by
  cases first with
  | operator best stands =>
    cases second with
    | operator best' stands' =>
      obtain rfl := best.unique best'
      have found := Symbols.operator?_eq_some_iff.mpr stands
      rw [Symbols.operator?_eq_some_iff.mpr stands'] at found
      cases found
      rfl
    | unknown unknown => exact absurd best.found (unknown _ best.front best.visible)
  | unknown unknown =>
    cases second with
    | operator best => exact absurd best.found (unknown _ best.front best.visible)
    | unknown => rfl

/-! ## Steps -/

section Steps

variable {lexer : Lexer σ} {cursor : Cursor σ} {c : Char} {rest : List Char}
  (front : cursor.skipBlanks.rest = c :: rest)
include front

/-- Where a name starts after no operand, the step follows the rule for names. -/
theorem nameStep_next (starts : Name.isStart c = true) (free : cursor.afterOperand = false) :
    NameStep lexer cursor.skipBlanks (lexer.next cursor) := by
  have visible : cursor.skipBlanks.nameRun ≠ [] := by
    rw [Cursor.nameRun, front, List.takeWhile_cons_of_pos (Name.isPart_of_isStart starts)]
    exact List.cons_ne_nil _ _
  rw [next_eq_read front (by rw [free, Bool.and_false]), read, lead_of_isStart starts]
  exact nameStep_readName visible

/-- Where a symbol starts, the step follows the rule for symbols. -/
theorem symbolStep_next (symbol : Operator.isSymbolCharacter c = true) :
    SymbolStep lexer cursor.skipBlanks (lexer.next cursor) := by
  have lead : Lead.of c = .symbol := (lead_of_isSymbolCharacter symbol).2.2.2.2
  have step := symbolStep_readOperator lexer cursor.skipBlanks
  rw [next_eq_read front (by rw [lead]; rfl), read, lead]
  cases outcome : readOperator lexer.symbols cursor.skipBlanks.operandDue
      cursor.skipBlanks.position cursor.skipBlanks.rest with
  | error e =>
    rw [outcome] at step
    exact step
  | ok found =>
    rw [outcome] at step
    exact step

end Steps

/-- **Names and symbols are cut at the longest match**, under every table and in every place. Where a
symbol starts, the next step is the one outcome of the rule for symbols. Where a name starts after no
operand, it is the one outcome of the rule for names. After an operand the product comes first, if it
may be implied, and leaves the name where it is, to be read by the same rule; if it may not, nothing
is read. -/
theorem next_longest (lexer : Lexer σ) (cursor : Cursor σ) {c : Char} {rest : List Char}
    (front : cursor.skipBlanks.rest = c :: rest) :
    (Operator.isSymbolCharacter c = true →
      ∀ step, lexer.next cursor = step ↔ SymbolStep lexer cursor.skipBlanks step) ∧
    (Name.isStart c = true → cursor.afterOperand = false →
      ∀ step, lexer.next cursor = step ↔ NameStep lexer cursor.skipBlanks step) ∧
    (Name.isStart c = true → cursor.afterOperand = true →
      let here : Cursor σ := { cursor.skipBlanks with previous := some (.operator .times) }
      if lexer.implicit then
        lexer.next cursor = .found ⟨.operator .times, [], here.position⟩ here ∧
          ∀ step, lexer.next here = step ↔ NameStep lexer here step
      else lexer.next cursor = .failed (.ambiguousAdjacency here.position)) := by
  refine ⟨fun symbol step => ?_, fun starts free step => ?_, fun starts operand => ?_⟩
  · have follows : SymbolStep lexer cursor.skipBlanks (lexer.next cursor) :=
      symbolStep_next front symbol
    exact ⟨fun same => same ▸ follows, follows.unique⟩
  · have follows : NameStep lexer cursor.skipBlanks (lexer.next cursor) :=
      nameStep_next front starts free
    exact ⟨fun same => same ▸ follows, follows.unique⟩
  · intro here
    have lead := lead_of_isStart starts
    have meets : lexer.next cursor = lexer.meet cursor.skipBlanks c := by
      have after : cursor.skipBlanks.afterOperand = true := operand
      simp [next, front, lead, after, Lead.startsOperand]
    have goes_on : here.rest = c :: rest := front
    have stays : here.skipBlanks = here :=
      Cursor.skipBlanks_of_visible goes_on (Cursor.visible_of_skipBlanks front)
    rw [meets, meet, lead]
    cases implicit : lexer.implicit with
    | false => rfl
    | true =>
      refine ⟨rfl, fun step => ?_⟩
      have there : here.skipBlanks.rest = c :: rest := by rw [stays, goes_on]
      have follows : NameStep lexer here.skipBlanks (lexer.next here) :=
        nameStep_next there starts rfl
      rw [stays] at follows
      exact ⟨fun same => same ▸ follows, follows.unique⟩

/-- In `abc(1)!!-1` the run `abc` calls nothing, and the function `ab` has no bracket behind it, so
that the longest variable of the run is read. Of its operators the longest one is read, though a
longer one is declared and a shorter one fits as well. -/
theorem next_longest_nested :
    let f : Function Unit := ⟨"ab", 1, true, Rule.ofFunction fun _ => .ok 0⟩
    let o (symbol : String) : Operator Unit := ⟨symbol, 1, true, 9, Rule.ofFunction fun _ => .ok 0⟩
    let lexer : Lexer Unit :=
      ⟨⟨["a", "ab", "abcd"], [f], [o "!", o "!!", o "!!-!"]⟩, true, "abc(1)!!-1"⟩
    let name : Cursor Unit := ⟨" abc(1)!!-1".toList, 0, none⟩
    let symbol : Cursor Unit := ⟨"!!-1".toList, 7, some .closing⟩
    NameStep lexer name.skipBlanks
        (.found ⟨.var "ab" 0, ['a', 'b'], 1⟩ ⟨"c(1)!!-1".toList, 3, some (.var "ab" 0)⟩) ∧
      SymbolStep lexer symbol.skipBlanks
        (.found ⟨.operator (o "!!"), ['!', '!'], 7⟩
          ⟨"-1".toList, 9, some (.operator (o "!!"))⟩) := by
  intro f o lexer name symbol
  have letter : name.skipBlanks.rest = 'a' :: "bc(1)!!-1".toList := by decide
  have mark : symbol.skipBlanks.rest = '!' :: "!-1".toList := by decide
  have starts : Name.isStart 'a' = true := by decide +kernel
  have of_symbol : Operator.isSymbolCharacter '!' = true := by decide
  refine ⟨?_, ?_⟩
  · refine ((next_longest lexer name letter).2.1 starts rfl _).mp ?_
    rw [next_eq_read letter rfl, read, lead_of_isStart starts]
    subst lexer name f o
    cbv
  · obtain ⟨-, -, -, -, lead⟩ := lead_of_isSymbolCharacter of_symbol
    refine ((next_longest lexer symbol mark).1 of_symbol _).mp ?_
    rw [next_eq_read mark rfl, read, lead]
    subst lexer symbol f o
    cbv

end Lexer

end Formula
