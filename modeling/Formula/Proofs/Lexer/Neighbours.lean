import Formula.Lexer.Reading
import Formula.Proofs.Grammar.Surplus

/-!
# Tokens of a text and their neighbours

Every token of a text is known to the table it is read under, or built in (`Lexer.readFrom_known`).
A function is read only where an opening bracket comes next, which then is the next token
(`Lexer.readFrom_called`). Two operands never meet, since a product sign is put between them or the
reading fails (`Lexer.readFrom_unmet`).
-/

namespace Formula

variable {σ : Type}

/-- The table has the name or the symbol of the token, or it is built in. -/
def Token.KnownTo (symbols : Symbols σ) : Token σ → Prop
  | var name _ => symbols.isVariable name = true
  | operator o => o ∈ symbols.operators ∨ o ∈ Operator.builtins
  | function f => f ∈ symbols.functions ∨ ∃ d ∈ Function.builtins, f = Function.ofDefinition d
  | number _ | opening | closing | separator => True

/-- No operand starts right after one that ends there. -/
def Token.Unmet (token next : Token σ) : Prop :=
  token.endsOperand = true → next.startsOperand = false

/-! ## Look-up -/

/-- The operator of a symbol is declared, or built in for its only character. -/
theorem Symbols.operator?_cases {symbols : Symbols σ} {operandDue : Bool} {symbol : String}
    {o : Operator σ} (h : symbols.operator? operandDue symbol = some o) :
    symbols.declaredOperator? symbol = some o ∨
      ∃ c arity, symbol = String.singleton c ∧ Operator.builtin? c arity = some o := by
  unfold operator? at h
  split at h
  · rename_i declared
    cases h
    exact .inl declared
  · split at h
    · rename_i c single
      have named : symbol = String.singleton c := by
        apply String.ext
        rw [single, String.toList_singleton]
      dsimp only at h
      rw [Option.orElse_eq_orElse, Option.orElse_eq_or] at h
      rcases Option.or_eq_some_iff.mp h with found | ⟨-, found⟩
      · exact .inr ⟨c, _, named, found⟩
      · exact .inr ⟨c, _, named, found⟩
    · cases h

theorem Symbols.operator?_known {symbols : Symbols σ} {operandDue : Bool} {symbol : String}
    {o : Operator σ} (h : symbols.operator? operandDue symbol = some o) :
    o ∈ symbols.operators ∨ o ∈ Operator.builtins := by
  rcases operator?_cases h with declared | ⟨c, arity, -, built_in⟩
  · exact .inl (List.mem_of_find?_eq_some declared)
  · exact .inr (List.mem_of_find?_eq_some built_in)

theorem Symbols.function?_known {symbols : Symbols σ} {name : String} {f : Function σ}
    (h : symbols.function? name = some f) :
    f ∈ symbols.functions ∨ ∃ d ∈ Function.builtins, f = Function.ofDefinition d := by
  rw [function?, Option.orElse_eq_orElse, Option.orElse_eq_or] at h
  rcases Option.or_eq_some_iff.mp h with declared | ⟨-, built_in⟩
  · exact .inl (List.mem_of_find?_eq_some declared)
  · rw [Function.builtin?] at built_in
    obtain ⟨d, found, rfl⟩ := Option.map_eq_some_iff.mp built_in
    exact .inr ⟨d, List.mem_of_find?_eq_some found, rfl⟩

theorem Operator.arity_of_builtin {o : Operator σ} (h : o ∈ Operator.builtins) :
    o.arity = 1 ∨ o.arity = 2 := by
  have arities : ∀ o ∈ Operator.builtins (σ := σ), o.arity = 1 ∨ o.arity = 2 := by
    simp [builtins, between, before, times]
  exact arities o h

/-- No built-in operator follows its operand. -/
theorem Operator.followsOperand_of_builtin {o : Operator σ} (h : o ∈ Operator.builtins) :
    o.followsOperand = false := by
  have sides : ∀ o ∈ Operator.builtins (σ := σ), o.followsOperand = false := by
    simp [builtins, between, before, times, followsOperand, isUnary]
  exact sides o h

theorem Function.arity_of_builtin {d : Function.Definition} (h : d ∈ Function.builtins) :
    (Function.ofDefinition d : Function σ).arity ≤ 2 := by
  have counts : ∀ d ∈ Function.builtins, d.parameters.length ≤ 2 := by decide
  exact counts d h

namespace Lexer

variable {lexer : Lexer σ}

/-! ## One lexeme -/

/-- The longest length has the answer that comes with it. -/
theorem longest_answer {α : Type} {answer : Nat → Option α} {n k : Nat} {a : α}
    (h : longest answer n = some (a, k)) : answer k = some a := by
  induction n with
  | zero => cases h
  | succ n ih =>
    unfold longest at h
    split at h
    · rename_i found
      cases h
      exact found
    · exact ih h

theorem readName_named {symbols : Symbols σ} {text : String} {position n : Nat} {cs : List Char}
    {token : Token σ} (h : readName symbols text position cs = .ok (token, n)) :
    named? symbols cs n = some token := by
  unfold readName at h
  split at h
  · rename_i best
    cases h
    exact longest_answer best
  · cases h

theorem readOperator_operator? {symbols : Symbols σ} {operandDue : Bool} {position n : Nat}
    {cs : List Char} {o : Operator σ}
    (h : readOperator symbols operandDue position cs = .ok (o, n)) :
    ∃ symbol, symbols.operator? operandDue symbol = some o := by
  unfold readOperator at h
  split at h
  · rename_i best
    cases h
    exact ⟨_, longest_answer best⟩
  · cases h

/-- A name is that of a function whose bracket comes next, or of a variable. -/
theorem named?_cases {symbols : Symbols σ} {cs : List Char} {n : Nat} {token : Token σ}
    (h : named? symbols cs n = some token) :
    (∃ f, token = .function f ∧ opensNext (cs.drop n) = true ∧
        ∃ name, symbols.function? name = some f) ∨
      ∃ name, token = .var name 0 ∧ symbols.isVariable name = true := by
  unfold named? at h
  dsimp only at h
  split at h
  · rename_i f called
    cases h
    split at called
    · exact .inl ⟨f, rfl, ‹_›, _, called⟩
    · cases called
  · split at h
    · cases h
      exact .inr ⟨_, rfl, ‹_›⟩
    · cases h

/-- What is read at a character: a token of its class, known to the table, and a function only where
a bracket comes next. -/
theorem read_cases {here : Cursor σ} {c : Char} {token : Token σ} {n : Nat}
    (h : lexer.read here c = .ok (token, n)) :
    token.startsOperand = (Lead.of c).startsOperand ∧ token.KnownTo lexer.symbols ∧
      ∀ f, token = .function f → opensNext (here.rest.drop n) = true := by
  unfold read at h
  split at h
  · rename_i lead
    cases literal : readLiteral here.position here.rest with
    | error error =>
      rw [literal] at h
      cases h
    | ok found =>
      rw [literal] at h
      cases h
      exact ⟨by rw [lead]; rfl, trivial, fun f same => nomatch same⟩
  · rename_i lead
    cases h
    exact ⟨by rw [lead]; rfl, trivial, fun f same => nomatch same⟩
  · rename_i lead
    cases h
    exact ⟨by rw [lead]; rfl, trivial, fun f same => nomatch same⟩
  · rename_i lead
    cases h
    exact ⟨by rw [lead]; rfl, trivial, fun f same => nomatch same⟩
  · rename_i lead
    cases symbol : readOperator lexer.symbols here.operandDue here.position here.rest with
    | error error =>
      rw [symbol] at h
      cases h
    | ok found =>
      rw [symbol] at h
      cases h
      obtain ⟨_, looked_up⟩ := readOperator_operator? symbol
      exact ⟨by rw [lead]; rfl, Symbols.operator?_known looked_up, fun f same => nomatch same⟩
  · rename_i lead
    rcases named?_cases (readName_named h) with ⟨f, rfl, opens, name, known⟩ | ⟨name, rfl, known⟩
    · exact ⟨by rw [lead]; rfl, Symbols.function?_known known, fun _ _ => opens⟩
    · exact ⟨by rw [lead]; rfl, known, fun f same => nomatch same⟩
  · cases h

/-- **A step** finds the implied product after an operand, or reads what the next character
starts. -/
theorem next_cases {cursor after : Cursor σ} {lexeme : Lexeme σ}
    (h : lexer.next cursor = .found lexeme after) :
    after.previous = some lexeme.token ∧
      (lexeme.token = .operator .times ∨
        ∃ c rest n, cursor.skipBlanks.rest = c :: rest ∧
          lexer.read cursor.skipBlanks c = .ok (lexeme.token, n) ∧
          after.rest = cursor.skipBlanks.rest.drop n ∧
          ((Lead.of c).startsOperand = true → cursor.afterOperand = false)) := by
  unfold next at h
  dsimp only at h
  split at h
  · cases h
  · rename_i c rest front
    split at h
    · unfold meet at h
      split at h
      · cases h
        exact ⟨rfl, .inl rfl⟩
      · cases h
    · rename_i unmet
      split at h
      · rename_i token n read_ok
        cases h
        refine ⟨rfl, .inr ⟨c, rest, n, front, read_ok, rfl, fun starts => ?_⟩⟩
        rw [starts, Bool.true_and, Bool.not_eq_true] at unmet
        exact unmet
      · cases h

/-! ## Readings -/

/-- A reading goes on behind the lexeme that its first step finds. -/
theorem readFrom_found {cursor after : Cursor σ} {lexeme : Lexeme σ}
    (h : lexer.next cursor = .found lexeme after) :
    lexer.readFrom cursor = (lexer.readFrom after).cons lexeme := by
  rw [readFrom_eq, h]

/-- A reading ends where its first step does. -/
theorem readFrom_finished {cursor : Cursor σ} (h : lexer.next cursor = .finished) :
    lexer.readFrom cursor = ⟨[], none⟩ := by
  rw [readFrom_eq, h]

/-- The tokens of a reading are those of its steps. -/
theorem tokens_readFrom_found {cursor after : Cursor σ} {lexeme : Lexeme σ}
    (h : lexer.next cursor = .found lexeme after) :
    (lexer.readFrom cursor).tokens = lexeme.token :: (lexer.readFrom after).tokens := by
  rw [readFrom_found h]
  rfl

/-- Readings by their steps: what holds where a reading ends, and is carried from the next place to
a place before it, holds of all readings. -/
theorem readFrom_induction {motive : Cursor σ → List (Token σ) → Prop}
    (finished : ∀ cursor, (∀ lexeme after, lexer.next cursor ≠ .found lexeme after) →
      motive cursor [])
    (found : ∀ cursor lexeme after, lexer.next cursor = .found lexeme after →
      motive after (lexer.readFrom after).tokens →
        motive cursor (lexeme.token :: (lexer.readFrom after).tokens))
    (cursor : Cursor σ) : motive cursor (lexer.readFrom cursor).tokens := by
  cases stepped : lexer.next cursor with
  | finished =>
    have nothing : (lexer.readFrom cursor).tokens = [] := by
      rw [readFrom_finished stepped]
      rfl
    rw [nothing]
    exact finished cursor fun lexeme after h => by rw [stepped] at h; cases h
  | failed error =>
    have nothing : (lexer.readFrom cursor).tokens = [] := by
      rw [readFrom_eq, stepped]
      rfl
    rw [nothing]
    exact finished cursor fun lexeme after h => by rw [stepped] at h; cases h
  | found lexeme after =>
    rw [tokens_readFrom_found stepped]
    exact found cursor lexeme after stepped (readFrom_induction finished found after)
termination_by cursor.weight
decreasing_by exact next_weight stepped

/-- Where a bracket opens next, after no operand, it is the next token. -/
theorem next_opening {cursor : Cursor σ} (opens : opensNext cursor.rest = true)
    (after : cursor.afterOperand = false) :
    ∃ lexeme next, lexer.next cursor = .found lexeme next ∧ lexeme.token = .opening := by
  unfold opensNext at opens
  split at opens
  · cases opens
  · rename_i c rest front
    have lead : Lead.of c = .opening := by
      simp only [isOpening, Bool.or_eq_true, beq_iff_eq] at opens
      rcases opens with (rfl | rfl) | rfl <;> rfl
    have here : cursor.skipBlanks.rest = c :: rest := front
    have unmet : cursor.skipBlanks.afterOperand = false := after
    unfold next read
    simp only [here, lead, unmet, Bool.and_false]
    exact ⟨_, _, rfl, rfl⟩

variable (lexer)

/-- **Every token that is read is known to the table.** -/
theorem readFrom_known (cursor : Cursor σ) :
    ∀ token ∈ (lexer.readFrom cursor).tokens, token.KnownTo lexer.symbols := by
  refine readFrom_induction
    (motive := fun _ tokens => ∀ token ∈ tokens, token.KnownTo lexer.symbols) ?_ ?_ cursor
  · intro cursor _ token mem
    cases mem
  · intro cursor lexeme after stepped rest token mem
    rcases List.mem_cons.mp mem with rfl | later
    · obtain ⟨-, product | ⟨c, _, n, _, read_ok, _, _⟩⟩ := next_cases stepped
      · rw [product]
        exact .inr (by simp [Operator.builtins])
      · exact (read_cases read_ok).2.1
    · exact rest token later

/-- **No operand that is read starts right after one that ends there.** -/
theorem readFrom_unmet (cursor : Cursor σ) :
    (cursor.previous.toList ++ (lexer.readFrom cursor).tokens).IsChain Token.Unmet := by
  refine readFrom_induction
    (motive := fun cursor tokens => (cursor.previous.toList ++ tokens).IsChain Token.Unmet)
    ?_ ?_ cursor
  · intro cursor _
    cases cursor.previous <;> simp
  · intro cursor lexeme after stepped rest
    obtain ⟨previous, found⟩ := next_cases stepped
    rw [previous] at rest
    cases before : cursor.previous with
    | none => exact rest
    | some token =>
      refine List.IsChain.cons_cons (fun ends => ?_) rest
      have operand : cursor.afterOperand = true := by simp [Cursor.afterOperand, before, ends]
      rcases found with product | ⟨c, _, n, _, read_ok, _, apart⟩
      · rw [product]
        rfl
      · rw [(read_cases read_ok).1]
        cases starts : (Lead.of c).startsOperand with
        | false => rfl
        | true => rw [apart starts] at operand; cases operand

/-- **After every function that is read comes its bracket.** -/
theorem readFrom_called (cursor : Cursor σ) : Called (lexer.readFrom cursor).tokens := by
  refine readFrom_induction (motive := fun _ tokens => Called tokens) ?_ ?_ cursor
  · intro cursor _
    trivial
  · intro cursor lexeme after stepped rest
    obtain ⟨previous, found⟩ := next_cases stepped
    cases token : lexeme.token with
    | function f =>
      refine ⟨?_, rest⟩
      rcases found with product | ⟨c, _, n, _, read_ok, remains, _⟩
      · rw [product] at token
        cases token
      · have opens : opensNext after.rest = true := by
          rw [remains]
          exact (read_cases read_ok).2.2 f token
        have unmet : after.afterOperand = false := by
          rw [Cursor.afterOperand, previous, token]
          rfl
        obtain ⟨bracket, later, second, opening⟩ := next_opening opens unmet
        rw [tokens_readFrom_found second, opening]
        exact ⟨_, rfl⟩
    | _ => exact rest

end Lexer

end Formula
