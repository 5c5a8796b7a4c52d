import Formula.Proofs.Balance
import Formula.Proofs.Lexer.Neighbours

/-!
# Which texts are accepted

A text is accepted if it compiles to a program that passes the check, or has a value. Neither asks
where operands stand, nor how many arguments each call has: both count values over the whole text.
So an accepted text need not be a sentence of the grammar, and where it is not, a surplus in one
place makes up for what is missing in another.

**That is all that acceptance leaves open**: brackets match, separators stand inside of brackets,
each function has brackets of its own, and the text is a sentence exactly if nothing in it is in
surplus (`sentence_iff_of_compileText`).
-/

namespace Formula

variable {σ : Type}

/-- Where nothing is in surplus, and no operand meets the end of one, operands begin only where one
is due. -/
theorem Token.Unmet.apart {token next : Token σ} (unmet : token.Unmet next)
    (uncrowded : token.Uncrowded next) : token.Apart next := by
  rintro (starts | precedes)
  · cases token with
    | operator o =>
      cases follows : o.followsOperand with
      | false => simp [awaitsOperand, follows]
      | true =>
        rw [uncrowded.2 follows] at starts
        cases starts
    | number x => exact absurd ((unmet rfl).symm.trans starts) Bool.false_ne_true
    | var name slot => exact absurd ((unmet rfl).symm.trans starts) Bool.false_ne_true
    | closing => exact absurd ((unmet rfl).symm.trans starts) Bool.false_ne_true
    | _ => rfl
  · exact uncrowded.1 precedes

theorem isChain_apart {tokens : List (Token σ)} (unmet : tokens.IsChain Token.Unmet)
    (uncrowded : tokens.IsChain Token.Uncrowded) : tokens.IsChain Token.Apart := by
  induction unmet with
  | nil => exact .nil
  | singleton token => exact .singleton token
  | cons_cons here _ ih =>
    obtain ⟨fits, rest⟩ := List.isChain_cons_cons.mp uncrowded
    exact .cons_cons (here.apart fits) (ih rest)

/-- All operators that a table knows take one or two operands, if its own do. -/
theorem Token.KnownTo.arity {symbols : Symbols σ} {o : Operator σ}
    (known : (Token.operator o).KnownTo symbols)
    (arities : ∀ o ∈ symbols.operators, o.arity = 1 ∨ o.arity = 2) : o.arity = 1 ∨ o.arity = 2 := by
  rcases known with declared | built_in
  · exact arities o declared
  · exact Operator.arity_of_builtin built_in

/-- The check can count what a table knows, if it can count the operations of the table. -/
theorem Token.KnownTo.countable {symbols : Symbols σ} {token : Token σ}
    (known : token.KnownTo symbols) (arities : ∀ o ∈ symbols.operators, o.arity = 1 ∨ o.arity = 2)
    (small : ∀ f ∈ symbols.functions, f.arity < 2 ^ 63) : token.Countable := by
  cases token with
  | operator o => exact known.arity arities
  | function f =>
    rcases known with declared | ⟨d, built_in, rfl⟩
    · exact small f declared
    · have few : (Function.ofDefinition d : Function σ).arity ≤ 2 :=
        Function.arity_of_builtin built_in
      show (Function.ofDefinition d : Function σ).arity < 2 ^ 63
      omega
  | _ => trivial

/-- Of a text with balance one, the grammar asks that nothing is in surplus. -/
theorem sentence_iff_of_balance {symbols : Symbols σ} {implicit : Bool} {text : String}
    (arities : ∀ o ∈ symbols.operators, o.arity = 1 ∨ o.arity = 2)
    (one : balance (Lexer.readText symbols implicit text).tokens = 1) :
    Sentence (Lexer.readText symbols implicit text).tokens ↔
      NoSurplus (Lexer.readText symbols implicit text).tokens := by
  refine ⟨Sentence.noSurplus, fun spare => ?_⟩
  have unmet : (Lexer.readText symbols implicit text).tokens.IsChain Token.Unmet :=
    Lexer.readFrom_unmet ⟨symbols, implicit, text⟩ (.start text.toList)
  have counts : ∀ o, .operator o ∈ (Lexer.readText symbols implicit text).tokens →
      o.arity = 1 ∨ o.arity = 2 :=
    fun _ mem => (Lexer.readFrom_known _ _ _ mem).arity arities
  exact sentence_of_balance spare.arguments counts (isChain_apart unmet spare.operands) one

/-- A reading that is converted was read to its end. -/
theorem Reading.toPostfix_tokens {reading : Reading σ} {output : List (Token σ)}
    (h : reading.toPostfix = .ok output) : Formula.toPostfix reading.tokens = .ok output := by
  unfold Reading.toPostfix at h
  unfold Formula.toPostfix
  cases taken : Yard.empty.takeIn reading.tokens with
  | error error =>
    rw [taken] at h
    cases h
  | ok yard =>
    rw [taken] at h
    cases ended : reading.error? with
    | none =>
      rw [ended] at h
      exact h
    | some error =>
      rw [ended] at h
      cases h

/-- What holds of numbers, and of the tokens that are read but brackets and separators, holds of all
that a text compiles to. -/
theorem forall_of_compileText {symbols : Symbols σ} {implicit folding : Bool} {text : String}
    {state : σ} {output : List (Token σ)} {holds : Token σ → Prop}
    (compiled : (Effect.from state (compileText symbols implicit folding text)).1 = .ok output)
    (number : ∀ x, holds (.number x))
    (read : ∀ token ∈ (Lexer.readText symbols implicit text).tokens, token.isLasting = true →
      holds token) : ∀ token ∈ output, holds token := by
  intro token mem
  obtain ⟨converted, conversion, -, sources⟩ := balance_compileText compiled
  rcases sources token mem with numeric | mem
  · cases token with
    | number x => exact number x
    | _ => cases numeric
  · have original := (toPostfix_perm (Reading.toPostfix_tokens conversion)).mem_iff.mp mem
    obtain ⟨occurs, lasting⟩ := List.mem_filter.mp original
    exact read token occurs lasting

/-- **A text that compiles has no tokens but numbers and what its table knows.** -/
theorem known_of_compileText {symbols : Symbols σ} {implicit folding : Bool} {text : String}
    {state : σ} {output : List (Token σ)}
    (compiled : (Effect.from state (compileText symbols implicit folding text)).1 = .ok output) :
    ∀ token ∈ output, token.KnownTo symbols :=
  forall_of_compileText compiled (fun _ => trivial) fun token occurs _ =>
    Lexer.readFrom_known _ _ token occurs

/-- **An accepted text is a sentence exactly if nothing in it is in surplus.** Its brackets match,
its separators stand inside of brackets, and its functions have brackets of their own, in any case.
Folded or not, with products implied or not, it is accepted if its program passes the check, or has
a value under any bindings. -/
theorem sentence_iff_of_compileText {symbols : Symbols σ}
    (arities : ∀ o ∈ symbols.operators, o.arity = 1 ∨ o.arity = 2) {implicit folding : Bool}
    {text : String} {state : σ} {output : List (Token σ)}
    (compiled : (Effect.from state (compileText symbols implicit folding text)).1 = .ok output)
    (reserved : List String) :
    let tokens := (Lexer.readText symbols implicit text).tokens
    let program := Program.ofTokens output reserved
    Bracketed tokens ∧
      ((∀ f ∈ symbols.functions, f.arity < 2 ^ 63) → program.validate false = [] →
        (Sentence tokens ↔ NoSurplus tokens)) ∧
      ∀ cells state value, (Effect.from state (program.withCells cells).evaluate).1 = .ok value →
        (Sentence tokens ↔ NoSurplus tokens) := by
  intro tokens program
  obtain ⟨converted, conversion, kept, -⟩ := balance_compileText compiled
  have converts : toPostfix tokens = .ok converted := Reading.toPostfix_tokens conversion
  have source : balance program.tokens = balance tokens := by
    rw [Program.balance_ofTokens, kept, balance_toPostfix converts]
  refine ⟨?_, fun small valid => ?_, fun cells start value evaluated => ?_⟩
  · exact bracketed_of_depth (Lexer.readFrom_called _ _) (depth_of_toPostfix converts)
  · have countable : ∀ token ∈ program.tokens, token.Countable := by
      intro token mem
      obtain ⟨origin, original, rfl⟩ := List.mem_map.mp mem
      have counted := (known_of_compileText compiled origin original).countable arities small
      cases origin with
      | var name slot => trivial
      | _ => exact counted
    have one : balance program.tokens = 1 := Program.balance_of_validate countable valid
    exact sentence_iff_of_balance arities (source.symm.trans one)
  · have from_value : Effect.from start (program.withCells cells).evaluate =
        (.ok value, (Effect.from start (program.withCells cells).evaluate).2) := by
      rw [← evaluated]
    have one : balance (program.withCells cells).tokens = 1 := Program.balance_of_evaluate from_value
    exact sentence_iff_of_balance arities (source.symm.trans one)

/-- A negated call that holds an operator after its operand, and a product that is implied after
it: nothing is in surplus, and so what is read is a sentence. -/
theorem sentence_iff_of_compileText_product :
    let fact : Operator Unit := ⟨"!", 1, true, 10001, Rule.ofFunction fun _ => .ok 0⟩
    let f : Function Unit := ⟨"f", 2, true, Rule.ofFunction fun _ => .ok 0⟩
    let symbols : Symbols Unit := ⟨["x"], [f], [fact]⟩
    let text := "-f(x, x!) x"
    let tokens := (Lexer.readText symbols true text).tokens
    let negation : Token Unit := .operator (.before "-" 5000 Float.neg)
    let output : List (Token Unit) :=
      [.var "x" 0, .var "x" 0, .operator fact, .function f, negation, .var "x" 0, .operator .times]
    (∀ o ∈ symbols.operators, o.arity = 1 ∨ o.arity = 2) ∧
      (Effect.from () (compileText symbols true false text)).1 = .ok output ∧
      (∀ f ∈ symbols.functions, f.arity < 2 ^ 63) ∧
      (Program.ofTokens output []).validate false = [] ∧
      tokens = [negation, .function f, .opening, .var "x" 0, .separator, .var "x" 0,
        .operator fact, .closing, .operator .times, .var "x" 0] ∧
      Bracketed tokens ∧ NoSurplus tokens ∧ Sentence tokens := by
  intro fact f symbols text tokens negation output
  have arities : ∀ o ∈ symbols.operators, o.arity = 1 ∨ o.arity = 2 := by
    simp [symbols, fact]
  have compiled : (Effect.from () (compileText symbols true false text)).1 = .ok output := by
    rw [from_compileText_unfolded]
    subst fact f symbols text negation output
    cbv
  have small : ∀ f ∈ symbols.functions, f.arity < 2 ^ 63 := by
    simp [symbols, f]
  have valid : (Program.ofTokens output []).validate false = [] := by
    subst fact f negation output
    decide +kernel
  have read : tokens = [negation, .function f, .opening, .var "x" 0, .separator, .var "x" 0,
      .operator fact, .closing, .operator .times, .var "x" 0] := by
    subst fact f symbols text tokens negation
    cbv
  have fits : NoSurplus tokens := by
    rw [read]
    refine ⟨?_, ?_⟩
    · simp only [List.isChain_cons_cons, List.isChain_singleton, Token.Uncrowded]
      decide +kernel
    · have inner : Content HasRoom 1 [.var "x" 0, .separator, .var "x" 0, .operator fact] :=
        .plain rfl (.separator (.plain rfl (.plain rfl .nil)))
      have room : HasRoom (some f) 1 [.var "x" 0, .separator, .var "x" 0, .operator fact] := by
        show 1 < 2
        decide
      exact .plain rfl (.call inner room (.plain rfl (.plain rfl .nil)))
  obtain ⟨bracketed, checked, -⟩ := sentence_iff_of_compileText arities compiled []
  exact ⟨arities, compiled, small, valid, read, bracketed, fits, (checked small valid).mpr fits⟩

/-- **Not all accepted texts are sentences.** An argument too many makes up for an operand that is
missing, and the check reads a number of arguments from `2 ^ 63` on as a negative one. -/
theorem exists_compileText_not_sentence :
    let product : Symbols Unit := ⟨["x"], [], []⟩
    let wide : Symbols Unit := ⟨["x"], [⟨"f", 2 ^ 63, true, Rule.ofFunction fun _ => .ok 0⟩], []⟩
    (∃ output, (Effect.from () (compileText product true false "abs(x, x) *")).1 = .ok output ∧
        (Program.ofTokens output []).validate false = [] ∧
        ¬ Sentence (Lexer.readText product true "abs(x, x) *").tokens) ∧
      ∃ output, (Effect.from () (compileText wide true false "f(x)")).1 = .ok output ∧
        (Program.ofTokens output []).validate false = [] ∧
        ¬ Sentence (Lexer.readText wide true "f(x)").tokens := by
  intro product wide
  let abs : Function Unit := .ofDefinition (Function.total "abs" Float.abs)
  let f : Function Unit := ⟨"f", 2 ^ 63, true, Rule.ofFunction fun _ => .ok 0⟩
  refine ⟨⟨[.var "x" 0, .var "x" 0, .function abs, .operator .times], ?_, ?_, ?_⟩,
    ⟨[.var "x" 0, .function f], ?_, ?_, ?_⟩⟩
  · rw [from_compileText_unfolded]
    subst product abs
    cbv
  · subst abs
    decide +kernel
  · intro sentence
    have read : (Lexer.readText product true "abs(x, x) *").tokens =
        [.function abs, .opening, .var "x" 0, .separator, .var "x" 0, .closing] ++
          [.operator .times] := by
      subst product abs
      cbv
    obtain ⟨front, last, split, complete⟩ := Phrase.exists_last sentence (by simp)
    rw [read] at split
    obtain ⟨-, last_eq⟩ := List.append_inj' split rfl
    cases last_eq
    cases complete
  · rw [from_compileText_unfolded]
    subst wide f
    cbv
  · subst f
    decide +kernel
  · intro sentence
    have read : (Lexer.readText wide true "f(x)").tokens =
        [.function f, .opening, .var "x" 0, .closing] := by
      subst wide f
      cbv
    have one := sentence.balance_eq
    rw [read] at one
    simp [Token.weight, f] at one

end Formula
