import Formula.Proofs.Folding.Transparency
import Formula.Proofs.Program.Agreement

/-!
# Folding is invisible to the check

The check goes over fewer tokens after folding, and may stop before it has seen them all. Still it
reports the same, in the same order (`validate_fold`): the operands of what was computed are counted
one by one and found, so that nothing is reported there, and the count after them is the one after
the number that took their place (`Program.inspect_computed`).

It is enough to compare the two lists at one step of folding, whatever comes after it: the check
comes to the place with the same count, as long as it comes to it at all. What the rules answer has
no part in this, and they may be no functions of their arguments.
-/

namespace Formula

variable {σ : Type}

namespace Program

/-! ## Counting over folded tokens -/

/-- Numbers are counted. -/
theorem inspect_numbers {count : Int} (counted : 0 ≤ count) (values : List Float)
    (rest : List (Token σ)) :
    inspect count (values.map .number ++ rest) = inspect (count + values.length) rest := by
  induction values generalizing count with
  | nil => simp
  | cons x later ih =>
    have goes_on : ¬ count + 1 < 1 := by omega
    have total : count + 1 + later.length = count + (x :: later).length := by
      rw [List.length_cons]
      omega
    rw [List.map_cons, List.cons_append, inspect_cons, ← total, ← ih (by omega)]
    simp [tally, goes_on]

/-- An operation that finds its operands takes them off the count, and nothing is reported. -/
theorem tally_foldable {token : Token σ} (countable : token.Countable) {arity : Nat}
    {rule : Rule σ} (operation : token.foldable? = some (arity, rule)) {count : Int}
    (enough : arity ≤ count) : tally count token = ([], count - arity + 1) := by
  cases token with
  | operator o =>
    cases operation
    exact tally_operator countable count
  | function f =>
    simp only [Token.foldable?] at operation
    split at operation
    · cases operation
      rw [tally_function countable, if_neg (Int.not_lt.mpr enough)]
    · cases operation
  | _ => cases operation

/-- **An operation on numbers is checked as the number that it computes.** -/
theorem inspect_computed {count : Int} (counted : 0 ≤ count) {token : Token σ}
    (countable : token.Countable) {values : List Float} {rule : Rule σ}
    (operation : token.foldable? = some (values.length, rule)) (value : Float)
    (rest : List (Token σ)) :
    inspect count (values.map .number ++ token :: rest) =
      inspect count (.number value :: rest) := by
  have taken : count + values.length - values.length + 1 = count + 1 := by omega
  have found : tally (count + values.length) token = tally count (.number value : Token σ) := by
    rw [tally_foldable countable operation (by omega), taken]
    rfl
  rw [inspect_numbers counted, inspect_cons, inspect_cons, found]

/-- Lists that are checked alike from every count are so after the same tokens. -/
theorem inspect_append_congr {first second : List (Token σ)}
    (alike : ∀ count : Int, 0 ≤ count → inspect count first = inspect count second)
    (front : List (Token σ)) {count : Int} (counted : 0 ≤ count) :
    inspect count (front ++ first) = inspect count (front ++ second) := by
  induction front generalizing count with
  | nil => exact alike count counted
  | cons token rest ih =>
    rw [List.cons_append, List.cons_append, inspect_cons, inspect_cons]
    split
    · rfl
    · rw [ih (by omega)]

/-- Slots are not checked. -/
theorem inspect_link (names : List String) (tokens : List (Token σ)) (count : Int) :
    inspect count (tokens.map (Token.link names)) = inspect count tokens := by
  induction tokens generalizing count with
  | nil => rfl
  | cons token rest ih =>
    have same : tally count (token.link names) = tally count token := by
      cases token <;> rfl
    rw [List.map_cons, inspect_cons, inspect_cons, same, ih]

/-- The findings of a program are those of the tokens that it is made of. -/
theorem validate_ofTokens (tokens : List (Token σ)) (reserved : List String) (cells : List Cell)
    (checkVariables : Bool) :
    ((ofTokens tokens reserved).withCells cells).validate checkVariables =
      (if checkVariables then ((ofTokens tokens reserved).withCells cells).unset else []) ++
        if tokens.isEmpty then [.empty] else inspect 0 tokens := by
  have linked : ((ofTokens tokens reserved).withCells cells).tokens =
      tokens.map (Token.link (Token.variableNames tokens)) := rfl
  rw [validate, linked, List.isEmpty_map, inspect_link]

end Program

namespace Folding

variable {tokens folded : List (Token σ)}

/-- **What folding leaves is checked like the tokens**, whatever comes after them. -/
theorem Leaves.inspect_eq (left : Leaves tokens folded)
    (countable : ∀ token ∈ tokens, token.Countable) (rest : List (Token σ)) :
    Program.inspect 0 (folded.reverse ++ rest) = Program.inspect 0 (tokens ++ rest) := by
  induction left generalizing rest with
  | nothing => rfl
  | @keep tokens folded token _ ih =>
    have before := ih (fun t mem => countable t (List.mem_append_left _ mem)) (token :: rest)
    simpa using before
  | @compute tokens below token values rule value _ operation ih =>
    have before := ih (fun t mem => countable t (List.mem_append_left _ mem)) (token :: rest)
    have here : token.Countable := countable token (by simp)
    rw [List.append_assoc, List.singleton_append, ← before]
    simp only [List.reverse_append, List.reverse_reverse, List.reverse_cons, List.append_assoc,
      List.singleton_append]
    refine Program.inspect_append_congr (fun count counted => ?_) below.reverse (Int.le_refl 0)
    exact (Program.inspect_computed counted here operation value rest).symm

/-- Folding leaves the variables that have no value. -/
theorem Leaves.unset_eq (left : Leaves tokens folded) (reserved : List String)
    (cells : List Cell) :
    ((Program.ofTokens folded.reverse reserved).withCells cells).unset =
      ((Program.ofTokens tokens reserved).withCells cells).unset := by
  unfold Program.unset
  show ((folded.reverse).map (Token.link (Token.variableNames folded.reverse))).filterMap _ =
    (tokens.map (Token.link (Token.variableNames tokens))).filterMap _
  rw [left.variableNames_eq, List.filterMap_map, List.filterMap_map]
  refine left.filterMap_eq fun token unnamed => ?_
  cases token with
  | var name slot => cases unnamed
  | _ => rfl

/-- **The program of what folding leaves is checked like that of the tokens.** -/
theorem Leaves.validate_eq (left : Leaves tokens folded)
    (countable : ∀ token ∈ tokens, token.Countable) (reserved : List String) (cells : List Cell)
    (checkVariables : Bool) :
    ((Program.ofTokens folded.reverse reserved).withCells cells).validate checkVariables =
      ((Program.ofTokens tokens reserved).withCells cells).validate checkVariables := by
  have inspected := left.inspect_eq countable []
  rw [List.append_nil, List.append_nil] at inspected
  have empty : folded.reverse.isEmpty = tokens.isEmpty :=
    Bool.eq_iff_iff.mpr (by cases left <;> simp)
  rw [Program.validate_ofTokens, Program.validate_ofTokens, left.unset_eq, inspected, empty]

end Folding

/-- **Folding never changes what the check reports**, for any list of tokens that the check can
count, and whatever the rules of the tokens are: the folded program has the same variables, and in
every state of its bindings the same findings, in the same order, whether variables without a value
are reported or not. -/
theorem validate_fold {tokens folded : List (Token σ)}
    (countable : ∀ token ∈ tokens, token.Countable) {state : σ}
    (answered : (Effect.from state (fold tokens)).1 = .ok folded) (reserved : List String) :
    let short := Program.ofTokens folded reserved
    let program := Program.ofTokens tokens reserved
    short.cells = program.cells ∧
      ∀ cells checkVariables, (short.withCells cells).validate checkVariables =
        (program.withCells cells).validate checkVariables := by
  intro short program
  have left := Folding.leaves_of_fold answered
  have names := left.variableNames_eq
  have validates := left.validate_eq countable reserved
  rw [List.reverse_reverse] at names validates
  refine ⟨?_, validates⟩
  show (Token.variableNames folded).map _ = (Token.variableNames tokens).map _
  rw [names]

/-- A product of numbers is computed ahead before a stray bracket and a call that lacks arguments:
all that is reported stays, and the separator at the end is reached in neither program. -/
theorem validate_fold_product :
    let f : Function Unit := ⟨"f", 3, true, Rule.ofFunction fun _ => .ok 0⟩
    let rest : List (Token Unit) := [.closing, .var "x" 0, .function f, .separator]
    let tokens := .number 2 :: .number 3 :: .operator .times :: rest
    let folded := .number (2 * 3) :: rest
    let findings := [.unset "x", .mismatchedBrackets, .missingArguments "f", .tooManyOperators]
    (∀ token ∈ tokens, token.Countable) ∧ (Effect.from () (fold tokens)).1 = .ok folded ∧
      (Program.ofTokens tokens []).validate true = findings ∧
      (Program.ofTokens folded []).validate true = findings := by
  intro f rest tokens folded findings
  have countable : ∀ token ∈ tokens, token.Countable := by
    simp [tokens, rest, f, Token.Countable, Operator.times, Operator.between]
  have answered : (Effect.from () (fold tokens)).1 = .ok folded := rfl
  have found : (Program.ofTokens tokens []).validate true = findings := by
    subst findings tokens rest f
    decide +kernel
  obtain ⟨cells, same⟩ := validate_fold countable answered []
  have alike : (Program.ofTokens folded []).validate true =
      (Program.ofTokens tokens []).validate true := by
    have own := same (Program.ofTokens folded []).cells true
    rw [cells] at own
    exact own
  exact ⟨countable, answered, found, alike.trans found⟩

end Formula
