import Formula.Operator.Builtin
import Formula.Proofs.Folding.Steps

/-!
# Folding before and after a substitution

Values of variables may come in one after the other. **Whether constants are folded before some of
the values are known or after makes no difference** to what folding comes to in the end
(`fold_substitute`), for any list of tokens, in postfix order or not.

What lies below the numbers on top of a folded list is never looked at again, and the numbers on top
are those that an operation would find in the tokens themselves. So the induction is on the steps of
folding, from the left: a step that computes a number takes the same numbers off after any
substitution, since it leaves alone what lies below them (`Folding.Makes.foldlM_substitute`).
-/

namespace Formula

variable {σ : Type}

namespace Token

/-- The token with a number in place of a variable that has a value. -/
def substitute (values : String → Option Float) : Token σ → Token σ
  | var name slot =>
    match values name with
    | some x => number x
    | none => var name slot
  | token => token

variable (values : String → Option Float)

/-- A substitution makes no operations. -/
theorem foldable?_substitute (token : Token σ) :
    (token.substitute values).foldable? = token.foldable? := by
  cases token with
  | var name slot =>
    rw [substitute]
    cases values name <;> rfl
  | _ => rfl

theorem Foreseeable.substitute {token : Token σ} (plain : token.Foreseeable) :
    (token.substitute values).Foreseeable := by
  intro arity rule operation
  rw [foldable?_substitute] at operation
  exact plain arity rule operation

/-- A change of variables alone leaves tokens as they are if none of them is a variable. -/
theorem map_of_unnamed {change : Token σ → Token σ}
    (kept : ∀ token, token.variableName? = none → change token = token) {tokens : List (Token σ)}
    (unnamed : ∀ name slot, .var name slot ∉ tokens) : tokens.map change = tokens := by
  refine (List.map_congr_left fun token mem => kept token ?_).trans (List.map_id _)
  cases token with
  | var name slot => exact absurd mem (unnamed name slot)
  | _ => rfl

/-- What is no variable is not replaced. -/
theorem substitute_of_unnamed (token : Token σ) (unnamed : token.variableName? = none) :
    token.substitute values = token := by
  cases token with
  | var name slot => cases unnamed
  | _ => rfl

/-- What may be computed ahead is no variable. -/
theorem substitute_foldable {token : Token σ} {arity : Nat} {rule : Rule σ}
    (operation : token.foldable? = some (arity, rule)) : token.substitute values = token := by
  refine substitute_of_unnamed values token ?_
  cases token with
  | var name slot => cases operation
  | _ => rfl

/-- Without values nothing is substituted. -/
theorem substitute_none : substitute (σ := σ) (fun _ => none) = id := by
  funext token
  cases token <;> rfl

end Token

namespace Folding

variable (values : String → Option Float)

/-- Numbers are kept as they stand. -/
theorem foldlM_numbers (xs : List Float) (folded : List (Token σ)) :
    (xs.map Token.number).foldlM step folded = pure ((xs.map Token.number).reverse ++ folded) := by
  induction xs generalizing folded with
  | nil => rfl
  | cons x rest ih =>
    have kept : step folded (.number x) = pure (.number x :: folded) := rfl
    rw [List.map_cons, List.foldlM_cons, kept, pure_bind, ih, List.reverse_cons, List.append_assoc]
    rfl

/-- Folding what lies below numbers and then the numbers leaves them on top. -/
theorem foldlM_numbers_on_top (xs : List Float) (below : List (Token σ)) :
    ((((xs.map Token.number).reverse ++ below).reverse).map (Token.substitute values)).foldlM
        step [] =
      (below.reverse.map (Token.substitute values)).foldlM step [] >>= fun under =>
        pure ((xs.map Token.number).reverse ++ under) := by
  have numbers : (xs.map (Token.number (σ := σ))).map (Token.substitute values) =
      xs.map Token.number := by
    rw [List.map_map]
    rfl
  rw [List.reverse_append, List.reverse_reverse, List.map_append, numbers, List.foldlM_append]
  simp only [foldlM_numbers]

/-- **After a substitution, what folding made of tokens folds to what the tokens fold to.** -/
theorem Makes.foldlM_substitute {tokens folded : List (Token σ)} (made : Makes tokens folded) :
    (folded.reverse.map (Token.substitute values)).foldlM step [] =
      (tokens.map (Token.substitute values)).foldlM step [] := by
  induction made with
  | nothing => rfl
  | keep _ _ ih => simp only [List.reverse_cons, List.map_append, List.foldlM_append, ih]
  | @compute tokens below token xs f x _ operation outcome ih =>
    have same : token.substitute values = token :=
      Token.substitute_foldable values operation
    have computed : ∀ under : List (Token σ),
        step ((xs.map Token.number).reverse ++ under) token = pure (.number x :: under) := by
      intro under
      rw [step_of_foldable operation, Rule.apply_ofFunction, outcome]
      rfl
    have one := foldlM_numbers_on_top values [x] below
    rw [List.map_append, List.foldlM_append, ← ih, foldlM_numbers_on_top, bind_assoc]
    simp only [pure_bind, List.map_cons, List.map_nil, List.foldlM_cons, List.foldlM_nil, same,
      computed]
    exact one

theorem Makes.fold_map_substitute {tokens folded : List (Token σ)} (made : Makes tokens folded) :
    fold (folded.reverse.map (Token.substitute values)) =
      fold (tokens.map (Token.substitute values)) := by
  rw [fold, fold, made.foldlM_substitute]

/-- What folding has made is not folded any further. -/
theorem Makes.fold_again {tokens folded : List (Token σ)} (made : Makes tokens folded) :
    fold folded.reverse = Effect.ofExcept (.ok folded.reverse) := by
  have again := made.fold_map_substitute fun _ => none
  rwa [Token.substitute_none, List.map_id, List.map_id, made.fold_eq] at again

/-- Where a rule fails while folding, it is called on the same numbers after a substitution, unless
folding fails before it. -/
theorem Fails.foldlM_substitute {front : List (Token σ)} {token : Token σ} {reason : String}
    (fails : Fails front token reason) (back : List (Token σ)) :
    ∃ before : Effect σ Error (List (Token σ)),
      ((front ++ token :: back).map (Token.substitute values)).foldlM step [] =
        before >>= fun _ => throw (.arithmetic reason) := by
  obtain ⟨xs, below, f, made, operation, outcome⟩ := fails
  have same : token.substitute values = token :=
    Token.substitute_foldable values operation
  have failed : ∀ under : List (Token σ),
      step ((xs.map Token.number).reverse ++ under) token = throw (.arithmetic reason) := by
    intro under
    rw [step_of_foldable operation, Rule.apply_ofFunction, outcome]
    rfl
  refine ⟨(below.reverse.map (Token.substitute values)).foldlM step [], ?_⟩
  rw [List.map_append, List.foldlM_append, ← made.foldlM_substitute, foldlM_numbers_on_top,
    bind_assoc]
  simp only [pure_bind, List.map_cons, List.foldlM_cons, same, failed]
  rfl

/-- Tokens that cannot be folded cannot be folded after a substitution. -/
theorem Fails.substitute {front back : List (Token σ)} {token : Token σ} {reason : String}
    (fails : Fails front token reason)
    (plain : ∀ t ∈ front ++ token :: back, t.Foreseeable) (state : σ) :
    ∃ reason, fold ((front ++ token :: back).map (Token.substitute values)) =
      Effect.ofExcept (.error (.arithmetic reason)) := by
  have foreseeable : ∀ t ∈ (front ++ token :: back).map (Token.substitute values),
      t.Foreseeable := by
    intro t mem
    obtain ⟨origin, original, rfl⟩ := List.mem_map.mp mem
    exact (plain origin original).substitute values
  rcases makes_or_fails foreseeable with
    ⟨folded, made⟩ | ⟨first, failing, rest, reason, split, fails_there⟩
  · obtain ⟨before, stopped⟩ := fails.foldlM_substitute values back
    have reached := congrArg (Effect.from state) (stopped.symm.trans made.foldlM_eq)
    obtain ⟨_, _, -, answered⟩ := Effect.of_from_bind_ok reached
    cases answered
  · rw [split]
    exact ⟨reason, fails_there.fold_eq rest⟩

end Folding

/-- **Partial evaluation is confluent.** For any list of tokens whose operators and deterministic
functions compute functions of their arguments: what folding makes of the tokens folds, with numbers
in the place of some of its variables, to what the tokens fold to with the same numbers in place, or
both fail alike. With no number in place, folding once is enough. And tokens that cannot be folded
cannot be folded with numbers in place. -/
theorem fold_substitute {tokens : List (Token σ)} (plain : ∀ token ∈ tokens, token.Foreseeable)
    (values : String → Option Float) :
    (∀ folded state, (Effect.from state (fold tokens)).1 = .ok folded →
      fold (folded.map (Token.substitute values)) = fold (tokens.map (Token.substitute values)) ∧
        fold folded = Effect.ofExcept (.ok folded)) ∧
      ∀ error state, (Effect.from state (fold tokens)).1 = .error error →
        ∃ reason, fold (tokens.map (Token.substitute values)) =
          Effect.ofExcept (.error (.arithmetic reason)) := by
  refine ⟨fun folded state answered => ?_, fun error state failed => ?_⟩
  · have made := Folding.makes_of_fold plain answered
    have substituted := made.fold_map_substitute values
    have again := made.fold_again
    rw [List.reverse_reverse] at substituted again
    exact ⟨substituted, again⟩
  · obtain ⟨front, token, back, reason, rfl, fails, -⟩ := Folding.fails_of_fold plain failed
    exact fails.substitute values plain state

/-- In `x * (2 + 3)`, with an operator after it that lacks an operand, the sum is folded first and
the product once `x` is known. -/
theorem fold_substitute_product :
    let plus : Operator Unit := .between "+" 500 fun a b => .ok (a + b)
    let sum : List (Token Unit) := [.number 2, .number 3, .operator plus]
    let rest : List (Token Unit) := [.operator .times, .operator .times, .var "y" 0]
    let tokens := .var "x" 0 :: (sum ++ rest)
    let folded := .var "x" 0 :: .number (2 + 3) :: rest
    let values : String → Option Float := fun name => if name = "x" then some 4 else none
    (∀ token ∈ tokens, token.Foreseeable) ∧ (Effect.from () (fold tokens)).1 = .ok folded ∧
      fold (folded.map (Token.substitute values)) = fold (tokens.map (Token.substitute values)) ∧
      (Effect.from () (fold (tokens.map (Token.substitute values)))).1 =
        .ok [.number (4 * (2 + 3)), .operator .times, .var "y" 0] := by
  intro plus sum rest tokens folded values
  have plain : ∀ token ∈ tokens, token.Foreseeable := by
    simp only [tokens, sum, rest, List.cons_append, List.nil_append, List.forall_mem_cons]
    exact ⟨.of_none rfl, .of_none rfl, .of_none rfl, .of_some rfl, .of_some rfl, .of_some rfl,
      .of_none rfl, List.forall_mem_nil _⟩
  have answered : (Effect.from () (fold tokens)).1 = .ok folded := rfl
  obtain ⟨confluent, -⟩ := (fold_substitute plain values).1 folded () answered
  exact ⟨plain, answered, confluent, rfl⟩

end Formula
