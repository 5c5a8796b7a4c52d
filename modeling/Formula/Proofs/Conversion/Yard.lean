import Formula.Conversion

/-!
# What a yard does

Laws of the operations on a yard that hold whatever its tokens mean: how a list of tokens is taken
in piece by piece, and what a release puts out.
-/

namespace Formula.Yard

variable {σ : Type}

@[simp]
theorem takeIn_nil (yard : Yard σ) : yard.takeIn [] = .ok yard := rfl

theorem takeIn_cons (yard : Yard σ) (token : Token σ) (rest : List (Token σ)) :
    yard.takeIn (token :: rest) = yard.step token >>= fun next => next.takeIn rest :=
  List.foldlM_cons

theorem takeIn_cons_ok {yard next : Yard σ} {token : Token σ} (h : yard.step token = .ok next)
    (rest : List (Token σ)) : yard.takeIn (token :: rest) = next.takeIn rest := by
  rw [takeIn_cons, h]
  rfl

theorem takeIn_append (yard : Yard σ) (front back : List (Token σ)) :
    yard.takeIn (front ++ back) = yard.takeIn front >>= fun next => next.takeIn back :=
  List.foldlM_append

theorem takeIn_append_ok {yard next : Yard σ} {front : List (Token σ)}
    (h : yard.takeIn front = .ok next) (back : List (Token σ)) :
    yard.takeIn (front ++ back) = next.takeIn back := by
  rw [takeIn_append, h]
  rfl

/-- Tokens are taken in one after the other. -/
theorem takeIn_cons_eq_ok {yard final : Yard σ} {token : Token σ} {rest : List (Token σ)} :
    yard.takeIn (token :: rest) = .ok final ↔
      ∃ next, yard.step token = .ok next ∧ next.takeIn rest = .ok final := by
  rw [takeIn_cons]
  cases yard.step token with
  | error error => simp [bind, Except.bind]
  | ok next => simp [bind, Except.bind]

theorem takeIn_append_eq_ok {yard final : Yard σ} {front back : List (Token σ)} :
    yard.takeIn (front ++ back) = .ok final ↔
      ∃ next, yard.takeIn front = .ok next ∧ next.takeIn back = .ok final := by
  rw [takeIn_append]
  cases yard.takeIn front with
  | error error => simp [bind, Except.bind]
  | ok next => simp [bind, Except.bind]

/-- A release stops where its condition fails first. -/
theorem release_append {output : List (Token σ)} {above below : List (Pending σ)}
    {condition : Pending σ → Bool} (all : ∀ entry ∈ above, condition entry = true)
    (stop : ∀ entry ∈ below.head?, condition entry = false) :
    release ⟨output, above ++ below⟩ condition =
      ⟨(above.map Pending.token).reverse ++ output, below⟩ := by
  have none_taken : below.takeWhile condition = [] := by
    cases below with
    | nil => rfl
    | cons entry rest => simp [stop entry rfl]
  have none_dropped : below.dropWhile condition = below := by
    cases below with
    | nil => rfl
    | cons entry rest => simp [stop entry rfl]
  rw [release, List.takeWhile_append_of_pos all, List.dropWhile_append_of_pos all, none_taken,
    none_dropped, List.append_nil]

/-- All operators above a bracket are put out with the group that it opens. -/
theorem releaseGroup_operators (output : List (Token σ)) (waiting : List (Operator σ))
    (below : List (Pending σ)) :
    releaseGroup ⟨output, waiting.map .operator ++ .bracket :: below⟩ =
      ⟨(waiting.map Token.operator).reverse ++ output, .bracket :: below⟩ := by
  rw [releaseGroup, release_append]
  · simp [Pending.token, Function.comp_def]
  · simp [Pending.isBracket]
  · simp [Pending.isBracket]

/-- An operator puts out the latest operators that yield to it, and is held in their place. -/
theorem step_operator {o : Operator σ} {output : List (Token σ)} {waiting : List (Operator σ)}
    {pending : List (Pending σ)}
    (all : ∀ p ∈ waiting, Pending.yieldsTo o (.operator p) = true)
    (stop : ∀ entry ∈ pending.head?, Pending.yieldsTo o entry = false) :
    step ⟨output, waiting.map .operator ++ pending⟩ (.operator o) =
      .ok ⟨(waiting.map Token.operator).reverse ++ output, .operator o :: pending⟩ := by
  rw [step, release_append (by simpa using all) stop]
  simp [hold, Pending.token, Function.comp_def]

/-- An operator that releases nothing is held on top of what waits. -/
theorem step_operator_quiet {o : Operator σ} {output : List (Token σ)} {pending : List (Pending σ)}
    (stop : ∀ entry ∈ pending.head?, Pending.yieldsTo o entry = false) :
    step ⟨output, pending⟩ (.operator o) = .ok ⟨output, .operator o :: pending⟩ := by
  have none_above : ∀ p ∈ ([] : List (Operator σ)), Pending.yieldsTo o (.operator p) = true :=
    fun p mem => nomatch mem
  exact step_operator none_above stop

/-- A closing bracket puts out what waits in its group. -/
theorem step_closing (output : List (Token σ)) (waiting : List (Operator σ))
    (pending : List (Pending σ)) :
    step ⟨output, waiting.map .operator ++ .bracket :: pending⟩ .closing =
      .ok (releaseCall ⟨(waiting.map Token.operator).reverse ++ output, pending⟩) := by
  rw [step, releaseGroup_operators]

/-- A separator puts out what waits in its group. -/
theorem step_separator (output : List (Token σ)) (waiting : List (Operator σ))
    (pending : List (Pending σ)) :
    step ⟨output, waiting.map .operator ++ .bracket :: pending⟩ .separator =
      .ok ⟨(waiting.map Token.operator).reverse ++ output, .bracket :: pending⟩ := by
  rw [step, releaseGroup_operators]
  rfl

/-- The brackets of a group call nothing. -/
theorem releaseCall_of_notCall {output : List (Token σ)} {pending : List (Pending σ)}
    (h : ∀ f, pending.head? ≠ some (.function f)) :
    releaseCall ⟨output, pending⟩ = ⟨output, pending⟩ := by
  match pending with
  | [] | .operator _ :: _ | .bracket :: _ => rfl
  | .function f :: _ => exact absurd rfl (h f)

/-- At the end all operators that wait are put out. -/
theorem finish_operators (output : List (Token σ)) (waiting : List (Operator σ)) :
    finish ⟨output, waiting.map .operator⟩ =
      .ok ((waiting.map Token.operator).reverse ++ output).reverse := by
  have no_bracket : (waiting.map Pending.operator).any Pending.isBracket = false := by
    simp [Pending.isBracket]
  have released : releaseGroup ⟨output, waiting.map .operator ++ []⟩ =
      ⟨((waiting.map Pending.operator).map Pending.token).reverse ++ output, []⟩ :=
    release_append (by simp [Pending.isBracket]) (by simp)
  rw [List.append_nil] at released
  simp [finish, no_bracket, released, Pending.token, Function.comp_def]

end Formula.Yard
