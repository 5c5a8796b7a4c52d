import Formula.Rule

/-!
# Computations from a state

A computation over hidden state is known by what it comes to from each state (`Effect.ext`): a
result or a failure, and the state that it leaves. A computation that ignores the state leaves it
as it is (`Effect.from_ofExcept`).
-/

namespace Formula.Effect

variable {σ ε α β : Type}

/-- Computations that come to the same from every state are the same. -/
theorem ext {first second : Effect σ ε α}
    (h : ∀ state, Effect.from state first = Effect.from state second) : first = second :=
  funext h

@[simp]
theorem from_pure (state : σ) (a : α) :
    Effect.from state (pure a : Effect σ ε α) = (.ok a, state) := rfl

@[simp]
theorem from_throw (state : σ) (error : ε) :
    Effect.from state (throw error : Effect σ ε α) = (.error error, state) := rfl

@[simp]
theorem from_ofExcept (state : σ) (result : Except ε α) :
    Effect.from state (ofExcept result) = (result, state) := rfl

/-- A computation goes on from the state that its first part leaves, unless that fails. -/
theorem from_bind (state : σ) (first : Effect σ ε α) (next : α → Effect σ ε β) :
    Effect.from state (first >>= next) =
      match Effect.from state first with
      | (.ok a, after) => Effect.from after (next a)
      | (.error error, after) => (.error error, after) := by
  show (ExceptT.bindCont next (first state).1) (first state).2 =
    match first state with
    | (.ok a, after) => Effect.from after (next a)
    | (.error error, after) => (.error error, after)
  rcases first state with ⟨result, after⟩
  cases result <;> rfl

theorem from_bind_ok {state after : σ} {first : Effect σ ε α} {a : α}
    (h : Effect.from state first = (.ok a, after)) (next : α → Effect σ ε β) :
    Effect.from state (first >>= next) = Effect.from after (next a) := by
  rw [from_bind, h]

theorem from_bind_error {state after : σ} {first : Effect σ ε α} {error : ε}
    (h : Effect.from state first = (.error error, after)) (next : α → Effect σ ε β) :
    Effect.from state (first >>= next) = (.error error, after) := by
  rw [from_bind, h]

/-- A computation that succeeds has done so in both of its parts. -/
theorem of_from_bind_ok {state after : σ} {first : Effect σ ε α} {next : α → Effect σ ε β} {b : β}
    (h : Effect.from state (first >>= next) = (.ok b, after)) :
    ∃ a mid, Effect.from state first = (.ok a, mid) ∧
      Effect.from mid (next a) = (.ok b, after) := by
  rw [from_bind] at h
  split at h
  · rename_i a mid reached
    exact ⟨a, mid, reached, h⟩
  · cases h

/-- A computation that fails has done so in its first part, or in what comes after it. -/
theorem of_from_bind_error {state after : σ} {first : Effect σ ε α} {next : α → Effect σ ε β}
    {error : ε} (h : Effect.from state (first >>= next) = (.error error, after)) :
    Effect.from state first = (.error error, after) ∨
      ∃ a mid, Effect.from state first = (.ok a, mid) ∧
        Effect.from mid (next a) = (.error error, after) := by
  rw [from_bind] at h
  split at h
  · rename_i a mid reached
    exact .inr ⟨a, mid, reached, h⟩
  · rename_i failed
    cases h
    exact .inl failed

/-- What comes after a computation counts on the results that it comes to. -/
theorem bind_congr_of_ok {first : Effect σ ε α} {next other : α → Effect σ ε β}
    (h : ∀ {state a after}, Effect.from state first = (.ok a, after) → next a = other a) :
    first >>= next = first >>= other := by
  apply Effect.ext
  intro state
  rw [from_bind, from_bind]
  rcases reached : Effect.from state first with ⟨result, after⟩
  cases result with
  | error error => rfl
  | ok a =>
    show Effect.from after (next a) = Effect.from after (other a)
    rw [h reached]

theorem ofExcept_ok (a : α) : (ofExcept (.ok a) : Effect σ ε α) = pure a := rfl

/-- A computation that neither reads nor changes the state. -/
def Stateless (computation : Effect σ ε α) : Prop := ∃ result, computation = ofExcept result

namespace Stateless

protected theorem pure (a : α) : Stateless (pure a : Effect σ ε α) := ⟨.ok a, rfl⟩

protected theorem throw (error : ε) : Stateless (throw error : Effect σ ε α) := ⟨.error error, rfl⟩

protected theorem ofExcept (result : Except ε α) : Stateless (ofExcept result : Effect σ ε α) :=
  ⟨result, rfl⟩

protected theorem bind {first : Effect σ ε α} {next : α → Effect σ ε β} (here : Stateless first)
    (later : ∀ a, Stateless (next a)) : Stateless (first >>= next) := by
  obtain ⟨result, rfl⟩ := here
  cases result with
  | error error => exact .throw error
  | ok a =>
    rw [ofExcept_ok, pure_bind]
    exact later a

/-- Steps that ignore the state make up a run that does. -/
protected theorem foldlM {items : List β} {step : α → β → Effect σ ε α}
    (steps : ∀ item ∈ items, ∀ a, Stateless (step a item)) (a : α) :
    Stateless (items.foldlM step a) := by
  induction items generalizing a with
  | nil => exact .pure a
  | cons item rest ih =>
    obtain ⟨here, later⟩ := List.forall_mem_cons.mp steps
    rw [List.foldlM_cons]
    exact (here a).bind fun next => ih later next

end Stateless

end Formula.Effect

namespace Formula.Rule

variable {σ : Type}

/-- A rule that is a function of its arguments, at work in a program. -/
theorem apply_ofFunction (f : List Float → Except String Float) (arguments : List Float) :
    (Rule.ofFunction f : Rule σ).apply arguments =
      Effect.ofExcept ((f arguments).mapError .arithmetic) := by
  unfold apply ofFunction
  cases f arguments <;> rfl

/-- The failures of a rule at work are arithmetic. -/
theorem apply_error {rule : Rule σ} {arguments : List Float} {state after : σ} {error : Error}
    (h : Effect.from state (rule.apply arguments) = (.error error, after)) :
    ∃ reason, error = .arithmetic reason := by
  have adapted : Effect.from state (rule.apply arguments) =
      ((rule arguments state).1.mapError .arithmetic, (rule arguments state).2) := rfl
  rw [adapted] at h
  generalize rule arguments state = outcome at h
  match outcome, h with
  | (.ok _, _), h => cases h
  | (.error reason, _), h =>
    cases h
    exact ⟨reason, rfl⟩

end Formula.Rule
