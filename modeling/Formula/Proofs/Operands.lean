import Formula.Operands

/-!
# Taking operands off a stack

The operands of an operation are on a stack exactly if the stack ends in them.
-/

namespace Formula

variable {α : Type}

/-- A stack gives `n` operands if it has that many entries on top of the rest. -/
theorem operands?_eq_some_iff {n : Nat} {stack operands below : List α} :
    operands? n stack = some (operands, below) ↔
      stack = operands.reverse ++ below ∧ operands.length = n := by
  unfold operands?
  constructor
  · intro h
    split at h
    · cases h
    · cases h
      refine ⟨by simp, ?_⟩
      rw [List.length_reverse, List.length_take]
      omega
  · rintro ⟨rfl, rfl⟩
    have enough : ¬ (operands.reverse ++ below).length < operands.length := by simp
    rw [if_neg enough]
    simp [List.take_left', List.drop_left']

theorem operands?_reverse_append (operands below : List α) :
    operands? operands.length (operands.reverse ++ below) = some (operands, below) :=
  operands?_eq_some_iff.mpr ⟨rfl, rfl⟩

theorem operands?_eq_none_iff {n : Nat} {stack : List α} :
    operands? n stack = none ↔ stack.length < n := by
  unfold operands?
  split <;> simp_all

/-- A stack of `n` entries or more has `n` operands on top. -/
theorem exists_operands {n : Nat} {stack : List α} (enough : n ≤ stack.length) :
    ∃ operands below : List α, stack = operands.reverse ++ below ∧ operands.length = n := by
  have taken : operands? n stack = some ((stack.take n).reverse, stack.drop n) :=
    if_neg (Nat.not_lt.mpr enough)
  exact ⟨_, _, operands?_eq_some_iff.mp taken⟩

/-- Taking operands off does not look at them. -/
theorem operands?_map {β : Type} (f : α → β) (n : Nat) (stack : List α) :
    operands? n (stack.map f) =
      (operands? n stack).map fun (operands, below) => (operands.map f, below.map f) := by
  unfold operands?
  rw [List.length_map]
  split
  · rfl
  · simp

end Formula
