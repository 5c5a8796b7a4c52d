import Formula.Draft
import Formula.Proofs.Effect

/-!
# Names that compete

A draft is not compiled if one of its variables is named like a function. If several are, they
compete for the error: the first to be met is reported, and in which order the variables are gone
through is left open (`Enumeration`). What follows holds for any two orders, so that it covers the
choice that is made, whatever it is.

**Drafts with the same refusal, the same text and the same competing names have the same fault, or
report two of these names** (`Draft.fault?_eq_or_clash`); and whatever fault one of them has in some
order, the other has in some order (`Draft.exists_fault?_eq`). So where at most one name competes,
the order is no matter, nor is it for whether there is a fault (`Draft.fault?_eq_none_iff`).
-/

namespace Formula

variable {σ : Type}

/-! ## The first to meet a condition -/

/-- Where the same elements meet a condition, the same one is the first, or two of them are. -/
theorem find?_eq_or_ne {α : Type} {condition condition' : α → Bool} {l other : List α}
    (same : ∀ a, a ∈ l ∧ condition a = true ↔ a ∈ other ∧ condition' a = true) :
    l.find? condition = other.find? condition' ∨
      ∃ a b, a ≠ b ∧ l.find? condition = some a ∧ other.find? condition' = some b := by
  cases found : l.find? condition with
  | none =>
    refine .inl (List.find?_eq_none.mpr fun a mem meets => ?_).symm
    obtain ⟨mem', meets'⟩ := (same a).mpr ⟨mem, meets⟩
    exact List.find?_eq_none.mp found a mem' meets'
  | some a =>
    obtain ⟨mem, meets⟩ :=
      (same a).mp ⟨List.mem_of_find?_eq_some found, List.find?_some found⟩
    cases found' : other.find? condition' with
    | none => exact absurd meets (List.find?_eq_none.mp found' a mem)
    | some b =>
      by_cases equal : a = b
      · exact .inl (congrArg some equal)
      · exact .inr ⟨a, b, equal, rfl, rfl⟩

namespace Enumeration

@[simp]
theorem mem_list {order : Enumeration} {names : List String} {name : String} :
    name ∈ order.list names ↔ name ∈ names := by
  rw [(order.perm names).mem_iff, List.mem_eraseDups]

/-- An order in which a name comes first, wherever it comes. -/
def startingWith (first : String) : Enumeration where
  list names :=
    if first ∈ names then first :: names.eraseDups.erase first else names.eraseDups
  perm names := by
    split
    · rename_i entered
      exact (List.perm_cons_erase (List.mem_eraseDups.mpr entered)).symm
    · exact .refl _

theorem find?_startingWith {condition : String → Bool} {names : List String} {first : String}
    (entered : first ∈ names) (meets : condition first = true) :
    ((startingWith first).list names).find? condition = some first := by
  have listed : (startingWith first).list names = first :: names.eraseDups.erase first :=
    if_pos entered
  rw [listed, List.find?_cons_of_pos meets]

variable {condition condition' : String → Bool} {names others : List String}
  (same : ∀ name, name ∈ names ∧ condition name = true ↔ name ∈ others ∧ condition' name = true)
include same

/-- Of two sets in which the same names meet a condition, the same name is met first, or two are. -/
theorem find?_list_eq_or_ne (order order' : Enumeration) :
    (order.list names).find? condition = (order'.list others).find? condition' ∨
      ∃ name name', name ≠ name' ∧ (order.list names).find? condition = some name ∧
        (order'.list others).find? condition' = some name' :=
  find?_eq_or_ne (by simpa using same)

/-- What is met first in one of them is met first in the other, in some order. -/
theorem exists_find?_list_eq (order : Enumeration) :
    ∃ order' : Enumeration,
      (order'.list others).find? condition' = (order.list names).find? condition := by
  rcases find?_list_eq_or_ne same order order with equal | ⟨name, -, -, found, -⟩
  · exact ⟨order, equal.symm⟩
  · obtain ⟨entered, meets⟩ :=
      (same name).mp ⟨mem_list.mp (List.mem_of_find?_eq_some found), List.find?_some found⟩
    exact ⟨startingWith name, (find?_startingWith entered meets).trans found.symm⟩

end Enumeration

/-! ## Outcomes -/

/-- **Outcomes are the same up to the choice of a name**: they are equal, or each of them is the
error about one of several names that compete for it. -/
def Effect.SameUpTo {α : Type} (report : String → Error) (competes : String → Prop)
    (first second : Effect σ Error α) : Prop :=
  first = second ∨
    ∃ name name', name ≠ name' ∧ competes name ∧ competes name' ∧
      first = throw (report name) ∧ second = throw (report name')

namespace Effect.SameUpTo

variable {α : Type} {report : String → Error} {competes : String → Prop}
  {first second : Effect σ Error α} (same : SameUpTo report competes first second)
include same

/-- A single name leaves no choice. -/
theorem eq_of_unique (unique : ∀ name name', competes name → competes name' → name = name') :
    first = second := by
  rcases same with equal | ⟨name, name', differ, here, there, -⟩
  · exact equal
  · exact absurd (unique name name' here there) differ

/-- An outcome that is not the error about a name leaves no choice. -/
theorem eq_of_ne (state : σ)
    (differs : ∀ name, (Effect.from state first).1 ≠ .error (report name)) : first = second := by
  rcases same with equal | ⟨name, -, -, -, -, reported, -⟩
  · exact equal
  · rw [reported] at differs
    exact absurd rfl (differs name)

end Effect.SameUpTo

/-! ## Faults of drafts -/

namespace Draft

variable {draft other : Draft σ}

/-- A variable of the draft is named like a function, and competes for the error. -/
def Clashes (draft : Draft σ) (name : String) : Prop :=
  name ∈ draft.table.vars ∧ (draft.table.function? name).isSome = true

theorem clash?_eq_none_iff (order : Enumeration) :
    draft.clash? order = none ↔ ∀ name ∈ draft.table.vars, draft.table.function? name = none := by
  simp [clash?]

/-- The name that is met first competes. -/
theorem clashes_of_clash? {order : Enumeration} {name : String}
    (met : draft.clash? order = some name) : draft.Clashes name :=
  ⟨Enumeration.mem_list.mp (List.mem_of_find?_eq_some met),
    List.find?_some (p := fun name => (draft.table.function? name).isSome) met⟩

/-- **A draft has no fault** if no declaration was refused, the text is not blank, and no variable
is named like a function. -/
theorem fault?_eq_none_iff {order : Enumeration} :
    draft.fault? order = none ↔
      draft.refused = none ∧ draft.text.toList.all Unicode.isBlank = false ∧
        ∀ name ∈ draft.table.vars, draft.table.function? name = none := by
  rw [fault?, Option.orElse_eq_orElse, Option.orElse_eq_or, Option.or_eq_none_iff,
    ← clash?_eq_none_iff order]
  cases draft.text.toList.all Unicode.isBlank <;> simp

/-- A refusal comes before all other faults. -/
theorem fault?_of_refused {error : Error} (refused : draft.refused = some error)
    (order : Enumeration) : draft.fault? order = some error := by
  rw [fault?, refused]
  rfl

theorem fault?_of_blank (accepted : draft.refused = none)
    (blank : draft.text.toList.all Unicode.isBlank = true) (order : Enumeration) :
    draft.fault? order = some .emptyText := by
  rw [fault?, accepted, blank]
  rfl

theorem fault?_of_clash? {order : Enumeration} {name : String} (accepted : draft.refused = none)
    (visible : draft.text.toList.all Unicode.isBlank = false)
    (met : draft.clash? order = some name) :
    draft.fault? order = some (.nameCollision name) := by
  rw [fault?, accepted, visible, met]
  rfl

/-- A draft with a fault is not compiled, and nothing but the fault is reported. -/
theorem compile_of_fault? {order : Enumeration} {error : Error}
    (fault : draft.fault? order = some error) : draft.compile order = throw error := by
  rw [compile, fault]

section Alike

variable (refused : draft.refused = other.refused) (text : draft.text = other.text)
include refused text

theorem fault?_eq {order order' : Enumeration} (clash : draft.clash? order = other.clash? order') :
    draft.fault? order = other.fault? order' := by
  rw [fault?, fault?, refused, text, clash]

variable (clashes : ∀ name, draft.Clashes name ↔ other.Clashes name)
include clashes

/-- **Drafts whose names compete alike have the same fault, or report two of these names**, in
whatever orders these are met. -/
theorem fault?_eq_or_clash (order order' : Enumeration) :
    draft.fault? order = other.fault? order' ∨
      ∃ name name', name ≠ name' ∧ draft.Clashes name ∧ draft.Clashes name' ∧
        draft.fault? order = some (.nameCollision name) ∧
        other.fault? order' = some (.nameCollision name') := by
  rcases Enumeration.find?_list_eq_or_ne clashes order order' with
    clash | ⟨name, name', differ, met, met'⟩
  · exact .inl (fault?_eq refused text clash)
  · cases accepted : draft.refused with
    | some error =>
      left
      rw [fault?_of_refused accepted, fault?_of_refused (refused.symm.trans accepted)]
    | none =>
      have accepted' : other.refused = none := refused.symm.trans accepted
      cases visible : draft.text.toList.all Unicode.isBlank with
      | true =>
        left
        rw [fault?_of_blank accepted visible, fault?_of_blank accepted' (text ▸ visible)]
      | false =>
        refine .inr ⟨name, name', differ, clashes_of_clash? met,
          (clashes name').mpr (clashes_of_clash? met'), ?_, ?_⟩
        · exact fault?_of_clash? accepted visible met
        · exact fault?_of_clash? accepted' (text ▸ visible) met'

/-- Whatever fault one of them has, the other has in some order. -/
theorem exists_fault?_eq (order : Enumeration) :
    ∃ order' : Enumeration, other.fault? order' = draft.fault? order := by
  obtain ⟨order', clash⟩ := Enumeration.exists_find?_list_eq clashes order
  exact ⟨order', (fault?_eq refused text clash.symm).symm⟩

end Alike

end Draft

end Formula
