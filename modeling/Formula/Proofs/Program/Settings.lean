import Formula.Proofs.Session

/-!
# Several settings at once

Several variables are set one after the other, and a name that is refused ends it. **What was set
before it stays set** (`Program.bindAll_refused`): there is no way back to the values before, and
nobody looks at the names first.

Settings of distinct names have no order of their own. If none is refused, the order in which they
are carried out makes no difference. If one is, they are refused in every order, but which of the
others are carried out is a matter of the order (`bindAll_reordered`).
-/

namespace Formula

variable {σ : Type}

namespace Bindings

/-- What comes later counts. -/
theorem last?_cons (name : String) (value : Float) (rest : Bindings) (other : String) :
    Bindings.last? ((name, value) :: rest) other =
      (rest.last? other <|> if name = other then some value else none) := by
  rw [last?, List.reverse_cons, List.lookup_append]
  by_cases same : name = other
  · subst same
    simp [last?]
  · have differs : (other == name) = false := by simpa using Ne.symm same
    simp [last?, List.lookup_cons, differs, same]

/-- Of settings of distinct names, each one is the last of its name. -/
theorem last?_eq_some_iff {settings : Bindings} (distinct : (settings.map Prod.fst).Nodup)
    {name : String} {value : Float} :
    settings.last? name = some value ↔ (name, value) ∈ settings := by
  induction settings generalizing value with
  | nil => simp [last?]
  | cons setting rest ih =>
    obtain ⟨first, x⟩ := setting
    obtain ⟨fresh, distinct⟩ := List.nodup_cons.mp distinct
    rw [last?_cons, Option.orElse_eq_orElse, Option.orElse_eq_or, Option.or_eq_some_iff,
      ih distinct, List.mem_cons]
    by_cases same : first = name
    · subst same
      have absent : ∀ y, (first, y) ∉ rest := fun y mem =>
        fresh (List.mem_map.mpr ⟨(first, y), mem, rfl⟩)
      have unset : Bindings.last? rest first = none :=
        Option.eq_none_iff_forall_ne_some.mpr fun y found => absent y ((ih distinct).mp found)
      simp [absent, unset, eq_comm]
    · simp [same, Ne.symm same]

/-- Settings of distinct names come to the same in any order. -/
theorem last?_perm {settings other : Bindings} (distinct : (settings.map Prod.fst).Nodup)
    (reordered : settings.Perm other) : settings.last? = other.last? := by
  have distinct' : (other.map Prod.fst).Nodup := (reordered.map Prod.fst).nodup_iff.mp distinct
  funext name
  apply Option.ext
  intro value
  rw [last?_eq_some_iff distinct, last?_eq_some_iff distinct', reordered.mem_iff]

end Bindings

namespace Program

/-- **The program after some settings**: each variable has the value that it is set to last, or
else keeps the one it has. -/
def withSettings (program : Program σ) (settings : Bindings) : Program σ :=
  program.withCells (program.cells.map fun cell =>
    { cell with value := settings.last? cell.name <|> cell.value })

variable (program : Program σ)

theorem withSettings_nil : program.withSettings [] = program := by
  have cells : (program.cells.map fun cell =>
      { cell with value := Bindings.last? [] cell.name <|> cell.value }) = program.cells :=
    (List.map_congr_left fun _ _ => rfl).trans (List.map_id _)
  rw [withSettings, cells]
  rfl

/-- One setting more is carried out before the others. -/
theorem withSettings_cons (name : String) (value : Float) (rest : Bindings) :
    program.withSettings ((name, value) :: rest) =
      (program.assign name value).withSettings rest := by
  have cells : ∀ cell : Cell,
      (Bindings.last? ((name, value) :: rest) cell.name <|> cell.value) =
        (rest.last? cell.name <|>
          (if cell.name == name then { cell with value := some value } else cell).value) := by
    intro cell
    rw [Bindings.last?_cons]
    cases rest.last? cell.name with
    | some x => rfl
    | none =>
      by_cases same : cell.name = name
      · simp [same]
      · simp [same, Ne.symm same]
  have names : ∀ cell : Cell,
      (if cell.name == name then { cell with value := some value } else cell).name = cell.name := by
    intro cell
    split <;> rfl
  simp only [withSettings, withCells, assign, List.map_map, mk.injEq, true_and, and_true]
  refine List.map_congr_left fun cell _ => ?_
  simp only [Function.comp_apply, names, cells]

/-- The values of all variables are as before if the settings give each of those that they name the
value that it has. -/
theorem withSettings_eq_self_iff (settings : Bindings) :
    program.withSettings settings = program ↔
      ∀ cell ∈ program.cells, ∀ value, settings.last? cell.name = some value →
        cell.value = some value := by
  let update (cell : Cell) : Cell := { cell with value := settings.last? cell.name <|> cell.value }
  have same_cells : program.withSettings settings = program ↔
      program.cells.map update = program.cells.map id := by
    rw [List.map_id]
    exact ⟨fun same => congrArg cells same, fun same => congrArg program.withCells same⟩
  rw [same_cells, List.map_inj_left]
  refine forall₂_congr fun cell _ => ?_
  obtain ⟨name, value⟩ := cell
  cases set : settings.last? name with
  | none => simp [update, set]
  | some x => simp [update, set, eq_comm]

/-- Settings that are not refused are carried out before all that come after them. -/
theorem bindAll_append {settings : Bindings}
    (accepted : ∀ setting ∈ settings, program.isReserved setting.1 = false) (rest : Bindings) :
    program.bindAll (settings ++ rest) = (program.withSettings settings).bindAll rest := by
  induction settings generalizing program with
  | nil => rw [withSettings_nil, List.nil_append]
  | cons setting later ih =>
    obtain ⟨name, value⟩ := setting
    obtain ⟨here, accepted⟩ := List.forall_mem_cons.mp accepted
    rw [withSettings_cons, ← ih (program.assign name value) accepted, List.cons_append, bindAll,
      bind, here]
    rfl

/-- Settings of which none is refused are all carried out. -/
theorem bindAll_accepted {settings : Bindings}
    (accepted : ∀ setting ∈ settings, program.isReserved setting.1 = false) :
    program.bindAll settings = (program.withSettings settings, none) := by
  have carried := program.bindAll_append accepted []
  rwa [List.append_nil] at carried

/-- **Where a name is refused, the settings before it stay carried out**, and none after it is. -/
theorem bindAll_refused {before : Bindings}
    (accepted : ∀ setting ∈ before, program.isReserved setting.1 = false) {name : String}
    (refused : program.isReserved name = true) (value : Float) (after : Bindings) :
    program.bindAll (before ++ (name, value) :: after) =
      (program.withSettings before, some (.nameCollision name)) := by
  have reserved : (program.withSettings before).isReserved name = true := refused
  rw [bindAll_append program accepted, bindAll, bind, if_pos reserved]

/-- No name is refused, or there is a first one. -/
theorem accepted_or_refused (bindings : Bindings) :
    (∀ binding ∈ bindings, program.isReserved binding.1 = false) ∨
      ∃ before name value after, bindings = before ++ (name, value) :: after ∧
        (∀ binding ∈ before, program.isReserved binding.1 = false) ∧
        program.isReserved name = true := by
  cases found : bindings.find? fun binding => program.isReserved binding.1 with
  | none => exact .inl fun binding mem => by simpa using List.find?_eq_none.mp found binding mem
  | some binding =>
    obtain ⟨name, value⟩ := binding
    obtain ⟨refused, before, after, split, accepted⟩ := List.find?_eq_some_iff_append.mp found
    exact .inr ⟨before, name, value, after, split, by simpa using accepted, refused⟩

/-- Settings are refused if one of their names is, in whatever order they come. -/
theorem bindAll_eq_none_iff (bindings : Bindings) :
    (program.bindAll bindings).2 = none ↔
      ∀ binding ∈ bindings, program.isReserved binding.1 = false := by
  constructor
  · intro carried
    rcases program.accepted_or_refused bindings with
      accepted | ⟨before, name, value, after, rfl, accepted, refused⟩
    · exact accepted
    · rw [program.bindAll_refused accepted refused] at carried
      cases carried
  · intro accepted
    rw [program.bindAll_accepted accepted]

end Program

/-- **Settings of distinct names are carried out or refused in any order alike.** Where they are
carried out, the order makes no difference. Where they are refused, it is for the first of their
names, in the order in which they come, that is one of a function; the settings before it are
carried out and no other, so that all is as it was exactly if none of those changes a variable. -/
theorem bindAll_reordered (program : Program σ) {bindings other : Bindings}
    (distinct : (bindings.map Prod.fst).Nodup) (reordered : bindings.Perm other) :
    ((program.bindAll bindings).2 = none ↔ (program.bindAll other).2 = none) ∧
      ((program.bindAll bindings).2 = none ↔
        ∀ binding ∈ bindings, program.isReserved binding.1 = false) ∧
      ((program.bindAll bindings).2 = none → program.bindAll bindings = program.bindAll other) ∧
      ∀ error, (program.bindAll bindings).2 = some error →
        ∃ before name value after, bindings = before ++ (name, value) :: after ∧
          (∀ binding ∈ before, program.isReserved binding.1 = false) ∧
          program.isReserved name = true ∧ error = .nameCollision name ∧
          (program.bindAll bindings).1 = program.withSettings before ∧
          ((program.bindAll bindings).1 = program ↔
            ∀ cell ∈ program.cells, ∀ x, (cell.name, x) ∈ before → cell.value = some x) := by
  have accepted_iff : (∀ binding ∈ bindings, program.isReserved binding.1 = false) ↔
      ∀ binding ∈ other, program.isReserved binding.1 = false := by
    simp only [reordered.mem_iff]
  refine ⟨?_, program.bindAll_eq_none_iff bindings, fun carried => ?_, fun error failed => ?_⟩
  · rw [program.bindAll_eq_none_iff, program.bindAll_eq_none_iff, accepted_iff]
  · have accepted := (program.bindAll_eq_none_iff bindings).mp carried
    rw [program.bindAll_accepted accepted, program.bindAll_accepted (accepted_iff.mp accepted),
      Program.withSettings, Program.withSettings, Bindings.last?_perm distinct reordered]
  · rcases program.accepted_or_refused bindings with
      accepted | ⟨before, name, value, after, rfl, accepted, refused⟩
    · rw [program.bindAll_accepted accepted] at failed
      cases failed
    · have single : (before.map Prod.fst).Nodup := by
        rw [List.map_append] at distinct
        exact distinct.of_append_left
      have outcome := program.bindAll_refused accepted refused value after
      rw [outcome] at failed
      cases failed
      rw [outcome]
      refine ⟨before, name, value, after, rfl, accepted, refused, rfl, rfl, ?_⟩
      simp only [program.withSettings_eq_self_iff, Bindings.last?_eq_some_iff single]

/-- Of three settings the second is refused: in this order `x` is set, and in the reverse one `y`
is. -/
theorem bindAll_reordered_reverse :
    let program : Program Unit := .ofTokens [.var "x" 0, .var "y" 0] []
    let bindings : Bindings := [("x", 1), ("sin", 2), ("y", 3)]
    (bindings.map Prod.fst).Nodup ∧ bindings.Perm bindings.reverse ∧
      (program.bindAll bindings).2 = some (.nameCollision "sin") ∧
      (program.bindAll bindings.reverse).2 ≠ none ∧
      (program.bindAll bindings).1.cells = [⟨"x", some 1⟩, ⟨"y", none⟩] ∧
      (program.bindAll bindings.reverse).1.cells = [⟨"x", none⟩, ⟨"y", some 3⟩] ∧
      ∃ before name value after, bindings = before ++ (name, value) :: after ∧
        program.isReserved name = true ∧
        (program.bindAll bindings).1 = program.withSettings before := by
  intro program bindings
  have distinct : (bindings.map Prod.fst).Nodup := by decide
  have reordered : bindings.Perm bindings.reverse := (List.reverse_perm bindings).symm
  have failed : (program.bindAll bindings).2 = some (.nameCollision "sin") := rfl
  obtain ⟨alike, -, -, refused⟩ := bindAll_reordered program distinct reordered
  obtain ⟨before, name, value, after, split, -, reserved, -, carried, -⟩ := refused _ failed
  refine ⟨distinct, reordered, failed, fun none_refused => ?_, rfl, rfl,
    before, name, value, after, split, reserved, carried⟩
  cases failed.symm.trans (alike.mpr none_refused)

/-- **A refusal does not take back what was set before it**, and so what is left depends on the
order of the settings. -/
theorem settings_kept_when_refused :
    let program : Program Unit := .ofTokens [.var "x" 0] []
    let first : Bindings := [("x", 1), ("sin", 1)]
    let second : Bindings := [("sin", 1), ("x", 1)]
    (first.map Prod.fst).Nodup ∧ first.Perm second ∧
      (program.bindAll first).2 = some (.nameCollision "sin") ∧
      (program.bindAll second).2 = some (.nameCollision "sin") ∧
      (program.bindAll first).1 ≠ program ∧
      (program.bindAll first).1 ≠ (program.bindAll second).1 := by
  intro program first second
  have before : program.cells = [⟨"x", none⟩] := rfl
  have set : (program.bindAll first).1.cells = [⟨"x", some 1⟩] := rfl
  have unset : (program.bindAll second).1.cells = [⟨"x", none⟩] := rfl
  refine ⟨by decide, .swap _ _ _, rfl, rfl, fun same => ?_, fun same => ?_⟩
  · rw [same, before] at set
    cases set
  · rw [same, unset] at set
    cases set

end Formula
