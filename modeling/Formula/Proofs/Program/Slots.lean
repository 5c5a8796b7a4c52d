import Formula.Proofs.Program.Run
import Mathlib.Data.List.Basic
import Mathlib.Data.List.Nodup
import Mathlib.Logic.Function.Basic

/-!
# Slots

Each name of a program has one cell, the cells are in the order in which the names occur first, and
every occurrence carries the slot of its name (`Program.Linked`). This is so for the program of any
list of tokens, whatever slots they come with (`Program.linked_ofTokens`), and stays so as long as
nothing but the values of the cells is changed.

**A state of the bindings** is a choice of values for names (`Program.withValues`): names that do
not occur have no cell to keep their value in.
-/

namespace Formula

variable {σ : Type}

/-! ## Names in the order of their first occurrences -/

/-- Leaving elements out does not change which of two others comes first. -/
theorem idxOf_lt_of_filter {α : Type} [DecidableEq α] {keep : α → Bool} {l : List α} {a b : α}
    (ha : keep a = true) (hb : keep b = true)
    (first : (l.filter keep).idxOf a < (l.filter keep).idxOf b) : l.idxOf a < l.idxOf b := by
  induction l with
  | nil => exact first
  | cons c rest ih =>
    by_cases here : c = a
    · subst here
      rw [List.filter_cons_of_pos ha, List.idxOf_cons_self] at first
      rw [List.idxOf_cons_self]
      by_cases same : c = b
      · subst same
        rw [List.idxOf_cons_self] at first
        exact absurd first (Nat.lt_irrefl 0)
      · rw [List.idxOf_cons_ne rest same]
        exact Nat.succ_pos _
    · by_cases same : c = b
      · subst same
        rw [List.filter_cons_of_pos hb, List.idxOf_cons_self] at first
        exact absurd first (Nat.not_lt_zero _)
      · rw [List.idxOf_cons_ne rest here, List.idxOf_cons_ne rest same]
        apply Nat.succ_lt_succ
        apply ih
        by_cases kept : keep c = true
        · rw [List.filter_cons_of_pos kept, List.idxOf_cons_ne _ here,
            List.idxOf_cons_ne _ same] at first
          exact Nat.lt_of_succ_lt_succ first
        · rwa [List.filter_cons_of_neg kept] at first

/-- **Elements without their repetitions are in the order of their first occurrences.** -/
theorem pairwise_eraseDups {α : Type} [DecidableEq α] (l : List α) :
    l.eraseDups.Pairwise fun a b => l.idxOf a < l.idxOf b := by
  cases l with
  | nil => exact .nil
  | cons a rest =>
    rw [List.eraseDups_cons]
    have others : ∀ b ∈ (rest.filter fun b => !b == a).eraseDups, a ≠ b := by
      intro b mem
      have kept := (List.mem_filter.mp (List.mem_eraseDups.mp mem)).2
      intro same
      simp [same] at kept
    refine List.Pairwise.cons ?_ ?_
    · intro b mem
      rw [List.idxOf_cons_self, List.idxOf_cons_ne rest (others b mem)]
      exact Nat.succ_pos _
    · refine (pairwise_eraseDups (rest.filter fun b => !b == a)).imp_of_mem ?_
      intro b c hb hc first
      rw [List.idxOf_cons_ne rest (others b hb), List.idxOf_cons_ne rest (others c hc)]
      apply Nat.succ_lt_succ
      exact idxOf_lt_of_filter (List.mem_filter.mp (List.mem_eraseDups.mp hb)).2
        (List.mem_filter.mp (List.mem_eraseDups.mp hc)).2 first
termination_by l.length
decreasing_by
  simp only [List.length_cons]
  exact Nat.lt_succ_of_le (List.length_filter_le _ _)

namespace Token

/-- The names that occur are those of the variables. -/
theorem mem_variableNames {tokens : List (Token σ)} {name : String} :
    name ∈ variableNames tokens ↔ ∃ slot, .var name slot ∈ tokens := by
  rw [variableNames, List.mem_eraseDups, List.mem_filterMap]
  constructor
  · rintro ⟨token, mem, named⟩
    cases token with
    | var other slot =>
      cases named
      exact ⟨slot, mem⟩
    | _ => cases named
  · rintro ⟨slot, mem⟩
    exact ⟨.var name slot, mem, rfl⟩

theorem nodup_variableNames (tokens : List (Token σ)) : (variableNames tokens).Nodup := by
  refine (pairwise_eraseDups _).imp ?_
  intro a b first same
  rw [same] at first
  exact absurd first (Nat.lt_irrefl _)

/-- Slots are not part of the names. -/
theorem filterMap_variableName?_link (names : List String) (tokens : List (Token σ)) :
    (tokens.map (link names)).filterMap variableName? = tokens.filterMap variableName? := by
  rw [List.filterMap_map]
  refine List.filterMap_congr fun token _ => ?_
  cases token <;> rfl

theorem variableNames_link (names : List String) (tokens : List (Token σ)) :
    variableNames (tokens.map (link names)) = variableNames tokens := by
  rw [variableNames, filterMap_variableName?_link]
  rfl

/-- Linking anew overwrites all slots. -/
theorem link_link (names others : List String) (tokens : List (Token σ)) :
    (tokens.map (link others)).map (link names) = tokens.map (link names) := by
  rw [List.map_map]
  refine List.map_congr_left fun token _ => ?_
  cases token <;> rfl

end Token

namespace Program

/-- **Every name has one cell, and all its occurrences carry the slot of that cell.** -/
structure Linked (program : Program σ) : Prop where
  /-- No name has two cells. -/
  distinct : program.names.Nodup
  /-- The names that have a cell are those that occur. -/
  occurring : ∀ name, name ∈ program.names ↔ ∃ slot, .var name slot ∈ program.tokens
  /-- The cells are in the order in which their names occur first. -/
  ordered : program.names.Pairwise fun first second =>
    (program.tokens.filterMap Token.variableName?).idxOf first <
      (program.tokens.filterMap Token.variableName?).idxOf second
  /-- The slot of an occurrence is that of the cell of its name. -/
  slots : ∀ name slot, .var name slot ∈ program.tokens → program.names[slot]? = some name

/-- Occurrences share a slot exactly if they share a name. -/
theorem Linked.slot_eq_iff {program : Program σ} (linked : program.Linked) {name other : String}
    {slot slot' : Nat} (first : .var name slot ∈ program.tokens)
    (second : .var other slot' ∈ program.tokens) : slot = slot' ↔ name = other := by
  have here := linked.slots _ _ first
  have there := linked.slots _ _ second
  constructor
  · rintro rfl
    exact Option.some.inj (here.symm.trans there)
  · rintro rfl
    obtain ⟨bound, at_slot⟩ := List.getElem?_eq_some_iff.mp here
    obtain ⟨bound', at_slot'⟩ := List.getElem?_eq_some_iff.mp there
    exact (linked.distinct.getElem_inj_iff).mp (at_slot.trans at_slot'.symm)

/-- The program with other values: each name that occurs has the one that is chosen for it. -/
def withValues (program : Program σ) (values : String → Option Float) : Program σ :=
  program.withCells (program.names.map fun name => ⟨name, values name⟩)

/-- A name that does not occur is ignored. -/
theorem assign_absent (program : Program σ) {name : String}
    (absent : program.contains name = false) (value : Float) :
    program.assign name value = program := by
  have cells : (program.cells.map fun cell =>
      if cell.name == name then { cell with value := some value } else cell) = program.cells := by
    refine (List.map_congr_left fun cell mem => ?_).trans (List.map_id _)
    have differs : cell.name ≠ name := by
      intro same
      have occurs : program.contains name = true :=
        List.contains_iff_mem.mpr (List.mem_map.mpr ⟨cell, mem, same⟩)
      rw [absent] at occurs
      cases occurs
    simp [differs]
  rw [assign, cells]

/-- Settings of names that do not occur change nothing, whether they are refused or not. -/
theorem bindAll_absent {program : Program σ} {bindings : Bindings}
    (absent : ∀ binding ∈ bindings, program.contains binding.1 = false) :
    (program.bindAll bindings).1 = program := by
  induction bindings with
  | nil => rfl
  | cons binding rest ih =>
    obtain ⟨name, value⟩ := binding
    have kept : program.assign name value = program :=
      program.assign_absent (absent _ (.head _)) value
    rw [bindAll, bind, kept]
    cases program.isReserved name with
    | true => rfl
    | false => exact ih fun other mem => absent other (.tail _ mem)

section WithValues

variable (program : Program σ) (values : String → Option Float)

@[simp]
theorem tokens_withValues : (program.withValues values).tokens = program.tokens := rfl

@[simp]
theorem reserved_withValues : (program.withValues values).reserved = program.reserved := rfl

@[simp]
theorem names_withValues : (program.withValues values).names = program.names := by
  simp [names, withValues, withCells, Function.comp_def]

/-- A slot has the value of its name. -/
theorem value?_withValues {name : String} {slot : Nat} (here : program.names[slot]? = some name) :
    (program.withValues values).value? slot = values name := by
  simp [value?, withValues, withCells, here]

/-- Setting a variable chooses another value for its name. -/
theorem assign_withValues (name : String) (value : Float) :
    (program.withValues values).assign name value =
      program.withValues (Function.update values name (some value)) := by
  have cells : ((program.withValues values).cells.map fun cell =>
      if cell.name == name then { cell with value := some value } else cell) =
        (program.withValues (Function.update values name (some value))).cells := by
    show (program.names.map fun name => (⟨name, values name⟩ : Cell)).map _ = program.names.map _
    rw [List.map_map]
    refine List.map_congr_left fun other _ => ?_
    by_cases same : other = name
    · subst same
      simp
    · simp [same]
  rw [assign, cells]
  rfl

end WithValues

theorem Linked.withValues {program : Program σ} (linked : program.Linked)
    (values : String → Option Float) : (program.withValues values).Linked := by
  obtain ⟨distinct, occurring, ordered, slots⟩ := linked
  constructor <;> simpa only [names_withValues, tokens_withValues]

/-! ## Programs of tokens -/

section OfTokens

variable (tokens : List (Token σ)) (reserved : List String)

theorem names_ofTokens : (ofTokens tokens reserved).names = Token.variableNames tokens := by
  simp [names, ofTokens, Function.comp_def]

/-- Variables start with the values of the constants. -/
theorem ofTokens_eq_withValues :
    ofTokens tokens reserved = (ofTokens tokens reserved).withValues Constant.value? := by
  rw [withValues, names_ofTokens]
  rfl

/-- An occurrence has the slot of its name. -/
theorem names_getElem?_idxOf {name : String} {slot : Nat} (mem : .var name slot ∈ tokens) :
    (ofTokens tokens reserved).names[(Token.variableNames tokens).idxOf name]? = some name := by
  rw [names_ofTokens]
  exact List.getElem?_idxOf (Token.mem_variableNames.mpr ⟨slot, mem⟩)

/-- **The program of any list of tokens is linked.** -/
theorem linked_ofTokens : (ofTokens tokens reserved).Linked := by
  have linked : (ofTokens tokens reserved).tokens =
      tokens.map (Token.link (Token.variableNames tokens)) := rfl
  refine ⟨?_, fun name => ?_, ?_, fun name slot mem => ?_⟩
  · rw [names_ofTokens]
    exact Token.nodup_variableNames tokens
  · rw [names_ofTokens, linked, ← Token.mem_variableNames, Token.variableNames_link]
  · rw [names_ofTokens, linked, Token.filterMap_variableName?_link]
    exact pairwise_eraseDups _
  · rw [linked] at mem
    obtain ⟨token, original, same⟩ := List.mem_map.mp mem
    cases token with
    | var other old =>
      cases same
      exact names_getElem?_idxOf tokens reserved original
    | _ => cases same

/-- Tokens that come with slots of another program make the same program. -/
theorem ofTokens_link (names : List String) :
    ofTokens (tokens.map (Token.link names)) reserved = ofTokens tokens reserved := by
  simp only [ofTokens, Token.variableNames_link, Token.link_link]

/-- **A program that is built anew has the same tokens in the same slots.** -/
theorem rebuild_withValues (values : String → Option Float) :
    ((ofTokens tokens reserved).withValues values).rebuild = ofTokens tokens [] :=
  ofTokens_link tokens [] _

end OfTokens

end Formula.Program
