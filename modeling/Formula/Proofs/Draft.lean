import Formula.Proofs.Acceptance
import Formula.Proofs.Collisions
import Formula.Proofs.Lexer.Mentions
import Formula.Proofs.Session

/-!
# What a draft declares

A draft is made by calls, and knows what they declare if none of them is refused
(`Draft.declares_callAll`). A draft that compiles has no variable that is named like a function, so
the names of its program are free of the names of functions: those that the table has and those that
are built in.

The program checks the names once more, when a variable is set, against a list of its own. **The two
checks agree** (`compile_bindable`): all variables of a compiled draft can be set, in every copy and
at any time. After that nothing is said to be without a value, by the check or by an evaluation.
-/

namespace Formula

variable {σ : Type}

/-! ## Names in order -/

theorem mem_sortNames {names : List String} {name : String} :
    name ∈ sortNames names ↔ name ∈ names := by
  rw [sortNames, List.mem_mergeSort, List.mem_eraseDups]

theorem pairwise_sortNames (names : List String) : (sortNames names).Pairwise (· ≤ ·) := by
  have sorted : (sortNames names).Pairwise fun a b => decide (a ≤ b) = true := by
    apply List.pairwise_mergeSort
    · intro a b c first second
      rw [decide_eq_true_eq] at first second ⊢
      exact String.le_trans first second
    · intro a b
      rw [Bool.or_eq_true, decide_eq_true_eq, decide_eq_true_eq]
      exact String.le_total a b
  exact sorted.imp of_decide_eq_true

theorem nodup_sortNames (names : List String) : (sortNames names).Nodup := by
  rw [sortNames, (List.mergeSort_perm _ _).nodup_iff]
  refine (pairwise_eraseDups names).imp fun {a b} first same => ?_
  rw [same] at first
  exact absurd first (Nat.lt_irrefl _)

/-- Names in ascending order are a matter of which names there are. -/
theorem sortNames_congr {names others : List String}
    (same : ∀ name, name ∈ names ↔ name ∈ others) : sortNames names = sortNames others := by
  refine List.Perm.eq_of_pairwise (fun a b _ _ => String.le_antisymm) (pairwise_sortNames names)
    (pairwise_sortNames others) ?_
  rw [List.perm_ext_iff_of_nodup (nodup_sortNames names) (nodup_sortNames others)]
  intro name
  rw [mem_sortNames, mem_sortNames, same]

/-! ## Entries of a table -/

namespace Symbols

/-- What is entered in a table. -/
def Declares (symbols : Symbols σ) : Declaration σ → Prop
  | .var name => name ∈ symbols.vars
  | .function f => f ∈ symbols.functions
  | .operator o => o ∈ symbols.operators

/-- A declaration is entered besides all others. -/
theorem declares_declare {symbols : Symbols σ} {declaration other : Declaration σ} :
    (symbols.declare declaration).Declares other ↔
      other = declaration ∨ symbols.Declares other := by
  cases declaration <;> cases other <;>
    simp [declare, Declares, declareVariable, declareFunction, declareOperator]

/-- Several variables are entered, and nothing else. -/
theorem foldl_declareVariable (names : List String) (symbols : Symbols σ) :
    names.foldl declareVariable symbols =
      { symbols with vars := names.reverse ++ symbols.vars } := by
  induction names generalizing symbols with
  | nil => rfl
  | cons name rest ih => simp [ih, declareVariable]

/-- A name that calls nothing is that of no function. -/
theorem function?_eq_none_iff {symbols : Symbols σ} {name : String} :
    symbols.function? name = none ↔
      (∀ f ∈ symbols.functions, f.name ≠ name) ∧ Function.isBuiltin name = false := by
  simp [function?, Function.builtin?, Function.isBuiltin]

end Symbols

namespace Draft

/-! ## Calls -/

/-- What can be asked for in the making of a draft. -/
inductive Call (σ : Type) where
  | declare (declaration : Declaration σ)
  | implicit (enabled : Bool)
  | folding (enabled : Bool)

/-- The draft after a call. -/
def call (draft : Draft σ) : Call σ → Draft σ
  | .declare declaration => draft.declare declaration
  | .implicit enabled => draft.withImplicit enabled
  | .folding enabled => draft.withFolding enabled

/-- The draft after several calls, in order. -/
def callAll (draft : Draft σ) (calls : List (Call σ)) : Draft σ := calls.foldl call draft

/-- A refusal is remembered. What is not refused is entered. -/
theorem declares_call {draft : Draft σ} {call : Call σ}
    (accepted : (draft.call call).refused = none) :
    draft.refused = none ∧ ∀ declaration, (draft.call call).symbols.Declares declaration ↔
      draft.symbols.Declares declaration ∨ .declare declaration = call := by
  cases call with
  | declare declaration =>
    cases check : declaration.check with
    | ok sound =>
      rw [Draft.call, declare, check] at accepted ⊢
      refine ⟨accepted, fun other => ?_⟩
      rw [Symbols.declares_declare, or_comm, Call.declare.injEq]
    | error error =>
      rw [Draft.call, declare, check] at accepted
      cases before : draft.refused <;> simp [before] at accepted
  | implicit enabled => exact ⟨accepted, fun other => by simp [Draft.call, withImplicit]⟩
  | folding enabled => exact ⟨accepted, fun other => by simp [Draft.call, withFolding]⟩

/-- **A draft declares what its calls declare**, if none of them is refused. -/
theorem declares_callAll {draft : Draft σ} {calls : List (Call σ)}
    (accepted : (draft.callAll calls).refused = none) :
    draft.refused = none ∧ ∀ declaration, (draft.callAll calls).symbols.Declares declaration ↔
      draft.symbols.Declares declaration ∨ .declare declaration ∈ calls := by
  induction calls generalizing draft with
  | nil => exact ⟨accepted, fun declaration => by simp [callAll]⟩
  | cons call rest ih =>
    have rest_accepted : ((draft.call call).callAll rest).refused = none := accepted
    obtain ⟨next, later⟩ := ih rest_accepted
    obtain ⟨before, here⟩ := declares_call next
    refine ⟨before, fun declaration => ?_⟩
    rw [List.mem_cons, ← or_assoc, ← here]
    exact later declaration

/-! ## Compiling -/

variable {draft : Draft σ}

/-- The constants are entered as variables, and nothing else. -/
theorem table_eq (draft : Draft σ) :
    draft.table =
      { draft.symbols with vars := Constant.names.reverse ++ draft.symbols.vars } :=
  Symbols.foldl_declareVariable Constant.names draft.symbols

/-- A draft without fault is compiled as its text is. -/
theorem from_compile {order : Enumeration} (sound : draft.fault? order = none) (state : σ) :
    (Effect.from state (draft.compile order)).1 =
      (Effect.from state
        (compileText draft.table draft.implicit draft.folding draft.text)).1.map
          fun tokens => .ofTokens tokens draft.table.functionNames := by
  rw [compile, sound, Effect.from_bind]
  rcases Effect.from state
    (compileText draft.table draft.implicit draft.folding draft.text) with ⟨result, after⟩
  cases result <;> rfl

theorem compile_eq_ok_iff {order : Enumeration} {program : Program σ} {state : σ} :
    (Effect.from state (draft.compile order)).1 = .ok program ↔
      draft.fault? order = none ∧ ∃ tokens,
        (Effect.from state
          (compileText draft.table draft.implicit draft.folding draft.text)).1 = .ok tokens ∧
          program = .ofTokens tokens draft.table.functionNames := by
  cases fault : draft.fault? order with
  | some error => simp [compile_of_fault? fault]
  | none =>
    rw [from_compile fault]
    cases (Effect.from state
      (compileText draft.table draft.implicit draft.folding draft.text)).1 <;>
        simp [Except.map, eq_comm]

/-- **Drafts of one text compile alike** if they have the same fault or none, their tables say the
same of all that the text mentions, and their settings are the same. -/
theorem compile_congr {other : Draft σ} {order order' : Enumeration}
    (fault : draft.fault? order = other.fault? order') (text : draft.text = other.text)
    (tables : draft.table.AgreeOn draft.text.toList other.table)
    (functions : draft.table.functionNames = other.table.functionNames)
    (implicit : draft.implicit = other.implicit) (folding : draft.folding = other.folding) :
    draft.compile order = other.compile order' := by
  unfold compile
  rw [fault, functions, compileText_congr tables, text, implicit, folding]

/-- **The names of a compiled draft** are variables that it declares or constants, and no names of
functions. So the program has none of them reserved. -/
theorem names_of_compile {order : Enumeration} {program : Program σ} {state : σ}
    (compiled : (Effect.from state (draft.compile order)).1 = .ok program) :
    ∀ name ∈ program.names,
      (name ∈ draft.symbols.vars ∨ name ∈ Constant.names) ∧
        (∀ f ∈ draft.symbols.functions, f.name ≠ name) ∧ Function.isBuiltin name = false ∧
          name ∉ program.reserved := by
  intro name occurs
  obtain ⟨sound, tokens, compiles, rfl⟩ := compile_eq_ok_iff.mp compiled
  rw [Program.names_ofTokens, Token.mem_variableNames] at occurs
  obtain ⟨slot, occurs⟩ := occurs
  have known : name ∈ draft.table.vars :=
    List.contains_iff_mem.mp (known_of_compileText compiles _ occurs)
  obtain ⟨-, -, uncalled⟩ := fault?_eq_none_iff.mp sound
  obtain ⟨apart, unlike⟩ := Symbols.function?_eq_none_iff.mp (uncalled name known)
  have unreserved : name ∉ draft.table.functionNames := by
    intro listed
    obtain ⟨f, entered, same⟩ := List.mem_map.mp (mem_sortNames.mp listed)
    exact apart f entered same
  rw [table_eq] at apart
  rw [table_eq, List.mem_append, List.mem_reverse] at known
  exact ⟨known.symm, apart, unlike, unreserved⟩

end Draft

/-! ## Programs of drafts -/

namespace History

variable {history : History} {tokens : List (Token σ)}

/-- A name that was set has a value. -/
theorem value?_of_set {name : String} (set : name ∈ history.settings.map Prod.fst) :
    (history.value? name).isSome := by
  have found : (history.settings.last? name).isSome := Bindings.isSome_last?_iff.mpr set
  rw [value?, Option.orElse_eq_orElse, Option.orElse_eq_or, Option.isSome_or, found, Bool.true_or]

/-- Once all its names were set, a program has all values. -/
theorem bound_program (set : ∀ name ∈ Token.variableNames tokens,
    name ∈ history.settings.map Prod.fst) : (history.program tokens).Bound := by
  intro name slot occurs
  rw [history.value?_program tokens occurs]
  refine value?_of_set (set name ?_)
  rw [← history.names_program tokens]
  exact ((history.linked_program tokens).occurring name).mpr ⟨slot, occurs⟩

end History

/-- **All variables of a compiled draft can be set.** Whatever was called for in its making, and in
whatever order its variables were looked at, the names of its program are variables that were
declared or constants, and no names of functions, declared or built in. Whatever is done in a session
that begins with it, setting one of them succeeds in every program of the session; and a program in
whose history all of them were set is not found to lack a value, by the check or by an evaluation. -/
theorem compile_bindable (text : String) (calls : List (Draft.Call σ)) {order : Enumeration}
    {program : Program σ} {state : σ}
    (compiled :
      (Effect.from state (((Draft.ofText text).callAll calls).compile order)).1 = .ok program)
    (commands : List Command) (start : σ) :
    let session := ((Session.start program).after commands start).1
    let histories := (Histories.start program.reserved).after commands
    (∀ name ∈ program.names,
      (.declare (.var name) ∈ calls ∨ name ∈ Constant.names) ∧
        Function.isBuiltin name = false ∧
          ∀ f, .declare (.function f) ∈ calls → f.name ≠ name) ∧
      ∀ (index : Nat) (other : Program σ), session.programs[index]? = some other →
        other.names = program.names ∧
          (∀ name ∈ program.names, ∀ value, other.bind name value = .ok (other.assign name value)) ∧
          ∃ history, histories.all[index]? = some history ∧
            ((∀ name ∈ program.names, name ∈ history.settings.map Prod.fst) →
              (∀ later name,
                (Effect.from later other.evaluate).1 ≠ .error (.unboundVariable name)) ∧
              other.validate true = other.validate false) := by
  intro session histories
  have free := Draft.names_of_compile compiled
  obtain ⟨sound, tokens, -, rfl⟩ := Draft.compile_eq_ok_iff.mp compiled
  have declared := (Draft.declares_callAll (Draft.fault?_eq_none_iff.mp sound).1).2
  have follows : session.Follows tokens histories :=
    (Session.follows_start tokens _).after commands start
  refine ⟨fun name occurs => ?_, fun index other here => ?_⟩
  · obtain ⟨known, apart, unlike, -⟩ := free name occurs
    refine ⟨known.imp_left fun entered => ?_, unlike, fun f called => ?_⟩
    · exact ((declared (.var name)).mp entered).resolve_left List.not_mem_nil
    · exact apart f ((declared (.function f)).mpr (.inr called))
  · rw [follows.programs, List.getElem?_map, Option.map_eq_some_iff] at here
    obtain ⟨history, there, rfl⟩ := here
    have reserved := Histories.reserved_after _ commands history (List.mem_of_getElem? there)
    rw [History.names_program, ← Program.names_ofTokens tokens]
    refine ⟨rfl, fun name occurs value => ?_, history, there, fun set => ?_⟩
    · obtain ⟨-, -, unlike, unreserved⟩ := free name occurs
      have unlisted : name ∉ history.reserved := fun listed => unreserved (reserved listed)
      have accepted : history.refuses name = false := by
        simp [History.refuses, unlike, unlisted]
      rw [Program.bind, History.isReserved_program, accepted]
      rfl
    · rw [Program.names_ofTokens] at set
      have bound := History.bound_program set
      exact ⟨bound.evaluate_ne, bound.validate_eq⟩

/-- In `draw(x) - e` the constant is a variable like the other. Both can be set, and after that a
copy lacks no value, though the program that it was copied from does not have the second setting. -/
theorem compile_bindable_copy :
    let draw : Function Nat := ⟨"draw", 1, false, fun _ calls => (.ok 0, calls + 1)⟩
    let calls : List (Draft.Call Nat) :=
      [.declare (.var "x"), .declare (.function draw), .implicit false]
    let tokens : List (Token Nat) :=
      [.var "x" 0, .function draw, .var "e" 0, .operator (.between "-" 500 fun a b => .ok (a - b))]
    let program := Program.ofTokens tokens ["draw"]
    let commands : List Command := [.set "x" 2, .copy, .set "e" 3]
    let session := ((Session.start program).after commands 0).1
    (∀ order,
        (Effect.from 0 (((Draft.ofText "draw(x) - e").callAll calls).compile order)).1 =
          .ok program) ∧
      ∀ copy, session.programs[1]? = some copy →
        copy.bind "x" 5 = .ok (copy.assign "x" 5) ∧
          (∀ name, (Effect.from 0 copy.evaluate).1 ≠ .error (.unboundVariable name)) ∧
          copy.validate true = copy.validate false := by
  intro draw calls tokens program commands session
  let draft : Draft Nat := ⟨"draw(x) - e", ⟨["x"], [draw], []⟩, false, false, none⟩
  have made : (Draft.ofText "draw(x) - e").callAll calls = draft := by
    have x : Name.isValid "x" = true := by decide +kernel
    have f : Name.isValid draw.name = true := by decide +kernel
    simp only [calls, Draft.callAll, List.foldl_cons, Draft.call, Draft.declare, Declaration.check,
      x, f, if_true]
    rfl
  have table : draft.table = ⟨["φ", "e", "π", "pi", "x"], [draw], []⟩ := draft.table_eq
  have compiled : ∀ order,
      (Effect.from 0 (((Draft.ofText "draw(x) - e").callAll calls).compile order)).1 =
        .ok program := by
    intro order
    rw [made, Draft.compile_eq_ok_iff, Draft.fault?_eq_none_iff, table]
    refine ⟨⟨rfl, ?_, ?_⟩, tokens, ?_, ?_⟩
    · decide +kernel
    · simp only [Symbols.function?_eq_none_iff]
      decide +kernel
    · rw [from_compileText_unfolded]
      subst program tokens draft calls draw
      cbv
    · simp [Symbols.functionNames, sortNames, draw, program, List.eraseDups_cons]
  have settings : ((Histories.start ["draw"]).after commands).all[1]? =
      some ⟨["draw"], [("x", 2), ("e", 3)]⟩ := by
    have x : Function.isBuiltin "x" = false := by decide +kernel
    have e : Function.isBuiltin "e" = false := by decide +kernel
    simp [commands, Histories.after, Histories.perform, Histories.start, History.perform,
      History.set, History.refuses, x, e]
  have names : program.names = ["x", "e"] := by
    rw [Program.names_ofTokens]
    rfl
  obtain ⟨-, later⟩ := compile_bindable _ calls (compiled .ascending) commands 0
  refine ⟨compiled, fun copy here => ?_⟩
  obtain ⟨-, settable, history, there, bound⟩ := later 1 copy here
  obtain rfl : _ = history := Option.some.inj (settings.symm.trans there)
  rw [names] at settable bound
  obtain ⟨evaluated, checked⟩ := bound (by simp)
  exact ⟨settable "x" (by simp) 5, evaluated 0, checked⟩

end Formula
