import Formula.Proofs.Draft

/-!
# The order of calls

A draft is made by calls in an order. What of this order counts is what was last: the last function
of each name, the last operator of each symbol, and the last setting of each kind. What a call sets
is what it asks for, or what was set before it, so that **after all calls the last one that asks for
something has it** (`Draft.value_callAll`). Which variables there are is not a matter of order at
all.

A refused declaration is not entered, and the calls after it go on as if it had not been made. But
the draft remembers the first one, and this alone is what compiling it reports
(`Draft.refused_callAll`).

So two sequences of calls, none of them refused, come to the same if they have the same variables
and the same last of all that may be said twice (`compile_requests`). The tables that they make may
differ, in what is hidden by a later declaration and in their order, but no look-up tells them apart
(`Symbols.SameEntries`). If several variables are named like functions, another one of them may be
reported (`Draft.CompilesLike`).
-/

namespace Formula

variable {σ : Type}

/-! ## Tables that no look-up tells apart -/

/-- **Two tables have the same entries**, whatever is hidden by later ones, and in any order. -/
structure Symbols.SameEntries (symbols other : Symbols σ) : Prop where
  vars : ∀ name, name ∈ symbols.vars ↔ name ∈ other.vars
  functions : ∀ name, (symbols.functions.find? fun f => f.name == name) =
    other.functions.find? fun f => f.name == name
  operators : ∀ symbol, symbols.declaredOperator? symbol = other.declaredOperator? symbol

namespace Symbols.SameEntries

variable {symbols other : Symbols σ} (same : symbols.SameEntries other)
include same

theorem function?_eq (name : String) : symbols.function? name = other.function? name := by
  rw [function?, function?, same.functions]

/-- They agree on all texts. -/
theorem agreeOn (text : List Char) : symbols.AgreeOn text other where
  variable_eq name _ := by
    rw [Bool.eq_iff_iff]
    simpa [isVariable] using same.vars name
  function_eq name _ := same.function?_eq name
  operator_eq symbol _ due := by rw [operator?, operator?, same.operators]

/-- They list the same functions. -/
theorem functionNames_eq : symbols.functionNames = other.functionNames := by
  have entered : ∀ (table : Symbols σ) name, name ∈ table.functions.map Function.name ↔
      (table.functions.find? fun f => f.name == name).isSome := by
    intro table name
    simp
  apply sortNames_congr
  intro name
  rw [entered, entered, same.functions]

/-- Variables that are entered in both of them make no difference. -/
theorem declareVariables (names : List String) :
    (names.foldl declareVariable symbols).SameEntries (names.foldl declareVariable other) := by
  rw [foldl_declareVariable, foldl_declareVariable]
  refine ⟨fun name => ?_, same.functions, same.operators⟩
  rw [List.mem_append, List.mem_append, same.vars]

end Symbols.SameEntries

namespace Draft

/-- **Two drafts compile alike**: in any two orders of their variables to the same program or error,
up to the choice between names that compete, and in one order to the same in all. -/
structure CompilesLike (draft other : Draft σ) : Prop where
  /-- Only the name that is reported may be another. -/
  sameUpTo : ∀ order order' : Enumeration,
    Effect.SameUpTo .nameCollision draft.Clashes (draft.compile order) (other.compile order')
  /-- It is the same if the variables are gone through alike. -/
  eq_of_list_eq : ∀ order order' : Enumeration,
    order.list draft.table.vars = order'.list other.table.vars →
      draft.compile order = other.compile order'

/-- **Drafts of one text with the same entries and settings compile alike.** -/
theorem compilesLike {draft other : Draft σ} (text : draft.text = other.text)
    (entries : draft.symbols.SameEntries other.symbols) (implicit : draft.implicit = other.implicit)
    (folding : draft.folding = other.folding) (refused : draft.refused = other.refused) :
    draft.CompilesLike other := by
  have tables : draft.table.SameEntries other.table := entries.declareVariables Constant.names
  have same : ∀ {order order' : Enumeration}, draft.fault? order = other.fault? order' →
      draft.compile order = other.compile order' := fun fault =>
    compile_congr fault text (tables.agreeOn _) tables.functionNames_eq implicit folding
  refine ⟨fun order order' => ?_, fun order order' listed => same ?_⟩
  · have clashes : ∀ name, draft.Clashes name ↔ other.Clashes name := by
      intro name
      rw [Clashes, Clashes, tables.vars, tables.function?_eq]
    rcases fault?_eq_or_clash refused text clashes order order' with
      fault | ⟨name, name', differ, here, there, fault, fault'⟩
    · exact .inl (same fault)
    · exact .inr ⟨name, name', differ, here, there, compile_of_fault? fault,
        compile_of_fault? fault'⟩
  · have functions : (fun name => (draft.table.function? name).isSome) =
        fun name => (other.table.function? name).isSome := by
      funext name
      rw [tables.function?_eq]
    exact fault?_eq refused text (by rw [clash?, clash?, listed, functions])

/-! ## What calls ask for -/

namespace Call

/-- Why the call is refused. -/
def refusal? : Call σ → Option Error
  | .declare declaration =>
    match declaration.check with
    | .ok () => none
    | .error error => some error
  | .implicit _ | .folding _ => none

/-- The function that the call declares under a name. -/
def function? (name : String) : Call σ → Option (Function σ)
  | .declare (.function f) => if f.name = name then some f else none
  | _ => none

/-- The operator that the call declares for a symbol. -/
def operator? (symbol : String) : Call σ → Option (Operator σ)
  | .declare (.operator o) => if o.symbol = symbol then some o else none
  | _ => none

/-- Whether the call lets products be implied. -/
def implicit? : Call σ → Option Bool
  | .implicit enabled => some enabled
  | _ => none

/-- Whether the call asks for constants to be folded. -/
def folding? : Call σ → Option Bool
  | .folding enabled => some enabled
  | _ => none

/-- **What the last of the calls that ask for something asks for.** -/
def last? {α : Type} (ask : Call σ → Option α) (calls : List (Call σ)) : Option α :=
  calls.reverse.findSome? ask

/-- No declaration of the calls is refused. -/
def Accepted (calls : List (Call σ)) : Prop :=
  ∀ declaration, .declare declaration ∈ calls → declaration.check = .ok ()

/-- **Two sequences of calls end alike**: they have the same last function of each name, the same
last operator of each symbol, and the same settings in the end, where products may be implied and
constants are not folded if no call says so. -/
structure EndAlike (calls other : List (Call σ)) : Prop where
  functions : ∀ name, last? (function? name) calls = last? (function? name) other
  operators : ∀ symbol, last? (operator? symbol) calls = last? (operator? symbol) other
  implicit : (last? implicit? calls).getD true = (last? implicit? other).getD true
  folding : (last? folding? calls).getD false = (last? folding? other).getD false

end Call

/-! ## One call -/

section OneCall

variable (draft : Draft σ)

/-- A declaration that is not refused is entered, and nothing else is done. -/
theorem call_declare {declaration : Declaration σ} (sound : declaration.check = .ok ()) :
    draft.call (.declare declaration) =
      { draft with symbols := draft.symbols.declare declaration } := by
  rw [Draft.call, declare, sound]

/-- Refused or not, a declaration does not touch the text and the settings. -/
theorem declare_keeps (declaration : Declaration σ) :
    (draft.declare declaration).text = draft.text ∧
      (draft.declare declaration).implicit = draft.implicit ∧
        (draft.declare declaration).folding = draft.folding := by
  rw [declare]
  cases declaration.check <;> exact ⟨rfl, rfl, rfl⟩

theorem text_call (call : Call σ) : (draft.call call).text = draft.text := by
  cases call with
  | declare declaration => exact (draft.declare_keeps declaration).1
  | implicit enabled => rfl
  | folding enabled => rfl

theorem implicit_call (call : Call σ) :
    (draft.call call).implicit = call.implicit?.getD draft.implicit := by
  cases call with
  | declare declaration => exact (draft.declare_keeps declaration).2.1
  | implicit enabled => rfl
  | folding enabled => rfl

theorem folding_call (call : Call σ) :
    (draft.call call).folding = call.folding?.getD draft.folding := by
  cases call with
  | declare declaration => exact (draft.declare_keeps declaration).2.2
  | implicit enabled => rfl
  | folding enabled => rfl

/-- A refusal is remembered where none was before. -/
theorem refused_call (call : Call σ) :
    (draft.call call).refused = draft.refused.or call.refusal? := by
  cases call with
  | declare declaration =>
    rw [Draft.call, declare, Call.refusal?]
    cases declaration.check with
    | ok sound => simp
    | error error =>
      show (draft.refused <|> some error) = draft.refused.or (some error)
      rw [Option.orElse_eq_orElse, Option.orElse_eq_or]
  | implicit enabled => simp [Draft.call, withImplicit, Call.refusal?]
  | folding enabled => simp [Draft.call, withFolding, Call.refusal?]

variable {call : Call σ} (accepted : Call.Accepted [call])
include accepted

/-- A name calls the function that was declared just now, or the one that it called before. -/
theorem function_call (name : String) :
    (draft.call call).symbols.functions.find? (fun f => f.name == name) =
      (call.function? name).or (draft.symbols.functions.find? fun f => f.name == name) := by
  cases call with
  | declare declaration =>
    rw [draft.call_declare (accepted declaration List.mem_cons_self)]
    cases declaration with
    | var name => rfl
    | operator o => rfl
    | function f =>
      by_cases same : f.name = name
      · simp [Symbols.declare, Symbols.declareFunction, Call.function?, same]
      · simp [Symbols.declare, Symbols.declareFunction, Call.function?, same]
  | implicit enabled => rfl
  | folding enabled => rfl

/-- A symbol stands for the operator that was declared just now, or for the one before. -/
theorem operator_call (symbol : String) :
    (draft.call call).symbols.declaredOperator? symbol =
      (call.operator? symbol).or (draft.symbols.declaredOperator? symbol) := by
  cases call with
  | declare declaration =>
    rw [draft.call_declare (accepted declaration List.mem_cons_self)]
    unfold Symbols.declaredOperator?
    cases declaration with
    | var name => rfl
    | function f => rfl
    | operator o =>
      by_cases same : o.symbol = symbol
      · simp [Symbols.declare, Symbols.declareOperator, Call.operator?, same]
      · simp [Symbols.declare, Symbols.declareOperator, Call.operator?, same]
  | implicit enabled => rfl
  | folding enabled => rfl

end OneCall

/-! ## All calls -/

/-- **What the last call asks for is what the draft has**, and what it had before where none asks, if
this is what each call does. -/
theorem value_callAll {α : Type} (ask : Call σ → Option α) (value : Draft σ → Option α)
    {calls : List (Call σ)}
    (step : ∀ call ∈ calls, ∀ draft, value (draft.call call) = (ask call).or (value draft))
    (draft : Draft σ) : value (draft.callAll calls) = (Call.last? ask calls).or (value draft) := by
  induction calls generalizing draft with
  | nil => rfl
  | cons call rest ih =>
    obtain ⟨here, later⟩ := List.forall_mem_cons.mp step
    have after : value ((draft.call call).callAll rest) =
        (Call.last? ask rest).or (value (draft.call call)) := ih later (draft.call call)
    have last : Call.last? ask (call :: rest) = (Call.last? ask rest).or (ask call) := by
      simp [Call.last?, List.findSome?_append]
    rw [last, Option.or_assoc, ← here]
    exact after

section Calls

variable (draft : Draft σ) {calls : List (Call σ)}

theorem text_callAll : (draft.callAll calls).text = draft.text := by
  induction calls generalizing draft with
  | nil => rfl
  | cons call rest ih => exact (ih (draft.call call)).trans (draft.text_call call)

theorem implicit_callAll :
    (draft.callAll calls).implicit = (Call.last? Call.implicit? calls).getD draft.implicit := by
  have set : some (draft.callAll calls).implicit =
      (Call.last? Call.implicit? calls).or (some draft.implicit) := by
    refine value_callAll Call.implicit? (fun draft => some draft.implicit) ?_ draft
    intro call _ draft
    rw [draft.implicit_call, Option.or_some]
  rwa [Option.or_some, Option.some.injEq] at set

theorem folding_callAll :
    (draft.callAll calls).folding = (Call.last? Call.folding? calls).getD draft.folding := by
  have set : some (draft.callAll calls).folding =
      (Call.last? Call.folding? calls).or (some draft.folding) := by
    refine value_callAll Call.folding? (fun draft => some draft.folding) ?_ draft
    intro call _ draft
    rw [draft.folding_call, Option.or_some]
  rwa [Option.or_some, Option.some.injEq] at set

/-- **The first refusal is remembered**, whatever is called for after it. -/
theorem refused_callAll :
    (draft.callAll calls).refused = draft.refused.or (calls.findSome? Call.refusal?) := by
  induction calls generalizing draft with
  | nil => simp [callAll]
  | cons call rest ih =>
    have after : ((draft.call call).callAll rest).refused =
        (draft.call call).refused.or (rest.findSome? Call.refusal?) := ih (draft.call call)
    have first : (call :: rest).findSome? Call.refusal? =
        call.refusal?.or (rest.findSome? Call.refusal?) := by
      rw [List.findSome?_cons]
      cases call.refusal? <;> rfl
    rw [first, ← Option.or_assoc, ← refused_call]
    exact after

end Calls

/-- Calls are accepted if each of them is. -/
theorem Call.accepted_iff {calls : List (Call σ)} :
    Call.Accepted calls ↔ ∀ call ∈ calls, call.refusal? = none := by
  have sound_iff : ∀ declaration : Declaration σ,
      Call.refusal? (.declare declaration) = none ↔ declaration.check = .ok () := by
    intro declaration
    rw [Call.refusal?]
    cases declaration.check <;> simp
  constructor
  · intro accepted call mem
    cases call with
    | declare declaration => exact (sound_iff declaration).mpr (accepted declaration mem)
    | implicit enabled => rfl
    | folding enabled => rfl
  · exact fun each declaration mem => (sound_iff declaration).mp (each _ mem)

namespace Call.Accepted

variable {calls : List (Call σ)} (accepted : Call.Accepted calls)
include accepted

theorem of_mem {call : Call σ} (mem : call ∈ calls) : Call.Accepted [call] := by
  rw [Call.accepted_iff, List.forall_mem_singleton]
  exact Call.accepted_iff.mp accepted call mem

theorem findSome?_refusal? : calls.findSome? Call.refusal? = none :=
  List.findSome?_eq_none_iff.mpr (Call.accepted_iff.mp accepted)

/-- Nothing is refused then. -/
theorem refused_eq (draft : Draft σ) : (draft.callAll calls).refused = draft.refused := by
  rw [refused_callAll, accepted.findSome?_refusal?, Option.or_none]

/-- **A name calls the last function that is declared under it.** -/
theorem function_callAll (draft : Draft σ) (name : String) :
    (draft.callAll calls).symbols.functions.find? (fun f => f.name == name) =
      (Call.last? (Call.function? name) calls).or
        (draft.symbols.functions.find? fun f => f.name == name) :=
  value_callAll (Call.function? name)
    (fun draft => draft.symbols.functions.find? fun f => f.name == name)
    (fun _ mem draft => draft.function_call (accepted.of_mem mem) name) draft

/-- **A symbol stands for the last operator that is declared for it.** -/
theorem operator_callAll (draft : Draft σ) (symbol : String) :
    (draft.callAll calls).symbols.declaredOperator? symbol =
      (Call.last? (Call.operator? symbol) calls).or (draft.symbols.declaredOperator? symbol) :=
  value_callAll (Call.operator? symbol) (fun draft => draft.symbols.declaredOperator? symbol)
    (fun _ mem draft => draft.operator_call (accepted.of_mem mem) symbol) draft

end Call.Accepted

/-- Where the first refusal is. -/
theorem Call.findSome?_refusal?_of_split {before after : List (Call σ)}
    {declaration : Declaration σ} {error : Error} (earlier : Call.Accepted before)
    (unsound : declaration.check = .error error) :
    (before ++ .declare declaration :: after).findSome? Call.refusal? = some error := by
  have here : Call.refusal? (.declare declaration) = some error := by
    rw [Call.refusal?, unsound]
  rw [List.findSome?_append, earlier.findSome?_refusal?, Option.none_or, List.findSome?_cons, here]

/-- **Sequences of calls come to the same** if none is refused, they declare the same variables, and
they end alike. -/
theorem compilesLike_callAll (text : String) {calls other : List (Call σ)}
    (accepted : Call.Accepted calls) (accepted' : Call.Accepted other)
    (vars : ∀ name, .declare (.var name) ∈ calls ↔ .declare (.var name) ∈ other)
    (ends : Call.EndAlike calls other) :
    ((ofText text).callAll calls).CompilesLike ((ofText text).callAll other) := by
  have start : (ofText text : Draft σ).refused = none := rfl
  have refused := (accepted.refused_eq (ofText text)).trans start
  have refused' := (accepted'.refused_eq (ofText text)).trans start
  refine compilesLike ?_ ⟨fun name => ?_, fun name => ?_, fun symbol => ?_⟩ ?_ ?_ ?_
  · rw [text_callAll, text_callAll]
  · have entered := (declares_callAll refused).2 (.var name)
    have entered' := (declares_callAll refused').2 (.var name)
    rw [vars name] at entered
    exact entered.trans entered'.symm
  · rw [accepted.function_callAll, accepted'.function_callAll, ends.functions]
  · rw [accepted.operator_callAll, accepted'.operator_callAll, ends.operators]
  · rw [implicit_callAll, implicit_callAll]
    exact ends.implicit
  · rw [folding_callAll, folding_callAll]
    exact ends.folding
  · rw [refused, refused']

/-! ## Several declarations at once -/

/-- What a caller can ask for at once: any number of declarations, or a setting. -/
inductive Request (σ : Type) where
  | declareAll (declarations : List (Declaration σ))
  | implicit (enabled : Bool)
  | folding (enabled : Bool)

/-- The draft after a request. -/
def request (draft : Draft σ) : Request σ → Draft σ
  | .declareAll declarations => draft.declareAll declarations
  | .implicit enabled => draft.withImplicit enabled
  | .folding enabled => draft.withFolding enabled

/-- The draft after several requests, in order. -/
def requestAll (draft : Draft σ) (requests : List (Request σ)) : Draft σ :=
  requests.foldl request draft

/-- The calls that a request comes to. -/
def Request.calls : Request σ → List (Call σ)
  | .declareAll declarations => declarations.map .declare
  | .implicit enabled => [.implicit enabled]
  | .folding enabled => [.folding enabled]

/-- **Requests are made call by call**, in their order. -/
theorem requestAll_eq_callAll (draft : Draft σ) (requests : List (Request σ)) :
    draft.requestAll requests = draft.callAll (requests.flatMap Request.calls) := by
  have one : ∀ (draft : Draft σ) request, draft.request request = draft.callAll request.calls := by
    intro draft request
    cases request with
    | declareAll declarations =>
      show declarations.foldl declare draft = (declarations.map Call.declare).foldl call draft
      rw [List.foldl_map]
      rfl
    | implicit enabled => rfl
    | folding enabled => rfl
  induction requests generalizing draft with
  | nil => rfl
  | cons request rest ih =>
    rw [List.flatMap_cons, callAll, List.foldl_append]
    exact (ih (draft.request request)).trans (by rw [one]; rfl)

end Draft

/-- **What the order of calls is for.** If a declaration is refused, the draft is not compiled, and
the error is that of the first one, whatever the text, the other calls and the settings are. If none
is refused, the outcome is that of all calls with the same variables that end alike: it is the same
program, or the same error, but for the choice between several variables that are named like
functions. So all calls may be made in another order, as long as the last function of each name, the
last operator of each symbol and the last settings stay the same. -/
theorem compile_requests (text : String) (requests : List (Draft.Request σ)) :
    let calls := requests.flatMap Draft.Request.calls
    let draft := (Draft.ofText text).requestAll requests
    (∀ before declaration after error, calls = before ++ .declare declaration :: after →
      Draft.Call.Accepted before → declaration.check = .error error →
        ∀ order, draft.compile order = throw error) ∧
    (Draft.Call.Accepted calls → ∀ others : List (Draft.Request σ),
      let other := others.flatMap Draft.Request.calls
      (Draft.Call.Accepted other →
        (∀ name, .declare (.var name) ∈ calls ↔ .declare (.var name) ∈ other) →
          Draft.Call.EndAlike calls other →
            draft.CompilesLike ((Draft.ofText text).requestAll others)) ∧
      (other.Perm calls → Draft.Call.EndAlike calls other →
        draft.CompilesLike ((Draft.ofText text).requestAll others))) := by
  intro calls draft
  have made : draft = (Draft.ofText text).callAll calls := Draft.requestAll_eq_callAll _ _
  refine ⟨fun before declaration after error split earlier unsound order => ?_, ?_⟩
  · have refused : draft.refused = some error := by
      rw [made, Draft.refused_callAll, split,
        Draft.Call.findSome?_refusal?_of_split earlier unsound]
      rfl
    exact Draft.compile_of_fault? (Draft.fault?_of_refused refused order)
  · intro accepted others other
    have alike : Draft.Call.Accepted other →
        (∀ name, .declare (.var name) ∈ calls ↔ .declare (.var name) ∈ other) →
          Draft.Call.EndAlike calls other →
            draft.CompilesLike ((Draft.ofText text).requestAll others) := by
      intro accepted' vars ends
      rw [made, Draft.requestAll_eq_callAll]
      exact Draft.compilesLike_callAll text accepted accepted' vars ends
    refine ⟨alike, fun reordered ends => alike ?_ ?_ ends⟩
    · exact fun declaration mem => accepted declaration (reordered.mem_iff.mp mem)
    · exact fun name => reordered.symm.mem_iff

/-- The later of two functions `f` counts, and so does the later setting, wherever the calls for them
come: with the arity two a call of `f` is compiled, and no product is implied. Of two names that are
none, the first one is reported, whatever the text is. -/
theorem compile_requests_twice :
    let f (arity : Nat) : Function Unit := ⟨"f", arity, true, Rule.ofFunction fun _ => .ok 0⟩
    let requests : List (Draft.Request Unit) :=
      [.implicit true, .declareAll [.var "x", .function (f 1)], .implicit false,
        .declareAll [.function (f 2)]]
    let others : List (Draft.Request Unit) :=
      [.declareAll [.function (f 3), .function (f 2)], .implicit false,
        .declareAll [.var "x", .var "x"]]
    let refused : List (Draft.Request Unit) :=
      [.declareAll [.var "x", .var "1a"], .folding true, .declareAll [.var "2b", .function (f 1)]]
    let program : Program Unit := .ofTokens [.var "x" 0, .var "x" 0, .function (f 2)] ["f"]
    ∀ order,
      (∀ made ∈ [requests, others],
        (Effect.from () (((Draft.ofText "f(x, x)").requestAll made).compile order)).1 =
            .ok program ∧
          (Effect.from () (((Draft.ofText "x x").requestAll made).compile order)).1 =
            .error (.ambiguousAdjacency 2)) ∧
      ∀ text, ((Draft.ofText text).requestAll refused).compile order =
        throw (.invalidVariableName "1a") := by
  intro f requests others refused program order
  have named : Name.isValid "f" = true := by decide +kernel
  have valid : Name.isValid "x" = true := by decide +kernel
  have invalid : Name.isValid "1a" = false := by decide +kernel
  let draft (text : String) : Draft Unit := ⟨text, ⟨["x"], [f 2, f 1], []⟩, false, false, none⟩
  have made : ∀ text, (Draft.ofText text).requestAll requests = draft text := by
    intro text
    simp [requests, draft, Draft.requestAll, Draft.request, Draft.declareAll, Draft.declare,
      Draft.withImplicit, Draft.ofText, Declaration.check, Symbols.declare, Symbols.declareVariable,
      Symbols.declareFunction, Symbols.empty, f, named, valid]
  have table : ∀ text, (draft text).table = ⟨["φ", "e", "π", "pi", "x"], [f 2, f 1], []⟩ :=
    fun text => (draft text).table_eq
  have sound : ∀ text, text.toList.all Unicode.isBlank = false →
      (draft text).fault? order = none := by
    intro text visible
    refine Draft.fault?_eq_none_iff.mpr ⟨rfl, visible, ?_⟩
    rw [table]
    simp only [Symbols.function?_eq_none_iff, f]
    decide +kernel
  have called : (Effect.from () ((draft "f(x, x)").compile order)).1 = .ok program := by
    rw [Draft.compile_eq_ok_iff, table]
    refine ⟨sound _ (by decide +kernel), [.var "x" 0, .var "x" 0, .function (f 2)], ?_, ?_⟩
    · rw [from_compileText_unfolded]
      subst program draft f
      cbv
    · simp [Symbols.functionNames, sortNames, f, program, List.eraseDups_cons]
  have ambiguous : (Effect.from () ((draft "x x").compile order)).1 =
      .error (.ambiguousAdjacency 2) := by
    have adjacent : (Effect.from () (compileText ⟨["φ", "e", "π", "pi", "x"], [f 2, f 1], []⟩
        false false "x x")).1 = .error (.ambiguousAdjacency 2) := by
      rw [from_compileText_unfolded]
      subst program f
      cbv
    rw [Draft.from_compile (sound _ (by decide +kernel)), table, adjacent]
    rfl
  have alike : ∀ text, (draft text).CompilesLike ((Draft.ofText text).requestAll others) := by
    intro text
    rw [← made]
    obtain ⟨-, same⟩ := compile_requests text requests
    have calls : requests.flatMap Draft.Request.calls =
        [.implicit true, .declare (.var "x"), .declare (.function (f 1)), .implicit false,
          .declare (.function (f 2))] := rfl
    have calls' : others.flatMap Draft.Request.calls =
        [.declare (.function (f 3)), .declare (.function (f 2)), .implicit false,
          .declare (.var "x"), .declare (.var "x")] := rfl
    rw [calls] at same
    refine (same ?_ others).1 ?_ ?_ ?_
    · simp [Draft.Call.accepted_iff, Draft.Call.refusal?, Declaration.check, f, named, valid]
    · simp [calls', Draft.Call.accepted_iff, Draft.Call.refusal?, Declaration.check, f, named,
        valid]
    · simp [calls']
    · rw [calls']
      refine ⟨fun name => ?_, fun symbol => ?_, ?_, ?_⟩
      · by_cases called : "f" = name
        · simp [Draft.Call.last?, List.findSome?_cons, Draft.Call.function?, f, called]
        · simp [Draft.Call.last?, List.findSome?_cons, Draft.Call.function?, f, called]
      · rfl
      · rfl
      · rfl
  refine ⟨List.forall_mem_cons.mpr ⟨?_, List.forall_mem_singleton.mpr ?_⟩, fun text => ?_⟩
  · rw [made, made]
    exact ⟨called, ambiguous⟩
  · have same : ∀ text, _ := fun text => (alike text).sameUpTo order order
    rw [← (same _).eq_of_ne () (by simp [called]), ← (same _).eq_of_ne () (by simp [ambiguous])]
    exact ⟨called, ambiguous⟩
  · obtain ⟨first, -⟩ := compile_requests text refused
    refine first [.declare (.var "x")] (.var "1a")
      [.folding true, .declare (.var "2b"), .declare (.function (f 1))] _ rfl ?_ ?_ order
    · simp [Draft.Call.accepted_iff, Draft.Call.refusal?, Declaration.check, valid]
    · rw [Declaration.check, if_neg (by rw [invalid]; exact Bool.false_ne_true)]

end Formula
