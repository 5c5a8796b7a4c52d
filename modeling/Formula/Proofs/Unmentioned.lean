import Formula.Proofs.Draft
import Formula.Proofs.Program.Settings

/-!
# Names that a text does not mention

The value of a text is computed in three steps that read the names of its bindings: each is
declared, none may be that of a function, and each is set. Two sets of bindings are alike to a text
(`Bindings.Alike`) if they give the same values to all names that the text mentions, and if the same
of their names are refused. **Then the text has the same value under both**, unless several names
are refused and another one of them is met first (`evaluateText_sameUpTo`).

**A name that the text does not mention makes no difference**, if it is a name, not that of a
built-in function: neither whether it is bound, nor to what (`unmentioned_names_ignored`). In which
order the bindings come, and in which their names are looked at, is left open. It may be another one
as soon as there is a name more, so that another one of several refused names is reported
(`refused_name_reordered`); but what may be reported, in some order, stays the same.
-/

namespace Formula

variable {σ : Type}

/-! ## Bindings that are alike to a text -/

namespace Bindings

/-- A name is bound that is none. -/
def Invalid (bindings : Bindings) (name : String) : Prop :=
  name ∈ bindings.map Prod.fst ∧ Name.isValid name = false

/-- The name of a built-in function is bound. -/
def Clashing (bindings : Bindings) (name : String) : Prop :=
  name ∈ bindings.map Prod.fst ∧ Function.isBuiltin name = true

/-- The first name that is none. -/
def invalid? (bindings : Bindings) : Option String :=
  (bindings.map Prod.fst).find? fun name => !Name.isValid name

theorem invalid?_eq_none_iff {bindings : Bindings} :
    bindings.invalid? = none ↔ ∀ name, ¬ bindings.Invalid name := by
  simp [invalid?, Invalid]

theorem invalid_of_invalid? {bindings : Bindings} {name : String}
    (first : bindings.invalid? = some name) : bindings.Invalid name := by
  have unsound := List.find?_some first
  rw [Bool.not_eq_true'] at unsound
  exact ⟨List.mem_of_find?_eq_some first, unsound⟩

/-- **Bindings are alike to a text** if the same of their names are refused, and all names that the
text mentions have the same values. -/
structure Alike (text : List Char) (bindings other : Bindings) : Prop where
  /-- The same names are none. -/
  invalid_iff : ∀ name, bindings.Invalid name ↔ other.Invalid name
  /-- The same built-in functions have their names bound. -/
  clashing_iff : ∀ name, bindings.Clashing name ↔ other.Clashing name
  /-- Names that the text mentions have the same values, or none. -/
  value_eq : ∀ name, Mentions text name → bindings.last? name = other.last? name

/-- The bindings of all other names. -/
def without (bindings : Bindings) (name : String) : Bindings :=
  bindings.filter fun binding => binding.1 != name

/-- **Bindings differ at most in what they give to a name**, and in their order: one of them may have
it bound and the other not, or to another value. -/
def DifferAt (name : String) (bindings other : Bindings) : Prop :=
  (bindings.without name).Perm (other.without name)

theorem last?_without (bindings : Bindings) {name other : String} (differs : other ≠ name) :
    (bindings.without name).last? other = bindings.last? other := by
  induction bindings with
  | nil => rfl
  | cons binding rest ih =>
    obtain ⟨first, value⟩ := binding
    rw [last?_cons, ← ih, without, List.filter_cons]
    by_cases same : first = name
    · subst same
      simp [without, Ne.symm differs]
    · simp [without, same, last?_cons]

/-- The first name that is none is one of the others, if the name is one. -/
theorem invalid?_without (bindings : Bindings) {name : String} (valid : Name.isValid name = true) :
    (bindings.without name).invalid? = bindings.invalid? := by
  rw [invalid?, invalid?, without, List.find?_map, List.find?_map, List.find?_filter]
  congr 2
  funext binding
  by_cases same : binding.1 = name <;> simp [same, valid]

section DifferAt

variable {name : String} {bindings other : Bindings}

/-- They bind the same of all other names. -/
theorem DifferAt.mem_names_iff (differ : DifferAt name bindings other) {key : String}
    (differs : key ≠ name) : key ∈ bindings.map Prod.fst ↔ key ∈ other.map Prod.fst := by
  have kept : ∀ bindings : Bindings,
      key ∈ (bindings.without name).map Prod.fst ↔ key ∈ bindings.map Prod.fst := by
    simp [without, differs]
  rw [← kept, (differ.map Prod.fst).mem_iff, kept]

/-- **Bindings that differ at a name are alike to a text that does not mention it**, if it is a name
and not that of a built-in function. -/
theorem DifferAt.alike (differ : DifferAt name bindings other)
    (distinct : ((bindings.without name).map Prod.fst).Nodup) (valid : Name.isValid name = true)
    (unlike : Function.isBuiltin name = false) {text : List Char}
    (unmentioned : ¬ Mentions text name) : Alike text bindings other where
  invalid_iff key := and_congr_left fun invalid => by
    refine differ.mem_names_iff (ne_of_apply_ne Name.isValid ?_)
    rw [invalid, valid]
    exact Bool.false_ne_true
  clashing_iff key := and_congr_left fun builtin => by
    refine differ.mem_names_iff (ne_of_apply_ne Function.isBuiltin ?_)
    rw [builtin, unlike]
    exact Bool.false_ne_true.symm
  value_eq key part := by
    have differs : key ≠ name := by
      rintro rfl
      exact unmentioned part
    rw [← last?_without bindings differs, ← last?_without other differs, last?_perm distinct differ]

end DifferAt

end Bindings

/-! ## Drafts of bindings -/

namespace Draft

/-- Several variables are declared: those that are names, and the first that is none is refused. -/
theorem declareAll_var (names : List String) (draft : Draft σ) :
    draft.declareAll (names.map .var) =
      { draft with
        symbols :=
          { draft.symbols with
            vars := (names.filter Name.isValid).reverse ++ draft.symbols.vars }
        refused := draft.refused <|>
          (names.find? fun name => !Name.isValid name).map .invalidVariableName } := by
  induction names generalizing draft with
  | nil => simp [declareAll]
  | cons name rest ih =>
    have later := ih (draft.declare (.var name))
    rw [declareAll] at later ⊢
    rw [List.map_cons, List.foldl_cons, later]
    cases valid : Name.isValid name with
    | true => simp [declare, Declaration.check, valid, Symbols.declare, Symbols.declareVariable]
    | false =>
      cases before : draft.refused <;> simp [declare, Declaration.check, valid, before]

/-- The draft that declares the names of bindings as variables. -/
def ofBindings (text : String) (bindings : Bindings) : Draft σ where
  text := text
  symbols := ⟨((bindings.map Prod.fst).filter Name.isValid).reverse, [], []⟩
  implicit := true
  folding := false
  refused := bindings.invalid?.map .invalidVariableName

theorem declareAll_bindings (text : String) (bindings : Bindings) :
    (ofText text : Draft σ).declareAll (bindings.map fun (name, _) => .var name) =
      ofBindings text bindings := by
  have declared : (bindings.map fun (name, _) => (.var name : Declaration σ)) =
      (bindings.map Prod.fst).map .var := by
    rw [List.map_map]
    rfl
  rw [declared, declareAll_var]
  simp [ofText, ofBindings, Symbols.empty, Bindings.invalid?]

/-- It is compiled under the names that are bound and the constants. -/
theorem table_ofBindings (text : String) (bindings : Bindings) :
    (ofBindings text bindings : Draft σ).table =
      ⟨Constant.names.reverse ++ ((bindings.map Prod.fst).filter Name.isValid).reverse, [], []⟩ :=
  table_eq _

section Alike

variable {text : String} {bindings other : Bindings}

theorem mem_vars_ofBindings {name : String} :
    name ∈ (ofBindings text bindings : Draft σ).table.vars ↔
      name ∈ Constant.names ∨ name ∈ bindings.map Prod.fst ∧ Name.isValid name = true := by
  rw [table_ofBindings]
  simp

/-- A name calls a function if it is that of a built-in one. -/
theorem isSome_function?_ofBindings {name : String} :
    ((ofBindings text bindings : Draft σ).table.function? name).isSome =
      Function.isBuiltin name := by
  rw [Bool.eq_iff_iff, ← not_iff_not, Bool.not_eq_true, Option.isSome_eq_false_iff,
    Option.isNone_iff_eq_none, Symbols.function?_eq_none_iff, table_ofBindings]
  simp

/-- A name that competes is bound: the constants are not named like functions. -/
theorem clashing_of_clashes {name : String}
    (clashes : (ofBindings text bindings : Draft σ).Clashes name) : bindings.Clashing name := by
  obtain ⟨entered, builtin⟩ := clashes
  rw [isSome_function?_ofBindings] at builtin
  rcases mem_vars_ofBindings.mp entered with constant | ⟨bound, -⟩
  · have unlike : ∀ name ∈ Constant.names, Function.isBuiltin name = false := by decide +kernel
    rw [unlike name constant] at builtin
    cases builtin
  · exact ⟨bound, builtin⟩

/-- The first name that is none is what is reported, whatever else there is. -/
theorem fault?_of_invalid? {name : String} (first : bindings.invalid? = some name)
    (order : Enumeration) :
    (ofBindings text bindings : Draft σ).fault? order = some (.invalidVariableName name) := by
  refine fault?_of_refused ?_ order
  rw [ofBindings, first]
  rfl

variable (alike : Bindings.Alike text.toList bindings other)
include alike

/-- Bindings that are alike to a text declare all that it mentions alike. -/
theorem agreeOn_ofBindings :
    (ofBindings text bindings : Draft σ).table.AgreeOn text.toList
      (ofBindings text other).table := by
  rw [table_ofBindings, table_ofBindings]
  refine ⟨fun name part => ?_, fun _ _ => rfl, fun _ _ _ => rfl⟩
  have bound : name ∈ bindings.map Prod.fst ↔ name ∈ other.map Prod.fst := by
    rw [← Bindings.isSome_last?_iff, ← Bindings.isSome_last?_iff, alike.value_eq name part]
  rw [Bool.eq_iff_iff]
  simp [Symbols.isVariable, bound]

/-- The same of their names compete. -/
theorem clashes_ofBindings (name : String) :
    (ofBindings text bindings : Draft σ).Clashes name ↔
      (ofBindings text other : Draft σ).Clashes name := by
  rw [Clashes, Clashes, isSome_function?_ofBindings, isSome_function?_ofBindings]
  refine and_congr_left fun builtin => ?_
  have bound : name ∈ bindings.map Prod.fst ↔ name ∈ other.map Prod.fst := by
    simpa [Bindings.Clashing, builtin] using alike.clashing_iff name
  rw [mem_vars_ofBindings, mem_vars_ofBindings, bound]

/-- **Drafts of bindings that are alike to their text compile to the same**, if they have the same
fault or none. -/
theorem compile_ofBindings {order order' : Enumeration}
    (fault : (ofBindings text bindings : Draft σ).fault? order =
      (ofBindings text other : Draft σ).fault? order') :
    (ofBindings text bindings : Draft σ).compile order = (ofBindings text other).compile order' := by
  have functions : (ofBindings text bindings : Draft σ).table.functionNames =
      (ofBindings text other : Draft σ).table.functionNames := by
    rw [table_ofBindings, table_ofBindings]
    rfl
  exact compile_congr fault rfl (agreeOn_ofBindings alike) functions rfl rfl

end Alike

/-- Where a draft of bindings compiles, none of their names is refused by its program. -/
theorem accepted_ofBindings {text : String} {bindings : Bindings} {order : Enumeration}
    {program : Program σ} {state : σ}
    (compiled : (Effect.from state ((ofBindings text bindings).compile order)).1 = .ok program) :
    ∀ binding ∈ bindings, program.isReserved binding.1 = false := by
  intro binding mem
  obtain ⟨sound, tokens, -, rfl⟩ := compile_eq_ok_iff.mp compiled
  obtain ⟨accepted, -, uncalled⟩ := fault?_eq_none_iff.mp sound
  have named : binding.1 ∈ bindings.map Prod.fst := List.mem_map_of_mem mem
  have valid : Name.isValid binding.1 = true := by
    have none_invalid : bindings.invalid? = none := by simpa [ofBindings] using accepted
    simpa using List.find?_eq_none.mp none_invalid _ named
  have free := uncalled _ (mem_vars_ofBindings.mpr (.inr ⟨named, valid⟩))
  have unlike := (Symbols.function?_eq_none_iff.mp free).2
  have unreserved : (ofBindings text bindings : Draft σ).table.functionNames = [] := by
    rw [table_ofBindings]
    simp [Symbols.functionNames, sortNames]
  simp [Program.isReserved, Program.ofTokens, unreserved, unlike]

end Draft

/-- The names of a compiled text are parts of it. -/
theorem mentions_of_compileText {symbols : Symbols σ} {implicit folding : Bool} {text : String}
    {state : σ} {output : List (Token σ)}
    (compiled : (Effect.from state (compileText symbols implicit folding text)).1 = .ok output) :
    ∀ name ∈ Token.variableNames output, Mentions text.toList name := by
  intro name mem
  obtain ⟨slot, occurs⟩ := Token.mem_variableNames.mp mem
  have read : ∀ token ∈ (Lexer.readText symbols implicit text).tokens, ∀ name slot,
      token = .var name slot → Mentions text.toList name := by
    rintro _ occurs name slot rfl
    obtain ⟨_, _, tiled, _⟩ := Lexer.readFrom_tiles ⟨symbols, implicit, text⟩ (.start text.toList)
    exact tiled.mentions occurs
  have found : ∀ token ∈ output, ∀ name slot, token = .var name slot →
      Mentions text.toList name :=
    forall_of_compileText compiled (fun _ _ _ same => nomatch same) fun token occurs _ =>
      read token occurs
  exact found _ occurs name slot rfl

/-! ## Values of texts -/

theorem evaluateText_eq (text : String) (bindings : Bindings) (order : Enumeration) :
    (evaluateText text bindings order : Effect σ Error Float) =
      (Draft.ofBindings text bindings).compile order >>= fun program =>
        program.evaluateWith bindings := by
  rw [← Draft.declareAll_bindings]
  rfl

/-- A text has no value where its draft has a fault. -/
theorem evaluateText_of_fault? {text : String} {bindings : Bindings} {order : Enumeration}
    {error : Error}
    (fault : (Draft.ofBindings text bindings : Draft σ).fault? order = some error) :
    (evaluateText text bindings order : Effect σ Error Float) = throw error := by
  rw [evaluateText_eq, Draft.compile_of_fault? fault]
  rfl

/-- Of the names of functions that are bound, each may be the one that is reported. -/
theorem evaluateText_startingWith {text : String} {bindings : Bindings} {name : String}
    (visible : text.toList.all Unicode.isBlank = false) (accepted : bindings.invalid? = none)
    (clashing : bindings.Clashing name) (valid : Name.isValid name = true) :
    (evaluateText text bindings (.startingWith name) : Effect σ Error Float) =
      throw (.nameCollision name) := by
  refine evaluateText_of_fault? (Draft.fault?_of_clash? ?_ visible ?_)
  · rw [Draft.ofBindings, accepted]
    rfl
  · have entered : name ∈ (Draft.ofBindings text bindings : Draft σ).table.vars :=
      Draft.mem_vars_ofBindings.mpr (.inr ⟨clashing.1, valid⟩)
    refine Enumeration.find?_startingWith entered ?_
    rw [Draft.isSome_function?_ofBindings, clashing.2]

section Alike

variable {text : String} {bindings other : Bindings}
  (alike : Bindings.Alike text.toList bindings other)
include alike

/-- **A text has the same value under bindings that are alike to it**, or the same error, if their
drafts have the same fault or none. -/
theorem evaluateText_congr {order order' : Enumeration}
    (fault : (Draft.ofBindings text bindings : Draft σ).fault? order =
      (Draft.ofBindings text other : Draft σ).fault? order') :
    (evaluateText text bindings order : Effect σ Error Float) =
      evaluateText text other order' := by
  have drafts : (Draft.ofBindings text bindings : Draft σ).compile order =
      (Draft.ofBindings text other).compile order' := Draft.compile_ofBindings alike fault
  rw [evaluateText_eq, evaluateText_eq, drafts]
  refine Effect.bind_congr_of_ok fun {state program after} compiled => ?_
  have compiles :
      (Effect.from state ((Draft.ofBindings text other).compile order')).1 = .ok program := by
    rw [compiled]
  have compiles' :
      (Effect.from state ((Draft.ofBindings text bindings).compile order)).1 = .ok program := by
    rw [drafts, compiles]
  have accepted := Draft.accepted_ofBindings compiles'
  have accepted' := Draft.accepted_ofBindings compiles
  have same : program.withSettings bindings = program.withSettings other := by
    obtain ⟨-, tokens, reads, rfl⟩ := Draft.compile_eq_ok_iff.mp compiles
    refine congrArg (Program.withCells _) (List.map_congr_left fun cell mem => ?_)
    have occurs : cell.name ∈ Token.variableNames tokens := by
      rw [← Program.names_ofTokens tokens]
      exact List.mem_map_of_mem mem
    rw [alike.value_eq _ (mentions_of_compileText reads _ occurs)]
  unfold Program.evaluateWith
  rw [program.bindAll_accepted accepted, program.bindAll_accepted accepted', same]

/-- **A text has the same value under bindings that are alike to it**, in any two orders, up to the
choice between several names that are none, or else between several names of functions. -/
theorem evaluateText_sameUpTo (order order' : Enumeration) :
    Effect.SameUpTo .invalidVariableName bindings.Invalid
        (evaluateText text bindings order : Effect σ Error Float) (evaluateText text other order') ∨
      (∀ name, ¬ bindings.Invalid name) ∧
        Effect.SameUpTo .nameCollision bindings.Clashing
          (evaluateText text bindings order : Effect σ Error Float)
          (evaluateText text other order') := by
  have invalid : bindings.invalid? = other.invalid? ∨
      ∃ name name', name ≠ name' ∧ bindings.invalid? = some name ∧ other.invalid? = some name' :=
    find?_eq_or_ne (by simpa [Bindings.Invalid] using alike.invalid_iff)
  rcases invalid with same | ⟨name, name', differ, first, first'⟩
  · have refused : (Draft.ofBindings text bindings : Draft σ).refused =
        (Draft.ofBindings text other : Draft σ).refused := by
      rw [Draft.ofBindings, Draft.ofBindings, same]
    rcases Draft.fault?_eq_or_clash refused rfl (Draft.clashes_ofBindings alike) order order' with
      fault | ⟨name, name', differ, here, there, fault, fault'⟩
    · exact .inl (.inl (evaluateText_congr alike fault))
    · refine .inr ⟨Bindings.invalid?_eq_none_iff.mp ?_, .inr ⟨name, name', differ,
        Draft.clashing_of_clashes here, Draft.clashing_of_clashes there,
        evaluateText_of_fault? fault, evaluateText_of_fault? fault'⟩⟩
      cases first : bindings.invalid? with
      | none => rfl
      | some key => cases fault.symm.trans (Draft.fault?_of_invalid? first order)
  · refine .inl (.inr ⟨name, name', differ, Bindings.invalid_of_invalid? first, ?_, ?_, ?_⟩)
    · exact (alike.invalid_iff name').mpr (Bindings.invalid_of_invalid? first')
    · exact evaluateText_of_fault? (Draft.fault?_of_invalid? first order)
    · exact evaluateText_of_fault? (Draft.fault?_of_invalid? first' order')

end Alike

/-- **What may come of a text under some bindings**, in some order of these and of their names. -/
def PossibleOutcome (text : String) (bindings : Bindings) (outcome : Effect σ Error Float) : Prop :=
  ∃ (other : Bindings) (order : Enumeration),
    other.Perm bindings ∧ evaluateText text other order = outcome

/-- What may come of a text under some bindings may come of it under others that differ at a name
that it does not mention. -/
theorem PossibleOutcome.of_differAt {text name : String} {bindings extended : Bindings}
    {outcome : Effect σ Error Float} (possible : PossibleOutcome text bindings outcome)
    (differ : Bindings.DifferAt name bindings extended)
    (distinct : ((bindings.without name).map Prod.fst).Nodup) (valid : Name.isValid name = true)
    (unlike : Function.isBuiltin name = false) (unmentioned : ¬ Mentions text.toList name) :
    PossibleOutcome text extended outcome := by
  obtain ⟨other, order, reordered, rfl⟩ := possible
  have others : (other.without name).Perm (bindings.without name) := reordered.filter _
  -- The other bindings come in the order that they have, and then what the name is bound to.
  let reached : Bindings :=
    other.without name ++ extended.filter fun binding => !(binding.1 != name)
  have without_eq : reached.without name = other.without name := by
    simp [reached, Bindings.without]
  have perm : reached.Perm extended :=
    ((others.trans differ).append_right _).trans (List.filter_append_perm _ extended)
  have alike : Bindings.Alike text.toList other reached := by
    have differs : Bindings.DifferAt name other reached := .of_eq without_eq.symm
    exact differs.alike ((others.map Prod.fst).nodup_iff.mpr distinct) valid unlike unmentioned
  have refused : (Draft.ofBindings text other : Draft σ).refused =
      (Draft.ofBindings text reached : Draft σ).refused := by
    rw [Draft.ofBindings, Draft.ofBindings, ← Bindings.invalid?_without other valid, ← without_eq,
      Bindings.invalid?_without reached valid]
  obtain ⟨order', fault⟩ :=
    Draft.exists_fault?_eq refused rfl (Draft.clashes_ofBindings alike) order
  exact ⟨reached, order', perm, (evaluateText_congr alike fault.symm).symm⟩

/-- **Names that a text does not mention make no difference to it.** Declared in a table, as
variables, functions or operators, they do not change what the text compiles to, nor why it is
refused. If such a name is one, and not that of a built-in function, it makes no difference to the
value of the text whether it is bound, nor to what. In any order of the bindings and of their names
the text has the same value, or the same error, up to which name is met first: of several bound names
that are none another one may be reported, or, if all are names, of several names of functions. What
may come of the text, in some order, is the same. -/
theorem unmentioned_names_ignored (text : String) :
    (∀ (symbols : Symbols σ) (declarations : List (Declaration σ)) (implicit folding : Bool),
      (∀ declaration ∈ declarations, ¬ Mentions text.toList declaration.name) →
        compileText (declarations.foldl Symbols.declare symbols) implicit folding text =
          compileText symbols implicit folding text) ∧
      ∀ name : String, Name.isValid name = true → Function.isBuiltin name = false →
        ¬ Mentions text.toList name →
          ∀ bindings extended : Bindings, (bindings.map Prod.fst).Nodup →
            Bindings.DifferAt name bindings extended →
              (∀ order order' : Enumeration,
                let outcome : Effect σ Error Float := evaluateText text bindings order
                let outcome' : Effect σ Error Float := evaluateText text extended order'
                Effect.SameUpTo .invalidVariableName bindings.Invalid outcome outcome' ∨
                  (∀ key, ¬ bindings.Invalid key) ∧
                    Effect.SameUpTo .nameCollision bindings.Clashing outcome outcome') ∧
              ∀ outcome : Effect σ Error Float,
                PossibleOutcome text bindings outcome ↔ PossibleOutcome text extended outcome := by
  refine ⟨fun symbols declarations implicit folding unmentioned => ?_, ?_⟩
  · exact compileText_congr (symbols.agreeOn_foldl_declare unmentioned) implicit folding
  · intro name valid unlike unmentioned bindings extended distinct differ
    have others : ((bindings.without name).map Prod.fst).Nodup :=
      (List.filter_sublist.map Prod.fst).nodup distinct
    have others' : ((extended.without name).map Prod.fst).Nodup :=
      (differ.map Prod.fst).nodup_iff.mp others
    refine ⟨fun order order' => ?_, fun outcome => ⟨fun possible => ?_, fun possible => ?_⟩⟩
    · exact evaluateText_sameUpTo (differ.alike others valid unlike unmentioned) order order'
    · exact possible.of_differAt differ others valid unlike unmentioned
    · exact possible.of_differAt differ.symm others' valid unlike unmentioned

/-- The text `ab + a` does not mention `ba`. A variable `ba` and a function of this name make no
difference to it, nor does a value for `ba`, in whatever order the bindings come; and of two names
that are none the same may be reported beside it. The text mentions `ab`, which makes a
difference. -/
theorem unmentioned_names_ignored_reversed :
    let f : Function Unit := ⟨"ba", 1, true, Rule.ofFunction fun _ => .ok 0⟩
    let symbols : Symbols Unit := ⟨["a", "b"], [], []⟩
    let a : Token Unit := .var "a" 0
    let b : Token Unit := .var "b" 0
    let plus : Token Unit := .operator (.between "+" 500 fun x y => .ok (x + y))
    let bindings : Bindings := [("a", 3), ("b", 2)]
    let extended : Bindings := [("ba", 1), ("b", 2), ("a", 3)]
    Name.isValid "ba" = true ∧ Function.isBuiltin "ba" = false ∧ ¬ Mentions "ab + a".toList "ba" ∧
      (Effect.from () (compileText symbols true false "ab + a")).1 =
        .ok [a, b, .operator .times, a, plus] ∧
      (Effect.from () (compileText ((symbols.declareVariable "ba").declareFunction f) true false
        "ab + a")).1 = .ok [a, b, .operator .times, a, plus] ∧
      (bindings.map Prod.fst).Nodup ∧ Bindings.DifferAt "ba" bindings extended ∧
      (∀ order order' : Enumeration,
        (evaluateText "ab + a" extended order' : Effect Unit Error Float) =
          evaluateText "ab + a" bindings order) ∧
      PossibleOutcome "ab + a" [("1", 0), ("ba", 1), ("2", 0)]
        (throw (.invalidVariableName "2") : Effect Unit Error Float) ∧
      (Effect.from () (compileText (symbols.declareVariable "ab") true false "ab + a")).1 =
        .ok [.var "ab" 0, a, plus] := by
  intro f symbols a b plus bindings extended
  have unmentioned : ¬ Mentions "ab + a".toList "ba" := by
    unfold Mentions
    decide
  have compiled : (Effect.from () (compileText symbols true false "ab + a")).1 =
      .ok [a, b, .operator .times, a, plus] := by
    rw [from_compileText_unfolded]
    subst symbols a b plus
    cbv
  have other : (Effect.from () (compileText (symbols.declareVariable "ab") true false "ab + a")).1 =
      .ok [.var "ab" 0, a, plus] := by
    rw [from_compileText_unfolded]
    subst symbols a plus
    cbv
  obtain ⟨declared, bound⟩ := unmentioned_names_ignored (σ := Unit) "ab + a"
  have same := declared symbols [.var "ba", .function f] true false
    (List.forall_mem_cons.mpr ⟨unmentioned, List.forall_mem_singleton.mpr unmentioned⟩)
  have valid : Name.isValid "ba" = true := by decide +kernel
  have unlike : Function.isBuiltin "ba" = false := by decide +kernel
  have distinct : (bindings.map Prod.fst).Nodup := by decide
  have differ : Bindings.DifferAt "ba" bindings extended := .swap _ _ _
  refine ⟨valid, unlike, unmentioned, compiled, ?_, distinct, differ, fun order order' => ?_, ?_,
    other⟩
  · rw [← compiled]
    exact congrArg (fun effect => (Effect.from () effect).1) same
  · have names : ∀ key ∈ bindings.map Prod.fst,
        Name.isValid key = true ∧ Function.isBuiltin key = false := by
      decide +kernel
    rcases (bound "ba" valid unlike unmentioned bindings extended distinct differ).1 order order'
      with same | ⟨-, same⟩
    · refine (same.eq_of_unique fun key _ invalid _ => ?_).symm
      cases (names key invalid.1).1.symm.trans invalid.2
    · refine (same.eq_of_unique fun key _ clashing _ => ?_).symm
      cases (names key clashing.1).2.symm.trans clashing.2
  · have refused : (evaluateText "ab + a" [("2", 0), ("1", 0)] : Effect Unit Error Float) =
        throw (.invalidVariableName "2") :=
      evaluateText_of_fault? (Draft.fault?_of_invalid? (by decide +kernel) _)
    refine ((bound "ba" valid unlike unmentioned [("1", 0), ("2", 0)] _ (by decide) ?_).2 _).mp
      ⟨_, _, .swap _ _ _, refused⟩
    exact .refl _

/-- **Which of several refused names is reported is a matter of order**, and bindings with a name
more may come in another one. So it is with two names that are none, and with two names of
functions. -/
theorem refused_name_reordered :
    let bindings : Bindings := [("1", 0), ("2", 0)]
    let extended : Bindings := [("2", 0), ("y", 1), ("1", 0)]
    let clashing : Bindings := [("cos", 0), ("sin", 0)]
    Name.isValid "y" = true ∧ Function.isBuiltin "y" = false ∧ ¬ Mentions "x".toList "y" ∧
      extended.Perm (("y", 1) :: bindings) ∧
      (∀ order order' : Enumeration,
        (evaluateText "x" bindings order : Effect Unit Error Float) =
            throw (.invalidVariableName "1") ∧
          (evaluateText "x" extended order' : Effect Unit Error Float) =
            throw (.invalidVariableName "2") ∧
          (evaluateText "x" extended order' : Effect Unit Error Float) ≠
            evaluateText "x" bindings order) ∧
      ∃ order order' : Enumeration,
        (evaluateText "x" clashing order : Effect Unit Error Float) =
            throw (.nameCollision "cos") ∧
          (evaluateText "x" (("y", 1) :: clashing) order' : Effect Unit Error Float) =
            throw (.nameCollision "sin") := by
  intro bindings extended clashing
  have unmentioned : ¬ Mentions "x".toList "y" := by
    unfold Mentions
    decide
  have first : ∀ order : Enumeration, (evaluateText "x" bindings order : Effect Unit Error Float) =
      throw (.invalidVariableName "1") := fun order =>
    evaluateText_of_fault? (Draft.fault?_of_invalid? (by decide +kernel) order)
  have second : ∀ order : Enumeration, (evaluateText "x" extended order : Effect Unit Error Float) =
      throw (.invalidVariableName "2") := fun order =>
    evaluateText_of_fault? (Draft.fault?_of_invalid? (by decide +kernel) order)
  have visible : "x".toList.all Unicode.isBlank = false := by decide +kernel
  refine ⟨by decide +kernel, by decide +kernel, unmentioned, ?_, fun order order' => ?_,
    .startingWith "cos", .startingWith "sin", ?_, ?_⟩
  · exact (List.Perm.swap _ _ _).trans (.cons _ (.swap _ _ _))
  · refine ⟨first order, second order', fun same => ?_⟩
    rw [first, second] at same
    have results := congrArg (fun outcome => (Effect.from () outcome).1) same
    simp at results
  · exact evaluateText_startingWith visible (by decide +kernel) ⟨by decide, by decide +kernel⟩
      (by decide +kernel)
  · exact evaluateText_startingWith visible (by decide +kernel) ⟨by decide, by decide +kernel⟩
      (by decide +kernel)

end Formula
