import Formula.Proofs.Program.Settings

/-!
# Batches and settings in turn

A batch is evaluated on copies, one for each set of bindings. **It comes to what one program comes
to that is set to the first bindings and evaluated, then to the second ones, and so on**
(`evaluateBatch_in_turn`), if all rules are functions of their arguments, and if the bindings give a
value to every variable that occurs and are all carried out. Then nothing is left of the values
before: a program whose variables are all set is known by what they are set to
(`Program.withSettings_complete`).

So a batch has a value for each set of bindings, which depends on these alone: neither on the others
nor on where they stand, on failures of the others, or on an order of the bindings.
-/

namespace Formula

variable {σ : Type}

/-- The rule of the token, if it has one, is a function of its arguments. -/
def Token.Pure : Token σ → Prop
  | operator o => ∃ f, o.rule = Rule.ofFunction f
  | function g => ∃ f, g.rule = Rule.ofFunction f
  | number _ | var _ _ | opening | closing | separator => True

/-- **Bindings are complete** if every variable of the program has a value in them, and none of
them is refused. -/
structure Bindings.Complete (bindings : Bindings) (program : Program σ) : Prop where
  /-- Every variable has a value. -/
  covers : ∀ name ∈ program.names, name ∈ bindings.map Prod.fst
  /-- No binding is refused. -/
  accepted : ∀ binding ∈ bindings, program.isReserved binding.1 = false

namespace Program

/-- Sets the variables of several sets of bindings in turn, up to the first set that is refused. -/
def bindInTurn (program : Program σ) : List Bindings → Program σ × Option Error
  | [] => (program, none)
  | bindings :: rest =>
    match program.bindAll bindings with
    | (next, none) => next.bindInTurn rest
    | (next, some error) => (next, some error)

/-! ## Evaluation without a state -/

/-- An operation ignores the state if its rule does. -/
theorem stateless_operate {rule : Rule σ} (function : ∃ f, rule = Rule.ofFunction f) (arity : Nat)
    (missing : Error) (stack : List Float) :
    Effect.Stateless (operate arity rule missing stack) := by
  obtain ⟨f, rfl⟩ := function
  unfold operate
  split
  · exact .throw missing
  · rw [Rule.apply_ofFunction]
    exact (Effect.Stateless.ofExcept _).bind fun value => .pure _

theorem stateless_step (program : Program σ) {token : Token σ} (function : token.Pure)
    (stack : List Float) : Effect.Stateless (program.step stack token) := by
  cases token with
  | number x => exact .pure _
  | var name slot =>
    rw [step]
    split
    · exact .pure _
    · exact .throw _
  | operator o => exact stateless_operate function _ _ _
  | function f => exact stateless_operate function _ _ _
  | _ => exact .throw _

/-- **An evaluation ignores the state** if all rules do. -/
theorem stateless_evaluate {program : Program σ}
    (functions : ∀ token ∈ program.tokens, token.Pure) : Effect.Stateless program.evaluate := by
  have run : Effect.Stateless (program.tokens.foldlM program.step []) :=
    .foldlM (fun token mem => program.stateless_step (functions token mem)) []
  exact run.bind fun stack => .ofExcept _

/-! ## Complete settings -/

variable {program : Program σ} {bindings : Bindings}

theorem names_withSettings (program : Program σ) (bindings : Bindings) :
    (program.withSettings bindings).names = program.names := by
  simp [names, withSettings, withCells, Function.comp_def]

/-- Complete bindings stay complete whatever is set. -/
theorem complete_withSettings (complete : bindings.Complete program) (settings : Bindings) :
    bindings.Complete (program.withSettings settings) where
  covers := by
    rw [names_withSettings]
    exact complete.covers
  accepted := complete.accepted

/-- **After settings of all variables nothing is left of the values before.** -/
theorem withSettings_complete (complete : bindings.Complete program) :
    program.withSettings bindings = program.withValues bindings.last? := by
  rw [withSettings, withValues, names, List.map_map]
  refine congrArg program.withCells (List.map_congr_left fun cell mem => ?_)
  have bound := Bindings.isSome_last?_iff.mpr (complete.covers _ (List.mem_map_of_mem mem))
  obtain ⟨value, found⟩ := Option.isSome_iff_exists.mp bound
  simp [found]

/-- Settings are forgotten where all values are chosen anew. -/
theorem withSettings_withValues (program : Program σ) (bindings : Bindings)
    (values : String → Option Float) :
    (program.withSettings bindings).withValues values = program.withValues values := by
  rw [withValues, names_withSettings]
  rfl

/-- A copy with all variables set has the value that goes with the settings. -/
theorem evaluateWith_complete (complete : bindings.Complete program) :
    program.evaluateWith bindings = (program.withValues bindings.last?).evaluate := by
  rw [evaluateWith, program.bindAll_accepted complete.accepted, withSettings_complete complete]

/-- **Of complete bindings in turn, the last ones count.** -/
theorem bindInTurn_concat {before : List Bindings} {last : Bindings}
    (complete : ∀ bindings ∈ before ++ [last], bindings.Complete program) :
    program.bindInTurn (before ++ [last]) = (program.withValues last.last?, none) := by
  induction before generalizing program with
  | nil =>
    have only := complete last (.head _)
    rw [List.nil_append, bindInTurn, program.bindAll_accepted only.accepted,
      withSettings_complete only]
    rfl
  | cons bindings rest ih =>
    obtain ⟨here, later⟩ := List.forall_mem_cons.mp complete
    have others : (program.withSettings bindings).bindInTurn (rest ++ [last]) =
        ((program.withSettings bindings).withValues last.last?, none) :=
      ih fun other mem => complete_withSettings (later other mem) bindings
    rw [List.cons_append, bindInTurn, program.bindAll_accepted here.accepted]
    dsimp only
    rw [others, withSettings_withValues]

/-- A batch whose values ignore the state has them in order. -/
theorem evaluateBatch_eq_map {batch : List Bindings} {value : Bindings → Except Error Float}
    (values : ∀ bindings ∈ batch,
      program.evaluateWith bindings = Effect.ofExcept (value bindings)) (state : σ) :
    program.evaluateBatch batch state = (batch.map value, state) := by
  induction batch with
  | nil => rfl
  | cons bindings rest ih =>
    obtain ⟨here, later⟩ := List.forall_mem_cons.mp values
    have others : (rest.mapM fun bindings => (program.evaluateWith bindings).run) state =
        (rest.map value, state) := ih later
    have first : (program.evaluateWith bindings).run = pure (value bindings) := by
      rw [here]
      rfl
    rw [evaluateBatch, List.mapM_cons, first, pure_bind]
    exact congrArg (fun outcome => (value bindings :: outcome.1, outcome.2)) others

end Program

/-- **A batch comes to what one program comes to that is set to the bindings in turn.** The rules
are functions of their arguments, and the bindings are complete. Then there is a value for all
complete bindings, in whatever order they come, and a batch has the values of its bindings, in the
order of the batch. After the first bindings up to some place have been set in turn, in one program,
its value is that of the bindings in this place. So in another order the batch has the same values
in that order, and other bindings in one place change the value in this place alone, be it a
failure. The session in which the batch is evaluated stays as it is. -/
theorem evaluateBatch_in_turn {program : Program σ}
    (functions : ∀ token ∈ program.tokens, token.Pure) :
    ∃ value : Bindings → Except Error Float,
      (∀ bindings other : Bindings, (bindings.map Prod.fst).Nodup → bindings.Perm other →
        value bindings = value other) ∧
      ∀ batch : List Bindings, (∀ bindings ∈ batch, bindings.Complete program) →
        (∀ state, program.evaluateBatch batch state = (batch.map value, state)) ∧
        (∀ index bindings, batch[index]? = some bindings →
          ∃ copy, program.bindInTurn (batch.take (index + 1)) = (copy, none) ∧
            copy.evaluate = Effect.ofExcept (value bindings)) ∧
        (∀ (other : List Bindings) state, other.Perm batch →
          program.evaluateBatch other state = (other.map value, state) ∧
            (other.map value).Perm (batch.map value)) ∧
        (∀ index (changed : Bindings) state, changed.Complete program →
          program.evaluateBatch (batch.set index changed) state =
            ((batch.map value).set index (value changed), state)) ∧
        ∀ (session : Session σ) state, session.program = program →
          session.perform (.batch batch) state = ((.values (batch.map value), session), state) := by
  have stateless : ∀ values, Effect.Stateless (program.withValues values).evaluate :=
    fun _ => Program.stateless_evaluate functions
  choose value evaluated using stateless
  have whole : ∀ batch : List Bindings, (∀ bindings ∈ batch, bindings.Complete program) →
      ∀ state, program.evaluateBatch batch state =
        (batch.map fun bindings => value bindings.last?, state) := by
    intro batch complete state
    refine Program.evaluateBatch_eq_map (fun bindings mem => ?_) state
    rw [Program.evaluateWith_complete (complete bindings mem), evaluated]
  refine ⟨fun bindings => value bindings.last?, fun bindings other distinct reordered => ?_,
    fun batch complete => ⟨whole batch complete, fun index bindings here => ?_,
      fun other state reordered => ?_, fun index changed state replaced => ?_,
      fun session state current => ?_⟩⟩
  · exact congrArg value (Bindings.last?_perm distinct reordered)
  · have split : batch.take (index + 1) = batch.take index ++ [bindings] := by
      rw [List.take_add_one, here, Option.toList_some]
    refine ⟨program.withValues bindings.last?, ?_, evaluated bindings.last?⟩
    rw [split]
    refine Program.bindInTurn_concat fun other mem => complete other ?_
    exact List.mem_of_mem_take (split ▸ mem)
  · exact ⟨whole other (fun bindings mem => complete bindings (reordered.mem_iff.mp mem)) state,
      reordered.map _⟩
  · rw [← List.map_set]
    refine whole _ (fun bindings mem => ?_) state
    rcases List.mem_or_eq_of_mem_set mem with old | rfl
    · exact complete bindings old
    · exact replaced
  · rw [Session.perform, current]
    exact congrArg (fun outcome => ((Reply.values outcome.1, session), outcome.2))
      (whole batch complete state)

/-- Of three sets of bindings for `a / b` the second one has no value. The third one binds another
name, and has its names in another order. -/
theorem evaluateBatch_in_turn_division :
    let quotient : Operator Unit :=
      .between "/" 1000 fun x y => if y == 0.0 then .error "Division by zero!" else .ok (x / y)
    let program : Program Unit := .ofTokens [.var "a" 0, .var "b" 0, .operator quotient] []
    let batch : List Bindings :=
      [[("a", 6), ("b", 3)], [("a", 1), ("b", 0)], [("b", 2), ("x", 5), ("a", 8)]]
    let results : List (Except Error Float) :=
      [.ok (6 / 3), .error (.arithmetic "Division by zero!"), .ok (8 / 2)]
    program.evaluateBatch batch () = (results, ()) ∧
      program.evaluateBatch batch.reverse () = (results.reverse, ()) ∧
      ∃ copy, program.bindInTurn batch = (copy, none) ∧
        copy.evaluate = Effect.ofExcept (.ok (8 / 2)) := by
  intro quotient program batch results
  have functions : ∀ token ∈ program.tokens, token.Pure := by
    intro token mem
    simp only [program, Program.ofTokens, List.mem_map, List.mem_cons, List.not_mem_nil,
      or_false] at mem
    obtain ⟨_, rfl | rfl | rfl, rfl⟩ := mem
    · trivial
    · trivial
    · exact ⟨_, rfl⟩
  have names : program.names = ["a", "b"] := rfl
  have complete : ∀ bindings ∈ batch, bindings.Complete program := by
    have covers : ∀ bindings ∈ batch, ∀ name ∈ ["a", "b"], name ∈ bindings.map Prod.fst := by
      decide
    have accepted : ∀ bindings ∈ batch, ∀ binding ∈ bindings,
        program.isReserved binding.1 = false := by
      decide +kernel
    exact fun bindings mem => ⟨names ▸ covers bindings mem, accepted bindings mem⟩
  obtain ⟨value, -, all⟩ := evaluateBatch_in_turn functions
  obtain ⟨whole, turns, permuted, -⟩ := all batch complete
  have evaluated : program.evaluateBatch batch () = (results, ()) := rfl
  have values : batch.map value = results := congrArg Prod.fst ((whole ()).symm.trans evaluated)
  obtain ⟨copy, set, last⟩ := turns 2 _ rfl
  have third : value [("b", 2), ("x", 5), ("a", 8)] = .ok (8 / 2) :=
    Option.some.inj (congrArg (fun all => all[2]?) values)
  refine ⟨evaluated, ?_, copy, set, ?_⟩
  · rw [(permuted _ () batch.reverse_perm).1, List.map_reverse, values]
  · rw [last, third]

end Formula
