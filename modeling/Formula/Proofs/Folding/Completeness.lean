import Formula.Proofs.Collisions
import Formula.Proofs.Folding.Substitution
import Formula.Proofs.Folding.Transparency
import Formula.Proofs.Program.Postorder

/-!
# Folding is complete

Folding works on tokens and evaluation on numbers, but where all that is there is known they are one
arithmetic: **of tokens with numbers in the place of their variables, folding makes the number that
an evaluation comes to**, and nothing constant is left over (`evaluate_iff_fold`). Where a rule fails
in an evaluation, it fails folding.

The two go in step (`Folding.Makes.of_run`): as long as a run goes on, all that folding has made are
numbers, the very ones on the stack. Once a token lacks its operands, the run is over and folding
goes on with a token that is no number, and that nothing can take away again.
-/

namespace Formula

variable {σ : Type}

/-- A token that is all there is to know about it: no variable, no call that may answer differently
each time, and if it is an operation, one that is a function of its arguments. -/
structure Token.Settled (token : Token σ) : Prop where
  unnamed : token.variableName? = none
  foreseeable : token.Foreseeable
  deterministic : ∀ f, token = .function f → f.deterministic = true

namespace Token

/-- With numbers in the place of its variables, a token that is no call of a nondeterministic
function is settled. -/
theorem settled_substitute {values : String → Option Float} {token : Token σ}
    (plain : token.Foreseeable) (determined : ∀ f, token = .function f → f.deterministic = true)
    (bound : ∀ name slot, token = .var name slot → ∃ x, values name = some x) :
    (token.substitute values).Settled := by
  refine ⟨?_, plain.substitute values, ?_⟩
  · cases token with
    | var name slot =>
      obtain ⟨x, value⟩ := bound name slot rfl
      simp [substitute, value, variableName?]
    | _ => rfl
  · cases token with
    | var name slot =>
      obtain ⟨x, value⟩ := bound name slot rfl
      simp [substitute, value]
    | function f => exact determined
    | _ =>
      intro f same
      cases same

end Token

namespace Folding

/-- An operation on the numbers that folding has made: it lacks operands, or it is computed, or its
rule fails. -/
theorem operate_made (program : Program σ) {front : List (Token σ)} {token : Token σ}
    {stack : List Float} (made : Makes front (stack.map .number)) {arity : Nat}
    {f : List Float → Except String Float}
    (operation : token.foldable? = some (arity, Rule.ofFunction f)) (enough : arity ≤ stack.length) :
    (∃ next, program.step stack token = pure next ∧
        Makes (front ++ [token]) (next.map .number)) ∨
      ∃ reason, program.step stack token = throw (.arithmetic reason) ∧
        Fails front token reason := by
  obtain ⟨operands, below, rfl, rfl⟩ := exists_operands enough
  rw [List.map_append, List.map_reverse] at made
  rw [step_on_top program operation]
  cases outcome : f operands with
  | ok value => exact .inl ⟨value :: below, rfl, made.compute operation outcome⟩
  | error reason =>
    exact .inr ⟨reason, rfl, operands, below.map .number, f, made, operation, outcome⟩

/-- **Folding and a run take a settled token in step**, where all that folding has made are the
numbers on the stack: they put the same number on top, or fail alike, or the run is over. -/
theorem step_made (program : Program σ) {front : List (Token σ)} {token : Token σ}
    {stack : List Float} (made : Makes front (stack.map .number)) (settled : token.Settled) :
    (∃ next, program.step stack token = pure next ∧
        Makes (front ++ [token]) (next.map .number)) ∨
      (∃ reason, program.step stack token = throw (.arithmetic reason) ∧
        Fails front token reason) ∨
      ∃ error, program.step stack token = throw error ∧ ∀ reason, error ≠ .arithmetic reason := by
  have operation {arity : Nat} {rule : Rule σ} (missing : Error)
      (foldable : token.foldable? = some (arity, rule))
      (stepped : program.step stack token = Program.operate arity rule missing stack)
      (lacking : ∀ reason, missing ≠ .arithmetic reason) :
      (∃ next, program.step stack token = pure next ∧
          Makes (front ++ [token]) (next.map .number)) ∨
        (∃ reason, program.step stack token = throw (.arithmetic reason) ∧
          Fails front token reason) ∨
        ∃ error, program.step stack token = throw error ∧
          ∀ reason, error ≠ .arithmetic reason := by
    obtain ⟨f, rfl⟩ := settled.foreseeable _ _ foldable
    rcases Nat.lt_or_ge stack.length arity with few | enough
    · have missed := stepped.trans (Program.operate_missing few _ missing)
      exact .inr (.inr ⟨missing, missed, lacking⟩)
    · exact (operate_made program made foldable enough).imp_right .inl
  cases token with
  | number x =>
    have kept : Makes (front ++ [.number x]) (.number x :: stack.map .number) :=
      made.keep fun _ _ foldable => nomatch foldable
    exact .inl ⟨x :: stack, rfl, kept⟩
  | var name slot => cases settled.unnamed
  | operator o => exact operation (.missingOperands o.symbol) rfl rfl nofun
  | function f =>
    have foldable : (Token.function f).foldable? = some (f.arity, f.rule) :=
      if_pos (settled.deterministic f rfl)
    exact operation (.missingArguments f.name) foldable rfl nofun
  | opening => exact .inr (.inr ⟨.mismatchedBrackets, rfl, nofun⟩)
  | closing => exact .inr (.inr ⟨.mismatchedBrackets, rfl, nofun⟩)
  | separator => exact .inr (.inr ⟨.misplacedSeparator, rfl, nofun⟩)

variable {program : Program σ} {tokens : List (Token σ)} {state after : σ}

/-- **As long as a run goes on, folding has made the numbers on its stack** and nothing else. -/
theorem Makes.of_run (settled : ∀ token ∈ tokens, token.Settled) {stack : List Float}
    (ran : Effect.from state (program.run tokens []) = (.ok stack, after)) :
    Makes tokens (stack.map .number) := by
  induction tokens using List.reverseRecOn generalizing stack after with
  | nil =>
    cases ran
    exact .nothing
  | append_singleton front token ih =>
    rw [Program.run_concat] at ran
    obtain ⟨mid, reached, before, ran⟩ := Effect.of_from_bind_ok ran
    have made : Makes front (mid.map .number) :=
      ih (fun t mem => settled t (List.mem_append_left _ mem)) before
    rcases step_made program made (settled token (by simp)) with
      ⟨next, stepped, made⟩ | ⟨reason, stepped, -⟩ | ⟨error, stepped, -⟩
    · rw [stepped] at ran
      cases ran
      exact made
    · rw [stepped] at ran
      cases ran
    · rw [stepped] at ran
      cases ran

/-- **Where a rule fails in a run, it fails while folding.** -/
theorem Fails.of_run (settled : ∀ token ∈ tokens, token.Settled) {reason : String}
    (ran : Effect.from state (program.run tokens []) = (.error (.arithmetic reason), after)) :
    ∃ front token back, tokens = front ++ token :: back ∧ Fails front token reason := by
  induction tokens using List.reverseRecOn generalizing after with
  | nil => cases ran
  | append_singleton front token ih =>
    have settled_front : ∀ t ∈ front, t.Settled := fun t mem =>
      settled t (List.mem_append_left _ mem)
    rw [Program.run_concat] at ran
    rcases Effect.of_from_bind_error ran with failed | ⟨mid, reached, before, ran⟩
    · obtain ⟨first, failing, later, rfl, fails⟩ := ih settled_front failed
      exact ⟨first, failing, later ++ [token], by simp, fails⟩
    · have made : Makes front (mid.map .number) := .of_run settled_front before
      rcases step_made program made (settled token (by simp)) with
        ⟨next, stepped, -⟩ | ⟨failure, stepped, fails⟩ | ⟨error, stepped, other⟩
      · rw [stepped] at ran
        cases ran
      · rw [stepped] at ran
        cases ran
        exact ⟨front, token, [], rfl, fails⟩
      · rw [stepped] at ran
        cases ran
        exact absurd rfl (other reason)

end Folding

namespace Program

/-- A run reads a variable that has a value as it reads the number in its place. -/
theorem run_substitute {program : Program σ} {names : List String}
    {values : String → Option Float} {tokens : List (Token σ)}
    (reads : program.Reads names values tokens)
    (bound : ∀ name slot, .var name slot ∈ tokens → ∃ x, values name = some x) :
    program.run (tokens.map (Token.link names)) =
      program.run (tokens.map (Token.substitute values)) := by
  induction tokens with
  | nil => rfl
  | cons token rest ih =>
    have later := ih (reads.mono (List.subset_cons_self _ _)) fun name slot occurs =>
      bound name slot (List.mem_cons_of_mem _ occurs)
    have here : ∀ stack, program.step stack (token.link names) =
        program.step stack (token.substitute values) := by
      intro stack
      cases token with
      | var name slot =>
        obtain ⟨x, value⟩ := bound name slot List.mem_cons_self
        have read := (reads name slot List.mem_cons_self).trans value
        simp [Token.link, Token.substitute, value, step, read]
      | _ => rfl
    funext stack
    rw [List.map_cons, List.map_cons, run_cons, run_cons, here, later]

end Program

/-- **What an evaluation comes to, folding comes to**, if a run of the program is one of settled
tokens: the same number, and the same failure of a rule. -/
theorem evaluate_iff_fold_of_run {program : Program σ} {tokens : List (Token σ)}
    (settled : ∀ token ∈ tokens, token.Settled)
    (same : program.run program.tokens [] = program.run tokens []) (state start : σ) :
    (∀ value, (Effect.from state program.evaluate).1 = .ok value ↔
      (Effect.from start (fold tokens)).1 = .ok [.number value]) ∧
      ∀ reason, (Effect.from state program.evaluate).1 = .error (.arithmetic reason) →
        (Effect.from start (fold tokens)).1 = .error (.arithmetic reason) := by
  refine ⟨fun value => ⟨fun evaluated => ?_, fun folded => ?_⟩, fun reason failed => ?_⟩
  · have ran := Program.run_of_evaluate_ok (Prod.ext evaluated rfl :
      Effect.from state program.evaluate = (.ok value, _))
    rw [same] at ran
    have made : Folding.Makes tokens [.number value] := .of_run settled ran
    rw [made.fold_eq]
    rfl
  · have made := Folding.makes_of_fold (fun token mem => (settled token mem).foreseeable) folded
    have ran : program.run [.number value] [] = program.run tokens [] := made.run_eq program
    rw [Program.evaluate_eq_run, same, ← ran]
    rfl
  · have whole : Effect.from state program.evaluate = (.error (.arithmetic reason), _) :=
      Prod.ext failed rfl
    rw [Program.evaluate_eq_run, same] at whole
    rcases Effect.of_from_bind_error whole with ran | ⟨stack, mid, -, last⟩
    · obtain ⟨front, token, back, rfl, fails⟩ := Folding.Fails.of_run settled ran
      rw [fails.fold_eq]
      rfl
    · match stack, last with
      | [_], last => cases last
      | [], last => cases last
      | _ :: _ :: _, last => cases last

namespace Draft

/-- Whether a draft has a fault is neither a matter of folding nor of the order of names. -/
theorem fault?_withFolding {draft : Draft σ} {enabled : Bool} {order : Enumeration}
    (sound : (draft.withFolding enabled).fault? order = none) (enabled' : Bool)
    (order' : Enumeration) : (draft.withFolding enabled').fault? order' = none :=
  fault?_eq_none_iff.mpr (fault?_eq_none_iff.mp sound :)

@[simp]
theorem table_withFolding (draft : Draft σ) (enabled : Bool) :
    (draft.withFolding enabled).table = draft.table := rfl

/-- A draft that compiles unfolded compiles, folded, to what folding makes of its tokens. -/
theorem compile_withFolding {draft : Draft σ} {order : Enumeration} {program : Program σ}
    {state : σ}
    (compiled : (Effect.from state ((draft.withFolding false).compile order)).1 = .ok program) :
    ∃ output, program = .ofTokens output draft.table.functionNames ∧
      ∀ order', (draft.withFolding true).compile order' =
        fold output >>= fun folded => pure (.ofTokens folded draft.table.functionNames) := by
  cases fault : (draft.withFolding false).fault? order with
  | some error =>
    rw [compile_of_fault? fault] at compiled
    cases compiled
  | none =>
    have sound := fault?_withFolding fault true
    simp only [compile, fault, sound, table_withFolding] at compiled ⊢
    simp only [compileText, withFolding] at compiled ⊢
    cases converted : (Lexer.readText draft.table draft.implicit draft.text).toPostfix with
    | error error =>
      rw [converted] at compiled
      cases compiled
    | ok output =>
      rw [converted] at compiled
      cases compiled
      exact ⟨output, rfl, fun _ => rfl⟩

end Draft

namespace Program

/-- Tokens without variables are the tokens of their program. -/
theorem tokens_ofTokens {tokens : List (Token σ)} (unnamed : ∀ name slot, .var name slot ∉ tokens)
    (reserved : List String) : (ofTokens tokens reserved).tokens = tokens := by
  refine Token.map_of_unnamed (fun token plain => ?_) unnamed
  cases token with
  | var name slot => cases plain
  | _ => rfl

/-- A program is one number exactly if it is made of one. -/
theorem tokens_ofTokens_eq_number_iff {tokens : List (Token σ)} {reserved : List String}
    {x : Float} : (ofTokens tokens reserved).tokens = [.number x] ↔ tokens = [.number x] := by
  constructor
  · intro one
    obtain ⟨token, rfl, same⟩ := List.map_eq_singleton_iff.mp one
    cases token with
    | number y =>
      cases same
      rfl
    | _ => cases same
  · rintro rfl
    rfl

/-- Programs of the same tokens, without variables, are made of the same tokens. -/
theorem eq_of_ofTokens {tokens other : List (Token σ)} {reserved reserved' : List String}
    (unnamed : ∀ name slot, .var name slot ∉ tokens)
    (same : ofTokens tokens reserved = ofTokens other reserved') : tokens = other := by
  have tokens_eq := congrArg Program.tokens same
  rw [tokens_ofTokens unnamed] at tokens_eq
  have unnamed' : ∀ name slot, .var name slot ∉ other := by
    intro name slot occurs
    have linked : Token.link (Token.variableNames other) (.var name slot) ∈
        (ofTokens other reserved').tokens := List.mem_map_of_mem occurs
    rw [← tokens_eq] at linked
    exact unnamed _ _ linked
  rw [tokens_ofTokens unnamed'] at tokens_eq
  exact tokens_eq

end Program

/-- **Folding and evaluation are one arithmetic**, for any list of tokens whose functions are all
deterministic, and whose rules compute functions of their arguments. If all variables have values, an
evaluation comes to a number exactly if folding makes that number, and nothing else, of the tokens
with the values in the place of the variables; and where a rule fails in the evaluation, it fails
folding for the same reason. So a draft without variables is compiled, folded, to one number exactly
if it has a value, and the number is the value. -/
theorem evaluate_iff_fold {tokens : List (Token σ)} (plain : ∀ token ∈ tokens, token.Foreseeable)
    (determined : ∀ f, .function f ∈ tokens → f.deterministic = true)
    {values : String → Option Float}
    (bound : ∀ name slot, .var name slot ∈ tokens → ∃ x, values name = some x)
    (reserved : List String) :
    let program := (Program.ofTokens tokens reserved).withValues values
    let known := tokens.map (Token.substitute values)
    (∀ state start value, (Effect.from state program.evaluate).1 = .ok value ↔
        (Effect.from start (fold known)).1 = .ok [.number value]) ∧
      (∀ state start reason,
        (Effect.from state program.evaluate).1 = .error (.arithmetic reason) →
          (Effect.from start (fold known)).1 = .error (.arithmetic reason)) ∧
      ∀ (draft : Draft σ) (order order' : Enumeration) (state : σ),
        (Effect.from state ((draft.withFolding false).compile order)).1 =
            .ok (Program.ofTokens tokens reserved) →
          (∀ name slot, .var name slot ∉ tokens) →
            ∀ state start value,
              (Effect.from state (Program.ofTokens tokens reserved).evaluate).1 = .ok value ↔
                ∃ folded,
                  (Effect.from start ((draft.withFolding true).compile order')).1 = .ok folded ∧
                    folded.tokens = [.number value] := by
  intro program known
  have settled : ∀ token ∈ known, token.Settled := by
    intro token mem
    obtain ⟨origin, original, rfl⟩ := List.mem_map.mp mem
    refine Token.settled_substitute (plain origin original) ?_ ?_
    · rintro f rfl
      exact determined f original
    · rintro name slot rfl
      exact bound name slot original
  have same : program.run program.tokens [] = program.run known [] :=
    congrFun (Program.run_substitute (Program.reads_withValues tokens reserved values) bound) []
  have one := evaluate_iff_fold_of_run settled same
  refine ⟨fun state start => (one state start).1, fun state start => (one state start).2, ?_⟩
  intro draft order order' state compiled unnamed start again value
  obtain ⟨output, built, compiles⟩ := Draft.compile_withFolding compiled
  obtain rfl := Program.eq_of_ofTokens unnamed built
  have all_known : known = tokens := Token.map_of_unnamed (Token.substitute_of_unnamed values) unnamed
  rw [all_known] at settled
  have unlinked : (Program.ofTokens tokens reserved).run
      (Program.ofTokens tokens reserved).tokens [] =
        (Program.ofTokens tokens reserved).run tokens [] := by
    rw [Program.tokens_ofTokens unnamed]
  have closed := (evaluate_iff_fold_of_run settled unlinked start again).1 value
  rw [closed, compiles, Effect.from_bind]
  rcases Effect.from again (fold tokens) with ⟨result, after⟩
  cases result with
  | error error => simp
  | ok folded => simp [Program.tokens_ofTokens_eq_number_iff]

/-- In `x + two()` with `x` set to four, the call is computed ahead like the sum. Where the function
fails, folding fails as the evaluation does. -/
theorem evaluate_iff_fold_call :
    let plus : Operator Unit := .between "+" 500 fun a b => .ok (a + b)
    let two : Function Unit := ⟨"two", 0, true, Rule.ofFunction fun _ => .ok 2⟩
    let never : Function Unit := ⟨"never", 0, true, Rule.ofFunction fun _ => .error "no answer"⟩
    let tokens : Function Unit → List (Token Unit) :=
      fun f => [.var "x" 7, .function f, .operator plus]
    let values : String → Option Float := fun _ => some 4
    let known : Function Unit → List (Token Unit) :=
      fun f => [.number 4, .function f, .operator plus]
    (∀ f ∈ [two, never], (∀ token ∈ tokens f, token.Foreseeable) ∧
        ∀ g, .function g ∈ tokens f → g.deterministic = true) ∧
      (∀ f name slot, .var name slot ∈ tokens f → ∃ x, values name = some x) ∧
      (Effect.from () ((Program.ofTokens (tokens two) []).withValues values).evaluate).1 =
        .ok (4 + 2) ∧
      (Effect.from () (fold (known two))).1 = .ok [.number (4 + 2)] ∧
      (Effect.from () ((Program.ofTokens (tokens never) []).withValues values).evaluate).1 =
        .error (.arithmetic "no answer") ∧
      (Effect.from () (fold (known never))).1 = .error (.arithmetic "no answer") := by
  intro plus two never tokens values known
  have plain : ∀ f ∈ [two, never], ∀ token ∈ tokens f, token.Foreseeable := by
    simp only [tokens, List.forall_mem_cons]
    exact ⟨⟨.of_none rfl, .of_some rfl, .of_some rfl, List.forall_mem_nil _⟩,
      ⟨.of_none rfl, .of_some rfl, .of_some rfl, List.forall_mem_nil _⟩, List.forall_mem_nil _⟩
  have determined : ∀ f ∈ [two, never], ∀ g, .function g ∈ tokens f → g.deterministic = true := by
    simp [tokens, two, never]
  have bound : ∀ f name slot, .var name slot ∈ tokens f → ∃ x, values name = some x :=
    fun _ _ _ _ => ⟨4, rfl⟩
  have computed : (Effect.from ()
      ((Program.ofTokens (tokens two) []).withValues values).evaluate).1 = .ok (4 + 2) := rfl
  have failed : (Effect.from ()
      ((Program.ofTokens (tokens never) []).withValues values).evaluate).1 =
        .error (.arithmetic "no answer") := rfl
  have first := evaluate_iff_fold (plain two (by simp)) (determined two (by simp)) (bound two) []
  have second :=
    evaluate_iff_fold (plain never (by simp)) (determined never (by simp)) (bound never) []
  exact ⟨fun f mem => ⟨plain f mem, determined f mem⟩, bound, computed,
    (first.1 () () _).mp computed, failed, second.2.1 () () _ failed⟩

end Formula
