import Formula.Operator.Builtin
import Formula.Proofs.Folding.Steps
import Formula.Proofs.Program.Run

/-!
# Folding is transparent

Whatever list of tokens is folded, in postfix order or not, nobody who evaluates can tell: the
program of the folded tokens has the same cells, and its evaluation comes to the same value or the
same error, leaves the same hidden state, and makes the same calls of nondeterministic functions on
the way (`Program.StandsFor`). Where a rule fails while folding, an evaluation fails there too, or
before (`Program.FailsBy`).

The simulation is `Folding.Makes.run_eq`, by induction on the steps of folding: a run of what has
been made so far is a run of the tokens it was made of. A computed step takes away the numbers that
its operation would have found on the stack, and puts the value there that it would have left.
-/

namespace Formula

variable {σ : Type}

/-- The name and the slot of a variable token. -/
def Token.variable? : Token σ → Option (String × Nat)
  | var name slot => some (name, slot)
  | _ => none

/-- The token with another rule, if it is a nondeterministic function. -/
def Token.withRules (rules : Function σ → Rule σ) : Token σ → Token σ
  | function f => if f.deterministic then function f else function { f with rule := rules f }
  | token => token

namespace Folding

/-! ## What folding looks at -/

/-- A change of tokens that folding does not see: it keeps numbers, and what may be computed
ahead. -/
structure Unseen (change : Token σ → Token σ) : Prop where
  number : ∀ x, change (.number x) = .number x
  value : ∀ token, (change token).value? = token.value?
  foldable : ∀ token, (change token).foldable? = token.foldable?

theorem Unseen.link (names : List String) : Unseen (Token.link (σ := σ) names) where
  number := fun _ => rfl
  value := fun token => by cases token <;> rfl
  foldable := fun token => by cases token <;> rfl

theorem Unseen.withRules (rules : Function σ → Rule σ) : Unseen (Token.withRules rules) where
  number := fun _ => rfl
  value := fun token => by
    cases token with
    | function f =>
      unfold Token.withRules
      dsimp only
      split <;> rfl
    | _ => rfl
  foldable := fun token => by
    cases token with
    | function f => cases kind : f.deterministic <;> simp [Token.withRules, Token.foldable?, kind]
    | _ => rfl

theorem Unseen.constants? {change : Token σ → Token σ} (unseen : Unseen change) (n : Nat)
    (folded : List (Token σ)) :
    Folding.constants? n (folded.map change) =
      (Folding.constants? n folded).map fun (values, below) => (values, below.map change) := by
  have value : Token.value? ∘ change = Token.value? := funext unseen.value
  unfold Folding.constants?
  rw [operands?_map]
  cases operands? n folded with
  | none => rfl
  | some found => cases numbers : found.1.mapM Token.value? <;> simp [List.mapM_map, value, numbers]

theorem Unseen.blocked {change : Token σ → Token σ} (unseen : Unseen change)
    {folded : List (Token σ)} {token : Token σ} (h : Blocked folded token) :
    Blocked (folded.map change) (change token) := by
  intro arity rule operation
  rw [unseen.foldable] at operation
  rw [unseen.constants?, h arity rule operation]
  rfl

/-- Numbers on top stay there. -/
theorem Unseen.numbers {change : Token σ → Token σ} (unseen : Unseen change) (values : List Float)
    (below : List (Token σ)) :
    ((values.map Token.number).reverse ++ below).map change =
      (values.map Token.number).reverse ++ below.map change := by
  simp [unseen.number, Function.comp_def]

/-- **Of changed tokens folding makes the changed list**, by the same steps. -/
theorem Unseen.makes {change : Token σ → Token σ} (unseen : Unseen change)
    {tokens folded : List (Token σ)} (made : Makes tokens folded) :
    Makes (tokens.map change) (folded.map change) := by
  induction made with
  | nothing => exact .nothing
  | keep _ blocked ih =>
    rw [List.map_append]
    exact ih.keep (unseen.blocked blocked)
  | compute _ operation outcome ih =>
    rw [unseen.numbers] at ih
    simp only [List.map_append, List.map_cons, List.map_nil, unseen.number]
    exact ih.compute (by rw [unseen.foldable, operation]) outcome

/-- Changed tokens fail where the tokens do. -/
theorem Unseen.fails {change : Token σ → Token σ} (unseen : Unseen change)
    {front : List (Token σ)} {token : Token σ} {reason : String} (h : Fails front token reason) :
    Fails (front.map change) (change token) reason := by
  obtain ⟨values, below, f, made, operation, outcome⟩ := h
  have changed := unseen.makes made
  rw [unseen.numbers] at changed
  exact ⟨values, below.map change, f, changed, by rw [unseen.foldable, operation], outcome⟩

/-! ## What folding leaves as it is -/

variable (program : Program σ)

/-- Numbers on top of folded tokens are on top of the stack that these come to. -/
theorem run_numbers_on_top (values : List Float) (below : List (Token σ)) :
    program.run ((values.map Token.number).reverse ++ below).reverse [] =
      program.run below.reverse [] >>= fun stack => pure (values.reverse ++ stack) := by
  rw [List.reverse_append, List.reverse_reverse, Program.run_append]
  simp only [Program.run_numbers]

/-- An operation on as many numbers on top of the stack answers what its rule does. -/
theorem step_on_top {token : Token σ} {values : List Float} {f : List Float → Except String Float}
    (operation : token.foldable? = some (values.length, Rule.ofFunction f)) (stack : List Float) :
    program.step (values.reverse ++ stack) token =
      Effect.ofExcept ((f values).mapError .arithmetic) >>= fun value => pure (value :: stack) := by
  obtain ⟨missing, stepped⟩ := program.step_foldable operation
  rw [stepped, Program.operate_operands, Rule.apply_ofFunction]

/-- **A run of what folding makes is a run of the tokens.** -/
theorem Makes.run_eq {tokens folded : List (Token σ)} (made : Makes tokens folded) :
    program.run folded.reverse [] = program.run tokens [] := by
  induction made with
  | nothing => rfl
  | keep _ _ ih => rw [List.reverse_cons, Program.run_concat, Program.run_concat, ih]
  | @compute tokens below token values f value _ operation outcome ih =>
    have computed : ∀ stack, program.step (values.reverse ++ stack) token =
        pure (value :: stack) := by
      intro stack
      rw [step_on_top program operation, outcome]
      rfl
    rw [List.reverse_cons, Program.run_concat, Program.run_concat, ← ih, run_numbers_on_top]
    simp only [bind_assoc, pure_bind, computed]
    rfl

/-- A run of what folding makes makes the same calls. -/
theorem Makes.calls_eq {tokens folded : List (Token σ)} (made : Makes tokens folded) (state : σ) :
    program.callsFrom folded.reverse [] state = program.callsFrom tokens [] state := by
  induction made with
  | nothing => rfl
  | keep made _ ih =>
    rw [List.reverse_cons, Program.callsFrom_append, Program.callsFrom_append, ih,
      made.run_eq program]
  | @compute tokens below token values f value _ operation _ ih =>
    have foldable : token.foldable?.isSome = true := by
      rw [operation]
      rfl
    have silent : ∀ t ∈ [token], ∀ stack, t.call? stack = none := by
      simpa using Token.call?_foldable foldable
    have numbers : ∀ xs : List Float, ∀ t ∈ xs.map (Token.number (σ := σ)), ∀ stack,
        t.call? stack = none := by
      intro xs t mem stack
      obtain ⟨x, -, rfl⟩ := List.mem_map.mp mem
      rfl
    have one : ∀ t ∈ [Token.number value], ∀ stack, t.call? stack = none := numbers [value]
    rw [List.reverse_append, List.reverse_reverse,
      program.callsFrom_append_silent _ (numbers values)] at ih
    rw [List.reverse_cons, program.callsFrom_append_silent _ one,
      program.callsFrom_append_silent _ silent, ih]

/-- Where a rule fails while folding, a run that gets there fails alike. -/
theorem Fails.run {front : List (Token σ)} {token : Token σ} {reason : String}
    (fails : Fails front token reason) {state after : σ} {stack : List Float}
    (reached : Effect.from state (program.run front []) = (.ok stack, after)) :
    Effect.from state (program.run (front ++ [token]) []) =
      (.error (.arithmetic reason), after) := by
  obtain ⟨values, below, f, made, operation, outcome⟩ := fails
  rw [← made.run_eq program, run_numbers_on_top, Effect.from_bind] at reached
  rw [Program.run_concat, ← made.run_eq program, run_numbers_on_top, bind_assoc]
  split at reached
  · rename_i under mid lower
    cases reached
    rw [Effect.from_bind_ok lower, pure_bind, step_on_top program operation, outcome]
    rfl
  · cases reached

end Folding

namespace Program

/-- **A program that cannot be told from another one.** It has the same variables in the same slots,
and under all bindings evaluates to the same value or error, leaves the same hidden state, and makes
the same calls of nondeterministic functions, in the same order and with the same arguments. -/
structure StandsFor (short program : Program σ) : Prop where
  cells : short.cells = program.cells
  slots : short.tokens.filterMap Token.variable? = program.tokens.filterMap Token.variable?
  evaluate : ∀ cells, (short.withCells cells).evaluate = (program.withCells cells).evaluate
  calls : ∀ cells state, (short.withCells cells).calls state = (program.withCells cells).calls state

/-- Under all bindings, and from every hidden state, an evaluation fails at the token in place `k`
or before, and for the given reason if it gets as far as that. -/
def FailsBy (program : Program σ) (k : Nat) (reason : String) : Prop :=
  ∀ cells state,
    let bound := program.withCells cells
    ∃ error after,
      Effect.from state (bound.run (bound.tokens.take (k + 1)) []) = (.error error, after) ∧
        Effect.from state bound.evaluate = (.error error, after) ∧
          ∀ stack reached,
            Effect.from state (bound.run (bound.tokens.take k) []) = (.ok stack, reached) →
              error = .arithmetic reason

end Program

namespace Folding

/-- Folding keeps the names of the variables. -/
theorem Leaves.variableNames_eq {tokens folded : List (Token σ)} (left : Leaves tokens folded) :
    Token.variableNames folded.reverse = Token.variableNames tokens := by
  rw [Token.variableNames, Token.variableNames, left.filterMap_eq fun _ unnamed => unnamed]

/-- **The program of what folding makes stands for that of the tokens.** -/
theorem Makes.standsFor {tokens folded : List (Token σ)} (made : Makes tokens folded)
    (reserved : List String) :
    (Program.ofTokens folded.reverse reserved).StandsFor (Program.ofTokens tokens reserved) := by
  have linked := (Unseen.link (Token.variableNames tokens)).makes made
  have short_tokens : (Program.ofTokens folded.reverse reserved).tokens =
      (folded.map (Token.link (Token.variableNames tokens))).reverse := by
    rw [Program.ofTokens, made.leaves.variableNames_eq, List.map_reverse]
  refine ⟨?_, ?_, fun cells => ?_, fun cells state => ?_⟩
  · rw [Program.ofTokens, Program.ofTokens, made.leaves.variableNames_eq]
  · rw [short_tokens]
    refine linked.leaves.filterMap_eq fun token unnamed => ?_
    cases token with
    | var name slot => cases unnamed
    | _ => rfl
  · let bound := (Program.ofTokens tokens reserved).withCells cells
    have cells_eq : ((Program.ofTokens folded.reverse reserved).withCells cells).cells =
        bound.cells := rfl
    rw [Program.evaluate_eq_run, Program.run_eq_of_cells cells_eq, Program.evaluate_eq_run]
    show bound.run (Program.ofTokens folded.reverse reserved).tokens [] >>= _ =
      bound.run (tokens.map (Token.link (Token.variableNames tokens))) [] >>= _
    rw [short_tokens, linked.run_eq bound]
  · let bound := (Program.ofTokens tokens reserved).withCells cells
    have cells_eq : ((Program.ofTokens folded.reverse reserved).withCells cells).cells =
        bound.cells := rfl
    rw [Program.calls, Program.callsFrom_eq_of_cells cells_eq, Program.calls]
    show bound.callsFrom (Program.ofTokens folded.reverse reserved).tokens [] state =
      bound.callsFrom (tokens.map (Token.link (Token.variableNames tokens))) [] state
    rw [short_tokens, linked.calls_eq bound]

/-- **Where the rule of a token fails, evaluations fail**, there or before. -/
theorem Fails.failsBy {front : List (Token σ)} {token : Token σ} {reason : String}
    (fails : Fails front token reason) (back : List (Token σ)) (reserved : List String) :
    (Program.ofTokens (front ++ token :: back) reserved).FailsBy front.length reason := by
  intro cells state bound
  let link := Token.link (σ := σ) (Token.variableNames (front ++ token :: back))
  have linked : Fails (front.map link) (link token) reason := (Unseen.link _).fails fails
  have tokens_eq : bound.tokens = (front.map link ++ [link token]) ++ back.map link := by
    show (front ++ token :: back).map link = _
    simp
  have upto : bound.tokens.take front.length = front.map link := by
    rw [tokens_eq, List.append_assoc, List.take_left' (List.length_map _)]
  have through : bound.tokens.take (front.length + 1) = front.map link ++ [link token] := by
    rw [tokens_eq, List.take_left' (by simp)]
  rw [upto, through]
  have whole : ∀ {error after},
      Effect.from state (bound.run (front.map link ++ [link token]) []) = (.error error, after) →
        Effect.from state bound.evaluate = (.error error, after) := by
    intro error after failed
    rw [Program.evaluate_eq_run, tokens_eq,
      Effect.from_bind_error (bound.run_append_error failed (back.map link))]
  cases reached : Effect.from state (bound.run (front.map link) []) with
  | mk result after =>
    cases result with
    | error error =>
      have failed := bound.run_append_error reached [link token]
      exact ⟨error, after, failed, whole failed, fun stack other h => nomatch h⟩
    | ok stack =>
      have failed := linked.run bound reached
      exact ⟨.arithmetic reason, after, failed, whole failed, fun _ _ _ => rfl⟩

end Folding

/-- **Folding never changes what evaluation does**, for any list of tokens whose operators and
deterministic functions compute functions of their arguments. It leaves the hidden state alone and
asks no nondeterministic function for its rule. What it answers stands for the tokens; and if the
rule of the token in place `k` fails, so does every evaluation, there or before. -/
theorem fold_transparent {tokens : List (Token σ)} (plain : ∀ token ∈ tokens, token.Foreseeable)
    (reserved : List String) (state : σ) :
    (Effect.from state (fold tokens)).2 = state ∧
      (∀ rules, Effect.from state (fold (tokens.map (Token.withRules rules))) =
        ((Effect.from state (fold tokens)).1.map (List.map (Token.withRules rules)), state)) ∧
      (∀ folded, (Effect.from state (fold tokens)).1 = .ok folded →
        (Program.ofTokens folded reserved).StandsFor (Program.ofTokens tokens reserved)) ∧
      ∀ error, (Effect.from state (fold tokens)).1 = .error error →
        ∃ reason k, error = .arithmetic reason ∧ k < tokens.length ∧
          (∃ folded, (Effect.from state (fold (tokens.take k))).1 = .ok folded) ∧
          (Effect.from state (fold (tokens.take (k + 1)))).1 = .error error ∧
          (Program.ofTokens tokens reserved).FailsBy k reason := by
  refine ⟨?_, fun rules => ?_, fun folded answered => ?_, fun error failed => ?_⟩
  · rcases Folding.makes_or_fails plain with
      ⟨folded, made⟩ | ⟨front, token, back, reason, rfl, fails⟩
    · rw [made.fold_eq, Effect.from_ofExcept]
    · rw [fails.fold_eq, Effect.from_ofExcept]
  · have unseen := Folding.Unseen.withRules rules
    rcases Folding.makes_or_fails plain with
      ⟨folded, made⟩ | ⟨front, token, back, reason, rfl, fails⟩
    · rw [made.fold_eq, (unseen.makes made).fold_eq, Effect.from_ofExcept, Effect.from_ofExcept,
        ← List.map_reverse]
      rfl
    · rw [fails.fold_eq, List.map_append, List.map_cons, (unseen.fails fails).fold_eq]
      rfl
  · have made := Folding.makes_of_fold plain answered
    have standing := made.standsFor reserved
    rwa [List.reverse_reverse] at standing
  · obtain ⟨front, token, back, reason, rfl, fails, rfl⟩ := Folding.fails_of_fold plain failed
    refine ⟨reason, front.length, rfl, by simp, ?_, ?_, fails.failsBy back reserved⟩
    · obtain ⟨values, below, f, made, -, -⟩ := fails
      exact ⟨_, by rw [List.take_left' rfl, made.fold_eq, Effect.from_ofExcept]⟩
    · have through : (front ++ token :: back).take (front.length + 1) = front ++ [token] := by
        rw [List.append_cons, List.take_left' (by simp)]
      rw [through, fails.fold_eq, Effect.from_ofExcept]

/-- A product of numbers is computed ahead, in tokens that are no formula: a variable without a
value, a function that draws on the hidden state, and a stray bracket follow it. -/
theorem fold_transparent_product :
    let jitter : Function Nat := ⟨"jitter", 1, false, fun _ state => (.ok state.toFloat, state + 1)⟩
    let rest : List (Token Nat) := [.var "x" 0, .function jitter, .closing]
    let tokens := .number 2 :: .number 3 :: .operator .times :: rest
    let folded := .number (2 * 3) :: rest
    (∀ token ∈ tokens, token.Foreseeable) ∧ (Effect.from 0 (fold tokens)).1 = .ok folded ∧
      (Program.ofTokens folded []).StandsFor (Program.ofTokens tokens []) := by
  intro jitter rest tokens folded
  have plain : ∀ token ∈ tokens, token.Foreseeable := by
    intro token mem arity rule operation
    simp only [tokens, rest, List.mem_cons, List.not_mem_nil, or_false] at mem
    rcases mem with rfl | rfl | rfl | rfl | rfl | rfl
    case inr.inr.inl =>
      cases operation
      exact ⟨_, rfl⟩
    all_goals cases operation
  have answered : (Effect.from 0 (fold tokens)).1 = .ok folded := rfl
  exact ⟨plain, answered, (fold_transparent plain [] 0).2.2.1 folded answered⟩

end Formula
