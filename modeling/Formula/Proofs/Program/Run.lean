import Formula.Folding
import Formula.Program.Evaluation
import Formula.Proofs.Effect
import Formula.Proofs.Operands

/-!
# Runs of a program

A run takes tokens in order on a stack, and an evaluation is the run of all tokens on the empty one.
A run of two lists is the run of the one and then of the other (`run_append`), and the course of it
is their courses, one after the other (`callsFrom_append`). It fails as the step of one of its
tokens does (`step_of_run_error`).

Of all rules, those of nondeterministic functions alone may answer differently from call to call.
**The calls of a run** are the ones of such functions, in order and with their arguments.
-/

namespace Formula

variable {σ : Type}

/-- The call that a token makes on a stack, if it is a nondeterministic function that finds its
arguments there. -/
def Token.call? : Token σ → List Float → Option (Function σ × List Float)
  | function f, stack =>
    if f.deterministic then none
    else (operands? f.arity stack).map fun (arguments, _) => (f, arguments)
  | _, _ => none

/-- What folding may compute ahead is no call of a nondeterministic function. -/
theorem Token.call?_foldable {token : Token σ} (h : token.foldable?.isSome = true)
    (stack : List Float) : token.call? stack = none := by
  cases token with
  | function f =>
    cases kind : f.deterministic with
    | true => simp [call?, kind]
    | false => simp [foldable?, kind] at h
  | _ => rfl

namespace Program

/-- The program in another state of its bindings. -/
def withCells (program : Program σ) (cells : List Cell) : Program σ := { program with cells }

/-- Runs tokens in order on a stack. -/
def run (program : Program σ) (tokens : List (Token σ)) (stack : List Float) :
    Effect σ Error (List Float) :=
  tokens.foldlM program.step stack

/-- The calls of nondeterministic functions in the course of a run, with their arguments. -/
def callsFrom (program : Program σ) (tokens : List (Token σ)) (stack : List Float) (state : σ) :
    List (Function σ × List Float) :=
  (program.traceFrom tokens stack state).filterMap fun met => met.1.call? met.2

/-- **The calls of nondeterministic functions in an evaluation**, with their arguments. -/
def calls (program : Program σ) (state : σ) : List (Function σ × List Float) :=
  program.callsFrom program.tokens [] state

/-! ## Programs with the same cells -/

/-- A step looks at the cells alone. -/
theorem step_eq_of_cells {first second : Program σ} (h : first.cells = second.cells) :
    first.step = second.step := by
  funext stack token
  cases token with
  | var name slot => simp only [step, value?, h]
  | _ => rfl

theorem run_eq_of_cells {first second : Program σ} (h : first.cells = second.cells) :
    first.run = second.run := by
  funext tokens stack
  rw [run, run, step_eq_of_cells h]

theorem callsFrom_eq_of_cells {first second : Program σ} (h : first.cells = second.cells) :
    first.callsFrom = second.callsFrom := by
  have traces : first.traceFrom = second.traceFrom := by
    funext tokens
    induction tokens with
    | nil => rfl
    | cons token rest ih =>
      funext stack state
      rw [traceFrom, traceFrom, ih, step_eq_of_cells h]
  funext tokens stack state
  rw [callsFrom, callsFrom, traces]

variable (program : Program σ)

/-! ## Runs in parts -/

@[simp]
theorem run_nil (stack : List Float) : program.run [] stack = pure stack := rfl

theorem run_cons (token : Token σ) (rest : List (Token σ)) (stack : List Float) :
    program.run (token :: rest) stack =
      program.step stack token >>= fun next => program.run rest next :=
  List.foldlM_cons

theorem run_append (front back : List (Token σ)) (stack : List Float) :
    program.run (front ++ back) stack =
      program.run front stack >>= fun next => program.run back next :=
  List.foldlM_append

theorem run_concat (front : List (Token σ)) (token : Token σ) (stack : List Float) :
    program.run (front ++ [token]) stack =
      program.run front stack >>= fun next => program.step next token := by
  simp [run_append, run_cons]

theorem evaluate_eq_run : program.evaluate =
    program.run program.tokens [] >>= fun stack => Effect.ofExcept (single stack) := rfl

/-- A run that succeeds goes on from its first step. -/
theorem run_cons_ok {program : Program σ} {token : Token σ} {rest : List (Token σ)}
    {stack final : List Float} {state after : σ}
    (h : Effect.from state (program.run (token :: rest) stack) = (.ok final, after)) :
    ∃ next mid, Effect.from state (program.step stack token) = (.ok next, mid) ∧
      Effect.from mid (program.run rest next) = (.ok final, after) := by
  rw [run_cons] at h
  exact Effect.of_from_bind_ok h

/-- A program with a value has run to a stack that holds it alone. -/
theorem run_of_evaluate_ok {program : Program σ} {state after : σ} {value : Float}
    (h : Effect.from state program.evaluate = (.ok value, after)) :
    Effect.from state (program.run program.tokens []) = (.ok [value], after) := by
  rw [evaluate_eq_run] at h
  obtain ⟨final, mid, ran, last⟩ := Effect.of_from_bind_ok h
  match final, last with
  | [_], last =>
    cases last
    exact ran

/-- A run that fails has failed at one of its tokens. -/
theorem step_of_run_error {program : Program σ} {tokens : List (Token σ)} {stack : List Float}
    {state after : σ} {error : Error}
    (h : Effect.from state (program.run tokens stack) = (.error error, after)) :
    ∃ token ∈ tokens, ∃ met start,
      Effect.from start (program.step met token) = (.error error, after) := by
  induction tokens generalizing stack state with
  | nil => cases h
  | cons token rest ih =>
    rw [run_cons] at h
    rcases Effect.of_from_bind_error h with failed | ⟨next, mid, -, ran⟩
    · exact ⟨token, List.mem_cons_self, stack, state, failed⟩
    · obtain ⟨later, mem, met, start, failed⟩ := ih ran
      exact ⟨later, List.mem_cons_of_mem _ mem, met, start, failed⟩

/-- **An evaluation fails at one of its tokens**, or for what is left on the stack. -/
theorem step_of_evaluate_error {program : Program σ} {state after : σ} {error : Error}
    (h : Effect.from state program.evaluate = (.error error, after)) :
    (∃ token ∈ program.tokens, ∃ met start,
      Effect.from start (program.step met token) = (.error error, after)) ∨
      ∃ n, error = .leftover n := by
  rw [evaluate_eq_run] at h
  rcases Effect.of_from_bind_error h with failed | ⟨final, mid, -, last⟩
  · exact .inl (step_of_run_error failed)
  · match final, last with
    | [], last | _ :: _ :: _, last =>
      cases last
      exact .inr ⟨_, rfl⟩

/-- A run that fails in its front fails. -/
theorem run_append_error {front : List (Token σ)} {stack : List Float} {state after : σ}
    {error : Error} (h : Effect.from state (program.run front stack) = (.error error, after))
    (back : List (Token σ)) :
    Effect.from state (program.run (front ++ back) stack) = (.error error, after) := by
  rw [run_append, Effect.from_bind_error h]

/-- Numbers are put on the stack as they stand. -/
theorem run_numbers (values stack : List Float) :
    program.run (values.map .number) stack = pure (values.reverse ++ stack) := by
  induction values generalizing stack with
  | nil => rfl
  | cons x rest ih => simp [run_cons, step, ih]

/-! ## Operations -/

/-- An operation that finds its operands replaces them by what its rule computes. -/
theorem operate_operands (rule : Rule σ) (missing : Error) (operands below : List Float) :
    operate operands.length rule missing (operands.reverse ++ below) =
      rule.apply operands >>= fun value => pure (value :: below) := by
  rw [operate, operands?_reverse_append]

/-- An operation without its operands fails for want of them. -/
theorem operate_missing {arity : Nat} {stack : List Float} (few : stack.length < arity)
    (rule : Rule σ) (missing : Error) : operate arity rule missing stack = throw missing := by
  rw [operate, operands?_eq_none_iff.mpr few]

/-- An operation that succeeds has put one number in place of its operands. -/
theorem length_of_operate {arity : Nat} {rule : Rule σ} {missing : Error} {stack next : List Float}
    {state after : σ}
    (h : Effect.from state (operate arity rule missing stack) = (.ok next, after)) :
    arity ≤ stack.length ∧ next.length + arity = stack.length + 1 := by
  rcases Nat.lt_or_ge stack.length arity with few | enough
  · rw [operate_missing few] at h
    cases h
  · obtain ⟨operands, below, rfl, rfl⟩ := exists_operands enough
    rw [operate_operands] at h
    obtain ⟨value, mid, -, put⟩ := Effect.of_from_bind_ok h
    cases put
    simp
    omega

/-- An operation fails for want of operands, or as its rule does. -/
theorem operate_error {arity : Nat} {rule : Rule σ} {missing error : Error} {stack : List Float}
    {state after : σ}
    (h : Effect.from state (operate arity rule missing stack) = (.error error, after)) :
    stack.length < arity ∧ error = missing ∨ ∃ reason, error = .arithmetic reason := by
  rcases Nat.lt_or_ge stack.length arity with few | enough
  · rw [operate_missing few] at h
    cases h
    exact .inl ⟨few, rfl⟩
  · obtain ⟨operands, below, rfl, rfl⟩ := exists_operands enough
    rw [operate_operands, Effect.from_bind] at h
    split at h
    · cases h
    · rename_i failed
      cases h
      exact .inr (Rule.apply_error failed)

/-- A step ends for want of a value at a variable that has none. -/
theorem unbound_of_step_error {program : Program σ} {token : Token σ} {stack : List Float}
    {state after : σ} {name : String}
    (h : Effect.from state (program.step stack token) = (.error (.unboundVariable name), after)) :
    ∃ slot, token = .var name slot ∧ program.value? slot = none := by
  cases token with
  | var other slot =>
    rw [step] at h
    split at h <;> cases h
    exact ⟨slot, rfl, ‹_›⟩
  | operator o => rcases operate_error h with ⟨-, same⟩ | ⟨reason, same⟩ <;> cases same
  | function f => rcases operate_error h with ⟨-, same⟩ | ⟨reason, same⟩ <;> cases same
  | _ => cases h

/-- **An evaluation ends for want of a value only if a variable that occurs has none.** -/
theorem unbound_of_evaluate_error {program : Program σ} {state after : σ} {name : String}
    (h : Effect.from state program.evaluate = (.error (.unboundVariable name), after)) :
    ∃ slot, .var name slot ∈ program.tokens ∧ program.value? slot = none := by
  rcases step_of_evaluate_error h with ⟨token, occurs, stack, start, failed⟩ | ⟨n, same⟩
  · obtain ⟨slot, rfl, unset⟩ := unbound_of_step_error failed
    exact ⟨slot, occurs, unset⟩
  · cases same

/-- What folding may compute ahead is an operation of the same rule on as many operands. -/
theorem step_foldable {token : Token σ} {arity : Nat} {rule : Rule σ}
    (h : token.foldable? = some (arity, rule)) :
    ∃ missing, ∀ stack, program.step stack token = operate arity rule missing stack := by
  cases token with
  | operator o =>
    cases h
    exact ⟨.missingOperands o.symbol, fun _ => rfl⟩
  | function f =>
    simp only [Token.foldable?] at h
    split at h
    · cases h
      exact ⟨.missingArguments f.name, fun _ => rfl⟩
    · cases h
  | _ => cases h

/-! ## Calls in parts -/

theorem traceFrom_append (front back : List (Token σ)) (stack : List Float) (state : σ) :
    program.traceFrom (front ++ back) stack state =
      program.traceFrom front stack state ++
        match Effect.from state (program.run front stack) with
        | (.ok next, after) => program.traceFrom back next after
        | (.error _, _) => [] := by
  induction front generalizing stack state with
  | nil => rfl
  | cons token rest ih =>
    rw [List.cons_append, traceFrom, traceFrom, run_cons, Effect.from_bind]
    split
    · rename_i next after stepped
      rw [stepped, ih, List.cons_append]
    · rename_i error after stepped
      rw [stepped, List.cons_append]
      rfl

/-- The calls of a run of two lists are those of the first, and those of the second on what the
first comes to. -/
theorem callsFrom_append (front back : List (Token σ)) (stack : List Float) (state : σ) :
    program.callsFrom (front ++ back) stack state =
      program.callsFrom front stack state ++
        match Effect.from state (program.run front stack) with
        | (.ok next, after) => program.callsFrom back next after
        | (.error _, _) => [] := by
  unfold callsFrom
  rw [traceFrom_append, List.filterMap_append]
  congr 1
  split <;> rfl

/-- Tokens that make no call on any stack make none in a run. -/
theorem callsFrom_silent {tokens : List (Token σ)}
    (silent : ∀ token ∈ tokens, ∀ stack, token.call? stack = none) (stack : List Float)
    (state : σ) : program.callsFrom tokens stack state = [] := by
  induction tokens generalizing stack state with
  | nil => rfl
  | cons token rest ih =>
    have here : token.call? stack = none := silent token List.mem_cons_self stack
    have later := ih fun t mem => silent t (List.mem_cons_of_mem _ mem)
    simp only [callsFrom, traceFrom, List.filterMap_cons, here]
    split
    · exact later _ _
    · rfl

/-- Tokens that make no call add none. -/
theorem callsFrom_append_silent (front : List (Token σ)) {back : List (Token σ)}
    (silent : ∀ token ∈ back, ∀ stack, token.call? stack = none) (stack : List Float) (state : σ) :
    program.callsFrom (front ++ back) stack state = program.callsFrom front stack state := by
  rw [callsFrom_append]
  split
  · rw [callsFrom_silent program silent, List.append_nil]
  · rw [List.append_nil]

end Formula.Program
