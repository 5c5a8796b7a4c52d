import Formula.Program.Validation
import Formula.Proofs.Program.Run
import Mathlib.Algebra.Group.Nat.Defs

/-!
# The check and the evaluation agree

The check counts the operands that an evaluation has on its stack, so that the two can be followed
token by token. As long as both go on, the count is the height of the stack (`tally_of_step_ok`).
Where the evaluation stops, the rule of an operation has failed, a variable has no value, or the
check reports what is wrong before all else (`Error.Explained`).

The agreement needs what both of them rely on: operators of one or two operands, and numbers of
arguments that are the same as signed words.
-/

namespace Formula

variable {σ : Type}

/-! ## Findings and errors -/

namespace Finding

/-- The messages, in parts. -/
theorem message_eq (finding : Finding) :
    finding.message = match finding with
      | unset name => "The variable '" ++ name ++ "' has not been set"
      | empty => "The expression is empty"
      | missingArguments name => "Not enough arguments for '" ++ name ++ "'"
      | mismatchedBrackets => "Mismatched parentheses"
      | misplacedSeparator => "Misplaced function separator"
      | tooManyOperators => "Too many operators"
      | tooManyOperands => "Too many operands" := by
  cases finding <;> rfl

/-- Findings are known by their messages. -/
theorem message_injective {first second : Finding} (h : first.message = second.message) :
    first = second := by
  have chars := congrArg String.toList h
  rw [message_eq, message_eq] at chars
  cases first <;> cases second <;> simp only [String.toList_append] at chars <;>
    first
    | rfl
    | simp at chars
      try rw [String.ext chars]

/-- A finding that comes first is known by the message that comes first. -/
theorem head?_message_iff {findings : List Finding} {finding : Finding} :
    (findings.map message).head? = some finding.message ↔ findings.head? = some finding := by
  cases findings with
  | nil => simp
  | cons first rest =>
    simp only [List.map_cons, List.head?_cons, Option.some.injEq]
    exact ⟨message_injective, congrArg message⟩

/-- A finding that is the only one is known by the only message. -/
theorem only_message_iff {findings : List Finding} {finding : Finding} :
    findings.map message = [finding.message] ↔ findings = [finding] := by
  constructor
  · intro h
    obtain ⟨first, rfl, same⟩ := List.map_eq_singleton_iff.mp h
    rw [message_injective same]
  · rintro rfl
    rfl

end Finding

/-- What a check reports before all else where an evaluation ends in this error. -/
def Error.finding? : Error → Option Finding
  | missingArguments name => some (.missingArguments name)
  | missingOperands _ => some .tooManyOperators
  | mismatchedBrackets => some .mismatchedBrackets
  | misplacedSeparator => some .misplacedSeparator
  | leftover 0 => some .empty
  | leftover (_ + 2) => some .tooManyOperands
  | _ => none

/-- The check can count the operands of the token. -/
def Token.Countable : Token σ → Prop
  | operator o => o.arity = 1 ∨ o.arity = 2
  | function f => f.arity < 2 ^ 63
  | _ => True

namespace Program

/-! ## Counting -/

/-- Small numbers of arguments are read as they are. -/
theorem signedCount_of_lt {arity : Nat} (small : arity < 2 ^ 63) : signedCount arity = arity := by
  unfold signedCount UInt64.size
  exact Int.bmod_eq_of_le (by omega) (by omega)

/-- An operator takes its operands off the count and puts its value there. -/
theorem tally_operator {o : Operator σ} (countable : (Token.operator o).Countable) (count : Int) :
    tally count (.operator o) = ([], count - o.arity + 1) := by
  rcases countable with one | two
  · simp [tally, Operator.isUnary, one]
  · have left : count - 1 = count - (2 : Nat) + 1 := by omega
    simp [tally, Operator.isUnary, two, left]

/-- So does a function, which is reported where its arguments are not all there. -/
theorem tally_function {f : Function σ} (countable : (Token.function f).Countable) (count : Int) :
    tally count (.function f) =
      (if count < f.arity then [.missingArguments f.name] else [], count - f.arity + 1) := by
  have arity : signedCount f.arity = f.arity := signedCount_of_lt countable
  have left : (if (1 : Int) < f.arity then count - (f.arity - 1)
      else if (f.arity : Int) = 0 then count + 1 else count) = count - f.arity + 1 := by
    split
    · omega
    · split <;> omega
  simp only [tally, arity, left]

theorem inspect_cons (count : Int) (token : Token σ) (rest : List (Token σ)) :
    inspect count (token :: rest) =
      (tally count token).1 ++
        if (tally count token).2 < 1 then [.tooManyOperators]
        else inspect (tally count token).2 rest := rfl

/-- A check never reports an empty program on the way. -/
theorem empty_not_mem_inspect (count : Int) (tokens : List (Token σ)) :
    Finding.empty ∉ inspect count tokens := by
  induction tokens generalizing count with
  | nil =>
    unfold inspect
    split <;> simp
  | cons token rest ih =>
    rw [inspect_cons, List.mem_append, not_or]
    constructor
    · cases token with
      | function f =>
        simp only [tally]
        split <;> simp
      | _ => simp [tally]
    · split
      · simp
      · exact ih _

/-- Surplus operands are reported at the end: where they come first, nothing else is reported. -/
theorem inspect_eq_tooManyOperands {count : Int} {tokens : List (Token σ)}
    (first : (inspect count tokens).head? = some .tooManyOperands) :
    inspect count tokens = [.tooManyOperands] := by
  induction tokens generalizing count with
  | nil =>
    unfold inspect at first ⊢
    split at first
    · rw [if_pos ‹_›]
    · cases first
  | cons token rest ih =>
    rw [inspect_cons] at first ⊢
    cases found : (tally count token).1 with
    | nil =>
      rw [found, List.nil_append] at first
      rw [List.nil_append]
      split at first
      · cases first
      · rw [if_neg ‹_›]
        exact ih first
    | cons finding more =>
      rw [found, List.cons_append, List.head?_cons] at first
      cases token with
      | function f =>
        simp only [tally] at found
        split at found <;> cases found
        cases first
      | _ => cases found <;> cases first

/-! ## Following an evaluation -/

variable {program : Program σ}

/-- **While both go on, the count is the height of the stack.** -/
theorem tally_of_step_ok {token : Token σ} (countable : token.Countable) {stack next : List Float}
    {state after : σ} (h : Effect.from state (program.step stack token) = (.ok next, after)) :
    tally stack.length token = ([], (next.length : Int)) ∧ 0 < next.length := by
  cases token with
  | number x =>
    cases h
    simp [tally]
  | var name slot =>
    rw [step] at h
    split at h <;> cases h
    simp [tally]
  | operator o =>
    obtain ⟨enough, height⟩ := length_of_operate h
    rw [tally_operator countable]
    have count : (stack.length : Int) - o.arity + 1 = next.length := by omega
    exact ⟨by rw [count], by omega⟩
  | function f =>
    obtain ⟨enough, height⟩ := length_of_operate h
    rw [tally_function countable, if_neg (by omega)]
    have count : (stack.length : Int) - f.arity + 1 = next.length := by omega
    exact ⟨by rw [count], by omega⟩
  | _ => cases h

/-- Where a token's step ends the evaluation, the check reports the reason there, if it is no matter
of values. -/
theorem finding_of_step_error {token : Token σ} (countable : token.Countable) {stack : List Float}
    {state after : σ} {error : Error}
    (h : Effect.from state (program.step stack token) = (.error error, after)) :
    (∃ reason, error = .arithmetic reason) ∨
      (∃ name slot, error = .unboundVariable name ∧ token = .var name slot ∧
        program.value? slot = none) ∨
      ∃ finding, error.finding? = some finding ∧
        ∀ rest, (inspect stack.length (token :: rest)).head? = some finding := by
  cases token with
  | number x => cases h
  | var name slot =>
    rw [step] at h
    split at h <;> cases h
    exact .inr (.inl ⟨name, slot, rfl, rfl, ‹_›⟩)
  | operator o =>
    rcases operate_error h with ⟨few, rfl⟩ | failed
    · refine .inr (.inr ⟨.tooManyOperators, rfl, fun rest => ?_⟩)
      rw [inspect_cons, tally_operator countable, if_pos (by dsimp only; omega)]
      rfl
    · exact .inl failed
  | function f =>
    rcases operate_error h with ⟨few, rfl⟩ | failed
    · refine .inr (.inr ⟨.missingArguments f.name, rfl, fun rest => ?_⟩)
      rw [inspect_cons, tally_function countable, if_pos (by omega)]
      rfl
    · exact .inl failed
  | opening =>
    cases h
    exact .inr (.inr ⟨.mismatchedBrackets, rfl, fun _ => rfl⟩)
  | closing =>
    cases h
    exact .inr (.inr ⟨.mismatchedBrackets, rfl, fun _ => rfl⟩)
  | separator =>
    cases h
    exact .inr (.inr ⟨.misplacedSeparator, rfl, fun _ => rfl⟩)

/-- Past a step that succeeds, the check goes on from the height of the stack. -/
theorem inspect_of_step_ok {token : Token σ} (countable : token.Countable)
    {stack next : List Float} {state after : σ}
    (h : Effect.from state (program.step stack token) = (.ok next, after))
    (rest : List (Token σ)) :
    inspect stack.length (token :: rest) = inspect next.length rest := by
  obtain ⟨counted, positive⟩ := tally_of_step_ok countable h
  rw [inspect_cons, counted, if_neg (by dsimp only; omega), List.nil_append]

/-- A check of a run that succeeds finds at most surplus operands at the end. -/
theorem inspect_of_run_ok {tokens : List (Token σ)}
    (countable : ∀ token ∈ tokens, token.Countable) {stack final : List Float} {state after : σ}
    (h : Effect.from state (program.run tokens stack) = (.ok final, after)) :
    inspect stack.length tokens = if 1 < final.length then [.tooManyOperands] else [] := by
  induction tokens generalizing stack state with
  | nil =>
    cases h
    have height : (1 : Int) < final.length ↔ 1 < final.length := by omega
    simp only [inspect, height]
  | cons token rest ih =>
    obtain ⟨next, mid, stepped, ran⟩ := run_cons_ok h
    rw [inspect_of_step_ok (countable token List.mem_cons_self) stepped]
    exact ih (fun t mem => countable t (List.mem_cons_of_mem _ mem)) ran

/-- A run that succeeds has found values for all variables. -/
theorem bound_of_run_ok {tokens : List (Token σ)} {stack final : List Float} {state after : σ}
    (h : Effect.from state (program.run tokens stack) = (.ok final, after)) {name : String}
    {slot : Nat} (occurs : .var name slot ∈ tokens) : (program.value? slot).isSome := by
  induction tokens generalizing stack state with
  | nil => cases occurs
  | cons token rest ih =>
    obtain ⟨next, mid, stepped, ran⟩ := run_cons_ok h
    rcases List.mem_cons.mp occurs with rfl | later
    · rw [step] at stepped
      split at stepped
      · rename_i value
        rw [value]
        rfl
      · cases stepped
    · exact ih ran later

/-- Nonempty runs that succeed leave something on the stack. -/
theorem length_pos_of_run_ok {tokens : List (Token σ)}
    (countable : ∀ token ∈ tokens, token.Countable) {stack final : List Float} {state after : σ}
    (h : Effect.from state (program.run tokens stack) = (.ok final, after))
    (some_token : tokens ≠ [] ∨ 0 < stack.length) : 0 < final.length := by
  induction tokens generalizing stack state with
  | nil =>
    cases h
    simpa using some_token
  | cons token rest ih =>
    obtain ⟨next, mid, stepped, ran⟩ := run_cons_ok h
    have positive := (tally_of_step_ok (countable token List.mem_cons_self) stepped).2
    exact ih (fun t mem => countable t (List.mem_cons_of_mem _ mem)) ran (.inr positive)

/-- Why an evaluation fails, as far as a check can tell that reports these findings. -/
inductive Explained (program : Program σ) (findings : List Finding) : Error → Prop where
  | rule (reason : String) : Explained program findings (.arithmetic reason)
  | unbound {name : String} {slot : Nat} (occurs : .var name slot ∈ program.tokens)
      (unset : program.value? slot = none) : Explained program findings (.unboundVariable name)
  | foretold {error : Error} {finding : Finding} (corresponds : error.finding? = some finding)
      (first : findings.head? = some finding) : Explained program findings error

/-- **Where a run fails, the check reports the reason first**, if it is no matter of values. -/
theorem explained_of_run_error {tokens : List (Token σ)} (within : tokens ⊆ program.tokens)
    (countable : ∀ token ∈ tokens, token.Countable) {stack : List Float} {state after : σ}
    {error : Error}
    (h : Effect.from state (program.run tokens stack) = (.error error, after)) :
    program.Explained (inspect stack.length tokens) error := by
  induction tokens generalizing stack state with
  | nil => cases h
  | cons token rest ih =>
    rw [run_cons, Effect.from_bind] at h
    have here : token.Countable := countable token List.mem_cons_self
    split at h
    · rename_i next mid stepped
      rw [inspect_of_step_ok here stepped]
      exact ih (fun t mem => within (List.mem_cons_of_mem _ mem))
        (fun t mem => countable t (List.mem_cons_of_mem _ mem)) h
    · rename_i failed after' stepped
      cases h
      rcases finding_of_step_error here stepped with
        ⟨reason, rfl⟩ | ⟨name, slot, rfl, rfl, unset⟩ | ⟨finding, corresponds, first⟩
      · exact .rule reason
      · exact .unbound (within List.mem_cons_self) unset
      · exact .foretold corresponds (first rest)

/-! ## Evaluations -/

/-- All variables of the program have values. -/
def Bound (program : Program σ) : Prop :=
  ∀ name slot, .var name slot ∈ program.tokens → (program.value? slot).isSome

theorem unset_eq_nil_iff : program.unset = [] ↔ program.Bound := by
  unfold unset Bound
  rw [List.filterMap_eq_nil_iff]
  constructor
  · intro h name slot occurs
    have := h _ occurs
    cases value : program.value? slot with
    | none => simp [value] at this
    | some x => rfl
  · intro h token occurs
    cases token with
    | var name slot => simpa [Option.isSome_iff_ne_none] using h name slot occurs
    | _ => rfl

theorem validate_eq_nil_iff :
    program.validate true = [] ↔ program.Bound ∧ program.validate false = [] := by
  simp [validate, unset_eq_nil_iff]

/-- Where all variables have values, it makes no difference whether the check looks at them. -/
theorem Bound.validate_eq (bound : program.Bound) :
    program.validate true = program.validate false := by
  simp [validate, unset_eq_nil_iff.mpr bound]

/-- Where all variables have values, no evaluation ends for want of one. -/
theorem Bound.evaluate_ne (bound : program.Bound) (state : σ) (name : String) :
    (Effect.from state program.evaluate).1 ≠ .error (.unboundVariable name) := by
  intro failed
  obtain ⟨slot, occurs, unset⟩ := unbound_of_evaluate_error (Prod.ext failed rfl)
  have value := bound name slot occurs
  rw [unset] at value
  cases value

variable (countable : ∀ token ∈ program.tokens, token.Countable) {state after : σ}
include countable

/-- A program with a value passes the check, and all its variables have values. -/
theorem validate_of_evaluate_ok {value : Float}
    (h : Effect.from state program.evaluate = (.ok value, after)) :
    program.Bound ∧ program.validate false = [] := by
  have ran := run_of_evaluate_ok h
  refine ⟨fun name slot occurs => bound_of_run_ok ran occurs, ?_⟩
  have found := inspect_of_run_ok countable ran
  have some_token : program.tokens ≠ [] := by
    intro none
    rw [none] at ran
    cases ran
  simpa [validate, some_token] using found

/-- **Where an evaluation fails, the check reports the reason first**, if it is no matter of
values. -/
theorem explained_of_evaluate_error {error : Error}
    (h : Effect.from state program.evaluate = (.error error, after)) :
    program.Explained (program.validate false) error := by
  rw [evaluate_eq_run, Effect.from_bind] at h
  rcases Classical.em (program.tokens = []) with none | some_token
  · rw [none] at h
    cases h
    exact .foretold rfl (by simp [validate, none])
  have checked : program.validate false = inspect 0 program.tokens := by
    simp [validate, some_token]
  rw [checked]
  split at h
  · rename_i final reached ran
    have found := inspect_of_run_ok countable ran
    have positive := length_pos_of_run_ok countable ran (.inl some_token)
    match final, h with
    | _ :: _ :: _, h =>
      cases h
      exact .foretold rfl (by simpa using congrArg List.head? found)
  · rename_i failed after' ran
    cases h
    exact explained_of_run_error (List.Subset.refl _) countable ran

/-- Where values are no matter, the first finding corresponds to the error. -/
theorem finding_of_evaluate_error {error : Error} (bound : program.Bound)
    (rules : ∀ reason, error ≠ .arithmetic reason)
    (h : Effect.from state program.evaluate = (.error error, after)) :
    ∃ finding, error.finding? = some finding ∧
      (program.validate false).head? = some finding := by
  cases explained_of_evaluate_error countable h with
  | rule reason => exact absurd rfl (rules reason)
  | unbound occurs unset =>
    have := bound _ _ occurs
    rw [unset] at this
    cases this
  | foretold corresponds first => exact ⟨_, corresponds, first⟩

end Program

/-! ## Foretelling -/

/-- **Messages that foretell how an evaluation ends.** With no message it ends with a value; the
first one names the error it ends in. -/
structure Foretells (messages : List String) (result : Except Error Float) : Prop where
  value : (∃ value, result = .ok value) ↔ messages = []
  arguments : ∀ name, result = .error (.missingArguments name) ↔
    messages.head? = some s!"Not enough arguments for '{name}'"
  operands : (∃ symbol, result = .error (.missingOperands symbol)) ↔
    messages.head? = some "Too many operators"
  brackets : result = .error .mismatchedBrackets ↔
    messages.head? = some "Mismatched parentheses"
  separators : result = .error .misplacedSeparator ↔
    messages.head? = some "Misplaced function separator"
  several : (∃ n, 1 < n ∧ result = .error (.leftover n)) ↔ messages = ["Too many operands"]
  nothing : result = .error (.leftover 0) ↔ messages = ["The expression is empty"]

/-- Findings that are the only ones if they come first. -/
theorem Program.validate_eq_singleton {program : Program σ} {finding : Finding}
    (final : finding = .empty ∨ finding = .tooManyOperands) :
    program.validate false = [finding] ↔ (program.validate false).head? = some finding := by
  constructor
  · intro h
    rw [h]
    rfl
  · intro first
    have checked : program.validate false =
        if program.tokens.isEmpty then [.empty] else inspect 0 program.tokens := rfl
    rw [checked] at first ⊢
    split at first
    · cases first
      rw [if_pos ‹_›]
    · rw [if_neg ‹_›]
      rcases final with rfl | rfl
      · exact absurd (List.mem_of_mem_head? first) (empty_not_mem_inspect 0 program.tokens)
      · exact inspect_eq_tooManyOperands first

/-- Findings whose first one corresponds to the error foretell it. -/
theorem foretells_error {findings : List Finding} {error : Error} {finding : Finding}
    (corresponds : error.finding? = some finding) (first : findings.head? = some finding)
    (only : finding = .empty ∨ finding = .tooManyOperands → findings = [finding]) :
    Foretells (findings.map Finding.message) (.error error) := by
  have head : ∀ other : Finding,
      (findings.map Finding.message).head? = some other.message ↔ finding = other := by
    intro other
    rw [Finding.head?_message_iff, first, Option.some.injEq]
  have single : ∀ other : Finding, other = .empty ∨ other = .tooManyOperands →
      (findings.map Finding.message = [other.message] ↔ finding = other) := by
    intro other final
    rw [Finding.only_message_iff]
    constructor
    · rintro rfl
      exact (Option.some.inj first).symm
    · rintro rfl
      exact only final
  have some_finding : findings.map Finding.message ≠ [] := by
    intro none
    rw [List.map_eq_nil_iff.mp none] at first
    cases first
  have arguments := fun name => head (.missingArguments name)
  have several := single .tooManyOperands (.inr rfl)
  have nothing := single .empty (.inl rfl)
  unfold Error.finding? at corresponds
  split at corresponds <;> cases corresponds <;>
    exact
      { value := by simp [some_finding]
        arguments := fun name => Iff.trans (by simp) (arguments name).symm
        operands := Iff.trans (by simp) (head .tooManyOperators).symm
        brackets := Iff.trans (by simp) (head .mismatchedBrackets).symm
        separators := Iff.trans (by simp) (head .misplacedSeparator).symm
        several := Iff.trans (by simp) several.symm
        nothing := Iff.trans (by simp) nothing.symm }

/-- **The check and the evaluation agree**, under all bindings and from every hidden state. A program
that passes the check has a value, unless a rule fails; a program with a value passes the check. If
all variables have values and no rule fails, the messages foretell how the evaluation ends. -/
theorem validate_agrees_with_evaluate {program : Program σ}
    (countable : ∀ token ∈ program.tokens, token.Countable) (state : σ) :
    let result := (Effect.from state program.evaluate).1
    (program.validate true = [] →
        (∃ value, result = .ok value) ∨ ∃ reason, result = .error (.arithmetic reason)) ∧
      (∀ value, result = .ok value → program.validate true = []) ∧
      (program.Bound → (∀ reason, result ≠ .error (.arithmetic reason)) →
        Foretells ((program.validate false).map Finding.message) result) := by
  intro result
  have from_result : Effect.from state program.evaluate =
      (result, (Effect.from state program.evaluate).2) := rfl
  cases ended : result with
  | ok value =>
    rw [ended] at from_result
    have valid := program.validate_of_evaluate_ok countable from_result
    refine ⟨fun _ => .inl ⟨value, rfl⟩, fun _ _ => Program.validate_eq_nil_iff.mpr valid,
      fun _ _ => ?_⟩
    rw [valid.2]
    constructor <;> simp
  | error error =>
    rw [ended] at from_result
    refine ⟨fun valid => .inr ?_, fun value h => (nomatch h), fun bound rules => ?_⟩
    · obtain ⟨bound, checked⟩ := Program.validate_eq_nil_iff.mp valid
      by_cases rule : ∃ reason, error = .arithmetic reason
      · obtain ⟨reason, rfl⟩ := rule
        exact ⟨reason, rfl⟩
      · have rules : ∀ reason, error ≠ .arithmetic reason := fun reason h => rule ⟨reason, h⟩
        obtain ⟨finding, -, first⟩ :=
          Program.finding_of_evaluate_error countable bound rules from_result
        rw [checked] at first
        cases first
    · have rules : ∀ reason, error ≠ .arithmetic reason := fun reason h => rules reason (by rw [h])
      obtain ⟨finding, corresponds, first⟩ :=
        Program.finding_of_evaluate_error countable bound rules from_result
      exact foretells_error corresponds first fun final =>
        (Program.validate_eq_singleton final).mpr first

/-- A call that lacks an argument, with a stray bracket after it: the evaluation ends at the call,
and the check, which goes on to the bracket, reports the call first. -/
theorem validate_agrees_with_evaluate_call :
    let minus : Operator Unit := ⟨"-", 1, false, 5000, Rule.ofFunction fun _ => .ok 0⟩
    let f : Function Unit := ⟨"f", 3, true, Rule.ofFunction fun _ => .ok 0⟩
    let program := Program.ofTokens [.number 1, .number 2, .operator minus, .function f, .closing] []
    (∀ token ∈ program.tokens, token.Countable) ∧ program.Bound ∧
      (Effect.from () program.evaluate).1 = .error (.missingArguments "f") ∧
      Foretells ((program.validate false).map Finding.message)
        (Effect.from () program.evaluate).1 := by
  intro minus f program
  have countable : ∀ token ∈ program.tokens, token.Countable := by
    simp [program, minus, f, Program.ofTokens, Token.link, Token.Countable]
  have bound : program.Bound := by
    simp [program, Program.Bound, Program.ofTokens, Token.link]
  have ended : (Effect.from () program.evaluate).1 = .error (.missingArguments "f") := rfl
  have rules : ∀ reason, (Effect.from () program.evaluate).1 ≠ .error (.arithmetic reason) := by
    rw [ended]
    exact fun _ h => nomatch h
  exact ⟨countable, bound, ended, (validate_agrees_with_evaluate countable ()).2.2 bound rules⟩

end Formula
