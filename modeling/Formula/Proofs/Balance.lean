import Formula.Draft
import Formula.Proofs.Conversion.Contents
import Formula.Proofs.Folding.Steps
import Formula.Proofs.Grammar.Surplus
import Formula.Proofs.Program.Agreement

/-!
# Balance from a text to a value

Conversion and folding leave the balance of their tokens as it is, and a run changes the height of
its stack by it. **What passes the check, or has a value, has balance one**: the check and the
evaluation ask for nothing else about the places of operands and the numbers of arguments.
-/

namespace Formula

variable {σ : Type}

/-! ## Conversion and folding -/

/-- Brackets and separators have no weight. -/
theorem balance_lasting (tokens : List (Token σ)) :
    balance (tokens.filter Token.isLasting) = balance tokens := by
  induction tokens with
  | nil => rfl
  | cons token rest ih => cases token <;> simp [List.filter_cons, Token.isLasting, Token.weight, ih]

theorem balance_toPostfix {tokens output : List (Token σ)} (h : toPostfix tokens = .ok output) :
    balance output = balance tokens := by
  rw [← balance_lasting tokens]
  exact balance_perm (toPostfix_perm h)

namespace Folding

/-- An operation takes its operands and leaves one value. -/
theorem weight_of_foldable {token : Token σ} {arity : Nat} {rule : Rule σ}
    (h : token.foldable? = some (arity, rule)) : token.weight = 1 - arity := by
  cases token with
  | operator o =>
    cases h
    rfl
  | function f =>
    simp only [Token.foldable?] at h
    split at h
    · cases h
      rfl
    · cases h
  | _ => cases h

theorem balance_numbers (values : List Float) :
    balance ((values.map (Token.number (σ := σ))).reverse) = values.length := by
  induction values with
  | nil => rfl
  | cons x rest ih =>
    rw [List.map_cons, List.reverse_cons, balance_append, ih]
    simp [Token.weight]

/-- **Folding keeps the balance**, whatever its rules do. -/
theorem Leaves.balance_eq {tokens folded : List (Token σ)} (left : Leaves tokens folded) :
    balance folded = balance tokens := by
  induction left with
  | nothing => rfl
  | @keep tokens folded token _ ih =>
    rw [balance_cons, balance_append, balance_cons, balance_nil, ih]
    omega
  | @compute tokens below token values rule value _ operation ih =>
    have one : (Token.number value : Token σ).weight = 1 := rfl
    rw [balance_append, balance_numbers] at ih
    rw [balance_cons, balance_append, balance_cons, balance_nil, ← ih,
      weight_of_foldable operation, one]
    omega

end Folding

/-- Folding keeps the balance, and makes up no token but numbers. -/
theorem balance_fold {tokens folded : List (Token σ)} {state : σ}
    (h : (Effect.from state (fold tokens)).1 = .ok folded) :
    balance folded = balance tokens ∧ ∀ token ∈ folded, token.value?.isSome ∨ token ∈ tokens := by
  have left := Folding.leaves_of_fold h
  refine ⟨?_, fun token mem => left.sources token (List.mem_reverse.mpr mem)⟩
  rw [← left.balance_eq]
  exact balance_perm (List.reverse_perm folded).symm

/-- A text that is not folded compiles to what its reading is converted to. -/
theorem from_compileText_unfolded (symbols : Symbols σ) (implicit : Bool) (text : String)
    (state : σ) : Effect.from state (compileText symbols implicit false text) =
      ((Lexer.readText symbols implicit text).toPostfix, state) := by
  rw [compileText, Effect.from_bind, Effect.from_ofExcept]
  cases (Lexer.readText symbols implicit text).toPostfix <;> rfl

/-- **A text that compiles has the balance of its tokens**, folded or not, and no operation that they
do not have. -/
theorem balance_compileText {symbols : Symbols σ} {implicit folding : Bool} {text : String}
    {state : σ} {output : List (Token σ)}
    (h : (Effect.from state (compileText symbols implicit folding text)).1 = .ok output) :
    ∃ converted, (Lexer.readText symbols implicit text).toPostfix = .ok converted ∧
      balance output = balance converted ∧
        ∀ token ∈ output, token.value?.isSome ∨ token ∈ converted := by
  cases converted : (Lexer.readText symbols implicit text).toPostfix with
  | error error =>
    rw [compileText, converted] at h
    cases h
  | ok tokens =>
    rw [compileText, converted, Effect.ofExcept_ok, pure_bind] at h
    refine ⟨tokens, rfl, ?_⟩
    split at h
    · exact balance_fold h
    · cases h
      exact ⟨rfl, fun token mem => .inr mem⟩

namespace Program

/-! ## Evaluation and check -/

theorem balance_ofTokens (tokens : List (Token σ)) (reserved : List String) :
    balance (ofTokens tokens reserved).tokens = balance tokens :=
  balance_map (fun token => by cases token <;> rfl) tokens

variable {program : Program σ}

/-- A step changes the height of the stack by the weight of its token. -/
theorem height_step {token : Token σ} {stack next : List Float} {state after : σ}
    (h : Effect.from state (program.step stack token) = (.ok next, after)) :
    (next.length : Int) = stack.length + token.weight := by
  cases token with
  | number x =>
    cases h
    simp [Token.weight]
  | var name slot =>
    rw [step] at h
    split at h <;> cases h
    simp [Token.weight]
  | operator o =>
    have height := (length_of_operate h).2
    rw [Token.weight]
    omega
  | function f =>
    have height := (length_of_operate h).2
    rw [Token.weight]
    omega
  | _ => cases h

/-- **A run changes it by the balance of its tokens.** -/
theorem height_run {tokens : List (Token σ)} {stack final : List Float} {state after : σ}
    (h : Effect.from state (program.run tokens stack) = (.ok final, after)) :
    (final.length : Int) = stack.length + balance tokens := by
  induction tokens generalizing stack state with
  | nil =>
    cases h
    simp
  | cons token rest ih =>
    obtain ⟨next, mid, stepped, ran⟩ := run_cons_ok h
    have here := height_step stepped
    rw [ih ran, here, balance_cons]
    omega

theorem balance_of_evaluate {state after : σ} {value : Float}
    (h : Effect.from state program.evaluate = (.ok value, after)) : balance program.tokens = 1 := by
  have height := height_run (run_of_evaluate_ok h)
  simpa using height.symm

/-- A check that finds nothing counts to one. -/
theorem balance_of_inspect {tokens : List (Token σ)}
    (countable : ∀ token ∈ tokens, token.Countable) {count : Int}
    (some_operand : tokens ≠ [] ∨ 1 ≤ count) (h : inspect count tokens = []) :
    count + balance tokens = 1 := by
  induction tokens generalizing count with
  | nil =>
    unfold inspect at h
    split at h
    · cases h
    · rw [balance_nil]
      rcases some_operand with absurd_nil | positive
      · exact absurd rfl absurd_nil
      · omega
  | cons token rest ih =>
    rw [inspect_cons, List.append_eq_nil_iff] at h
    obtain ⟨nothing, later⟩ := h
    split at later
    · cases later
    · have counted : (tally count token).2 = count + token.weight := by
        cases token with
        | number x => rfl
        | var name slot => rfl
        | operator o =>
          rw [tally_operator (countable _ List.mem_cons_self), Token.weight]
          omega
        | function f =>
          rw [tally_function (countable _ List.mem_cons_self), Token.weight]
          omega
        | _ => cases nothing
      have rest_counted := ih (fun t mem => countable t (List.mem_cons_of_mem _ mem))
        (.inr (by omega)) later
      rw [balance_cons]
      omega

theorem balance_of_validate (countable : ∀ token ∈ program.tokens, token.Countable)
    (h : program.validate false = []) : balance program.tokens = 1 := by
  have checked : program.validate false =
      if program.tokens.isEmpty then [.empty] else inspect 0 program.tokens := rfl
  rw [checked] at h
  split at h
  · cases h
  · rename_i some_token
    have some_operand : program.tokens ≠ [] := fun none => some_token (by rw [none]; rfl)
    have counted := balance_of_inspect countable (.inl some_operand) h
    omega

end Program

end Formula
