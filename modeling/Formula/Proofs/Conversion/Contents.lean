import Formula.Proofs.Conversion.Yard
import Formula.Proofs.Grammar.Brackets
import Mathlib.Data.List.TakeWhile

/-!
# What a conversion keeps

The yard loses no token and makes up none: what it holds, put out or waiting, is what it was given
without brackets and separators, in another order (`Yard.held_takeIn`). **The output of a conversion
is a permutation of its tokens** (`toPostfix_perm`).

The brackets that wait are as many as are open, so that what the yard refuses is what counting
refuses (`Yard.depth_takeIn`).
-/

namespace Formula

variable {σ : Type}

/-- A token that has a place in postfix order. -/
def Token.isLasting : Token σ → Bool
  | number _ | var _ _ | operator _ | function _ => true
  | opening | closing | separator => false

namespace Yard

/-- The number of brackets that wait. -/
def depth (yard : Yard σ) : Nat := yard.pending.countP Pending.isBracket

/-- The tokens in the yard: what is put out, and what waits to be. -/
def held (yard : Yard σ) : List (Token σ) :=
  yard.output ++ (yard.pending.filter fun entry => !entry.isBracket).map Pending.token

/-- The tokens that wait to be put out, the latest first. -/
def waiting (yard : Yard σ) : List (Token σ) :=
  (yard.pending.filter fun entry => !entry.isBracket).map Pending.token

variable {yard next : Yard σ}

/-! ## Releases -/

section Release

variable {condition : Pending σ → Bool}
  (spared : ∀ entry, condition entry = true → entry.isBracket = false)
include spared

theorem depth_release : (yard.release condition).depth = yard.depth := by
  have none_taken : (yard.pending.takeWhile condition).countP Pending.isBracket = 0 := by
    rw [List.countP_eq_zero]
    intro entry mem
    simp [spared entry (List.all_eq_true.mp List.all_takeWhile entry mem)]
  have parts : yard.pending.countP Pending.isBracket =
      (yard.pending.takeWhile condition ++ yard.pending.dropWhile condition).countP
        Pending.isBracket := by
    rw [List.takeWhile_append_dropWhile]
  rw [List.countP_append, none_taken, Nat.zero_add] at parts
  exact parts.symm

/-- A release takes off the latest tokens that wait. -/
theorem waiting_release : yard.waiting =
    (yard.pending.takeWhile condition).map Pending.token ++ (yard.release condition).waiting := by
  let taken := yard.pending.takeWhile condition
  let left := yard.pending.dropWhile condition
  have all_taken : taken.filter (fun entry => !entry.isBracket) = taken := by
    rw [List.filter_eq_self]
    intro entry mem
    simp [spared entry (List.all_eq_true.mp List.all_takeWhile entry mem)]
  have parts : taken ++ left = yard.pending := List.takeWhile_append_dropWhile
  have waits : (taken ++ left).filter (fun entry => !entry.isBracket) =
      taken ++ left.filter fun entry => !entry.isBracket := by
    rw [List.filter_append, all_taken]
  rw [parts] at waits
  rw [waiting, waits, List.map_append]
  rfl

theorem held_release : (yard.release condition).held.Perm yard.held := by
  let taken := yard.pending.takeWhile condition
  have before : yard.held =
      yard.output ++ (taken.map Pending.token ++ (yard.release condition).waiting) := by
    rw [← waiting_release spared]
    rfl
  have after : (yard.release condition).held =
      ((taken.map Pending.token).reverse ++ yard.output) ++ (yard.release condition).waiting := rfl
  rw [before, after, ← List.append_assoc]
  refine List.Perm.append_right _ ?_
  exact ((List.reverse_perm _).append_right _).trans List.perm_append_comm

end Release

theorem isBracket_of_yieldsTo {o : Operator σ} :
    ∀ entry, Pending.yieldsTo o entry = true → entry.isBracket = false
  | .operator _, _ => rfl
  | .function _, h => nomatch h
  | .bracket, h => nomatch h

theorem isBracket_of_not :
    ∀ entry : Pending σ, (!entry.isBracket) = true → entry.isBracket = false := by
  simp

/-- Where no bracket waits, all is released with the last group. -/
theorem pending_releaseGroup (no_bracket : yard.depth = 0) : yard.releaseGroup.pending = [] := by
  rw [releaseGroup, release, List.dropWhile_eq_nil_iff]
  intro entry mem
  simpa using List.countP_eq_zero.mp no_bracket entry mem

/-- A group is released down to its opening bracket. -/
theorem releaseGroup_cons {entry : Pending σ} {rest : List (Pending σ)}
    (h : yard.releaseGroup.pending = entry :: rest) : entry = .bracket := by
  have stopped := List.head?_dropWhile_not (fun entry : Pending σ => !entry.isBracket) yard.pending
  change yard.pending.dropWhile _ = entry :: rest at h
  rw [h] at stopped
  cases entry with
  | bracket => rfl
  | operator o => cases stopped
  | function f => cases stopped

theorem depth_releaseCall : yard.releaseCall.depth = yard.depth := by
  unfold releaseCall
  split
  · rename_i f rest front
    rw [depth, depth, front]
    rfl
  · rfl

theorem held_releaseCall : yard.releaseCall.held.Perm yard.held := by
  unfold releaseCall
  split
  · rename_i f rest front
    rw [held, held, front]
    exact List.perm_middle.symm
  · rfl

/-! ## Steps and runs -/

/-- **The brackets that wait are those that are open.** -/
theorem depth_step (yard : Yard σ) (token : Token σ) :
    (yard.step token).map depth = token.depthAfter yard.depth := by
  have group : yard.releaseGroup.depth = yard.depth := depth_release isBracket_of_not
  cases token with
  | number x => rfl
  | var name slot => rfl
  | function f => rfl
  | opening =>
    show Except.ok (yard.hold .bracket).depth = _
    rw [depth, hold, List.countP_cons]
    rfl
  | operator o =>
    show Except.ok ((yard.release (Pending.yieldsTo o)).hold (.operator o)).depth = _
    rw [depth, hold, List.countP_cons]
    exact congrArg Except.ok (depth_release isBracket_of_yieldsTo)
  | separator =>
    rw [← group, step]
    cases front : yard.releaseGroup.pending with
    | nil => simp [Token.depthAfter, depth, front, Except.map]
    | cons entry rest =>
      cases releaseGroup_cons front
      simp [Token.depthAfter, depth, front, Except.map, Pending.isBracket]
  | closing =>
    rw [← group, step]
    cases front : yard.releaseGroup.pending with
    | nil => simp [Token.depthAfter, depth, front, Except.map]
    | cons entry rest =>
      cases releaseGroup_cons front
      have counted : yard.releaseGroup.depth = rest.countP Pending.isBracket + 1 := by
        rw [depth, front, List.countP_cons]
        rfl
      rw [counted]
      exact congrArg Except.ok depth_releaseCall

theorem depth_takeIn (yard : Yard σ) (tokens : List (Token σ)) :
    (yard.takeIn tokens).map depth = depthAfter yard.depth tokens := by
  induction tokens generalizing yard with
  | nil => rfl
  | cons token rest ih =>
    rw [takeIn_cons, depthAfter_cons, ← depth_step]
    cases yard.step token with
    | error error => rfl
    | ok next => exact ih next

/-- A step adds its token to what the yard holds. -/
theorem held_step {token : Token σ} (h : yard.step token = .ok next) :
    next.held.Perm ([token].filter Token.isLasting ++ yard.held) := by
  have group : yard.releaseGroup.held.Perm yard.held := held_release isBracket_of_not
  cases token with
  | number x =>
    cases h
    rfl
  | var name slot =>
    cases h
    rfl
  | function f =>
    cases h
    exact List.perm_middle
  | opening =>
    cases h
    rfl
  | operator o =>
    cases h
    exact List.perm_middle.trans ((held_release isBracket_of_yieldsTo).cons _)
  | separator =>
    rw [step] at h
    split at h
    · cases h
    · cases h
      exact group
  | closing =>
    rw [step] at h
    split at h
    · cases h
    · rename_i entry rest front
      cases h
      refine held_releaseCall.trans (List.Perm.trans ?_ group)
      rw [held, held, front, releaseGroup_cons front]
      rfl

theorem held_takeIn {tokens : List (Token σ)} (h : yard.takeIn tokens = .ok next) :
    next.held.Perm (tokens.filter Token.isLasting ++ yard.held) := by
  induction tokens generalizing yard with
  | nil =>
    cases h
    rfl
  | cons token rest ih =>
    obtain ⟨mid, stepped, h⟩ := takeIn_cons_eq_ok.mp h
    have split_filter : (token :: rest).filter Token.isLasting =
        [token].filter Token.isLasting ++ rest.filter Token.isLasting :=
      List.filter_append [token] rest
    rw [split_filter, List.append_assoc]
    refine (ih h).trans (((held_step stepped).append_left _).trans ?_)
    rw [← List.append_assoc, ← List.append_assoc]
    exact List.perm_append_comm.append_right _

end Yard

/-! ## Conversions -/

/-- A conversion that succeeds has taken all tokens in, and no bracket waits at the end. -/
theorem toPostfix_ok {tokens output : List (Token σ)} (h : toPostfix tokens = .ok output) :
    ∃ yard, Yard.empty.takeIn tokens = .ok yard ∧ yard.depth = 0 ∧
      output = yard.releaseGroup.output.reverse := by
  unfold toPostfix at h
  cases taken : Yard.empty.takeIn tokens with
  | error error =>
    rw [taken] at h
    cases h
  | ok yard =>
    rw [taken] at h
    change yard.finish = .ok output at h
    unfold Yard.finish at h
    split at h
    · cases h
    · rename_i no_bracket
      cases h
      refine ⟨yard, rfl, ?_, rfl⟩
      rw [Yard.depth, List.countP_eq_zero]
      intro entry mem bracket
      exact no_bracket (List.any_eq_true.mpr ⟨entry, mem, bracket⟩)

/-- What the yard has taken in is converted, unless a bracket waits. -/
theorem toPostfix_of_takeIn {tokens : List (Token σ)} {yard : Yard σ}
    (taken : Yard.empty.takeIn tokens = .ok yard) (no_bracket : yard.depth = 0) :
    toPostfix tokens = .ok yard.releaseGroup.output.reverse := by
  have none_waits : yard.pending.any Pending.isBracket = false := by
    rw [List.any_eq_false]
    exact List.countP_eq_zero.mp no_bracket
  rw [toPostfix, taken]
  show yard.finish = _
  rw [Yard.finish, none_waits]
  rfl

/-- **The output of a conversion is a permutation of its tokens**, without brackets and
separators. -/
theorem toPostfix_perm {tokens output : List (Token σ)} (h : toPostfix tokens = .ok output) :
    output.Perm (tokens.filter Token.isLasting) := by
  obtain ⟨yard, taken, no_bracket, rfl⟩ := toPostfix_ok h
  have output_held : yard.releaseGroup.output = yard.releaseGroup.held := by
    simp [Yard.held, Yard.pending_releaseGroup no_bracket]
  have all_held := Yard.held_takeIn taken
  have nothing_held : Yard.empty.held = ([] : List (Token σ)) := rfl
  rw [nothing_held, List.append_nil] at all_held
  rw [output_held]
  exact (List.reverse_perm _).trans ((Yard.held_release Yard.isBracket_of_not).trans all_held)

/-- The brackets of tokens that are converted match. -/
theorem depth_of_toPostfix {tokens output : List (Token σ)} (h : toPostfix tokens = .ok output) :
    depthAfter 0 tokens = .ok 0 := by
  obtain ⟨yard, taken, no_bracket, -⟩ := toPostfix_ok h
  have counted := Yard.depth_takeIn Yard.empty tokens
  rw [taken] at counted
  exact counted.symm.trans (congrArg Except.ok no_bracket)

/-- **Tokens whose brackets match are converted**, whatever else they are. -/
theorem toPostfix_of_depth {tokens : List (Token σ)} (h : depthAfter 0 tokens = .ok 0) :
    ∃ output, toPostfix tokens = .ok output := by
  have counted := Yard.depth_takeIn Yard.empty tokens
  have start : (Yard.empty : Yard σ).depth = 0 := rfl
  rw [start, h] at counted
  cases taken : Yard.empty.takeIn tokens with
  | error error =>
    rw [taken] at counted
    cases counted
  | ok yard =>
    rw [taken] at counted
    exact ⟨_, toPostfix_of_takeIn taken (Except.ok.inj counted)⟩

end Formula
