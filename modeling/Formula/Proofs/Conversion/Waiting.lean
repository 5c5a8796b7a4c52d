import Formula.Proofs.Conversion.Order
import Formula.Proofs.Grammar.Surplus

/-!
# What waits

The latest entry of a yard leaves it first. So what waits in a yard is put out in the order in which
it waits, whatever else is put out in between (`Yard.Continues`), and what a conversion puts out
from a state on has all that waits there as a sublist (`toPostfix_split`).

Balanced tokens do not touch what waits below a bracket that is open before them
(`Yard.floored_of_content`), and a primary leaves all that waits as it is
(`Yard.pending_primary`).
-/

namespace Formula

variable {σ : Type}

namespace Yard

variable {yard next final : Yard σ}

/-- **One state comes before another**: what is put out in between has the tokens that wait in
order, as far as they wait no more. -/
def Continues (yard next : Yard σ) : Prop :=
  ∃ put, next.output = put.reverse ++ yard.output ∧ yard.waiting.Sublist (put ++ next.waiting)

theorem Continues.refl (yard : Yard σ) : yard.Continues yard :=
  ⟨[], rfl, .refl _⟩

theorem Continues.trans (first : yard.Continues next) (second : next.Continues final) :
    yard.Continues final := by
  obtain ⟨put, output, waits⟩ := first
  obtain ⟨put', output', waits'⟩ := second
  refine ⟨put ++ put', by rw [output', output, List.reverse_append, List.append_assoc], ?_⟩
  rw [List.append_assoc]
  exact waits.trans (waits'.append_left put)

theorem release_continues {condition : Pending σ → Bool}
    (spared : ∀ entry, condition entry = true → entry.isBracket = false) :
    yard.Continues (yard.release condition) := by
  refine ⟨(yard.pending.takeWhile condition).map Pending.token, rfl, ?_⟩
  rw [waiting_release spared]

theorem hold_continues (entry : Pending σ) : yard.Continues (yard.hold entry) := by
  refine ⟨[], rfl, ?_⟩
  exact ((List.sublist_cons_self entry yard.pending).filter _).map _

theorem releaseCall_continues : yard.Continues yard.releaseCall := by
  unfold releaseCall
  split
  · rename_i f rest front
    refine ⟨[.function f], rfl, ?_⟩
    rw [waiting, front]
    exact .refl _
  · exact .refl yard

/-- A step puts out the latest entries, or its own token. -/
theorem step_continues {yard next : Yard σ} {token : Token σ} (h : yard.step token = .ok next) :
    yard.Continues next := by
  have group : yard.Continues yard.releaseGroup := release_continues isBracket_of_not
  cases token with
  | number x =>
    cases h
    exact ⟨[.number x], rfl, List.sublist_cons_self _ _⟩
  | var name slot =>
    cases h
    exact ⟨[.var name slot], rfl, List.sublist_cons_self _ _⟩
  | function f =>
    cases h
    exact hold_continues _
  | opening =>
    cases h
    exact hold_continues _
  | operator o =>
    cases h
    exact (release_continues isBracket_of_yieldsTo).trans (hold_continues _)
  | separator =>
    rw [step] at h
    split at h
    · cases h
    · cases h
      exact group
  | closing =>
    rw [step] at h
    split at h
    · cases h
    · rename_i entry rest front
      cases h
      refine group.trans (Continues.trans ?_ releaseCall_continues)
      refine ⟨[], rfl, ?_⟩
      rw [waiting, front, releaseGroup_cons front]
      exact .refl _

/-- **What waits is put out in order**, whatever is taken in. -/
theorem takeIn_continues {yard next : Yard σ} {tokens : List (Token σ)}
    (h : yard.takeIn tokens = .ok next) : yard.Continues next := by
  induction tokens generalizing yard with
  | nil =>
    cases h
    exact .refl _
  | cons token rest ih =>
    obtain ⟨mid, stepped, h⟩ := takeIn_cons_eq_ok.mp h
    exact (step_continues stepped).trans (ih h)

/-! ## Balanced tokens -/

/-- Tokens that leave what waits below an open bracket as it is. -/
def Floored (tokens : List (Token σ)) : Prop :=
  ∀ (yard next : Yard σ) (below : List (Pending σ)), yard.releaseGroup.pending = .bracket :: below →
    yard.takeIn tokens = .ok next → next.releaseGroup.pending = .bracket :: below

/-- An operator releases part of a group at most. -/
theorem releaseGroup_operator (yard : Yard σ) (o : Operator σ) :
    ((yard.release (Pending.yieldsTo o)).hold (.operator o)).releaseGroup.pending =
      yard.releaseGroup.pending := by
  show (Pending.operator o :: yard.pending.dropWhile (Pending.yieldsTo o)).dropWhile
      (fun entry => !entry.isBracket) = yard.pending.dropWhile fun entry => !entry.isBracket
  rw [List.dropWhile_cons_of_pos rfl]
  induction yard.pending with
  | nil => rfl
  | cons entry rest ih =>
    cases yields : Pending.yieldsTo o entry with
    | true =>
      have no_bracket := isBracket_of_yieldsTo entry yields
      rw [List.dropWhile_cons_of_pos yields, ih, List.dropWhile_cons, no_bracket]
      rfl
    | false => rw [List.dropWhile_cons_of_neg (by simp [yields])]

/-- Putting a call out takes it off its group. -/
theorem releaseGroup_releaseCall (yard : Yard σ) :
    yard.releaseCall.releaseGroup.pending = yard.releaseGroup.pending := by
  unfold releaseCall
  split
  · rename_i f rest front
    rw [releaseGroup, releaseGroup, release, release, front, List.dropWhile_cons_of_pos rfl]
  · rfl

/-- A closing bracket takes the open one off, and the function that is called with it. -/
theorem step_closing_group {below : List (Pending σ)}
    (group : yard.releaseGroup.pending = .bracket :: below) :
    yard.step .closing = .ok (releaseCall ⟨yard.releaseGroup.output, below⟩) := by
  rw [step]
  simp only [group]

/-- A separator puts out what waits in its group. -/
theorem step_separator_group {below : List (Pending σ)}
    (group : yard.releaseGroup.pending = .bracket :: below) :
    yard.step .separator = .ok yard.releaseGroup := by
  rw [step]
  simp only [group, List.isEmpty_cons]
  rfl

/-- Floored tokens in brackets leave all that waits before them as it is, but for a call. -/
theorem takeIn_brackets {inner rest : List (Token σ)} (floored : Floored inner)
    (taken : yard.takeIn (.opening :: (inner ++ .closing :: rest)) = .ok final) :
    ∃ output, (releaseCall ⟨output, yard.pending⟩).takeIn rest = .ok final := by
  obtain ⟨inside, opened, taken⟩ := takeIn_cons_eq_ok.mp taken
  cases opened
  obtain ⟨filled, read, taken⟩ := takeIn_append_eq_ok.mp taken
  obtain ⟨closed, stepped, taken⟩ := takeIn_cons_eq_ok.mp taken
  have group : filled.releaseGroup.pending = .bracket :: yard.pending :=
    floored _ _ _ rfl read
  rw [step_closing_group group] at stepped
  cases stepped
  exact ⟨_, taken⟩

/-- **What is balanced is floored.** -/
theorem floored_of_content {admits : Option (Function σ) → Nat → List (Token σ) → Prop} {n : Nat}
    {tokens : List (Token σ)} (content : Content admits n tokens) : Floored tokens := by
  induction content with
  | nil =>
    intro yard next below front taken
    cases taken
    exact front
  | @plain token n tokens kind _ ih =>
    intro yard next below front taken
    obtain ⟨mid, stepped, taken⟩ := takeIn_cons_eq_ok.mp taken
    refine ih mid next below ?_ taken
    cases token with
    | number x =>
      cases stepped
      exact front
    | var name slot =>
      cases stepped
      exact front
    | operator o =>
      cases stepped
      rw [releaseGroup_operator, front]
    | _ => cases kind
  | separator _ ih =>
    intro yard next below front taken
    obtain ⟨mid, stepped, taken⟩ := takeIn_cons_eq_ok.mp taken
    refine ih mid next below ?_ taken
    rw [step_separator_group front] at stepped
    cases stepped
    show yard.releaseGroup.pending.dropWhile _ = _
    rw [front]
    rfl
  | group _ _ _ ih_inner ih =>
    intro yard next below front taken
    obtain ⟨output, taken⟩ := takeIn_brackets ih_inner taken
    refine ih _ next below ?_ taken
    rw [releaseGroup_releaseCall]
    exact front
  | @call f k n inner tokens _ _ _ ih_inner ih =>
    intro yard next below front taken
    obtain ⟨mid, held, taken⟩ := takeIn_cons_eq_ok.mp taken
    cases held
    obtain ⟨output, taken⟩ := takeIn_brackets ih_inner taken
    refine ih _ next below ?_ taken
    exact front

/-- **A primary leaves what waits as it is.** -/
theorem pending_primary {tokens : List (Token σ)} (h : Phrase Exactly .primary tokens)
    (notCall : ∀ f, yard.pending.head? ≠ some (.function f))
    (taken : yard.takeIn tokens = .ok next) : next.pending = yard.pending := by
  cases h with
  | number x =>
    cases taken
    rfl
  | var name slot =>
    cases taken
    rfl
  | group content =>
    obtain ⟨output, closed⟩ := takeIn_brackets (floored_of_content content.content) taken
    rw [releaseCall_of_notCall notCall] at closed
    cases closed
    rfl
  | call _ list =>
    obtain ⟨mid, held, taken⟩ := takeIn_cons_eq_ok.mp taken
    cases held
    obtain ⟨output, closed⟩ := takeIn_brackets (floored_of_content list.content) taken
    cases closed
    rfl

end Yard

/-- **A conversion from a state on**: the output so far, and then tokens among which all that waits
comes in order. -/
theorem toPostfix_split {front back output : List (Token σ)}
    (h : toPostfix (front ++ back) = .ok output) :
    ∃ yard rest, Yard.empty.takeIn front = .ok yard ∧ output = yard.output.reverse ++ rest ∧
      yard.waiting.Sublist rest := by
  obtain ⟨final, taken, no_bracket, rfl⟩ := toPostfix_ok h
  obtain ⟨yard, read, taken⟩ := Yard.takeIn_append_eq_ok.mp taken
  have released : final.Continues final.releaseGroup :=
    Yard.release_continues Yard.isBracket_of_not
  obtain ⟨put, put_out, waits⟩ := (Yard.takeIn_continues taken).trans released
  have none_waits : final.releaseGroup.waiting = [] := by
    rw [Yard.waiting, Yard.pending_releaseGroup no_bracket]
    rfl
  refine ⟨yard, put, read, by rw [put_out]; simp, ?_⟩
  rwa [none_waits, List.append_nil] at waits

/-! ## Places -/

/-- What the yard holds of marked tokens carries their places. -/
theorem Yard.place_of_held {tokens : List (Token σ)} {yard : Yard σ}
    (taken : Yard.empty.takeIn (marked 0 tokens) = .ok yard) {token : Token σ}
    (mem : token ∈ yard.held) : token.place < tokens.length := by
  have held := Yard.held_takeIn taken
  have nothing_held : Yard.empty.held = ([] : List (Token σ)) := rfl
  rw [nothing_held, List.append_nil] at held
  obtain ⟨mem, lasting⟩ := List.mem_filter.mp (held.mem_iff.mp mem)
  have bound := (place_of_mem_marked mem lasting).2
  omega

/-- **An order from a state on**: the places that are put out so far, and then places among which
those of all that waits come in order. -/
theorem PostfixOrder.split {front back : List (Token σ)} {order : List Nat}
    (h : PostfixOrder (front ++ back) order) :
    ∃ yard rest, Yard.empty.takeIn (Formula.marked 0 front) = .ok yard ∧
      order = yard.output.reverse.map Token.place ++ rest ∧
      (yard.waiting.map Token.place).Sublist rest := by
  obtain ⟨output, converted, rfl⟩ := h.marked
  rw [marked_append] at converted
  obtain ⟨yard, rest, taken, rfl, waits⟩ := toPostfix_split converted
  exact ⟨yard, rest.map Token.place, taken, List.map_append, waits.map Token.place⟩

/-- What is put out so far and what waits have their places in the order in which they are held. -/
theorem PostfixOrder.held_in_order {front back : List (Token σ)} {order : List Nat}
    (h : PostfixOrder (front ++ back) order) :
    ∃ yard, Yard.empty.takeIn (Formula.marked 0 front) = .ok yard ∧
      ((yard.output.reverse ++ yard.waiting).map Token.place).Sublist order := by
  obtain ⟨yard, rest, taken, rfl, waits⟩ := h.split
  refine ⟨yard, taken, ?_⟩
  rw [List.map_append]
  exact waits.append_left _

end Formula
