import Formula.Proofs.Conversion.Layout
import Formula.Proofs.Conversion.Waiting

/-!
# Operators after an operand

An operator that follows its operand waits in the yard as the others do, and so it is complete only
when the next token releases it. A bracket that closes and a separator do, but **the next operator
does only if it does not bind tighter**: otherwise its own operand on the right is put out before.
So in a sentence an operator that follows its operand is put out before all that stands to its right
if and only if it precedes the operator that comes next, if one does
(`exists_postfixOrder_completes`).
-/

namespace Formula

variable {σ : Type}

/-- An operator of one operand yields to those that it precedes. -/
theorem Pending.yieldsTo_iff_precedes {o next : Operator σ} (unary : o.isUnary = true) :
    Pending.yieldsTo next (.operator o) = true ↔ o.Precedes next := by
  simp only [yieldsTo, unary, Operator.Precedes, Bool.not_true, Bool.and_false, Bool.not_false,
    Bool.true_and, Bool.or_eq_true, Bool.and_eq_true, decide_eq_true_eq]
  constructor
  · rintro (⟨left, bound⟩ | tighter)
    · rcases Int.lt_or_eq_of_le bound with tighter | alike
      · exact .inl tighter
      · exact .inr ⟨alike, left⟩
    · exact .inl tighter
  · rintro (tighter | ⟨alike, left⟩)
    · exact .inr tighter
    · exact .inl ⟨left, Int.le_of_eq alike⟩

namespace Yard

variable {yard next : Yard σ}

/-- A release starts with the latest entry. -/
theorem output_release {entry : Pending σ} {below : List (Pending σ)}
    (front : yard.pending = entry :: below) {condition : Pending σ → Bool}
    (holds : condition entry = true) :
    ∃ put, (yard.release condition).output = put ++ entry.token :: yard.output := by
  refine ⟨((below.takeWhile condition).map Pending.token).reverse, ?_⟩
  rw [release, front, List.takeWhile_cons_of_pos holds]
  simp

/-- What is taken in next puts the latest operator out before all else, unless it starts an operand
or is an operator that the latest one does not yield to. -/
theorem output_step {o : Operator σ} {below : List (Pending σ)}
    (front : yard.pending = .operator o :: below) {token : Token σ}
    (starts : token.startsOperand = false)
    (yields : ∀ p, token = .operator p → Pending.yieldsTo p (.operator o) = true)
    (stepped : yard.step token = .ok next) :
    ∃ put, next.output = put ++ .operator o :: yard.output := by
  have group : ∃ put, yard.releaseGroup.output = put ++ .operator o :: yard.output :=
    output_release front rfl
  cases token with
  | operator p =>
    cases stepped
    exact output_release front (yields p rfl)
  | separator =>
    rw [step] at stepped
    split at stepped
    · cases stepped
    · cases stepped
      exact group
  | closing =>
    rw [step] at stepped
    split at stepped
    · cases stepped
    · rename_i entry rest _
      cases stepped
      obtain ⟨put, put_out⟩ := group
      let left : Yard σ := { yard.releaseGroup with pending := rest }
      obtain ⟨call, called, -⟩ : left.Continues left.releaseCall := releaseCall_continues
      refine ⟨call.reverse ++ put, ?_⟩
      rw [called, List.append_assoc]
      exact congrArg _ put_out
  | _ => cases starts

/-- An operator is the latest entry right after it has been read. -/
theorem pending_takeIn_operator {front : List (Token σ)} {o : Operator σ}
    (taken : Yard.empty.takeIn (marked 0 (front ++ [.operator o])) = .ok yard) :
    ∃ below, yard.pending = .operator (o.marked front.length) :: below := by
  rw [marked_append, Nat.zero_add] at taken
  obtain ⟨before, -, taken⟩ := takeIn_append_eq_ok.mp taken
  obtain ⟨_, held, none_left⟩ := takeIn_cons_eq_ok.mp taken
  cases none_left
  cases held
  exact ⟨_, rfl⟩

end Yard

namespace PostfixOrder

variable {front back : List (Token σ)} {o : Operator σ} {order : List Nat}

/-- The order from the states on right after an operator and the token that comes next. -/
theorem split_next {next : Token σ}
    (h : PostfixOrder (front ++ .operator o :: next :: back) order) :
    ∃ yard below after rest,
      Yard.empty.takeIn (Formula.marked 0 (front ++ [.operator o])) = .ok yard ∧
      yard.pending = .operator (o.marked front.length) :: below ∧
      yard.step (next.marked (front.length + 1)) = .ok after ∧
      order = after.output.reverse.map Token.place ++ rest ∧
      (after.waiting.map Token.place).Sublist rest := by
  have parts : front ++ .operator o :: next :: back =
      (front ++ [.operator o]) ++ [next] ++ back := by simp
  rw [parts] at h
  obtain ⟨after, rest, taken, places, waits⟩ := h.split
  rw [marked_append, Nat.zero_add] at taken
  obtain ⟨yard, read, taken⟩ := Yard.takeIn_append_eq_ok.mp taken
  obtain ⟨_, stepped, none_left⟩ := Yard.takeIn_cons_eq_ok.mp taken
  cases none_left
  rw [List.length_append] at stepped
  obtain ⟨below, latest⟩ := Yard.pending_takeIn_operator read
  exact ⟨yard, below, after, rest, read, latest, stepped, places, waits⟩

/-- An operator that is the latest entry and does not yield to the next one is put out after it. -/
theorem next_first {next : Operator σ}
    (h : PostfixOrder (front ++ .operator o :: .operator next :: back) order)
    (stays : Pending.yieldsTo next (.operator o) = false) :
    [front.length + 1, front.length].Sublist order := by
  obtain ⟨yard, below, after, rest, -, latest, stepped, rfl, waits⟩ := h.split_next
  obtain ⟨output, pending⟩ := yard
  cases latest
  have quiet : Yard.step ⟨output, .operator (o.marked front.length) :: below⟩
      (.operator (next.marked (front.length + 1))) = _ :=
    Yard.step_operator_quiet (by rintro entry ⟨⟩; exact stays)
  cases quiet.symm.trans stepped
  have places : [front.length + 1, front.length] =
      [Token.operator (next.marked (front.length + 1)), .operator (o.marked front.length)].map
        Token.place := by
    simp
  rw [places]
  refine List.Sublist.trans (List.Sublist.map _ ?_) (waits.trans (List.sublist_append_right _ _))
  exact ((List.nil_sublist _).cons_cons _).cons_cons _

/-- An operator is put out before all that stands to its right, if the next token starts no operand
and the operator yields to it. -/
theorem operator_first (h : PostfixOrder (front ++ .operator o :: back) order)
    (starts : ∀ token ∈ back.head?, token.startsOperand = false)
    (yields : ∀ p, back.head? = some (.operator p) → Pending.yieldsTo p (.operator o) = true)
    {k : Nat} (right : front.length < k) : ¬ [k, front.length].Sublist order := by
  intro first
  have put_out : k ∈ order := first.subset List.mem_cons_self
  cases back with
  | nil =>
    obtain ⟨token, here, -⟩ := h.mem_iff.mp put_out
    have bound := (List.getElem?_eq_some_iff.mp here).1
    simp only [List.length_append, List.length_cons, List.length_nil] at bound
    omega
  | cons next back =>
    obtain ⟨yard, below, after, rest, read, latest, stepped, places, -⟩ := h.split_next
    have starts_not : (next.marked (front.length + 1)).startsOperand = false := by
      have here := starts next rfl
      cases next <;> first | rfl | cases here
    have yields_next : ∀ p, next.marked (front.length + 1) = .operator p →
        Pending.yieldsTo p (.operator (o.marked front.length)) = true := by
      intro p same
      cases next with
      | operator q =>
        cases same
        exact yields q rfl
      | _ => cases same
    obtain ⟨put, put_out_first⟩ := Yard.output_step latest starts_not yields_next stepped
    have around : order = yard.output.reverse.map Token.place ++
        front.length :: (put.reverse.map Token.place ++ rest) := by
      rw [places, put_out_first]
      simp
    rw [around, List.mem_append, List.mem_cons] at put_out
    rcases put_out with earlier | same | later
    · obtain ⟨token, mem, rfl⟩ := List.mem_map.mp earlier
      have held : token ∈ yard.held := List.mem_append_left _ (List.mem_reverse.mp mem)
      have bound := Yard.place_of_held read held
      simp only [List.length_append, List.length_cons, List.length_nil] at bound
      omega
    · omega
    · refine h.asymm ?_ first
      rw [around]
      refine List.Sublist.trans ?_ (List.sublist_append_right _ _)
      exact (List.singleton_sublist.mpr later).cons_cons _

end PostfixOrder

/-- **An operator completes the operand on its left if and only if it precedes the next operator.**
In a sentence, all that is put out before an operator that follows its operand stands to its left,
unless the next token is an operator that it does not precede. -/
theorem exists_postfixOrder_completes {tokens : List (Token σ)} (sentence : Sentence tokens) :
    ∃ order, PostfixOrder tokens order ∧
      ∀ front o back, tokens = front ++ .operator o :: back → o.followsOperand = true →
        ((∀ k, front.length < k → ¬ [k, front.length].Sublist order) ↔
          ∀ next, back.head? = some (.operator next) → o.Precedes next) := by
  obtain ⟨output, converted⟩ := toPostfix_of_depth (Phrase.content sentence |>.depth_eq (.inl rfl))
  obtain ⟨order, placed⟩ := exists_postfixOrder converted
  refine ⟨order, placed, ?_⟩
  rintro front o back rfl follows
  have unary : o.isUnary = true := Operator.isUnary_of_followsOperand follows
  constructor
  · intro first next here
    obtain ⟨back, rfl⟩ : ∃ rest, back = .operator next :: rest := by
      cases back with
      | nil => cases here
      | cons token rest =>
        cases here
        exact ⟨rest, rfl⟩
    rw [← Pending.yieldsTo_iff_precedes unary]
    by_contra stays
    rw [Bool.not_eq_true] at stays
    exact first _ (Nat.lt_succ_self _) (placed.next_first stays)
  · intro precedes k right
    have complete : (Token.operator o).awaitsOperand = false := by
      rw [Token.awaitsOperand, follows]
      rfl
    refine placed.operator_first (fun token here => ?_) (fun p here => ?_) right
    · have apart := (Phrase.apart sentence).right_of_append
      cases back with
      | nil => cases here
      | cons next rest =>
        cases here
        by_contra starts
        rw [Bool.not_eq_false] at starts
        have awaits := (List.isChain_cons_cons.mp apart).1 (.inl starts)
        rw [complete] at awaits
        cases awaits
    · rw [Pending.yieldsTo_iff_precedes unary]
      exact precedes p here

/-- In `x! * x`, with an operator that precedes the product sign, the second variable is put out
after it. -/
theorem exists_postfixOrder_completes_product :
    let x : Token Unit := .var "x" 0
    let factorial : Operator Unit := ⟨"!", 1, true, 10001, Rule.ofFunction fun _ => .ok 0⟩
    let tokens := [x, .operator factorial, .operator .times, x]
    Sentence tokens ∧ ∃ order, PostfixOrder tokens order ∧
      ∀ k, 1 < k → ¬ [k, 1].Sublist order := by
  intro x factorial tokens
  have sentence : Sentence tokens := by
    have left : Phrase Exactly .operand [x, .operator factorial] :=
      .after (.plain (.var "x" 0)) rfl
    exact .between left rfl (.single (.plain (.var "x" 0)))
  obtain ⟨order, placed, completes⟩ := exists_postfixOrder_completes sentence
  refine ⟨sentence, order, placed, (completes [x] factorial _ rfl rfl).mpr ?_⟩
  rintro next ⟨⟩
  exact .inl (by decide)

/-- **A token on its right may be put out before an operator that follows its operand**: in
`3! * 2`, with an operator that does not precede the product sign, both other tokens are. -/
theorem product_put_out_before_factorial :
    let factorial : Operator Unit := ⟨"!", 1, true, 1, Rule.ofFunction fun _ => .ok 0⟩
    let tokens : List (Token Unit) :=
      [.number 3, .operator factorial, .operator .times, .number 2]
    Sentence tokens ∧ factorial.followsOperand = true ∧
      toPostfix tokens = .ok [.number 3, .number 2, .operator .times, .operator factorial] ∧
      PostfixOrder tokens [0, 3, 2, 1] ∧ [3, 1].Sublist [0, 3, 2, 1] := by
  intro factorial tokens
  refine ⟨?_, rfl, rfl, postfixOrder_iff.mpr ?_, by decide⟩
  · have left : Phrase Exactly .operand [.number 3, .operator factorial] :=
      .after (.plain (.number 3)) rfl
    exact .between left rfl (.single (.plain (.number 2)))
  · subst tokens factorial
    cbv

end Formula
