import Formula.Proofs.Conversion.Heights

/-!
# Operators before an operand

An operator before an operand is complete when its operand is, but it may leave the yard earlier:
**another operator before an operand releases it if that one binds less tightly**, as in `- ~ x`
where `~` does. All operators of a kind that have the same precedence keep to the rule that each is
put out after its operand.

So every sentence is converted, but the program may fail the check, and it may mean something else
where it does not: the operator is then applied to a value that stands to its left
(`exists_toPostfix_operands`).
-/

namespace Formula

variable {σ : Type}

/-! ## What a phrase is made of -/

namespace Phrase

variable {category : Category} {tokens : List (Token σ)}

/-- All operators of a phrase take one or two operands. -/
theorem arity_of_operator {takes : Function σ → Nat → Prop} (h : Phrase takes category tokens)
    {o : Operator σ} (mem : .operator o ∈ tokens) : o.arity = 1 ∨ o.arity = 2 := by
  induction h with
  | single _ ih => exact ih mem
  | between _ kind _ first rest =>
    rcases List.mem_append.mp mem with left | right
    · exact first left
    · rcases List.mem_cons.mp right with here | right
      · cases here
        exact .inr (Operator.arity_of_standsBetween kind)
      · exact rest right
  | plain _ ih => exact ih mem
  | before kind _ ih =>
    rcases List.mem_cons.mp mem with here | later
    · cases here
      exact .inl (Operator.arity_of_isUnary (Operator.isUnary_of_precedesOperand kind))
    · exact ih later
  | after _ kind ih =>
    rcases List.mem_append.mp mem with earlier | here
    · exact ih earlier
    · cases List.mem_singleton.mp here
      exact .inl (Operator.arity_of_isUnary (Operator.isUnary_of_followsOperand kind))
  | number x => simp at mem
  | var name slot => simp at mem
  | group _ ih => exact ih (by simpa using mem)
  | call _ _ ih => exact ih (by simpa using mem)
  | none => cases mem
  | one _ ih => exact ih mem
  | more _ _ first rest =>
    rcases List.mem_append.mp mem with left | right
    · exact first left
    · exact rest (by simpa using right)

/-- A phrase has a token for each of its values. -/
theorem values_le {takes : Function σ → Nat → Prop} (h : Phrase takes category tokens) :
    category.values ≤ tokens.length := by
  induction h with
  | more _ _ first rest =>
    simp only [Category.values, List.length_append, List.length_cons] at first rest ⊢
    omega
  | single _ ih => exact ih
  | plain _ ih => exact ih
  | one _ ih => exact ih
  | _ =>
    simp only [Category.values, List.length_append, List.length_cons, List.length_nil] at *
    omega

/-- No function of a phrase takes more arguments than there are tokens. -/
theorem arity_le (h : Phrase Exactly category tokens) {f : Function σ}
    (mem : .function f ∈ tokens) : f.arity ≤ tokens.length := by
  induction h with
  | single _ ih => exact ih mem
  | between _ _ _ first rest =>
    rw [List.length_append, List.length_cons]
    rcases List.mem_append.mp mem with left | right
    · have bound := first left
      omega
    · have bound := rest (by simpa using right)
      omega
  | plain _ ih => exact ih mem
  | before _ _ ih =>
    have bound := ih (by simpa using mem)
    exact Nat.le_succ_of_le bound
  | after _ _ ih =>
    have bound := ih (by simpa using mem)
    rw [List.length_append]
    omega
  | number x => simp at mem
  | var name slot => simp at mem
  | group _ ih =>
    have bound := ih (by simpa using mem)
    simp only [List.length_append, List.length_cons, List.length_nil]
    omega
  | @call g n inner number list ih =>
    simp only [List.length_append, List.length_cons, List.length_nil]
    have arity : n = g.arity := number
    have values := list.values_le
    simp only [Category.values] at values
    rcases List.mem_cons.mp mem with here | later
    · cases here
      omega
    · have bound := ih (by simpa using later)
      omega
  | none => cases mem
  | one _ ih => exact ih mem
  | more _ _ first rest =>
    rw [List.length_append, List.length_cons]
    rcases List.mem_append.mp mem with left | right
    · have bound := first left
      omega
    · have bound := rest (by simpa using right)
      omega

/-- The check can count the tokens of a phrase that is not too long. -/
theorem countable (h : Phrase Exactly category tokens) (short : tokens.length < 2 ^ 63) :
    ∀ token ∈ tokens, token.Countable := by
  intro token mem
  cases token with
  | operator o => exact h.arity_of_operator mem
  | function f => exact Nat.lt_of_le_of_lt (h.arity_le mem) short
  | _ => trivial

end Phrase

/-! ## Operators that are kept, and operators that are released -/

namespace Yard

variable {yard next : Yard σ} {o : Operator σ} {below : List (Pending σ)}

/-- Operators before an operand that bind at least as tightly as another one. -/
def Over (o : Operator σ) (operators : List (Operator σ)) : Prop :=
  ∀ p ∈ operators, p.precedesOperand = true ∧ o.precedence ≤ p.precedence

/-- They leave that one where it waits, and no other operators wait above it. -/
theorem takeIn_over {chain : List (Token σ)}
    (later : ∀ token ∈ chain, ∃ p, token = .operator p ∧ p.precedesOperand = true ∧
      o.precedence ≤ p.precedence)
    {higher : List (Operator σ)} (above : Over o higher)
    (front : yard.pending = higher.map .operator ++ .operator o :: below)
    (taken : yard.takeIn chain = .ok next) :
    ∃ higher, Over o higher ∧ next.pending = higher.map .operator ++ .operator o :: below := by
  induction chain generalizing yard higher with
  | nil =>
    cases taken
    exact ⟨higher, above, front⟩
  | cons token rest ih =>
    obtain ⟨mid, stepped, taken⟩ := takeIn_cons_eq_ok.mp taken
    obtain ⟨p, rfl, kind, tight⟩ := later token List.mem_cons_self
    obtain ⟨output, pending⟩ := yard
    obtain rfl : pending = higher.map .operator ++ .operator o :: below := front
    have stop : ∀ entry ∈ (Pending.operator o :: below).head?,
        Pending.yieldsTo p entry = false := by
      rintro entry ⟨⟩
      exact Pending.yieldsTo_of_bides kind tight
    obtain ⟨released, left, rfl, -, after⟩ := exists_release output higher stop
    rw [step, after] at stepped
    cases stepped
    have above : Over o (p :: left) := by
      intro q mem
      rcases List.mem_cons.mp mem with rfl | mem
      · exact ⟨kind, tight⟩
      · exact above q (List.mem_append_right _ mem)
    exact ih (fun token mem => later token (List.mem_cons_of_mem _ mem)) above rfl taken

/-- **An operator before an operand releases all of these, and the one below, if it binds less
tightly.** -/
theorem output_of_tighter {higher : List (Operator σ)} (above : Over o higher)
    (unary : o.isUnary = true) {p : Operator σ}
    (front : yard.pending = higher.map .operator ++ .operator o :: below)
    (kind : p.precedesOperand = true) (tighter : p.precedence < o.precedence)
    (stepped : yard.step (.operator p) = .ok next) : .operator o ∈ next.output := by
  have all : ∀ entry ∈ higher.map Pending.operator ++ [.operator o],
      Pending.yieldsTo p entry = true := by
    intro entry mem
    rcases List.mem_append.mp mem with high | last
    · obtain ⟨q, waits, rfl⟩ := List.mem_map.mp high
      obtain ⟨first, tight⟩ := above q waits
      rw [Pending.yieldsTo_iff_tighter (Operator.isUnary_of_precedesOperand first) kind]
      omega
    · cases List.mem_singleton.mp last
      exact (Pending.yieldsTo_iff_tighter unary kind).mpr tighter
  cases stepped
  show Token.operator o ∈
    ((yard.pending.takeWhile (Pending.yieldsTo p)).map Pending.token).reverse ++ yard.output
  rw [front, List.append_cons, List.takeWhile_append_of_pos all]
  simp [Pending.token]

/-- After an operand that such operators stand before, all of it is put out or waits above. -/
theorem takeIn_operand {chain primary : List (Token σ)}
    (later : ∀ token ∈ chain, ∃ p, token = .operator p ∧ p.precedesOperand = true ∧
      o.precedence ≤ p.precedence)
    (operand : Phrase Exactly .primary primary) (front : yard.pending = .operator o :: below)
    (taken : yard.takeIn (chain ++ primary) = .ok next) :
    ∃ above rest, next.waiting = above ++ .operator o :: rest ∧
      ∀ token ∈ chain ++ primary, token.isLasting = true →
        token ∈ next.output.reverse ++ above := by
  have held := held_takeIn taken
  obtain ⟨mid, read, taken⟩ := takeIn_append_eq_ok.mp taken
  have none_above : Over o ([] : List (Operator σ)) := List.forall_mem_nil _
  obtain ⟨higher, -, mid_pending⟩ := takeIn_over later none_above front read
  have notCall : ∀ f, mid.pending.head? ≠ some (.function f) := by
    intro f latest
    rw [mid_pending] at latest
    cases higher <;> cases latest
  have pending : next.pending = higher.map .operator ++ .operator o :: below :=
    (pending_primary operand notCall taken).trans mid_pending
  let rest := (below.filter fun entry => !entry.isBracket).map Pending.token
  have all_held : (higher.map Pending.operator).filter (fun entry => !entry.isBracket) =
      higher.map .operator := by
    rw [List.filter_eq_self]
    simp [Pending.isBracket]
  have waits : next.waiting = higher.map Token.operator ++ .operator o :: rest := by
    rw [waiting, pending, List.filter_append, all_held, List.map_append, List.map_map]
    rfl
  have waited : yard.waiting = .operator o :: rest := by
    rw [waiting, front]
    rfl
  refine ⟨higher.map Token.operator, rest, waits, fun token mem lasting => ?_⟩
  have sides : (next.output ++ higher.map Token.operator ++ .operator o :: rest).Perm
      ((chain ++ primary).filter Token.isLasting ++ yard.output ++ .operator o :: rest) := by
    rw [List.append_assoc, List.append_assoc, ← waits, ← waited]
    exact held
  have put_out := (List.perm_append_right_iff _).mp sides
  have here := put_out.mem_iff.mpr
    (List.mem_append_left _ (List.mem_filter.mpr ⟨mem, lasting⟩))
  rw [List.mem_append] at here ⊢
  rwa [List.mem_reverse]

end Yard

/-- The first operator of a chain that binds less tightly than another one. -/
theorem exists_first_tighter {o p : Operator σ} {chain : List (Token σ)}
    (mem : .operator p ∈ chain) (tighter : p.precedence < o.precedence) :
    ∃ kept q later, chain = kept ++ .operator q :: later ∧ q.precedence < o.precedence ∧
      ∀ r, .operator r ∈ kept → o.precedence ≤ r.precedence := by
  induction chain with
  | nil => cases mem
  | cons token rest ih =>
    by_cases here : ∃ q, token = .operator q ∧ q.precedence < o.precedence
    · obtain ⟨q, rfl, less⟩ := here
      exact ⟨[], q, rest, rfl, less, nofun⟩
    · have later : .operator p ∈ rest := by
        rcases List.mem_cons.mp mem with first | later
        · exact absurd ⟨p, first.symm, tighter⟩ here
        · exact later
      obtain ⟨kept, q, more, rfl, less, tight⟩ := ih later
      refine ⟨token :: kept, q, more, rfl, less, fun r mem => ?_⟩
      rcases List.mem_cons.mp mem with first | earlier
      · by_contra not_tight
        exact here ⟨r, first.symm, Int.not_le.mp not_tight⟩
      · exact tight r earlier

namespace PostfixOrder

variable {front chain primary back : List (Token σ)} {o : Operator σ} {order : List Nat}

/-- The operators of a chain, marked. -/
theorem exists_of_mem_marked_chain {start k : Nat}
    (before : ∀ token ∈ chain, token.precedesOperand = true)
    (tight : ∀ p, .operator p ∈ chain → o.precedence ≤ p.precedence) :
    ∀ token ∈ Formula.marked start chain, ∃ p, token = .operator p ∧ p.precedesOperand = true ∧
      (o.marked k).precedence ≤ p.precedence := by
  intro token mem
  obtain ⟨original, source, place, rfl⟩ := exists_of_mem_marked mem
  have kind := before original source
  cases original with
  | operator p => exact ⟨p.marked place, rfl, kind, tight p source⟩
  | _ => cases kind

/-- **An operator is put out after its operand**, if none of the operators between the two binds
less tightly. -/
theorem operand_first (h : PostfixOrder (front ++ .operator o :: (chain ++ primary ++ back)) order)
    (before : ∀ token ∈ chain, token.precedesOperand = true)
    (operand : Phrase Exactly .primary primary)
    (tight : ∀ p, .operator p ∈ chain → o.precedence ≤ p.precedence) {k : Nat}
    (right : front.length < k) (within : k ≤ front.length + chain.length + primary.length) :
    ¬ [front.length, k].Sublist order := by
  intro first
  have parts : front ++ .operator o :: (chain ++ primary ++ back) =
      (front ++ [.operator o]) ++ (chain ++ primary) ++ back := by simp
  rw [parts] at h
  obtain ⟨next, taken, kept⟩ := h.held_in_order
  rw [marked_append, Nat.zero_add] at taken
  obtain ⟨start, read, taken⟩ := Yard.takeIn_append_eq_ok.mp taken
  obtain ⟨below, latest⟩ := Yard.pending_takeIn_operator read
  rw [marked_append] at taken
  obtain ⟨above, lower, waiting, held⟩ := Yard.takeIn_operand
    (exists_of_mem_marked_chain before tight) (operand.marked _) latest taken
  rw [← marked_append] at held
  -- The token at the place `k` is put out, or waits above the operator.
  obtain ⟨token, at_k, lasting⟩ := h.mem_iff.mp (first.subset (by simp) : k ∈ order)
  have after_operator : (front ++ [Token.operator o]).length ≤ k := by
    rw [List.length_append, List.length_singleton]
    exact right
  have before_end : k < (front ++ [Token.operator o] ++ (chain ++ primary)).length := by
    simp only [List.length_append, List.length_singleton]
    omega
  have mark := mem_marked_middle at_k after_operator before_end
  have mark_lasting : (token.marked k).isLasting = true := by rwa [Token.isLasting_marked]
  have before_operator : [token.marked k, .operator (o.marked front.length)].Sublist
      (next.output.reverse ++ next.waiting) := by
    rw [waiting, ← List.append_assoc]
    refine (List.singleton_sublist.mpr (held _ mark mark_lasting)).append ?_
    exact (List.nil_sublist lower).cons_cons _
  have in_order := (before_operator.map Token.place).trans kept
  rw [List.map_cons, List.map_cons, List.map_nil, Token.place_marked lasting,
    Token.place_operator_marked] at in_order
  exact h.asymm in_order first

/-- An operator is put out before another one that stands between it and its operand, and binds less
tightly. -/
theorem tighter_first (h : PostfixOrder (front ++ .operator o :: (chain ++ back)) order)
    (kind : o.precedesOperand = true) (before : ∀ token ∈ chain, token.precedesOperand = true)
    {p : Operator σ} (mem : .operator p ∈ chain) (tighter : p.precedence < o.precedence) :
    ∃ k, front.length < k ∧ k ≤ front.length + chain.length ∧ [front.length, k].Sublist order := by
  obtain ⟨kept, q, later, rfl, less, tight⟩ := exists_first_tighter mem tighter
  have parts : front ++ .operator o :: (kept ++ .operator q :: later ++ back) =
      (front ++ [.operator o]) ++ kept ++ [.operator q] ++ (later ++ back) := by simp
  rw [parts] at h
  obtain ⟨next, taken, in_place⟩ := h.held_in_order
  obtain ⟨lower, latest⟩ := Yard.pending_takeIn_operator taken
  rw [marked_append] at taken
  obtain ⟨mid, read, taken⟩ := Yard.takeIn_append_eq_ok.mp taken
  obtain ⟨_, stepped, none_left⟩ := Yard.takeIn_cons_eq_ok.mp taken
  cases none_left
  rw [marked_append] at read
  obtain ⟨start, read, kept_read⟩ := Yard.takeIn_append_eq_ok.mp read
  obtain ⟨below, held⟩ := Yard.pending_takeIn_operator read
  have kept_before : ∀ token ∈ kept, token.precedesOperand = true :=
    fun token mem => before token (List.mem_append_left _ mem)
  have none_above : Yard.Over (o.marked front.length) [] := List.forall_mem_nil _
  obtain ⟨higher, above, pending⟩ :=
    Yard.takeIn_over (exists_of_mem_marked_chain kept_before tight) none_above held kept_read
  let k := (front ++ [Token.operator o] ++ kept).length
  rw [Nat.zero_add] at stepped
  have second : (q.marked k).precedesOperand = true := before (.operator q) (by simp)
  have released : .operator (o.marked front.length) ∈ next.output :=
    Yard.output_of_tighter above (Operator.isUnary_of_precedesOperand kind) pending second less
      stepped
  have waiting : next.waiting = .operator (q.marked k) ::
      (lower.filter fun entry => !entry.isBracket).map Pending.token := by
    rw [Yard.waiting, latest]
    rfl
  have before_tighter : [.operator (o.marked front.length), .operator (q.marked k)].Sublist
      (next.output.reverse ++ next.waiting) := by
    rw [waiting]
    refine (List.singleton_sublist.mpr (List.mem_reverse.mpr released)).append ?_
    exact (List.nil_sublist _).cons_cons _
  have in_order := (before_tighter.map Token.place).trans in_place
  simp only [List.map_cons, List.map_nil, Token.place_operator_marked] at in_order
  have place : k = front.length + 1 + kept.length := by
    simp only [k, List.length_append, List.length_singleton]
  refine ⟨k, by omega, ?_, in_order⟩
  rw [List.length_append, List.length_cons]
  omega

end PostfixOrder

/-- **Every sentence is converted, but not always to postfix.** The program passes the check if and
only if none of the operators at the start of the sentence releases the one before it. Wherever an
operator stands before its operand, it is put out after all of it if and only if it binds no tighter
than any other operator in between. -/
theorem exists_toPostfix_operands {tokens : List (Token σ)} (sentence : Sentence tokens)
    (short : tokens.length < 2 ^ 63) (reserved : List String) :
    ∃ output order, toPostfix tokens = .ok output ∧ PostfixOrder tokens order ∧
      ((Program.ofTokens output reserved).validate false = [] ↔
        (tokens.takeWhile Token.awaitsOperand).IsChain Token.Bides) ∧
      ∀ front o chain primary back, tokens = front ++ .operator o :: (chain ++ primary ++ back) →
        o.precedesOperand = true → (∀ token ∈ chain, token.precedesOperand = true) →
        Phrase Exactly .primary primary →
          ((∀ k, front.length < k → k ≤ front.length + chain.length + primary.length →
              ¬ [front.length, k].Sublist order) ↔
            ∀ p, .operator p ∈ chain → o.precedence ≤ p.precedence) := by
  obtain ⟨output, converted⟩ := toPostfix_of_depth (Phrase.content sentence |>.depth_eq (.inl rfl))
  obtain ⟨order, placed⟩ := exists_postfixOrder converted
  have countable : ∀ token ∈ output, token.Countable := by
    intro token mem
    have source := (List.mem_filter.mp ((toPostfix_perm converted).mem_iff.mp mem)).1
    exact Phrase.countable sentence short token source
  refine ⟨output, order, converted, placed, ?_, ?_⟩
  · rw [Program.validate_ofTokens_iff countable]
    exact heightAfter_toPostfix_iff sentence converted
  · rintro front o chain primary back rfl kind before operand
    constructor
    · intro after p mem
      by_contra less
      have whole := placed
      rw [List.append_assoc chain] at whole
      obtain ⟨k, right, within, first⟩ :=
        whole.tighter_first kind before mem (Int.not_le.mp less)
      exact after k right (Nat.le_trans within (Nat.le_add_right _ _)) first
    · intro tight k right within
      exact placed.operand_first before operand tight right within

/-- In `~ - x`, the operator that binds less tightly stands first, and the program is valid. -/
theorem exists_toPostfix_operands_chain :
    let minus : Operator Unit := .before "-" 5000 Float.neg
    let tilde : Operator Unit := .before "~" 100 Float.neg
    let tokens : List (Token Unit) := [.operator tilde, .operator minus, .var "x" 0]
    Sentence tokens ∧ tokens.length < 2 ^ 63 ∧
      ∃ output order, toPostfix tokens = .ok output ∧ PostfixOrder tokens order ∧
        (Program.ofTokens output []).validate false = [] ∧
        ∀ k, 0 < k → k ≤ 2 → ¬ [0, k].Sublist order := by
  intro minus tilde tokens
  have variable_x : Phrase Exactly .primary [(.var "x" 0 : Token Unit)] := .var "x" 0
  have sentence : Sentence tokens := .single (.before rfl (.before rfl (.plain variable_x)))
  have short : tokens.length < 2 ^ 63 := by decide
  have bides : tilde.precedence ≤ minus.precedence := by decide
  obtain ⟨output, order, converted, placed, valid, after⟩ :=
    exists_toPostfix_operands sentence short []
  refine ⟨sentence, short, output, order, converted, placed, valid.mpr ?_, ?_⟩
  · exact .cons_cons bides (.singleton _)
  · have minus_before : ∀ token ∈ [Token.operator minus], token.precedesOperand = true := by
      simp [minus, Token.precedesOperand, Operator.precedesOperand, Operator.before,
        Operator.isUnary]
    refine (after [] tilde [.operator minus] [.var "x" 0] [] rfl rfl minus_before variable_x).mpr ?_
    intro p mem
    cases List.mem_singleton.mp mem
    exact bides

/-- **An operator may be put out before its operand**: in `- ~ x` the second operator binds less
tightly and releases the first one, and the program fails the check. -/
theorem minus_put_out_before_operand :
    let minus : Operator Unit := .before "-" 5000 Float.neg
    let tilde : Operator Unit := .before "~" 100 Float.neg
    let tokens : List (Token Unit) := [.operator minus, .operator tilde, .var "x" 0]
    let output : List (Token Unit) := [.operator minus, .var "x" 0, .operator tilde]
    Sentence tokens ∧ toPostfix tokens = .ok output ∧ PostfixOrder tokens [0, 2, 1] ∧
      (Program.ofTokens output []).validate false = [.tooManyOperators] := by
  intro minus tilde tokens output
  refine ⟨.single (.before rfl (.before rfl (.plain (.var "x" 0)))), rfl, postfixOrder_iff.mpr ?_,
    by decide⟩
  subst tokens minus tilde
  cbv

end Formula
