import Formula.Proofs.Conversion.Following
import Formula.Proofs.Program.Height

/-!
# Heights in a yard

While a phrase is read, the values that its output leaves on a stack can be told from what waits:
there is one value for each part that is complete, and one more for each operator between two
operands that waits, the operand on its left (`Yard.Counts`). An operator that is released takes its
operands off, so that the count holds, **if they are there**. All are, but for one case: an operator
before an operand may be released by another one that comes next, and then it needs a value that was
put out earlier. Where nothing has been put out yet, there is none.

So a sentence is converted to postfix tokens that leave one value if none of the operators at its
start releases the one before it, and to tokens that leave none otherwise
(`heightAfter_toPostfix_iff`).
-/

namespace Formula

variable {σ : Type}

/-- Operators take their operands off a stack that has enough values. -/
theorem heightAfter_operators {operators : List (Operator σ)}
    (arities : ∀ o ∈ operators, o.arity = 1 ∨ o.arity = 2) {height : Nat}
    (enough : operators = [] ∨ operators.countP Operator.standsBetween < height) :
    heightAfter height (operators.map Token.operator) =
      some (height - operators.countP Operator.standsBetween) := by
  induction operators generalizing height with
  | nil => rfl
  | cons o rest ih =>
    have room := enough.resolve_left (List.cons_ne_nil o rest)
    have later : ∀ p ∈ rest, p.arity = 1 ∨ p.arity = 2 :=
      fun p mem => arities p (List.mem_cons_of_mem _ mem)
    rw [List.map_cons, heightAfter_cons, Token.heightAfter]
    rw [List.countP_cons] at room ⊢
    rcases arities o List.mem_cons_self with one | two
    · have unary : o.standsBetween = false := by simp [Operator.standsBetween, one]
      rw [unary] at room ⊢
      rw [one, if_pos (by omega), Option.bind_some, ih later (.inr (by simpa using by omega))]
      simp only [Bool.false_eq_true, if_false, Option.some_inj]
      omega
    · have binary : o.standsBetween = true := by simp [Operator.standsBetween, two]
      rw [binary, if_pos rfl] at room ⊢
      rw [two, if_pos (by omega), Option.bind_some, ih later (.inr (by omega)), Option.some_inj]
      omega

namespace Yard

variable {yard next : Yard σ} {below : List (Pending σ)} {values : Nat}

/-- Some of the latest operators are released, down to one that does not meet the condition. -/
theorem exists_release {condition : Pending σ → Bool} (output : List (Token σ))
    (operators : List (Operator σ)) (stop : ∀ entry ∈ below.head?, condition entry = false) :
    ∃ taken left, operators = taken ++ left ∧ (∀ o ∈ taken, condition (.operator o) = true) ∧
      release ⟨output, operators.map .operator ++ below⟩ condition =
        ⟨(taken.map Token.operator).reverse ++ output, left.map .operator ++ below⟩ := by
  let meets : Operator σ → Bool := fun o => condition (.operator o)
  refine ⟨operators.takeWhile meets, operators.dropWhile meets,
    List.takeWhile_append_dropWhile.symm, fun o mem => List.all_eq_true.mp List.all_takeWhile o mem,
    ?_⟩
  have parts : operators.map Pending.operator ++ below =
      (operators.takeWhile meets).map .operator ++
        ((operators.dropWhile meets).map .operator ++ below) := by
    rw [← List.append_assoc, ← List.map_append, List.takeWhile_append_dropWhile]
  have stopped : ∀ entry ∈ ((operators.dropWhile meets).map Pending.operator ++ below).head?,
      condition entry = false := by
    have first := List.head?_dropWhile_not meets operators
    cases left : operators.dropWhile meets with
    | nil => exact stop
    | cons o rest =>
      rw [left] at first
      rintro entry ⟨⟩
      simpa [meets] using first
  have all : ∀ entry ∈ (operators.takeWhile meets).map Pending.operator,
      condition entry = true := by
    intro entry mem
    obtain ⟨o, taken, rfl⟩ := List.mem_map.mp mem
    exact List.all_eq_true.mp List.all_takeWhile o taken
  rw [parts, release_append all stopped, List.map_map]
  rfl

/-- What waits below is out of reach: nothing, or an open bracket. -/
def Floor (below : List (Pending σ)) : Prop := ∀ entry ∈ below.head?, entry = .bracket

theorem floor_nil : Floor ([] : List (Pending σ)) := by
  rintro entry ⟨⟩

theorem floor_bracket (below : List (Pending σ)) : Floor (.bracket :: below) := by
  rintro entry ⟨⟩
  rfl

/-- A release that spares brackets stops at the floor. -/
theorem Floor.stop (floor : Floor below) (condition : Pending σ → Bool)
    (spared : condition .bracket = false) :
    ∀ entry ∈ below.head?, condition entry = false := by
  intro entry mem
  rw [floor entry mem]
  exact spared

/-- **The output counts**: it leaves a number of values on a stack, and one more for each operator
between two operands that waits above the floor. Only operators do. -/
def Counts (yard : Yard σ) (below : List (Pending σ)) (values : Nat) : Prop :=
  ∃ operators : List (Operator σ), yard.pending = operators.map .operator ++ below ∧
    (∀ o ∈ operators, o.arity = 1 ∨ o.arity = 2) ∧
    heightAfter 0 yard.output.reverse = some (values + operators.countP Operator.standsBetween)

/-- Operators that are put out keep the count, if they find their operands. -/
theorem heightAfter_put_out {output : List (Token σ)} {taken left : List (Operator σ)}
    (arities : ∀ o ∈ taken, o.arity = 1 ∨ o.arity = 2)
    (counted : heightAfter 0 output.reverse =
      some (values + (taken ++ left).countP Operator.standsBetween))
    (enough : 0 < values ∨
      taken.countP Operator.standsBetween = 0 ∧
        0 < values + (taken ++ left).countP Operator.standsBetween) :
    heightAfter 0 ((taken.map Token.operator).reverse ++ output).reverse =
      some (values + left.countP Operator.standsBetween) := by
  rw [List.countP_append] at counted enough
  rw [List.reverse_append, List.reverse_reverse, heightAfter_append, counted, Option.bind_some,
    heightAfter_operators arities (.inr (by omega)), Option.some_inj]
  omega

/-- There is a value where something has been put out. -/
theorem heightAfter_output_pos {output : List (Token σ)} {height : Nat} (some_output : output ≠ [])
    (counted : heightAfter 0 output.reverse = some height) : 0 < height :=
  heightAfter_pos (.inl (by simpa using some_output)) counted

/-- Where there is a value, something has been put out. -/
theorem output_ne_nil {output : List (Token σ)} {height : Nat} (positive : 0 < height)
    (counted : heightAfter 0 output.reverse = some height) : output ≠ [] := by
  rintro rfl
  cases counted
  exact Nat.lt_irrefl 0 positive

/-- An operator is held above the operators that count. -/
theorem counts_hold {output : List (Token σ)} {operators : List (Operator σ)} {o : Operator σ}
    (arities : ∀ p ∈ o :: operators, p.arity = 1 ∨ p.arity = 2)
    (counted : heightAfter 0 output.reverse =
      some (values + (o :: operators).countP Operator.standsBetween)) :
    Counts (hold ⟨output, operators.map .operator ++ below⟩ (.operator o)) below values :=
  ⟨o :: operators, rfl, arities, counted⟩

/-- **An operator where an operand is complete**: it may release any others, since there is a value
that they leave behind. One between two operands awaits another value. -/
theorem Counts.complete (floor : Floor below) (counts : yard.Counts below (values + 1))
    {o : Operator σ} (arity : o.arity = 1 ∨ o.arity = 2)
    (stepped : yard.step (.operator o) = .ok next) :
    next.Counts below (if o.standsBetween then values else values + 1) ∧ next.output ≠ [] := by
  obtain ⟨operators, pending, arities, counted⟩ := counts
  obtain ⟨output, waiting⟩ := yard
  obtain rfl : waiting = operators.map .operator ++ below := pending
  obtain ⟨taken, left, rfl, -, released⟩ :=
    exists_release output operators (floor.stop (Pending.yieldsTo o) rfl)
  have put_out := heightAfter_put_out (fun p mem => arities p (List.mem_append_left _ mem)) counted
    (.inl (Nat.succ_pos values))
  have positive : 0 < values + 1 + left.countP Operator.standsBetween :=
    Nat.add_pos_left (Nat.succ_pos values) _
  have some_output := output_ne_nil positive put_out
  rw [step, released] at stepped
  cases stepped
  refine ⟨counts_hold (fun p mem => ?_) ?_, some_output⟩
  · rcases List.mem_cons.mp mem with rfl | mem
    · exact arity
    · exact arities p (List.mem_append_right _ mem)
  · rw [put_out, List.countP_cons, Option.some_inj]
    split <;> omega

/-- All that waits above the floor can be released where a value is complete. -/
theorem Counts.releaseGroup (floor : Floor below) (counts : yard.Counts below values)
    (positive : 0 < values) :
    yard.releaseGroup.pending = below ∧
      heightAfter 0 yard.releaseGroup.output.reverse = some values := by
  obtain ⟨operators, pending, arities, counted⟩ := counts
  obtain ⟨output, waiting⟩ := yard
  obtain rfl : waiting = operators.map .operator ++ below := pending
  have released : Yard.releaseGroup ⟨output, operators.map .operator ++ below⟩ =
      ⟨((operators.map Pending.operator).map Pending.token).reverse ++ output, below⟩ :=
    release_append (by simp [Pending.isBracket]) (floor.stop _ rfl)
  rw [← List.append_nil operators] at counted
  have put_out := heightAfter_put_out arities counted (.inl positive)
  rw [released]
  refine ⟨rfl, ?_⟩
  rw [List.map_map]
  exact put_out

end Yard

/-! ## Where nothing has been put out -/

/-- An operator before an operand that comes next does not release this one. -/
def Token.Bides : Token σ → Token σ → Prop
  | .operator o, .operator next => o.precedence ≤ next.precedence
  | _, _ => True

theorem Token.exists_of_not_bides {token next : Token σ} (h : ¬ token.Bides next) :
    ∃ o p, token = .operator o ∧ next = .operator p ∧ p.precedence < o.precedence := by
  cases token with
  | operator o =>
    cases next with
    | operator p => exact ⟨o, p, rfl, rfl, Int.not_le.mp h⟩
    | _ => exact absurd trivial h
  | _ => exact absurd trivial h

/-- An operator before an operand releases one of one operand if and only if that binds tighter. -/
theorem Pending.yieldsTo_iff_tighter {o next : Operator σ} (unary : o.isUnary = true)
    (kind : next.precedesOperand = true) :
    Pending.yieldsTo next (.operator o) = true ↔ next.precedence < o.precedence := by
  simp [yieldsTo, unary, Operator.leftAssociative_of_precedesOperand kind]

/-- It releases none that does not bind tighter. -/
theorem Pending.yieldsTo_of_bides {o next : Operator σ} (kind : next.precedesOperand = true)
    (bides : o.precedence ≤ next.precedence) : Pending.yieldsTo next (.operator o) = false := by
  have not_tighter : ¬ next.precedence < o.precedence := Int.not_lt.mpr bides
  simp [yieldsTo, Operator.leftAssociative_of_precedesOperand kind, not_tighter]

/-- An operand is due after an operator before one. -/
theorem Operator.awaitsOperand_of_precedes {o : Operator σ} (kind : o.precedesOperand = true) :
    (Token.operator o).awaitsOperand = true := by
  simp [Token.awaitsOperand, followsOperand_of_precedesOperand kind]

namespace Yard

variable {yard next : Yard σ} {below : List (Pending σ)} {values : Nat}

/-- The token that waits latest, or an opening bracket. -/
def latest (yard : Yard σ) : Token σ := (yard.pending.head?.map Pending.token).getD .opening

/-- No operator at the start of the tokens releases the one before it, if nothing has been put out
yet. -/
def Ready (yard : Yard σ) (tokens : List (Token σ)) : Prop :=
  yard.output = [] → (yard.latest :: tokens.takeWhile Token.awaitsOperand).IsChain Token.Bides

/-- Where something has been put out, all tokens may come. -/
theorem ready_of_output (some_output : yard.output ≠ []) (tokens : List (Token σ)) :
    yard.Ready tokens := fun none => absurd none some_output

theorem Ready.left {front back : List (Token σ)} (ready : yard.Ready (front ++ back)) :
    yard.Ready front := by
  intro none_out
  have chain := ready none_out
  have start : front.takeWhile Token.awaitsOperand <+:
      (front ++ back).takeWhile Token.awaitsOperand := by
    rw [List.takeWhile_append]
    split
    · exact (List.takeWhile_prefix _).trans (List.prefix_append _ _)
    · exact List.prefix_rfl
  obtain ⟨rest, whole⟩ := start
  rw [← whole, ← List.cons_append] at chain
  exact List.IsChain.left_of_append chain

/-- A bracket or a function that is held does not release anything. -/
theorem Ready.hold {token : Token σ} {entry : Pending σ} {tokens : List (Token σ)}
    (same : entry.token = token) (awaits : token.awaitsOperand = true)
    (ready : yard.Ready (token :: tokens)) : (yard.hold entry).Ready tokens := by
  intro none_out
  have chain := ready none_out
  rw [List.takeWhile_cons_of_pos awaits] at chain
  have later := (List.isChain_cons_cons.mp chain).2
  rwa [← same] at later

/-- An operator before an operand is held on top of a token that bides it. -/
theorem step_of_bides {o : Operator σ} (kind : o.precedesOperand = true)
    (bides : yard.latest.Bides (.operator o)) :
    yard.step (.operator o) = .ok (yard.hold (.operator o)) := by
  obtain ⟨output, pending⟩ := yard
  refine step_operator_quiet ?_
  rintro entry latest
  cases entry with
  | operator p =>
    rw [Yard.latest, Option.mem_def.mp latest] at bides
    exact Pending.yieldsTo_of_bides kind bides
  | function f => rfl
  | bracket => rfl

/-- **An operator before an operand** releases none of another kind, and nothing at all at the
start. -/
theorem Counts.before (floor : Floor below) (counts : yard.Counts below values) {o : Operator σ}
    (kind : o.precedesOperand = true) {tokens : List (Token σ)}
    (ready : yard.Ready (.operator o :: tokens)) (stepped : yard.step (.operator o) = .ok next) :
    next.Counts below values ∧ next.Ready tokens := by
  obtain ⟨operators, pending, arities, counted⟩ := counts
  obtain ⟨output, waiting⟩ := yard
  obtain rfl : waiting = operators.map .operator ++ below := pending
  have unary : o.isUnary = true := Operator.isUnary_of_precedesOperand kind
  have arity : o.arity = 1 := Operator.arity_of_isUnary unary
  have not_between : o.standsBetween = false := Operator.standsBetween_of_isUnary unary
  by_cases none_out : output = []
  · have chain := ready none_out
    rw [List.takeWhile_cons_of_pos (Operator.awaitsOperand_of_precedes kind)] at chain
    rw [step_of_bides kind (List.isChain_cons_cons.mp chain).1] at stepped
    cases stepped
    refine ⟨counts_hold (fun p mem => ?_) ?_,
      ready.hold rfl (Operator.awaitsOperand_of_precedes kind)⟩
    · rcases List.mem_cons.mp mem with rfl | mem
      · exact .inl arity
      · exact arities p mem
    · rw [List.countP_cons, not_between]
      exact counted
  · obtain ⟨taken, left, rfl, yield, released⟩ :=
      exists_release output operators (floor.stop (Pending.yieldsTo o) rfl)
    rw [step, released] at stepped
    cases stepped
    have taken_unary : taken.countP Operator.standsBetween = 0 := by
      rw [List.countP_eq_zero]
      intro p mem between
      have yields := yield p mem
      simp [Pending.yieldsTo, unary, Operator.isUnary_of_standsBetween between] at yields
    have put_out := heightAfter_put_out (fun p mem => arities p (List.mem_append_left _ mem))
      counted (.inr ⟨taken_unary, heightAfter_output_pos none_out counted⟩)
    refine ⟨counts_hold (fun p mem => ?_) ?_, ready_of_output ?_ tokens⟩
    · rcases List.mem_cons.mp mem with rfl | mem
      · exact .inl arity
      · exact arities p (List.mem_append_right _ mem)
    · rw [put_out, List.countP_cons, not_between]
      rfl
    · show (taken.map Token.operator).reverse ++ output ≠ []
      simp [none_out]

/-- A number or a variable is a value more. -/
theorem Counts.emit (counts : yard.Counts below values) {token : Token σ}
    (kind : token.kind = .operand) : (yard.emit token).Counts below (values + 1) := by
  obtain ⟨operators, pending, arities, counted⟩ := counts
  refine ⟨operators, pending, arities, ?_⟩
  have one_more : heightAfter (values + operators.countP Operator.standsBetween) [token] =
      some (values + operators.countP Operator.standsBetween + 1) := by
    cases token <;> first | rfl | cases kind
  show heightAfter 0 (token :: yard.output).reverse = _
  rw [List.reverse_cons, heightAfter_append, counted, Option.bind_some, one_more,
    Nat.add_right_comm]

/-- A separator completes an argument. -/
theorem Counts.separator (floor : Floor below) (counts : yard.Counts below (values + 1))
    (stepped : yard.step .separator = .ok next) :
    next.Counts below (values + 1) ∧ next.output ≠ [] := by
  obtain ⟨pending, counted⟩ := counts.releaseGroup floor (Nat.succ_pos values)
  rw [step] at stepped
  split at stepped
  · cases stepped
  · cases stepped
    exact ⟨⟨[], pending, List.forall_mem_nil _, counted⟩,
      output_ne_nil (Nat.succ_pos values) counted⟩

/-- Brackets put out all that waits in them, and the values that they hold are on top of what the
output leaves before. -/
theorem exists_brackets {inner : List (Token σ)} {height n : Nat}
    (counted : heightAfter 0 yard.output.reverse = some height) (positive : 0 < height + n)
    (fill : ∀ filled, (yard.hold .bracket).Counts (.bracket :: yard.pending) height →
      (yard.hold .bracket).takeIn inner = .ok filled →
        filled.Counts (.bracket :: yard.pending) (height + n))
    (taken : yard.takeIn (.opening :: (inner ++ [.closing])) = .ok next) :
    ∃ output, next = releaseCall ⟨output, yard.pending⟩ ∧
      heightAfter 0 output.reverse = some (height + n) := by
  obtain ⟨inside, opened, taken⟩ := takeIn_cons_eq_ok.mp taken
  cases opened
  obtain ⟨filled, read, taken⟩ := takeIn_append_eq_ok.mp taken
  obtain ⟨closed, stepped, none_left⟩ := takeIn_cons_eq_ok.mp taken
  cases none_left
  have counts := fill filled ⟨[], rfl, List.forall_mem_nil _, counted⟩ read
  obtain ⟨group, complete⟩ := counts.releaseGroup (floor_bracket _) positive
  rw [step_closing_group group] at stepped
  cases stepped
  exact ⟨_, rfl, complete⟩

/-- A call takes its arguments off and is a value itself. -/
theorem heightAfter_call {output : List (Token σ)} {f : Function σ} {n count : Nat}
    (number : Exactly f n) (counted : heightAfter 0 output.reverse = some (values + count + n)) :
    heightAfter 0 (.function f :: output).reverse = some (values + 1 + count) := by
  have arity : n = f.arity := number
  rw [List.reverse_cons, heightAfter_append, counted, Option.bind_some, heightAfter_cons,
    Token.heightAfter, if_pos (by omega), Option.bind_some, heightAfter_nil, Option.some_inj]
  omega

/-- No call waits right above a floor. -/
theorem Counts.notCall (floor : Floor below) (counts : yard.Counts below values) :
    ∀ f, yard.pending.head? ≠ some (.function f) := by
  obtain ⟨operators, pending, -⟩ := counts
  intro f latest
  rw [pending] at latest
  cases operators with
  | nil => cases floor _ latest
  | cons o rest => cases latest

/-- **A phrase adds the values of its category to the count.** -/
theorem Counts.takeIn {category : Category} {tokens : List (Token σ)}
    (h : Phrase Exactly category tokens) {yard next : Yard σ} {below : List (Pending σ)}
    {values : Nat} (floor : Floor below) (counts : yard.Counts below values)
    (ready : yard.Ready tokens) (taken : yard.takeIn tokens = .ok next) :
    next.Counts below (values + category.values.toNat) := by
  induction h generalizing yard next below values with
  | single _ ih => exact ih floor counts ready taken
  | @between left right o _ kind _ first rest =>
    obtain ⟨mid, read, taken⟩ := takeIn_append_eq_ok.mp taken
    obtain ⟨held, stepped, taken⟩ := takeIn_cons_eq_ok.mp taken
    have arity : o.arity = 2 := Operator.arity_of_standsBetween kind
    have complete : mid.Counts below (values + 1) := first floor counts ready.left read
    obtain ⟨due, some_output⟩ := complete.complete floor (.inr arity) stepped
    rw [if_pos kind] at due
    exact rest floor due (ready_of_output some_output right) taken
  | plain _ ih => exact ih floor counts ready taken
  | before kind _ ih =>
    obtain ⟨mid, stepped, taken⟩ := takeIn_cons_eq_ok.mp taken
    obtain ⟨due, ready⟩ := counts.before floor kind ready stepped
    exact ih floor due ready taken
  | @after o tokens _ kind ih =>
    obtain ⟨mid, read, taken⟩ := takeIn_append_eq_ok.mp taken
    obtain ⟨held, stepped, none_left⟩ := takeIn_cons_eq_ok.mp taken
    cases none_left
    have unary : o.isUnary = true := Operator.isUnary_of_followsOperand kind
    have not_between : o.standsBetween = false := Operator.standsBetween_of_isUnary unary
    have arity : o.arity = 1 := Operator.arity_of_isUnary unary
    have complete : mid.Counts below (values + 1) := ih floor counts ready.left read
    obtain ⟨completed, -⟩ := complete.complete floor (.inl arity) stepped
    rwa [not_between] at completed
  | number x =>
    cases taken
    exact counts.emit rfl
  | var name slot =>
    cases taken
    exact counts.emit rfl
  | @group inner _ ih =>
    have notCall := counts.notCall floor
    obtain ⟨operators, pending, arities, counted⟩ := counts
    obtain ⟨output, rfl, complete⟩ := exists_brackets (n := 1) counted (Nat.succ_pos _)
      (fun filled inside read => ih (floor_bracket _) inside
        (Ready.left (ready.hold rfl rfl)) read) taken
    rw [releaseCall_of_notCall notCall]
    refine ⟨operators, pending, arities, ?_⟩
    rw [complete, Option.some_inj]
    exact Nat.add_right_comm _ _ _
  | @call f n inner number list ih =>
    obtain ⟨operators, pending, arities, counted⟩ := counts
    refine ⟨operators, ?_⟩
    obtain ⟨calling, held, taken⟩ := takeIn_cons_eq_ok.mp taken
    cases held
    cases n with
    | zero =>
      cases list
      cases taken
      exact ⟨pending, arities, heightAfter_call number counted⟩
    | succ n =>
      have calling : (yard.hold (.function f)).Ready (.opening :: (inner ++ [.closing])) :=
        ready.hold rfl rfl
      have inside : ((yard.hold (.function f)).hold .bracket).Ready inner :=
        Ready.left (calling.hold rfl rfl)
      have counted : heightAfter 0 (yard.hold (.function f)).output.reverse = _ := counted
      obtain ⟨output, rfl, complete⟩ := exists_brackets (n := n + 1) counted (Nat.succ_pos _)
        (fun filled counts read => ih (floor_bracket _) counts inside read) taken
      exact ⟨pending, arities, heightAfter_call number complete⟩
  | none =>
    cases taken
    exact counts
  | one _ ih => exact ih floor counts ready taken
  | @more first rest n _ _ argument later =>
    obtain ⟨mid, read, taken⟩ := takeIn_append_eq_ok.mp taken
    obtain ⟨held, stepped, taken⟩ := takeIn_cons_eq_ok.mp taken
    have complete : mid.Counts below (values + 1) := argument floor counts ready.left read
    obtain ⟨due, some_output⟩ := complete.separator floor stepped
    have counted := later floor due (ready_of_output some_output rest) taken
    have sum : values + 1 + (Category.arguments (n + 1)).values.toNat =
        values + (Category.arguments (n + 2)).values.toNat := by
      simp only [Category.values, Int.toNat_natCast]
      omega
    rwa [sum] at counted

end Yard

/-! ## How a sentence starts -/

/-- What comes after a token that ends a run has no part in it. -/
theorem takeWhile_append_stop {α : Type} {condition : α → Bool} {stop : α}
    (stops : condition stop = false) (front back : List α) :
    (front ++ stop :: back).takeWhile condition = front.takeWhile condition := by
  induction front with
  | nil => simp [stops]
  | cons first rest ih => rw [List.cons_append, List.takeWhile_cons, List.takeWhile_cons, ih]

/-- Up to the first operand that is complete, operands start, and operators stand before them. -/
theorem Phrase.start {takes : Function σ → Nat → Prop} {category : Category}
    {tokens : List (Token σ)} (h : Phrase takes category tokens) :
    ∀ token ∈ tokens.takeWhile Token.awaitsOperand,
      token.startsOperand = true ∨ token.precedesOperand = true := by
  -- The first part of a phrase completes an operand, so that the run ends in it.
  have within {category : Category} {first : List (Token σ)} (phrase : Phrase takes category first)
      (proper : ∀ n, category ≠ .arguments n) (later : List (Token σ)) :
      (first ++ later).takeWhile Token.awaitsOperand = first.takeWhile Token.awaitsOperand := by
    obtain ⟨front, last, rfl, complete⟩ := phrase.exists_last proper
    rw [List.append_assoc, List.singleton_append, takeWhile_append_stop complete,
      takeWhile_append_stop complete]
  induction h with
  | single _ ih => exact ih
  | between first _ _ ih _ => rwa [within first (fun _ => nofun)]
  | plain _ ih => exact ih
  | before kind _ ih =>
    rw [List.takeWhile_cons_of_pos (Operator.awaitsOperand_of_precedes kind)]
    intro token mem
    rcases List.mem_cons.mp mem with rfl | later
    · exact .inr kind
    · exact ih token later
  | after operand _ ih => rwa [within operand (fun _ => nofun)]
  | number x => nofun
  | var name slot => nofun
  | @group inner _ ih =>
    rw [List.takeWhile_cons_of_pos rfl, takeWhile_append_stop rfl]
    intro token mem
    rcases List.mem_cons.mp mem with rfl | later
    · exact .inl rfl
    · exact ih token later
  | @call f n inner _ _ ih =>
    rw [List.takeWhile_cons_of_pos rfl, List.takeWhile_cons_of_pos rfl, takeWhile_append_stop rfl]
    intro token mem
    rcases List.mem_cons.mp mem with rfl | mem
    · exact .inl rfl
    · rcases List.mem_cons.mp mem with rfl | later
      · exact .inl rfl
      · exact ih token later
  | none => nofun
  | one _ ih => exact ih
  | more first _ ih _ => rwa [within first (fun _ => nofun)]

namespace Yard

/-- A token at the start of a sentence is held, if the latest one bides it. -/
theorem step_of_start {yard : Yard σ} {token : Token σ} (awaits : token.awaitsOperand = true)
    (start : token.startsOperand = true ∨ token.precedesOperand = true)
    (bides : yard.latest.Bides token) :
    ∃ entry, entry.token = token ∧ yard.step token = .ok (yard.hold entry) := by
  cases token with
  | function f => exact ⟨.function f, rfl, rfl⟩
  | opening => exact ⟨.bracket, rfl, rfl⟩
  | operator o =>
    have kind : o.precedesOperand = true := start.resolve_left (fun starts => nomatch starts)
    exact ⟨.operator o, rfl, step_of_bides kind bides⟩
  | separator =>
    rcases start with starts | precedes
    · cases starts
    · cases precedes
  | _ => cases awaits

theorem pending_of_latest {yard : Yard σ} {o : Operator σ} (latest : yard.latest = .operator o) :
    ∃ below, yard.pending = .operator o :: below := by
  obtain ⟨output, pending⟩ := yard
  cases pending with
  | nil => cases latest
  | cons entry below =>
    cases entry with
    | operator p =>
      cases latest
      exact ⟨below, rfl⟩
    | function f => cases latest
    | bracket => cases latest

/-- **Where an operator at the start releases the one before it, that one is put out first of
all.** -/
theorem output_of_clash {tokens : List (Token σ)} {yard next : Yard σ}
    (start : ∀ token ∈ tokens.takeWhile Token.awaitsOperand,
      token.startsOperand = true ∨ token.precedesOperand = true)
    (latest_kind : ∀ p, yard.latest = .operator p → p.precedesOperand = true)
    (clash : ¬ (yard.latest :: tokens.takeWhile Token.awaitsOperand).IsChain Token.Bides)
    (none_out : yard.output = []) (taken : yard.takeIn tokens = .ok next) :
    ∃ put p, p.precedesOperand = true ∧ next.output = put ++ [.operator p] := by
  induction tokens generalizing yard with
  | nil => exact absurd (.singleton _) clash
  | cons token rest ih =>
    cases awaits : token.awaitsOperand with
    | false =>
      rw [List.takeWhile_cons_of_neg (by simp [awaits])] at clash
      exact absurd (.singleton _) clash
    | true =>
      rw [List.takeWhile_cons_of_pos awaits] at clash start
      have here := start token List.mem_cons_self
      obtain ⟨mid, stepped, taken⟩ := takeIn_cons_eq_ok.mp taken
      by_cases bides : yard.latest.Bides token
      · obtain ⟨entry, same, held⟩ := step_of_start awaits here bides
        cases held.symm.trans stepped
        have latest : (yard.hold entry).latest = token := same
        have none_held : (yard.hold entry).output = [] := none_out
        refine ih (fun later mem => start later (List.mem_cons_of_mem _ mem)) ?_ ?_ none_held taken
        · intro p is_operator
          rw [latest] at is_operator
          subst is_operator
          exact here.resolve_left fun starts => nomatch starts
        · intro chain
          rw [latest] at chain
          exact clash (.cons_cons bides chain)
      · obtain ⟨p, q, latest, rfl, tighter⟩ := Token.exists_of_not_bides bides
        have first : p.precedesOperand = true := latest_kind p latest
        have second : q.precedesOperand = true := here.resolve_left fun starts => nomatch starts
        have unary : p.isUnary = true := Operator.isUnary_of_precedesOperand first
        obtain ⟨below, front⟩ := pending_of_latest latest
        obtain ⟨put, put_out⟩ :=
          output_release front ((Pending.yieldsTo_iff_tighter unary second).mpr tighter)
        cases stepped
        obtain ⟨more, grown, -⟩ := takeIn_continues taken
        refine ⟨more.reverse ++ put, p, first, ?_⟩
        have released : ((yard.release (Pending.yieldsTo q)).hold (.operator q)).output =
            put ++ [.operator p] := by
          rw [← none_out]
          exact put_out
        rw [grown, released, List.append_assoc]

end Yard

/-- **A sentence is converted to tokens that leave one value** if and only if no operator at its
start, before the first operand that is complete, binds less tightly than the operator right before
it. -/
theorem heightAfter_toPostfix_iff {tokens output : List (Token σ)} (sentence : Sentence tokens)
    (h : toPostfix tokens = .ok output) :
    heightAfter 0 output = some 1 ↔
      (tokens.takeWhile Token.awaitsOperand).IsChain Token.Bides := by
  obtain ⟨final, taken, -, rfl⟩ := toPostfix_ok h
  constructor
  · intro one
    by_contra clash
    have clash_after : ¬ ((Yard.empty : Yard σ).latest ::
        tokens.takeWhile Token.awaitsOperand).IsChain Token.Bides :=
      fun chain => clash chain.tail
    have no_operator : ∀ p, (Yard.empty : Yard σ).latest = .operator p →
        p.precedesOperand = true := by
      intro p same
      cases same
    obtain ⟨put, p, kind, output⟩ :=
      Yard.output_of_clash (Phrase.start sentence) no_operator clash_after rfl taken
    have arity : p.arity = 1 := Operator.arity_of_isUnary (Operator.isUnary_of_precedesOperand kind)
    have first : final.releaseGroup.output.reverse = .operator p :: (put.reverse ++
        (final.pending.takeWhile fun entry => !entry.isBracket).map Pending.token) := by
      simp [Yard.releaseGroup, Yard.release, output]
    rw [first, heightAfter_cons, Token.heightAfter, if_neg (by omega)] at one
    cases one
  · intro chain
    have counts : (Yard.empty : Yard σ).Counts [] 0 := ⟨[], rfl, List.forall_mem_nil _, rfl⟩
    have ready : (Yard.empty : Yard σ).Ready tokens :=
      fun _ => chain.cons fun _ _ => trivial
    have complete := counts.takeIn sentence Yard.floor_nil ready taken
    exact (complete.releaseGroup Yard.floor_nil Nat.one_pos).2

end Formula
