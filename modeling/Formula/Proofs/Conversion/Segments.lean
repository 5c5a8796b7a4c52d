import Formula.Proofs.Acceptance
import Formula.Proofs.Conversion.Waiting

/-!
# Segments

What stands between two brackets is put out without anything else in between, and so is each of the
parts that separators make of it, in their order (`PostfixOrder.exists_segments`): all that is taken
in between the brackets is put out above what was out before, since nothing that waits below the
open bracket is released, and nothing of the group waits once it is closed (`Yard.takeIn_parts`).
The function whose brackets they are comes right after.

Numbers and variables never wait, so that they keep their order (`PostfixOrder.leaves_sublist`).

**Whatever the operators, and whether or not the text is a sentence**, all this holds of every text
that is converted (`exists_postfixOrder_segments`).
-/

namespace Formula

variable {σ : Type}

/-- A number or a variable. -/
def Token.isLeaf : Token σ → Bool
  | number _ | var _ _ => true
  | operator _ | function _ | opening | closing | separator => false

/-- The places of the tokens that meet a condition, counted from a place on. -/
def places (condition : Token σ → Bool) : Nat → List (Token σ) → List Nat
  | _, [] => []
  | start, token :: rest =>
    if condition token then start :: places condition (start + 1) rest
    else places condition (start + 1) rest

/-- **A segment for each part**, in order: it has the places of the part, and no others. The first
part starts at a place, and one separator stands before each of the others. -/
inductive Segments : Nat → List (List (Token σ)) → List (List Nat) → Prop where
  | nil {start : Nat} : Segments start [] []
  | cons {start : Nat} {part : List (Token σ)} {parts : List (List (Token σ))} {segment : List Nat}
      {segments : List (List Nat)} (here : segment.Perm (places Token.isLasting start part))
      (later : Segments (start + part.length + 1) parts segments) :
      Segments start (part :: parts) (segment :: segments)

/-! ## Marked tokens -/

/-- Marked tokens are at the places that they carry. -/
theorem places_eq_marked {condition : Token σ → Bool}
    (unmarked : ∀ k token, condition (Token.marked k token) = condition token)
    (lasting : ∀ token, condition token = true → token.isLasting = true) (start : Nat)
    (tokens : List (Token σ)) :
    ((marked start tokens).filter condition).map Token.place = places condition start tokens := by
  induction tokens generalizing start with
  | nil => rfl
  | cons token rest ih =>
    rw [marked, List.filter_cons, unmarked, places]
    split
    · rename_i holds
      rw [List.map_cons, ih, Token.place_marked (lasting token holds)]
    · exact ih (start + 1)

theorem places_isLasting (start : Nat) (tokens : List (Token σ)) :
    ((marked start tokens).filter Token.isLasting).map Token.place =
      places Token.isLasting start tokens :=
  places_eq_marked Token.isLasting_marked (fun _ lasting => lasting) start tokens

theorem places_isLeaf (start : Nat) (tokens : List (Token σ)) :
    ((marked start tokens).filter Token.isLeaf).map Token.place =
      places Token.isLeaf start tokens := by
  apply places_eq_marked
  · intro k token
    cases token <;> rfl
  · intro token leaf
    cases token <;> first | rfl | cases leaf

/-- Marked tokens are bracketed where the tokens are. -/
theorem Content.marked {n : Nat} {tokens : List (Token σ)}
    (h : Content (fun _ _ _ => True) n tokens) (start : Nat) :
    Content (fun _ _ _ => True) n (marked start tokens) := by
  induction h generalizing start with
  | nil => exact .nil
  | @plain token n tokens kind _ ih =>
    refine .plain ?_ (ih _)
    cases token <;> first | rfl | cases kind
  | separator _ ih => exact .separator (ih _)
  | group _ _ _ ih_inner ih =>
    rw [Formula.marked, marked_append]
    exact .group (ih_inner _) trivial (ih _)
  | call _ _ _ ih_inner ih =>
    rw [Formula.marked, Formula.marked, marked_append]
    exact .call (ih_inner _) trivial (ih _)

namespace Yard

variable {yard next final : Yard σ}

/-! ## Parts of a group -/

/-- **What is bracketed is put out on top of the output**, up to what still waits of it in its
group. -/
theorem takeIn_bracketed {part output : List (Token σ)} {below : List (Pending σ)}
    (matched : Bracketed part) (taken : takeIn ⟨output, .bracket :: below⟩ part = .ok next) :
    ∃ put : List (Token σ), next.releaseGroup = ⟨put.reverse ++ output, .bracket :: below⟩ ∧
      put.Perm (part.filter Token.isLasting) := by
  have floor : next.releaseGroup.pending = .bracket :: below :=
    floored_of_content matched _ next below rfl taken
  obtain ⟨put, put_out, -⟩ := (takeIn_continues taken).trans (release_continues isBracket_of_not)
  change next.releaseGroup.output = put.reverse ++ output at put_out
  have whole : next.releaseGroup = ⟨put.reverse ++ output, .bracket :: below⟩ := by
    rw [← put_out, ← floor]
  refine ⟨put, whole, ?_⟩
  have held : next.releaseGroup.held.Perm
      (part.filter Token.isLasting ++ held ⟨output, .bracket :: below⟩) :=
    (held_release isBracket_of_not).trans (held_takeIn taken)
  -- What was put out before is held before and after, and so is what waits below the bracket.
  rw [whole, Yard.held, Yard.held, List.append_assoc] at held
  exact (List.reverse_perm put).symm.trans ((List.perm_append_right_iff _).mp held)

/-- What is put out of a part of a group, up to the release at its end, has the places of the part. -/
theorem takeIn_part {part output more : List (Token σ)} {below : List (Pending σ)}
    (matched : Bracketed part) (start : Nat)
    (taken : takeIn ⟨output, .bracket :: below⟩ (marked start part ++ more) = .ok final) :
    ∃ (read : Yard σ) (put : List (Token σ)),
      read.releaseGroup = ⟨put.reverse ++ output, .bracket :: below⟩ ∧
      (put.map Token.place).Perm (places Token.isLasting start part) ∧
      read.takeIn more = .ok final := by
  obtain ⟨read, part_taken, taken⟩ := takeIn_append_eq_ok.mp taken
  obtain ⟨put, group, held⟩ := takeIn_bracketed (matched.marked start) part_taken
  have places := held.map Token.place
  rw [places_isLasting] at places
  exact ⟨read, put, group, places, taken⟩

/-- **Each part of a group is put out before the next**, and the call after all of them. -/
theorem takeIn_parts {parts : List (List (Token σ))} (matched : ∀ part ∈ parts, Bracketed part)
    (start : Nat) {output back : List (Token σ)} {below : List (Pending σ)}
    (taken : takeIn ⟨output, .bracket :: below⟩
      (marked start ([Token.separator].intercalate parts) ++ .closing :: back) = .ok final) :
    ∃ (put : List (Token σ)) (segments : List (List Nat)), Segments start parts segments ∧
      put.map Token.place = segments.flatten ∧
      (releaseCall ⟨put.reverse ++ output, below⟩).takeIn back = .ok final := by
  match parts with
  | [] =>
    obtain ⟨closed, stepped, taken⟩ := takeIn_cons_eq_ok.mp taken
    cases stepped
    exact ⟨[], [], .nil, rfl, taken⟩
  | [part] =>
    rw [List.intercalate_singleton] at taken
    obtain ⟨read, put, group, places, taken⟩ := takeIn_part (matched part (.head _)) start taken
    obtain ⟨closed, stepped, taken⟩ := takeIn_cons_eq_ok.mp taken
    rw [step_closing_group (congrArg Yard.pending group), group] at stepped
    cases stepped
    exact ⟨put, [put.map Token.place], .cons places .nil, by simp, taken⟩
  | part :: second :: rest =>
    have first_apart : marked start ([Token.separator].intercalate (part :: second :: rest)) =
        marked start part ++ .separator ::
          marked (start + part.length + 1) ([Token.separator].intercalate (second :: rest)) := by
      rw [List.intercalate_cons_cons, List.append_assoc, marked_append]
      rfl
    rw [first_apart, List.append_assoc] at taken
    obtain ⟨read, put, group, places, taken⟩ := takeIn_part (matched part (.head _)) start taken
    obtain ⟨parted, stepped, taken⟩ := takeIn_cons_eq_ok.mp taken
    rw [step_separator_group (congrArg Yard.pending group), group] at stepped
    cases stepped
    obtain ⟨later, segments, in_order, places_later, taken⟩ :=
      takeIn_parts (fun other mem => matched other (.tail _ mem)) _ taken
    refine ⟨put ++ later, put.map Token.place :: segments, .cons places in_order, ?_, ?_⟩
    · rw [List.map_append, places_later, List.flatten_cons]
    · rw [List.reverse_append, List.append_assoc]
      exact taken

/-! ## Leaves -/

/-- Numbers and variables do not wait. -/
theorem leaves_release (yard : Yard σ) (condition : Pending σ → Bool) :
    (yard.release condition).output.filter Token.isLeaf = yard.output.filter Token.isLeaf := by
  have none_waits : ((yard.pending.takeWhile condition).map Pending.token).reverse.filter
      Token.isLeaf = [] := by
    rw [List.filter_eq_nil_iff]
    intro token mem
    obtain ⟨entry, -, rfl⟩ := List.mem_map.mp (List.mem_reverse.mp mem)
    cases entry <;> exact Bool.false_ne_true
  rw [release, List.filter_append, none_waits, List.nil_append]

theorem leaves_releaseCall (yard : Yard σ) :
    yard.releaseCall.output.filter Token.isLeaf = yard.output.filter Token.isLeaf := by
  unfold releaseCall
  split <;> rfl

/-- A step puts out its own token at once, if it is a number or a variable, and no other one. -/
theorem leaves_step {token : Token σ} (h : yard.step token = .ok next) :
    next.output.filter Token.isLeaf =
      [token].filter Token.isLeaf ++ yard.output.filter Token.isLeaf := by
  have group : yard.releaseGroup.output.filter Token.isLeaf = yard.output.filter Token.isLeaf :=
    yard.leaves_release _
  cases token with
  | operator o =>
    cases h
    exact yard.leaves_release _
  | separator =>
    rw [step] at h
    split at h
    · cases h
    · cases h
      exact group
  | closing =>
    rw [step] at h
    split at h
    · cases h
    · cases h
      rw [leaves_releaseCall]
      exact group
  | _ =>
    cases h
    rfl

/-- **Numbers and variables are put out in the order in which they are taken in.** -/
theorem leaves_takeIn {tokens : List (Token σ)} (h : yard.takeIn tokens = .ok next) :
    next.output.filter Token.isLeaf =
      (tokens.filter Token.isLeaf).reverse ++ yard.output.filter Token.isLeaf := by
  induction tokens generalizing yard with
  | nil =>
    cases h
    rfl
  | cons token rest ih =>
    obtain ⟨mid, stepped, taken⟩ := takeIn_cons_eq_ok.mp h
    have split_filter : (token :: rest).filter Token.isLeaf =
        [token].filter Token.isLeaf ++ rest.filter Token.isLeaf :=
      List.filter_append [token] rest
    have one : ([token].filter Token.isLeaf).reverse = [token].filter Token.isLeaf := by
      cases token <;> rfl
    rw [ih taken, leaves_step stepped, split_filter, List.reverse_append, one, List.append_assoc]

end Yard

/-! ## Orders -/

namespace PostfixOrder

variable {tokens front back : List (Token σ)} {order : List Nat}

/-- **Every place of a lasting token is put out once**, and no other place. -/
theorem perm_places (h : PostfixOrder tokens order) :
    order.Perm (places Token.isLasting 0 tokens) := by
  obtain ⟨output, converted, rfl⟩ := h.marked
  rw [← places_isLasting]
  exact (toPostfix_perm converted).map Token.place

/-- **Numbers and variables keep their order.** -/
theorem leaves_sublist (h : PostfixOrder tokens order) :
    (places Token.isLeaf 0 tokens).Sublist order := by
  obtain ⟨output, converted, rfl⟩ := h.marked
  obtain ⟨yard, taken, -, rfl⟩ := toPostfix_ok converted
  have leaves : yard.releaseGroup.output.reverse.filter Token.isLeaf =
      (Formula.marked 0 tokens).filter Token.isLeaf := by
    rw [List.filter_reverse, Yard.releaseGroup, Yard.leaves_release, Yard.leaves_takeIn taken]
    simp [Yard.empty]
  rw [← places_isLeaf, ← leaves]
  exact List.filter_sublist.map Token.place

/-- **What stands between two brackets is put out in one piece**, part after part, and right after
it the function whose brackets they are. -/
theorem exists_segments {parts : List (List (Token σ))} (matched : ∀ part ∈ parts, Bracketed part)
    (h : PostfixOrder
      (front ++ .opening :: ([Token.separator].intercalate parts ++ .closing :: back)) order) :
    ∃ before segments after, order = before ++ segments.flatten ++ after ∧
      Segments (front.length + 1) parts segments ∧
      ∀ called f, front = called ++ [.function f] → ∃ later, after = called.length :: later := by
  obtain ⟨output, converted, rfl⟩ := h.marked
  obtain ⟨final, taken, -, rfl⟩ := toPostfix_ok converted
  rw [marked_append, Nat.zero_add, Formula.marked, marked_append, Formula.marked] at taken
  obtain ⟨yard, read, taken⟩ := Yard.takeIn_append_eq_ok.mp taken
  obtain ⟨opened, stepped, taken⟩ := Yard.takeIn_cons_eq_ok.mp taken
  cases stepped
  obtain ⟨put, segments, in_order, places, taken⟩ := Yard.takeIn_parts matched _ taken
  -- What comes after the brackets is put out on top, the function that they belong to first of all.
  obtain ⟨later, put_out, -⟩ :=
    (Yard.takeIn_continues taken).trans (Yard.release_continues Yard.isBracket_of_not)
  change final.releaseGroup.output = _ at put_out
  obtain ⟨call, called_out, -⟩ : Yard.Continues ⟨put.reverse ++ yard.output, yard.pending⟩ _ :=
    Yard.releaseCall_continues
  refine ⟨yard.output.reverse.map Token.place, segments, (call ++ later).map Token.place, ?_,
    in_order, ?_⟩
  · rw [put_out, called_out, ← places]
    simp
  · rintro called f rfl
    rw [marked_append] at read
    obtain ⟨mid, -, held⟩ := Yard.takeIn_append_eq_ok.mp read
    cases held
    have call_eq : call = [Token.marked (0 + called.length) (.function f)] := by
      have put_on_top : [Token.marked (0 + called.length) (.function f)] = call.reverse :=
        List.append_cancel_right called_out
      exact List.reverse_eq_iff.mp put_on_top.symm
    refine ⟨later.map Token.place, ?_⟩
    rw [call_eq, Nat.zero_add, List.map_append, List.map_singleton, Token.place_marked rfl]
    rfl

end PostfixOrder

/-! ## Evaluations -/

namespace Program

variable {program : Program σ} {state after : σ} {error : Error}

/-- A token that has a place in postfix order is no bracket and no separator. -/
theorem orderly_of_step_error {token : Token σ} (lasting : token.isLasting = true)
    {stack : List Float}
    (h : Effect.from state (program.step stack token) = (.error error, after)) :
    error ≠ .mismatchedBrackets ∧ error ≠ .misplacedSeparator := by
  cases token with
  | number x => cases h
  | var name slot =>
    rw [step] at h
    split at h <;> cases h
    simp
  | operator o => rcases operate_error h with ⟨-, rfl⟩ | ⟨reason, rfl⟩ <;> simp
  | function f => rcases operate_error h with ⟨-, rfl⟩ | ⟨reason, rfl⟩ <;> simp
  | _ => cases lasting

/-- **No evaluation comes to a bracket or a separator** where none is among the tokens. -/
theorem orderly_of_evaluate_error (lasting : ∀ token ∈ program.tokens, token.isLasting = true)
    (h : Effect.from state program.evaluate = (.error error, after)) :
    error ≠ .mismatchedBrackets ∧ error ≠ .misplacedSeparator := by
  rcases step_of_evaluate_error h with ⟨token, occurs, stack, start, failed⟩ | ⟨n, rfl⟩
  · exact orderly_of_step_error (lasting token occurs) failed
  · simp

end Program

/-- What a text compiles to has no brackets and no separators, folded or not. -/
theorem lasting_of_compileText {symbols : Symbols σ} {implicit folding : Bool} {text : String}
    {state : σ} {output : List (Token σ)}
    (compiled : (Effect.from state (compileText symbols implicit folding text)).1 = .ok output) :
    ∀ token ∈ output, token.isLasting = true :=
  forall_of_compileText compiled (fun _ => rfl) fun _ _ lasting => lasting

/-! ## Texts -/

/-- **A conversion keeps tokens and groups.** Of any text that is converted, the places of all
tokens but brackets and separators are put out, each once, and those of numbers and variables in
their order. After every function comes an opening bracket, and every opening bracket has its
partner. What stands between two partners is put out in one piece, part after part, and right after
it the function whose brackets they are. So no evaluation comes to a bracket or a separator. -/
theorem exists_postfixOrder_segments {symbols : Symbols σ} {implicit : Bool} {text : String}
    {output : List (Token σ)}
    (h : (Lexer.readText symbols implicit text).toPostfix = .ok output) :
    let tokens := (Lexer.readText symbols implicit text).tokens
    ∃ order, PostfixOrder tokens order ∧ output.map some = order.map (tokens[·]?) ∧
      order.Perm (places Token.isLasting 0 tokens) ∧
      (places Token.isLeaf 0 tokens).Sublist order ∧
      (∀ front f back, tokens = front ++ .function f :: back →
        ∃ later, back = .opening :: later) ∧
      (∀ front rest, tokens = front ++ .opening :: rest →
        ∃ parts back, rest = [Token.separator].intercalate parts ++ .closing :: back ∧
          ∀ part ∈ parts, Bracketed part) ∧
      (∀ front parts back,
        tokens = front ++ .opening :: ([Token.separator].intercalate parts ++ .closing :: back) →
        (∀ part ∈ parts, Bracketed part) →
          ∃ before segments after, order = before ++ segments.flatten ++ after ∧
            Segments (front.length + 1) parts segments ∧
            ∀ called f, front = called ++ [.function f] →
              ∃ later, after = called.length :: later) ∧
      ∀ folding state compiled reserved cells start error,
        (Effect.from state (compileText symbols implicit folding text)).1 = .ok compiled →
        (Effect.from start ((Program.ofTokens compiled reserved).withCells cells).evaluate).1 =
          .error error →
        error ≠ .mismatchedBrackets ∧ error ≠ .misplacedSeparator := by
  intro tokens
  have converts : toPostfix tokens = .ok output := Reading.toPostfix_tokens h
  have called : Called tokens := Lexer.readFrom_called _ _
  obtain ⟨order, in_order⟩ := exists_postfixOrder converts
  refine ⟨order, in_order, ?_, in_order.perm_places, in_order.leaves_sublist, ?_, ?_, ?_, ?_⟩
  · obtain ⟨put, converted, places⟩ := in_order tokens rfl
    rw [converts] at converted
    cases converted
    exact places
  · intro front f back same
    rw [same] at called
    exact (called.of_append front).1
  · intro front rest same
    have matched := depth_of_toPostfix converts
    rw [same] at called matched
    exact exists_closing_of_depth called matched
  · intro front parts back same matched
    rw [same] at in_order
    exact in_order.exists_segments matched
  · intro folding state compiled reserved cells start error compiles fails
    have lasting : ∀ token ∈ ((Program.ofTokens compiled reserved).withCells cells).tokens,
        token.isLasting = true := by
      intro token mem
      obtain ⟨original, occurs, rfl⟩ := List.mem_map.mp mem
      have lasts := lasting_of_compileText compiles original occurs
      cases original <;> exact lasts
    have from_error : Effect.from start
        ((Program.ofTokens compiled reserved).withCells cells).evaluate = (.error error, _) :=
      Prod.ext fails rfl
    exact Program.orderly_of_evaluate_error lasting from_error

/-- In `!f(!, (x +) x) x` operands are missing and operators stand where none can, and yet each part
of the call is put out in one piece. -/
theorem exists_postfixOrder_segments_call :
    let fact : Operator Unit := ⟨"!", 1, true, 10001, Rule.ofFunction fun _ => .ok 0⟩
    let f : Function Unit := ⟨"f", 2, true, Rule.ofFunction fun _ => .ok 0⟩
    let plus : Operator Unit := .between "+" 500 fun a b => .ok (a + b)
    let reading := Lexer.readText ⟨["x"], [f], [fact]⟩ true "!f(!, (x +) x) x"
    let second : List (Token Unit) :=
      [.opening, .var "x" 0, .operator plus, .closing, .operator .times, .var "x" 0]
    ∃ output, reading.toPostfix = .ok output ∧
      ∃ order, PostfixOrder reading.tokens order ∧
        ∃ before segments after, order = before ++ segments.flatten ++ after ∧
          Segments 3 [[.operator fact], second] segments ∧ ∃ later, after = 1 :: later := by
  intro fact f plus reading second
  let output : List (Token Unit) :=
    [.operator fact, .var "x" 0, .operator plus, .var "x" 0, .operator .times, .function f,
      .operator fact, .var "x" 0, .operator .times]
  have converts : reading.toPostfix = .ok output := by
    subst reading output plus f fact
    cbv
  have read : reading.tokens = [.operator fact, .function f] ++ .opening ::
      ([Token.separator].intercalate [[.operator fact], second] ++
        .closing :: [.operator .times, .var "x" 0]) := by
    subst reading second plus f fact
    cbv
  have matched : ∀ part ∈ [[.operator fact], second], Bracketed part := by
    simp only [List.forall_mem_cons, List.not_mem_nil, false_imp_iff, implies_true, and_true]
    exact ⟨.plain rfl .nil,
      .group (.plain rfl (.plain rfl .nil)) trivial (.plain rfl (.plain rfl .nil))⟩
  obtain ⟨order, in_order, -, -, -, -, -, pieces, -⟩ := exists_postfixOrder_segments converts
  obtain ⟨before, segments, after, whole, segmented, call⟩ := pieces _ _ _ read matched
  exact ⟨output, converts, order, in_order, before, segments, after, whole, segmented,
    call [.operator fact] f rfl⟩

end Formula
