import Formula.Error
import Formula.Proofs.Grammar

/-!
# Brackets

The depth of a place in a list of tokens is the number of brackets that are open there. Whether
brackets match, and whether separators stand inside of them, can be told by counting
(`Token.depthAfter`); what a reader sees instead are parts: the content of each pair of brackets, and
what follows it (`Content`). **A list that counts well is made of such parts**
(`bracketed_of_depth`), if a bracket follows each function.

Contents are stated under a rule that says which ones are admitted, between brackets of their own or
those of a call.
-/

namespace Formula

variable {σ : Type}

namespace Token

/-- A number, a variable or an operator. -/
def isPlain : Token σ → Bool
  | number _ | var _ _ | operator _ => true
  | function _ | opening | closing | separator => false

/-- The depth after a token, if the token may stand at a depth. -/
def depthAfter (depth : Nat) : Token σ → Except Error Nat
  | opening => .ok (depth + 1)
  | closing => if depth = 0 then .error .mismatchedBrackets else .ok (depth - 1)
  | separator => if depth = 0 then .error .misplacedSeparator else .ok depth
  | number _ | var _ _ | operator _ | function _ => .ok depth

end Token

/-- The depth after tokens that are counted from a depth on. -/
def depthAfter (depth : Nat) (tokens : List (Token σ)) : Except Error Nat :=
  tokens.foldlM Token.depthAfter depth

theorem depthAfter_cons (depth : Nat) (token : Token σ) (rest : List (Token σ)) :
    depthAfter depth (token :: rest) =
      token.depthAfter depth >>= fun next => depthAfter next rest :=
  List.foldlM_cons

theorem depthAfter_append (depth : Nat) (front back : List (Token σ)) :
    depthAfter depth (front ++ back) =
      depthAfter depth front >>= fun next => depthAfter next back :=
  List.foldlM_append

theorem depthAfter_closed {depth : Nat} {inner : List (Token σ)}
    (balanced : depthAfter (depth + 1) inner = .ok (depth + 1)) (rest : List (Token σ)) :
    depthAfter (depth + 1) (inner ++ .closing :: rest) = depthAfter depth rest := by
  rw [depthAfter_append, balanced]
  rfl

/-- An opening bracket follows each function. -/
def Called : List (Token σ) → Prop
  | [] => True
  | .function _ :: rest => (∃ later, rest = .opening :: later) ∧ Called rest
  | _ :: rest => Called rest

theorem Called.append {front back : List (Token σ)} (first : Called front)
    (second : Called back) : Called (front ++ back) := by
  induction front with
  | nil => exact second
  | cons token rest ih =>
    cases token with
    | function f =>
      obtain ⟨⟨later, rfl⟩, first⟩ := first
      exact ⟨⟨later ++ back, rfl⟩, ih first⟩
    | _ => exact ih first

/-- What comes after tokens that have their brackets has its own. -/
theorem Called.of_append (front : List (Token σ)) {back : List (Token σ)}
    (h : Called (front ++ back)) :
    Called back := by
  induction front with
  | nil => exact h
  | cons token rest ih =>
    cases token with
    | function f => exact ih h.2
    | _ => exact ih h

/-- **What may stand between two brackets**, with a number of separators of its own: all brackets
match, functions have brackets, and what stands in inner brackets is admitted there. -/
inductive Content (admits : Option (Function σ) → Nat → List (Token σ) → Prop) :
    Nat → List (Token σ) → Prop where
  | nil : Content admits 0 []
  | plain {token : Token σ} {n : Nat} {tokens : List (Token σ)} (kind : token.isPlain = true)
      (rest : Content admits n tokens) : Content admits n (token :: tokens)
  | separator {n : Nat} {tokens : List (Token σ)} (rest : Content admits n tokens) :
      Content admits (n + 1) (.separator :: tokens)
  | group {k n : Nat} {inner tokens : List (Token σ)} (content : Content admits k inner)
      (admitted : admits none k inner) (rest : Content admits n tokens) :
      Content admits n (.opening :: (inner ++ .closing :: tokens))
  | call {f : Function σ} {k n : Nat} {inner tokens : List (Token σ)}
      (content : Content admits k inner) (admitted : admits (some f) k inner)
      (rest : Content admits n tokens) :
      Content admits n (.function f :: .opening :: (inner ++ .closing :: tokens))

/-- **Brackets match, separators stand inside of brackets only, and each function is followed by
brackets of its own.** -/
def Bracketed (tokens : List (Token σ)) : Prop := Content (fun _ _ _ => True) 0 tokens

namespace Content

variable {admits : Option (Function σ) → Nat → List (Token σ) → Prop}

theorem append {m n : Nat} {front back : List (Token σ)} (first : Content admits m front)
    (second : Content admits n back) : Content admits (m + n) (front ++ back) := by
  induction first with
  | nil => rwa [Nat.zero_add]
  | plain kind _ ih => exact .plain kind ih
  | separator _ ih =>
    rw [Nat.add_right_comm]
    exact .separator ih
  | group content admitted _ _ ih =>
    rw [List.cons_append, List.append_assoc]
    exact .group content admitted ih
  | call content admitted _ _ ih =>
    rw [List.cons_append, List.cons_append, List.append_assoc]
    exact .call content admitted ih

/-- The depth after a content is the depth before it. -/
theorem depth_eq {n depth : Nat} {tokens : List (Token σ)} (h : Content admits n tokens)
    (inside : n = 0 ∨ depth ≠ 0) : depthAfter depth tokens = .ok depth := by
  induction h generalizing depth with
  | nil => rfl
  | @plain token n tokens kind _ ih =>
    have here : token.depthAfter depth = .ok depth := by
      cases token <;> first | rfl | cases kind
    rw [depthAfter_cons, here]
    exact ih inside
  | @separator n tokens _ ih =>
    have open_bracket : depth ≠ 0 := inside.resolve_left (Nat.succ_ne_zero n)
    rw [depthAfter_cons, Token.depthAfter, if_neg open_bracket]
    exact ih (.inr open_bracket)
  | @group k n inner tokens _ _ _ ih_inner ih =>
    show depthAfter (depth + 1) (inner ++ .closing :: tokens) = _
    rw [depthAfter_closed (ih_inner (.inr (Nat.succ_ne_zero depth)))]
    exact ih inside
  | @call f k n inner tokens _ _ _ ih_inner ih =>
    show depthAfter (depth + 1) (inner ++ .closing :: tokens) = _
    rw [depthAfter_closed (ih_inner (.inr (Nat.succ_ne_zero depth)))]
    exact ih inside

/-- Brackets after a function are those of a call, if that may have any content. -/
theorem call_of_opening {n : Nat} {tokens : List (Token σ)} (f : Function σ)
    (any : ∀ k inner, admits (some f) k inner) (h : Content admits n (.opening :: tokens)) :
    Content admits n (.function f :: .opening :: tokens) := by
  cases h with
  | plain kind _ => cases kind
  | group content _ rest => exact .call content (any _ _) rest

/-- What stands before the first part belongs to it. -/
theorem append_intercalate (separator front first : List (Token σ))
    (rest : List (List (Token σ))) :
    front ++ separator.intercalate (first :: rest) =
      separator.intercalate ((front ++ first) :: rest) := by
  cases rest with
  | nil => rw [List.intercalate_singleton, List.intercalate_singleton]
  | cons second rest => simp only [List.intercalate_cons_cons, List.append_assoc]

/-- **A content is made of parts** with separators between them, each of which is bracketed. -/
theorem exists_parts {n : Nat} {tokens : List (Token σ)}
    (h : Content (fun _ _ _ => True) n tokens) :
    ∃ first rest, tokens = [Token.separator].intercalate (first :: rest) ∧
      ∀ part ∈ first :: rest, Bracketed part := by
  simp only [List.forall_mem_cons]
  induction h with
  | nil => exact ⟨[], [], rfl, .nil, fun part mem => nomatch mem⟩
  | @plain token n tokens kind _ ih =>
    obtain ⟨first, rest, rfl, matched⟩ := ih
    exact ⟨token :: first, rest, append_intercalate _ [token] first rest,
      .plain kind matched.1, matched.2⟩
  | separator _ ih =>
    obtain ⟨first, rest, rfl, matched⟩ := ih
    refine ⟨[], first :: rest, ?_, .nil, List.forall_mem_cons.mpr matched⟩
    rw [List.intercalate_cons_cons]
    rfl
  | @group k n inner tokens content _ _ _ ih =>
    obtain ⟨first, rest, rfl, matched⟩ := ih
    have joined := append_intercalate [.separator] (.opening :: (inner ++ [.closing])) first rest
    exact ⟨.opening :: (inner ++ .closing :: first), rest, by simpa using joined,
      .group content trivial matched.1, matched.2⟩
  | @call f k n inner tokens content _ _ _ ih =>
    obtain ⟨first, rest, rfl, matched⟩ := ih
    have joined :=
      append_intercalate [.separator] (.function f :: .opening :: (inner ++ [.closing])) first rest
    exact ⟨.function f :: .opening :: (inner ++ .closing :: first), rest, by simpa using joined,
      .call content trivial matched.1, matched.2⟩

end Content

/-! ## From depths to parts -/

/-- Tokens that close `depth` brackets: the content that is left of each, from the inside out. -/
def Closing : Nat → List (Token σ) → Prop
  | 0, tokens => Bracketed tokens
  | depth + 1, tokens =>
    ∃ k inner rest, tokens = inner ++ .closing :: rest ∧
      Content (fun _ _ _ => True) k inner ∧ Closing depth rest

namespace Closing

variable {depth : Nat} {tokens : List (Token σ)}

theorem plain {token : Token σ} (kind : token.isPlain = true) (h : Closing depth tokens) :
    Closing depth (token :: tokens) := by
  cases depth with
  | zero => exact Content.plain kind h
  | succ depth =>
    obtain ⟨k, inner, rest, rfl, content, closing⟩ := h
    exact ⟨k, token :: inner, rest, rfl, .plain kind content, closing⟩

theorem separator (h : Closing (depth + 1) tokens) :
    Closing (depth + 1) (.separator :: tokens) := by
  obtain ⟨k, inner, rest, rfl, content, closing⟩ := h
  exact ⟨k + 1, .separator :: inner, rest, rfl, .separator content, closing⟩

theorem closing (h : Closing depth tokens) : Closing (depth + 1) (.closing :: tokens) :=
  ⟨0, [], tokens, rfl, .nil, h⟩

/-- The innermost content becomes a part of the next one. -/
theorem opening (h : Closing (depth + 1) tokens) : Closing depth (.opening :: tokens) := by
  obtain ⟨k, inner, rest, rfl, content, closing⟩ := h
  cases depth with
  | zero => exact Content.group content trivial closing
  | succ depth =>
    obtain ⟨m, outer, rest, rfl, around, closing⟩ := closing
    have joined : Content (fun _ _ _ => True) m (.opening :: (inner ++ .closing :: outer)) :=
      .group content trivial around
    exact ⟨m, _, rest, by simp, joined, closing⟩

/-- A function takes the brackets that follow it. -/
theorem function (f : Function σ) (h : Closing depth (.opening :: tokens)) :
    Closing depth (.function f :: .opening :: tokens) := by
  cases depth with
  | zero => exact Content.call_of_opening f (fun _ _ => trivial) h
  | succ depth =>
    obtain ⟨k, inner, rest, split, content, closing⟩ := h
    cases content with
    | nil => cases split
    | plain kind content =>
      cases split
      cases kind
    | separator content => cases split
    | call content admitted later => cases split
    | @group m k first outer content admitted later =>
      cases split
      have joined : Content (fun _ _ _ => True) k
          (.function f :: .opening :: (first ++ .closing :: outer)) :=
        .call content trivial later
      exact ⟨k, _, rest, by simp, joined, closing⟩

end Closing

/-- **What counts well closes its brackets.** -/
theorem closing_of_depth {depth : Nat} {tokens : List (Token σ)} (called : Called tokens)
    (h : depthAfter depth tokens = .ok 0) : Closing depth tokens := by
  induction tokens generalizing depth with
  | nil =>
    cases h
    exact Content.nil
  | cons token rest ih =>
    rw [depthAfter_cons] at h
    cases token with
    | number x => exact (ih called h).plain rfl
    | var name slot => exact (ih called h).plain rfl
    | operator o => exact (ih called h).plain rfl
    | function f =>
      obtain ⟨⟨later, rfl⟩, called⟩ := called
      exact (ih called h).function f
    | opening => exact (ih called h).opening
    | closing =>
      cases depth with
      | zero => cases h
      | succ depth => exact (ih called h).closing
    | separator =>
      cases depth with
      | zero => cases h
      | succ depth => exact (ih called h).separator

/-- **Tokens are bracketed if they count well**, from no open bracket to none. -/
theorem bracketed_of_depth {tokens : List (Token σ)} (called : Called tokens)
    (h : depthAfter 0 tokens = .ok 0) : Bracketed tokens :=
  closing_of_depth called h

/-- **Every opening bracket has its partner**, with parts between the two. -/
theorem exists_closing_of_depth {front rest : List (Token σ)}
    (called : Called (front ++ .opening :: rest))
    (h : depthAfter 0 (front ++ .opening :: rest) = .ok 0) :
    ∃ parts back, rest = [Token.separator].intercalate parts ++ .closing :: back ∧
      ∀ part ∈ parts, Bracketed part := by
  rw [depthAfter_append] at h
  cases before : depthAfter 0 front with
  | error error =>
    rw [before] at h
    cases h
  | ok depth =>
    rw [before] at h
    have inside : depthAfter (depth + 1) rest = .ok 0 := h
    have called_rest : Called rest := called.of_append front
    obtain ⟨k, inner, back, rfl, content, -⟩ := closing_of_depth called_rest inside
    obtain ⟨first, others, rfl, matched⟩ := content.exists_parts
    exact ⟨first :: others, back, rfl, matched⟩

end Formula
