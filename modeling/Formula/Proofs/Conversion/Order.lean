import Formula.Proofs.Conversion.Contents
import Mathlib.Data.List.Forall2

/-!
# The order of places

The yard does not look at names, values or rules: of an operator it sees how many operands it takes,
which side it associates to and how it binds, of any other token only what it is (`Token.Kind`).
**Tokens of the same kinds are converted alike** (`toPostfix_related`). So a conversion is an order
of the places of its tokens, whatever stands there (`PostfixOrder`), and it tells tokens apart that
are equal.

Every conversion that succeeds has such an order (`exists_postfixOrder`), and only one
(`PostfixOrder.unique`). It can be read off the conversion of tokens that carry their places as
marks, no two of which are equal (`PostfixOrder.marked`).
-/

namespace Formula

variable {σ : Type}

/-- What the yard sees of a token. -/
inductive Token.Kind where
  | operand
  | operator (arity : Nat) (leftAssociative : Bool) (precedence : Int)
  | function
  | opening
  | closing
  | separator

/-- The kind of a token. -/
def Token.kind : Token σ → Token.Kind
  | number _ | var _ _ => .operand
  | operator o => .operator o.arity o.leftAssociative o.precedence
  | function _ => .function
  | opening => .opening
  | closing => .closing
  | separator => .separator

theorem Token.isLasting_of_kind {token other : Token σ} (h : token.kind = other.kind) :
    token.isLasting = other.isLasting := by
  cases token <;> cases other <;> first | rfl | cases h

/-! ## Tokens of the same kinds -/

section Related

variable {R : Token σ → Token σ → Prop}

/-- Entries of one kind are both brackets or both not. -/
theorem Pending.isBracket_of_kind {entry other : Pending σ}
    (h : entry.token.kind = other.token.kind) : entry.isBracket = other.isBracket := by
  cases entry <;> cases other <;> first | rfl | cases h

/-- Whether an entry yields to an operator is a matter of their kinds. -/
theorem Pending.yieldsTo_of_kind {o p : Operator σ} {entry other : Pending σ}
    (next : (Token.operator o).kind = (Token.operator p).kind)
    (h : entry.token.kind = other.token.kind) :
    entry.yieldsTo o = other.yieldsTo p := by
  obtain ⟨_, arity, side, precedence, _⟩ := o
  cases next
  cases entry with
  | operator waiting =>
    cases other with
    | operator waiting' =>
      obtain ⟨_, arity, side, precedence, _⟩ := waiting
      cases h
      rfl
    | function f => cases h
    | bracket => cases h
  | function f => cases other <;> first | rfl | cases h
  | bracket => cases other <;> first | rfl | cases h

/-- Lists that are related entry by entry are cut at the same place by conditions that agree. -/
theorem forall₂_cut {α β : Type} {S : α → β → Prop} {first : α → Bool} {second : β → Bool}
    (agree : ∀ a b, S a b → first a = second b) {as : List α} {bs : List β}
    (h : List.Forall₂ S as bs) :
    List.Forall₂ S (as.takeWhile first) (bs.takeWhile second) ∧
      List.Forall₂ S (as.dropWhile first) (bs.dropWhile second) := by
  induction h with
  | nil => exact ⟨.nil, .nil⟩
  | @cons a b as bs here rest ih =>
    have same := agree a b here
    cases holds : first a with
    | true =>
      rw [holds] at same
      simp only [List.takeWhile_cons, List.dropWhile_cons, holds, ← same, if_true]
      exact ⟨.cons here ih.1, ih.2⟩
    | false =>
      rw [holds] at same
      simp only [List.takeWhile_cons, List.dropWhile_cons, holds, ← same, Bool.false_eq_true,
        if_false]
      exact ⟨.nil, .cons here rest⟩

namespace Yard

/-- Numbers and variables go straight to the output. -/
theorem step_operand {yard : Yard σ} {token : Token σ} (h : token.kind = .operand) :
    yard.step token = .ok (yard.emit token) := by
  cases token with
  | number x => rfl
  | var name slot => rfl
  | _ => cases h

/-- Two yards with related tokens at the same places. -/
structure Related (R : Token σ → Token σ → Prop) (yard other : Yard σ) : Prop where
  output : List.Forall₂ R yard.output other.output
  pending : List.Forall₂ (fun entry entry' => R entry.token entry'.token) yard.pending other.pending

namespace Related

variable {yard other next : Yard σ}

theorem release {condition condition' : Pending σ → Bool}
    (agree : ∀ entry entry', R entry.token entry'.token → condition entry = condition' entry')
    (h : Related R yard other) : Related R (yard.release condition) (other.release condition') := by
  obtain ⟨taken, left⟩ := forall₂_cut agree h.pending
  have put_out : List.Forall₂ R ((yard.pending.takeWhile condition).map Pending.token)
      ((other.pending.takeWhile condition').map Pending.token) := by
    rw [List.forall₂_map_left_iff, List.forall₂_map_right_iff]
    exact taken
  exact ⟨List.rel_append (List.rel_reverse put_out) h.output, left⟩

variable (kinds : ∀ token other, R token other → token.kind = other.kind)
include kinds

theorem releaseGroup (h : Related R yard other) :
    Related R yard.releaseGroup other.releaseGroup :=
  h.release fun _ _ related => by rw [Pending.isBracket_of_kind (kinds _ _ related)]

theorem releaseCall (h : Related R yard other) : Related R yard.releaseCall other.releaseCall := by
  obtain ⟨output, pending⟩ := yard
  obtain ⟨output', pending'⟩ := other
  obtain ⟨put_out, waiting⟩ := h
  cases waiting with
  | nil => exact ⟨put_out, .nil⟩
  | @cons entry entry' rest rest' here later =>
    have kind := kinds _ _ here
    cases entry with
    | function f =>
      cases entry' with
      | function g => exact ⟨.cons here put_out, later⟩
      | operator o => cases kind
      | bracket => cases kind
    | operator o =>
      cases entry' with
      | operator p => exact ⟨put_out, .cons here later⟩
      | function g => cases kind
      | bracket => cases kind
    | bracket =>
      cases entry' with
      | bracket => exact ⟨put_out, .cons here later⟩
      | function g => cases kind
      | operator p => cases kind

/-- Related tokens are taken in alike. -/
theorem step {token token' : Token σ} (related : R token token') (h : Related R yard other)
    (stepped : yard.step token = .ok next) :
    ∃ next', other.step token' = .ok next' ∧ Related R next next' := by
  have kind := kinds _ _ related
  have group := h.releaseGroup kinds
  cases token with
  | number x =>
    cases stepped
    exact ⟨_, step_operand kind.symm, .cons related h.output, h.pending⟩
  | var name slot =>
    cases stepped
    exact ⟨_, step_operand kind.symm, .cons related h.output, h.pending⟩
  | function f =>
    cases stepped
    cases token' with
    | function g => exact ⟨_, rfl, h.output, .cons related h.pending⟩
    | _ => cases kind
  | opening =>
    cases stepped
    cases token' with
    | opening => exact ⟨_, rfl, h.output, .cons related h.pending⟩
    | _ => cases kind
  | operator o =>
    cases stepped
    cases token' with
    | operator p =>
      have released :
          Related R (yard.release (Pending.yieldsTo o)) (other.release (Pending.yieldsTo p)) :=
        h.release fun _ _ same => Pending.yieldsTo_of_kind kind (kinds _ _ same)
      exact ⟨_, rfl, released.output, .cons related released.pending⟩
    | _ => cases kind
  | separator =>
    cases token' with
    | separator =>
      rw [Yard.step] at stepped ⊢
      cases front : yard.releaseGroup.pending with
      | nil => simp [front] at stepped
      | cons entry rest =>
        obtain ⟨entry', rest', -, -, front'⟩ :=
          List.forall₂_cons_left_iff.mp (front ▸ group.pending)
        simp only [front, front', List.isEmpty_cons] at stepped ⊢
        cases stepped
        exact ⟨_, rfl, group⟩
    | _ => cases kind
  | closing =>
    cases token' with
    | closing =>
      rw [Yard.step] at stepped ⊢
      cases front : yard.releaseGroup.pending with
      | nil => simp [front] at stepped
      | cons entry rest =>
        obtain ⟨entry', rest', -, later, front'⟩ :=
          List.forall₂_cons_left_iff.mp (front ▸ group.pending)
        simp only [front, front'] at stepped ⊢
        cases stepped
        exact ⟨_, rfl, Related.releaseCall kinds ⟨group.output, later⟩⟩
    | _ => cases kind

theorem takeIn {tokens others : List (Token σ)} (related : List.Forall₂ R tokens others)
    (h : Related R yard other) (taken : yard.takeIn tokens = .ok next) :
    ∃ next', other.takeIn others = .ok next' ∧ Related R next next' := by
  induction related generalizing yard other with
  | nil =>
    cases taken
    exact ⟨other, rfl, h⟩
  | @cons token token' tokens others here _ ih =>
    obtain ⟨mid, stepped, taken⟩ := takeIn_cons_eq_ok.mp taken
    obtain ⟨mid', stepped', related⟩ := h.step kinds here stepped
    rw [takeIn_cons_ok stepped']
    exact ih related taken

end Related

end Yard

/-- **Tokens of the same kinds are converted alike**: the outputs have related tokens at the same
places. -/
theorem toPostfix_related (kinds : ∀ token other, R token other → token.kind = other.kind)
    {tokens others output : List (Token σ)} (related : List.Forall₂ R tokens others)
    (h : toPostfix tokens = .ok output) :
    ∃ output', toPostfix others = .ok output' ∧ List.Forall₂ R output output' := by
  obtain ⟨yard, taken, no_bracket, rfl⟩ := toPostfix_ok h
  have start : Yard.Related R (.empty : Yard σ) .empty := ⟨.nil, .nil⟩
  obtain ⟨other, taken', same⟩ := start.takeIn kinds related taken
  have brackets : List.Forall₂ (fun entry entry' => R entry.token entry'.token)
      (yard.pending.filter Pending.isBracket) (other.pending.filter Pending.isBracket) := by
    refine List.rel_filter (fun entry entry' here => ?_) same.pending
    exact Bool.eq_iff_iff.mp (Pending.isBracket_of_kind (kinds _ _ here))
  have depths : yard.depth = other.depth := by
    rw [Yard.depth, Yard.depth, List.countP_eq_length_filter, List.countP_eq_length_filter,
      brackets.length_eq]
  exact ⟨_, toPostfix_of_takeIn taken' (depths.symm.trans no_bracket),
    List.rel_reverse (same.releaseGroup kinds).output⟩

end Related

/-! ## Places -/

/-- **The order in which a conversion puts out the places of its tokens**, whatever tokens of the
same kinds stand there. -/
def PostfixOrder (tokens : List (Token σ)) (order : List Nat) : Prop :=
  ∀ others : List (Token σ), others.map Token.kind = tokens.map Token.kind →
    ∃ output, toPostfix others = .ok output ∧ output.map some = order.map (others[·]?)

/-- An operator of the same kind that carries a place as its mark. -/
def Operator.marked (place : Nat) (o : Operator σ) : Operator σ :=
  { o with symbol := String.ofList (List.replicate place '+') }

/-- A token of the same kind that carries a place as its mark. -/
def Token.marked (place : Nat) : Token σ → Token σ
  | number _ | var _ _ => .var "" place
  | operator o => .operator (o.marked place)
  | function f => .function { f with name := String.ofList (List.replicate place 'f') }
  | opening => .opening
  | closing => .closing
  | separator => .separator

/-- The place that a marked token carries. -/
def Token.place : Token σ → Nat
  | var _ slot => slot
  | operator o => o.symbol.length
  | function f => f.name.length
  | number _ | opening | closing | separator => 0

/-- Tokens with their places as marks, counted from a place on. -/
def marked (start : Nat) : List (Token σ) → List (Token σ)
  | [] => []
  | token :: rest => token.marked start :: marked (start + 1) rest

@[simp]
theorem Token.kind_marked (place : Nat) (token : Token σ) :
    (token.marked place).kind = token.kind := by
  cases token <;> rfl

@[simp]
theorem Token.isLasting_marked (place : Nat) (token : Token σ) :
    (token.marked place).isLasting = token.isLasting :=
  isLasting_of_kind (kind_marked place token)

theorem Token.place_marked {token : Token σ} (lasting : token.isLasting = true) (place : Nat) :
    (token.marked place).place = place := by
  cases token with
  | number x => rfl
  | var name slot => rfl
  | operator o => simp [marked, Operator.marked, Token.place]
  | function f => simp [marked, Token.place]
  | _ => cases lasting

@[simp]
theorem Token.place_operator_marked (place : Nat) (o : Operator σ) :
    (Token.operator (o.marked place)).place = place := by
  simp [Token.place, Operator.marked]

theorem map_kind_marked (start : Nat) (tokens : List (Token σ)) :
    (marked start tokens).map Token.kind = tokens.map Token.kind := by
  induction tokens generalizing start with
  | nil => rfl
  | cons token rest ih => simp [marked, ih]

theorem length_marked (start : Nat) (tokens : List (Token σ)) :
    (marked start tokens).length = tokens.length := by
  simpa using congrArg List.length (map_kind_marked start tokens)

theorem marked_append (start : Nat) (front back : List (Token σ)) :
    marked start (front ++ back) = marked start front ++ marked (start + front.length) back := by
  induction front generalizing start with
  | nil => rfl
  | cons token rest ih =>
    rw [List.cons_append, marked, marked, ih, List.cons_append, List.length_cons,
      Nat.add_assoc, Nat.add_comm 1]

theorem getElem?_marked (start : Nat) (tokens : List (Token σ)) (k : Nat) :
    (marked start tokens)[k]? = tokens[k]?.map (Token.marked (start + k)) := by
  induction tokens generalizing start k with
  | nil => rfl
  | cons token rest ih =>
    cases k with
    | zero => rfl
    | succ k =>
      rw [marked, List.getElem?_cons_succ, ih, List.getElem?_cons_succ, Nat.add_assoc,
        Nat.add_comm 1]

/-- A token within a middle part is marked there with its place in the whole. -/
theorem mem_marked_middle {front middle back : List (Token σ)} {token : Token σ} {k : Nat}
    (here : (front ++ middle ++ back)[k]? = some token) (after : front.length ≤ k)
    (before : k < (front ++ middle).length) :
    token.marked k ∈ marked front.length middle := by
  rw [List.getElem?_append_left before, List.getElem?_append_right after] at here
  apply List.mem_of_getElem? (i := k - front.length)
  rw [getElem?_marked, here, Nat.add_sub_cancel' after]
  rfl

theorem exists_of_mem_marked {start : Nat} {tokens : List (Token σ)} {token : Token σ}
    (mem : token ∈ marked start tokens) : ∃ original ∈ tokens, ∃ k, token = original.marked k := by
  obtain ⟨k, here⟩ := List.getElem?_of_mem mem
  rw [getElem?_marked, Option.map_eq_some_iff] at here
  obtain ⟨original, at_k, rfl⟩ := here
  exact ⟨original, List.mem_of_getElem? at_k, start + k, rfl⟩

/-- Marked tokens are phrases where the tokens are. -/
theorem Phrase.marked {category : Category} {tokens : List (Token σ)}
    (h : Phrase Exactly category tokens) (start : Nat) :
    Phrase Exactly category (marked start tokens) := by
  induction h generalizing start with
  | single _ ih => exact .single (ih start)
  | between _ kind _ first rest =>
    rw [marked_append]
    exact .between (first _) kind (rest _)
  | plain _ ih => exact .plain (ih start)
  | before kind _ ih => exact .before kind (ih _)
  | after _ kind ih =>
    rw [marked_append]
    exact .after (ih _) kind
  | number x => exact .var "" start
  | var name slot => exact .var "" start
  | group _ ih =>
    rw [Formula.marked, marked_append]
    exact .group (ih _)
  | call number _ ih =>
    rw [Formula.marked, Formula.marked, marked_append]
    exact .call number (ih _)
  | none => exact .none
  | one _ ih => exact .one (ih start)
  | more _ _ first rest =>
    rw [marked_append]
    exact .more (first _) (rest _)

/-- Marks are within the places that are counted. -/
theorem place_of_mem_marked {start : Nat} {tokens : List (Token σ)} {token : Token σ}
    (mem : token ∈ marked start tokens) (lasting : token.isLasting = true) :
    start ≤ token.place ∧ token.place < start + tokens.length := by
  obtain ⟨k, here⟩ := List.getElem?_of_mem mem
  rw [getElem?_marked, Option.map_eq_some_iff] at here
  obtain ⟨original, at_k, rfl⟩ := here
  rw [Token.isLasting_marked] at lasting
  have bound := (List.getElem?_eq_some_iff.mp at_k).1
  rw [Token.place_marked lasting]
  omega

/-- **No two tokens have the same mark.** -/
theorem nodup_places (start : Nat) (tokens : List (Token σ)) :
    (((marked start tokens).filter Token.isLasting).map Token.place).Nodup := by
  induction tokens generalizing start with
  | nil => exact .nil
  | cons token rest ih =>
    rw [marked, List.filter_cons]
    split
    · rename_i lasting
      rw [List.map_cons, List.nodup_cons]
      refine ⟨fun mem => ?_, ih (start + 1)⟩
      obtain ⟨later, later_mem, same⟩ := List.mem_map.mp mem
      obtain ⟨later_mem, later_lasting⟩ := List.mem_filter.mp later_mem
      have bound := (place_of_mem_marked later_mem later_lasting).1
      rw [Token.isLasting_marked] at lasting
      rw [Token.place_marked lasting] at same
      omega
    · exact ih (start + 1)

/-- The tokens of a conversion last. -/
theorem lasting_of_toPostfix {tokens output : List (Token σ)} (h : toPostfix tokens = .ok output)
    {token : Token σ} (mem : token ∈ output) : token.isLasting = true :=
  (List.mem_filter.mp ((toPostfix_perm h).mem_iff.mp mem)).2

/-- A marked token stands at the place of its mark. -/
theorem place_of_getElem?_marked {tokens : List (Token σ)} {token : Token σ} {k : Nat}
    (h : (marked 0 tokens)[k]? = some token) (lasting : token.isLasting = true) :
    token.place = k := by
  rw [getElem?_marked, Option.map_eq_some_iff] at h
  obtain ⟨original, -, rfl⟩ := h
  rw [Token.isLasting_marked] at lasting
  rw [Token.place_marked lasting, Nat.zero_add]

/-- The places of marked tokens, in the order in which these are put out. -/
theorem postfixOrder_of_marked {tokens marks : List (Token σ)}
    (converted : toPostfix (marked 0 tokens) = .ok marks) :
    PostfixOrder tokens (marks.map Token.place) := by
  intro others kinds
  -- What stands at the place of a mark takes the place of the mark in the output.
  let Stands (mark token : Token σ) : Prop :=
    ∃ k : Nat, (marked 0 tokens)[k]? = some mark ∧ others[k]? = some token
  have stands : List.Forall₂ Stands (marked 0 tokens) others := by
    have lengths : (marked 0 tokens).length = others.length := by
      rw [length_marked]
      simpa using (congrArg List.length kinds).symm
    rw [List.forall₂_iff_get]
    exact ⟨lengths, fun k first second => ⟨k, by simp [first], by simp [second]⟩⟩
  have stands_kind : ∀ mark token, Stands mark token → mark.kind = token.kind := by
    rintro mark token ⟨k, mark_k, token_k⟩
    have at_k := congrArg (·[k]?) ((map_kind_marked 0 tokens).trans kinds.symm)
    simpa [mark_k, token_k] using at_k
  obtain ⟨output, others_converted, stand⟩ := toPostfix_related stands_kind stands converted
  refine ⟨output, others_converted, ?_⟩
  have places : List.Forall₂ (fun mark token => others[mark.place]? = some token) marks output := by
    have lasting := (List.forall₂_and_left _ _).mpr
      ⟨fun mark mem => lasting_of_toPostfix converted mem, stand⟩
    refine lasting.imp fun mark token here => ?_
    obtain ⟨lasts, k, mark_k, token_k⟩ := here
    rw [place_of_getElem?_marked mark_k lasts, token_k]
  rw [List.map_map, eq_comm, ← List.forall₂_eq_eq_eq, List.forall₂_map_left_iff,
    List.forall₂_map_right_iff]
  exact places

/-- **A conversion that succeeds has an order of places.** -/
theorem exists_postfixOrder {tokens output : List (Token σ)} (h : toPostfix tokens = .ok output) :
    ∃ order, PostfixOrder tokens order := by
  have same_kinds : List.Forall₂ (fun token other : Token σ => token.kind = other.kind) tokens
      (marked 0 tokens) := by
    have equal : List.Forall₂ Eq (tokens.map Token.kind) ((marked 0 tokens).map Token.kind) := by
      rw [List.forall₂_eq_eq_eq, map_kind_marked]
    rwa [List.forall₂_map_left_iff, List.forall₂_map_right_iff] at equal
  obtain ⟨marks, converted, -⟩ := toPostfix_related (fun _ _ same => same) same_kinds h
  exact ⟨_, postfixOrder_of_marked converted⟩

namespace PostfixOrder

variable {tokens : List (Token σ)} {order : List Nat}

/-- **The order can be read off the conversion of marked tokens.** -/
theorem marked (h : PostfixOrder tokens order) :
    ∃ output, toPostfix (marked 0 tokens) = .ok output ∧ output.map Token.place = order := by
  obtain ⟨output, converted, places⟩ := h _ (map_kind_marked 0 tokens)
  refine ⟨output, converted, ?_⟩
  rw [← List.forall₂_eq_eq_eq, List.forall₂_map_left_iff, List.forall₂_map_right_iff] at places
  rw [← List.forall₂_eq_eq_eq, List.forall₂_map_left_iff]
  have lasting := (List.forall₂_and_left _ _).mpr
    ⟨fun token mem => lasting_of_toPostfix converted mem, places⟩
  exact lasting.imp fun token k here => place_of_getElem?_marked here.2.symm here.1

/-- There is only one order. -/
theorem unique {order' : List Nat} (h : PostfixOrder tokens order)
    (h' : PostfixOrder tokens order') : order = order' := by
  obtain ⟨output, converted, rfl⟩ := h.marked
  obtain ⟨output', converted', rfl⟩ := h'.marked
  rw [converted] at converted'
  cases converted'
  rfl

/-- No place is put out twice. -/
theorem nodup (h : PostfixOrder tokens order) : order.Nodup := by
  obtain ⟨output, converted, rfl⟩ := h.marked
  exact ((toPostfix_perm converted).map Token.place).nodup_iff.mpr (nodup_places 0 tokens)

/-- Of two places, one is put out first. -/
theorem asymm (h : PostfixOrder tokens order) {j k : Nat} (first : [j, k].Sublist order) :
    ¬ [k, j].Sublist order := by
  have increasing : order.Pairwise fun x y => order.idxOf x < order.idxOf y := by
    rw [List.pairwise_iff_getElem]
    intro x y x_bound y_bound less
    rwa [h.nodup.idxOf_getElem x x_bound, h.nodup.idxOf_getElem y y_bound]
  intro second
  have forth := List.pairwise_iff_forall_sublist.mp increasing first
  have back := List.pairwise_iff_forall_sublist.mp increasing second
  omega

/-- The places that are put out are those of lasting tokens. -/
theorem mem_iff (h : PostfixOrder tokens order) {k : Nat} :
    k ∈ order ↔ ∃ token, tokens[k]? = some token ∧ token.isLasting = true := by
  obtain ⟨output, converted, rfl⟩ := h.marked
  have same := ((toPostfix_perm converted).map Token.place).mem_iff (a := k)
  rw [same, List.mem_map]
  constructor
  · rintro ⟨mark, mem, rfl⟩
    obtain ⟨mem, lasting⟩ := List.mem_filter.mp mem
    obtain ⟨k, here⟩ := List.getElem?_of_mem mem
    rw [place_of_getElem?_marked here lasting]
    rw [getElem?_marked, Option.map_eq_some_iff] at here
    obtain ⟨token, here, rfl⟩ := here
    exact ⟨token, here, by rwa [Token.isLasting_marked] at lasting⟩
  · rintro ⟨token, here, lasting⟩
    have mark : (Formula.marked 0 tokens)[k]? = some (token.marked k) := by
      rw [getElem?_marked, here, Nat.zero_add]
      rfl
    refine ⟨token.marked k, List.mem_filter.mpr ⟨List.mem_of_getElem? mark, ?_⟩,
      Token.place_marked lasting k⟩
    rwa [Token.isLasting_marked]

end PostfixOrder

/-- The order of places can be computed. -/
theorem postfixOrder_iff {tokens : List (Token σ)} {order : List Nat} :
    PostfixOrder tokens order ↔
      (toPostfix (marked 0 tokens)).map (List.map Token.place) = .ok order := by
  constructor
  · intro h
    obtain ⟨output, converted, rfl⟩ := h.marked
    rw [converted]
    rfl
  · intro h
    cases converted : toPostfix (marked 0 tokens) with
    | error error =>
      rw [converted] at h
      cases h
    | ok marks =>
      rw [converted] at h
      cases h
      exact postfixOrder_of_marked converted

end Formula
