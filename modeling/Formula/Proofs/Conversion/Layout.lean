import Formula.Proofs.Conversion.Yard
import Formula.Proofs.Grammar
import Formula.Proofs.Tree

/-!
# Infix layouts

A layout is one of the ways to write a tree down: it says which parts stand in brackets of their
own. **A layout is grouped** if brackets stand at least where the parts would regroup without them.
What decides is the exposed edge of a bare operand: the operators at its rim that no bracket
separates from the operator next to it. A left operand may stand bare if that operator comes after
all of its right edge; a right operand, or the operand of an operator before it, if all of its left
edge binds tighter, or alike and to the right.

**The yard inverts every grouped layout** (`Layout.toPostfix_tokens`). The invariant is
`Yard.takeIn_layout`: reading a layout puts out all of its postorder but its right edge, which is
exactly what waits, on top of what waited before. The entry below is never released meanwhile, since
the operators that meet it are those of the left edge (`Settled`).
-/

namespace Formula

variable {σ : Type}

namespace Operator

/-- An operator `p` at the right edge of the left operand of `o` is done before `o`. -/
def Precedes (p o : Operator σ) : Prop :=
  o.precedence < p.precedence ∨ (o.precedence = p.precedence ∧ o.leftAssociative = true)

/-- An operator `p` at the left edge of an operand on the right of `o` keeps that operand. -/
def Keeps (p o : Operator σ) : Prop :=
  o.precedence < p.precedence ∨ (o.precedence = p.precedence ∧ p.leftAssociative = false)

end Operator

/-- A tree as it is written: every part bare, or in brackets of its own. -/
inductive Layout (σ : Type) where
  | number (value : Float)
  | var (name : String) (slot : Nat)
  | call (function : Function σ) (arguments : List (Layout σ))
  | before (operator : Operator σ) (operand : Layout σ)
  | between (operator : Operator σ) (left right : Layout σ)
  | group (content : Layout σ)

namespace Layout

mutual

/-- The tree that is written. -/
def tree : Layout σ → Tree σ
  | number x => .number x
  | var name slot => .var name slot
  | call f arguments => .call f (trees arguments)
  | before o operand => .operation o [operand.tree]
  | between o left right => .operation o [left.tree, right.tree]
  | group content => content.tree

/-- The trees of several layouts. -/
def trees : List (Layout σ) → List (Tree σ)
  | [] => []
  | layout :: rest => layout.tree :: trees rest

end

mutual

/-- **The infix tokens**, in the order in which they are read. -/
def tokens : Layout σ → List (Token σ)
  | number x => [.number x]
  | var name slot => [.var name slot]
  | call f arguments => .function f :: .opening :: (separated arguments ++ [.closing])
  | before o operand => .operator o :: operand.tokens
  | between o left right => left.tokens ++ .operator o :: right.tokens
  | group content => .opening :: (content.tokens ++ [.closing])

/-- The tokens of several layouts, with separators between them. -/
def separated : List (Layout σ) → List (Token σ)
  | [] => []
  | [layout] => layout.tokens
  | layout :: next :: rest => layout.tokens ++ .separator :: separated (next :: rest)

end

/-- The operators at the right edge that no bracket hides, from the inside out. -/
def rightEdge : Layout σ → List (Operator σ)
  | before o operand => operand.rightEdge ++ [o]
  | between o _ right => right.rightEdge ++ [o]
  | number _ | var _ _ | call _ _ | group _ => []

/-- The operators between two operands at the left edge that no bracket hides, from the outside
in. -/
def leftEdge : Layout σ → List (Operator σ)
  | between o left _ => o :: left.leftEdge
  | number _ | var _ _ | call _ _ | before _ _ | group _ => []

mutual

/-- **Every operator is of its kind, and brackets stand wherever parts would regroup without them.**
All operators before an operand have one precedence. -/
def Grouped (level : Int) : Layout σ → Prop
  | number _ | var _ _ => True
  | call _ arguments => AllGrouped level arguments
  | before o operand =>
    (o.precedesOperand = true ∧ o.precedence = level) ∧ operand.Grouped level ∧
      ∀ p ∈ operand.leftEdge, p.Keeps o
  | between o left right =>
    o.standsBetween = true ∧ left.Grouped level ∧ right.Grouped level ∧
      (∀ p ∈ left.rightEdge, p.Precedes o) ∧ ∀ p ∈ right.leftEdge, p.Keeps o
  | group content => content.Grouped level

/-- Several layouts are grouped, each for itself. -/
def AllGrouped (level : Int) : List (Layout σ) → Prop
  | [] => True
  | layout :: rest => layout.Grouped level ∧ AllGrouped level rest

end

/-- The part of the postorder that is put out when the last token has been read. -/
def emitted : Layout σ → List (Token σ)
  | before _ operand => operand.emitted
  | between _ left right => left.tree.postorder ++ right.emitted
  | layout@(number _) | layout@(var _ _) | layout@(call _ _) | layout@(group _) =>
    layout.tree.postorder

/-- The operators that are read while nothing of the layout waits: its left edge, and the operator
that it starts with, if it starts with one. -/
def heads : Layout σ → List (Operator σ)
  | before o _ => [o]
  | between o left _ => o :: left.heads
  | number _ | var _ _ | call _ _ | group _ => []

/-- The right edge is what the postorder still lacks. -/
theorem emitted_append : ∀ layout : Layout σ,
    layout.emitted ++ layout.rightEdge.map .operator = layout.tree.postorder
  | number _ | var _ _ | call _ _ | group _ => List.append_nil _
  | before o operand => by
    have inner := emitted_append operand
    simp only [emitted, rightEdge, tree, Tree.postorder, Tree.postorderAll, List.map_append,
      List.map_cons, List.map_nil, List.append_nil, ← List.append_assoc, inner]
  | between o left right => by
    have inner := emitted_append right
    simp only [emitted, rightEdge, tree, Tree.postorder, Tree.postorderAll, List.map_append,
      List.map_cons, List.map_nil, List.append_nil, List.append_assoc]
    rw [← List.append_assoc right.emitted, inner]

/-! ## What waits below a layout -/

/-- What waits below a layout stays there while it is read: no operator that meets the latest entry
releases it, and the entry is no function, whose brackets would come next. -/
structure Settled (pending : List (Pending σ)) (layout : Layout σ) : Prop where
  quiet : ∀ entry ∈ pending.head?, ∀ o ∈ layout.heads, entry.yieldsTo o = false
  notCall : ∀ f, pending.head? ≠ some (.function f)

/-- Below a bracket nothing is met. -/
theorem Settled.bracket (below : List (Pending σ)) (layout : Layout σ) :
    Settled (.bracket :: below) layout where
  quiet := by
    rintro entry ⟨⟩ o _
    rfl
  notCall := by
    rintro f ⟨⟩

theorem Settled.left {pending : List (Pending σ)} {o : Operator σ} {left right : Layout σ}
    (h : Settled pending (between o left right)) : Settled pending left :=
  ⟨fun entry latest p head => h.quiet entry latest p (List.mem_cons_of_mem _ head), h.notCall⟩

end Layout

/-- An operator at the right edge of a left operand is released by the operator after it. -/
theorem Pending.yieldsTo_of_precedes {p o : Operator σ} (between : o.standsBetween = true)
    (h : p.Precedes o) : Pending.yieldsTo o (.operator p) = true := by
  have binary := Operator.isUnary_of_standsBetween between
  rcases h with tighter | ⟨alike, left⟩
  · simp [yieldsTo, binary, tighter]
  · simp [yieldsTo, binary, left, alike]

/-- An operator before an operand is kept by the operators at the left edge of that operand. -/
theorem Pending.yieldsTo_of_keeps {p o : Operator σ} (h : p.Keeps o) :
    Pending.yieldsTo p (.operator o) = false := by
  rcases h with tighter | ⟨alike, right⟩
  · have : ¬ p.precedence ≤ o.precedence := by omega
    have : ¬ p.precedence < o.precedence := by omega
    simp [yieldsTo, *]
  · simp [yieldsTo, right, alike]

/-- An operator that stands before its operand releases none between two, and none of its own kind
and precedence. -/
theorem Pending.yieldsTo_preceding {o next : Operator σ} {level : Int}
    (kind : next.precedesOperand = true) (next_level : next.precedence = level)
    (waiting : o.standsBetween = true ∨ o.precedence = level) :
    Pending.yieldsTo next (.operator o) = false := by
  simp only [Operator.precedesOperand, Bool.and_eq_true, Bool.not_eq_true'] at kind
  rcases waiting with between | alike
  · have binary : o.isUnary = false := Operator.isUnary_of_standsBetween between
    simp [yieldsTo, kind, binary]
  · simp [yieldsTo, kind, next_level, alike]

namespace Layout

/-- What is read at the head of a layout is its left edge, and at most one operator before an
operand. -/
theorem mem_heads {level : Int} {next : Operator σ} : ∀ {layout : Layout σ}, layout.Grouped level →
    next ∈ layout.heads →
      next ∈ layout.leftEdge ∨ next.precedesOperand = true ∧ next.precedence = level
  | number _, _, head | var _ _, _, head | call _ _, _, head | group _, _, head => nomatch head
  | before o operand, grouped, head => by
    rw [Grouped] at grouped
    obtain rfl := List.mem_singleton.mp head
    exact .inr grouped.1
  | between o left right, grouped, head => by
    rw [Grouped] at grouped
    rcases List.mem_cons.mp head with rfl | later
    · exact .inl List.mem_cons_self
    · rcases mem_heads grouped.2.1 later with edge | kind
      · exact .inl (List.mem_cons_of_mem _ edge)
      · exact .inr kind

/-- An operator stays below an operand on its right whose left edge keeps it. -/
theorem Settled.operand {level : Int} {o : Operator σ} {pending : List (Pending σ)}
    {layout : Layout σ} (waiting : o.standsBetween = true ∨ o.precedence = level)
    (grouped : layout.Grouped level) (keeps : ∀ p ∈ layout.leftEdge, p.Keeps o) :
    Settled (.operator o :: pending) layout where
  quiet := by
    rintro entry ⟨⟩ next head
    rcases mem_heads grouped head with edge | ⟨kind, next_level⟩
    · exact Pending.yieldsTo_of_keeps (keeps next edge)
    · exact Pending.yieldsTo_preceding kind next_level waiting
  notCall := by
    rintro f ⟨⟩

end Layout

/-! ## What the yard makes of a layout -/

namespace Yard

/-- Putting out the right edge completes the postorder. -/
theorem output_edge (layout : Layout σ) (output : List (Token σ)) :
    (layout.rightEdge.map Token.operator).reverse ++ (layout.emitted.reverse ++ output) =
      layout.tree.postorder.reverse ++ output := by
  rw [← layout.emitted_append, List.reverse_append, List.append_assoc]

mutual

/-- **Reading a layout** puts out all of its postorder but the right edge, which waits. -/
theorem takeIn_layout {level : Int} : ∀ {layout : Layout σ} {output : List (Token σ)}
    {pending : List (Pending σ)}, layout.Grouped level → layout.Settled pending →
      takeIn ⟨output, pending⟩ layout.tokens =
        .ok ⟨layout.emitted.reverse ++ output, layout.rightEdge.map .operator ++ pending⟩
  | .number _, _, _, _, _ | .var _ _, _, _, _, _ => rfl
  | .call f arguments, output, pending, grouped, settled => by
    rw [Layout.Grouped] at grouped
    rw [Layout.tokens, takeIn_cons_ok rfl, takeIn_cons_ok rfl]
    show takeIn ⟨output, .bracket :: .function f :: pending⟩ _ = _
    rw [takeIn_separated grouped]
    simp [releaseCall, Layout.emitted, Layout.rightEdge, Layout.tree, Tree.postorder]
  | .before o operand, output, pending, grouped, settled => by
    rw [Layout.Grouped] at grouped
    obtain ⟨⟨kind, o_level⟩, operand_grouped, keeps⟩ := grouped
    have held : step ⟨output, pending⟩ (.operator o) = .ok ⟨output, .operator o :: pending⟩ :=
      step_operator_quiet fun entry latest => settled.quiet entry latest o List.mem_cons_self
    rw [Layout.tokens, takeIn_cons_ok held,
      takeIn_layout operand_grouped (.operand (.inr o_level) operand_grouped keeps)]
    simp [Layout.emitted, Layout.rightEdge]
  | .between o left right, output, pending, grouped, settled => by
    rw [Layout.Grouped] at grouped
    obtain ⟨kind, left_grouped, right_grouped, precede, keeps⟩ := grouped
    have met : step ⟨left.emitted.reverse ++ output, left.rightEdge.map .operator ++ pending⟩
        (.operator o) = .ok ⟨left.tree.postorder.reverse ++ output, .operator o :: pending⟩ := by
      rw [step_operator, output_edge]
      · exact fun p edge => Pending.yieldsTo_of_precedes kind (precede p edge)
      · exact fun entry latest => settled.quiet entry latest o List.mem_cons_self
    rw [Layout.tokens, takeIn_append_ok (takeIn_layout left_grouped settled.left),
      takeIn_cons_ok met,
      takeIn_layout right_grouped (.operand (.inl kind) right_grouped keeps)]
    simp [Layout.emitted, Layout.rightEdge]
  | .group content, output, pending, grouped, settled => by
    rw [Layout.Grouped] at grouped
    rw [Layout.tokens, takeIn_cons_ok rfl]
    show takeIn ⟨output, .bracket :: pending⟩ _ = _
    rw [takeIn_append_ok (takeIn_layout grouped (.bracket pending content)),
      takeIn_cons_ok (step_closing _ _ _), output_edge, releaseCall_of_notCall settled.notCall]
    rfl

/-- Reading the arguments of a call up to its closing bracket puts out their postorders. -/
theorem takeIn_separated {level : Int} : ∀ {arguments : List (Layout σ)} {output : List (Token σ)}
    {pending : List (Pending σ)}, Layout.AllGrouped level arguments →
      takeIn ⟨output, .bracket :: pending⟩ (Layout.separated arguments ++ [.closing]) =
        .ok (releaseCall
          ⟨(Tree.postorderAll (Layout.trees arguments)).reverse ++ output, pending⟩)
  | [], _, _, _ => rfl
  | [layout], output, pending, grouped => by
    rw [Layout.AllGrouped] at grouped
    rw [Layout.separated, takeIn_append_ok (takeIn_layout grouped.1 (.bracket pending layout)),
      takeIn_cons_ok (step_closing _ _ _), output_edge]
    simp [Layout.trees, Tree.postorderAll]
  | layout :: next :: rest, output, pending, grouped => by
    rw [Layout.AllGrouped] at grouped
    rw [Layout.separated, List.append_assoc,
      takeIn_append_ok (takeIn_layout grouped.1 (.bracket pending layout)), List.cons_append,
      takeIn_cons_ok (step_separator _ _ _), output_edge, takeIn_separated grouped.2]
    simp [Layout.trees, Tree.postorderAll]

end

end Yard

/-- The postorder of a grouped layout's tree is the postfix order of its tokens. -/
theorem Layout.toPostfix_tokens {level : Int} {layout : Layout σ} (grouped : layout.Grouped level) :
    toPostfix layout.tokens = .ok layout.tree.postorder := by
  have settled : layout.Settled [] := ⟨by rintro _ ⟨⟩, by rintro _ ⟨⟩⟩
  rw [toPostfix, Yard.empty, Yard.takeIn_layout grouped settled]
  show Yard.finish ⟨_, layout.rightEdge.map .operator ++ []⟩ = _
  rw [List.append_nil (layout.rightEdge.map _), Yard.finish_operators, Yard.output_edge,
    List.append_nil, List.reverse_reverse]

/-- **The infix token lists of a tree**: every operator is between its two operands or before its
one, those before an operand have one precedence, and parts stand in brackets at least where they
would regroup without them. -/
def Tree.WrittenAs (level : Int) (tree : Tree σ) (tokens : List (Token σ)) : Prop :=
  ∃ layout : Layout σ, layout.Grouped level ∧ layout.tree = tree ∧ layout.tokens = tokens

/-- **The yard inverts every way to write a tree**: whatever the precedences of the operators, and
wherever more brackets stand than are needed, the tokens are put out in postorder. -/
theorem toPostfix_eq_postorder {level : Int} {tree : Tree σ} {tokens : List (Token σ)}
    (written : tree.WrittenAs level tokens) : toPostfix tokens = .ok tree.postorder := by
  obtain ⟨layout, grouped, rfl, rfl⟩ := written
  exact layout.toPostfix_tokens grouped

/-- In `-x ^ -(x) + f((x - x) * x, x - x # x)` operators before an operand stand under and over
those between two, one bracket is needed and another is not, and the last argument groups to the
right, as the operator of equal precedence asks. -/
theorem toPostfix_eq_postorder_nested :
    let x : Layout Unit := .var "x" 0
    let sum : Operator Unit := .between "+" 500 fun a b => .ok (a + b)
    let difference : Operator Unit := .between "-" 500 fun a b => .ok (a - b)
    let join : Operator Unit := ⟨"#", 2, false, 500, difference.rule⟩
    let power : Operator Unit := ⟨"^", 2, false, 10000, difference.rule⟩
    let minus : Operator Unit := .before "-" 5000 Float.neg
    let f : Function Unit := ⟨"f", 2, true, difference.rule⟩
    let layout : Layout Unit :=
      .between sum (.before minus (.between power x (.before minus (.group x))))
        (.call f [.between .times (.group (.between difference x x)) x,
          .between difference x (.between join x x)])
    layout.tree.WrittenAs 5000 layout.tokens ∧
      toPostfix layout.tokens = .ok layout.tree.postorder := by
  intro x sum difference join power minus f layout
  have written : layout.tree.WrittenAs 5000 layout.tokens := by
    refine ⟨layout, ?_, rfl, rfl⟩
    simp [layout, x, sum, difference, join, power, minus, Layout.Grouped, Layout.AllGrouped,
      Layout.leftEdge, Layout.rightEdge, Operator.Keeps, Operator.Precedes, Operator.between,
      Operator.before, Operator.times, Operator.standsBetween, Operator.precedesOperand,
      Operator.isUnary]
  exact ⟨written, toPostfix_eq_postorder written⟩

end Formula
