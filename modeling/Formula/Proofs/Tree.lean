import Formula.Token

/-!
# Expression trees

A tree is what a formula means, apart from how it is written: numbers and variables at the leaves,
and above them operators with their operands and functions with their arguments, in the order of the
source. Its **postorder** puts every operator and every function right after what it applies to.

A tree may give an operator or a function any number of children; where the number has to be right,
that is a condition of its own.

What is shown of a tree by `Tree.induction` does not depend on which token its root is: every tree
is a **root** over its **children**, and the roots of all trees within it, taken in order, are its
postorder (`Tree.map_root_nodes`).
-/

namespace Formula

/-- An expression tree. -/
inductive Tree (σ : Type) where
  | number (value : Float)
  | var (name : String) (slot : Nat)
  | operation (operator : Operator σ) (operands : List (Tree σ))
  | call (function : Function σ) (arguments : List (Tree σ))

namespace Tree

variable {σ : Type}

mutual

/-- **The tokens of a tree**, children first and from left to right. -/
def postorder : Tree σ → List (Token σ)
  | number x => [.number x]
  | var name slot => [.var name slot]
  | operation o operands => postorderAll operands ++ [.operator o]
  | call f arguments => postorderAll arguments ++ [.function f]

/-- The postorders of several trees, one after the other. -/
def postorderAll : List (Tree σ) → List (Token σ)
  | [] => []
  | tree :: rest => tree.postorder ++ postorderAll rest

end

/-! ## The parts of a tree -/

/-- The token of a tree that stands last in its postorder. -/
def root : Tree σ → Token σ
  | number x => .number x
  | var name slot => .var name slot
  | operation o _ => .operator o
  | call f _ => .function f

/-- What the root applies to, from left to right. -/
def children : Tree σ → List (Tree σ)
  | number _ | var _ _ => []
  | operation _ operands => operands
  | call _ arguments => arguments

/-- The same root over other children. -/
def withChildren : Tree σ → List (Tree σ) → Tree σ
  | number x, _ => number x
  | var name slot, _ => var name slot
  | operation o _, operands => operation o operands
  | call f _, arguments => call f arguments

theorem postorder_eq (tree : Tree σ) :
    tree.postorder = postorderAll tree.children ++ [tree.root] := by
  cases tree <;> simp [postorder, postorderAll, children, root]

theorem postorderAll_eq_flatMap (trees : List (Tree σ)) :
    postorderAll trees = trees.flatMap postorder := by
  induction trees with
  | nil => rfl
  | cons tree rest ih => rw [postorderAll, ih, List.flatMap_cons]

/-- A tree whose root is a number is that number. -/
theorem eq_number_of_root {tree : Tree σ} {x : Float} (h : tree.root = .number x) :
    tree = .number x := by
  cases tree <;> cases h
  rfl

@[simp]
theorem root_withChildren (tree : Tree σ) (trees : List (Tree σ)) :
    (tree.withChildren trees).root = tree.root := by
  cases tree <;> rfl

/-- A root that takes other children in place of as many takes them all. -/
theorem children_withChildren {tree : Tree σ} {trees : List (Tree σ)}
    (count : trees.length = tree.children.length) : (tree.withChildren trees).children = trees := by
  cases tree with
  | number _ => exact (List.eq_nil_of_length_eq_zero count).symm
  | var _ _ => exact (List.eq_nil_of_length_eq_zero count).symm
  | operation _ _ => rfl
  | call _ _ => rfl

section Induction

variable {motive : Tree σ → Prop}

mutual

/-- **Induction over a tree**: what holds of a tree if it holds of its children holds of all
trees. -/
theorem induction (node : ∀ tree : Tree σ, (∀ child ∈ tree.children, motive child) → motive tree) :
    ∀ tree : Tree σ, motive tree
  | number x => node (.number x) fun _ mem => nomatch mem
  | var name slot => node (.var name slot) fun _ mem => nomatch mem
  | operation o operands => node (.operation o operands) (inductionAll node operands)
  | call f arguments => node (.call f arguments) (inductionAll node arguments)

theorem inductionAll
    (node : ∀ tree : Tree σ, (∀ child ∈ tree.children, motive child) → motive tree) :
    ∀ trees : List (Tree σ), ∀ tree ∈ trees, motive tree
  | [] => fun _ mem => nomatch mem
  | tree :: rest => List.forall_mem_cons.mpr ⟨induction node tree, inductionAll node rest⟩

end

end Induction

/-! ## The nodes of a tree -/

mutual

/-- All trees within a tree, in the order in which their roots stand in its postorder. -/
def nodes : Tree σ → List (Tree σ)
  | number x => [number x]
  | var name slot => [var name slot]
  | operation o operands => nodesAll operands ++ [operation o operands]
  | call f arguments => nodesAll arguments ++ [call f arguments]

/-- The nodes of several trees, one tree after the other. -/
def nodesAll : List (Tree σ) → List (Tree σ)
  | [] => []
  | tree :: rest => tree.nodes ++ nodesAll rest

end

theorem nodes_eq (tree : Tree σ) : tree.nodes = nodesAll tree.children ++ [tree] := by
  cases tree <;> simp [nodes, nodesAll, children]

theorem nodesAll_eq_flatMap (trees : List (Tree σ)) : nodesAll trees = trees.flatMap nodes := by
  induction trees with
  | nil => rfl
  | cons tree rest ih => rw [nodesAll, ih, List.flatMap_cons]

/-- **The roots of the nodes are the postorder.** -/
theorem map_root_nodes (tree : Tree σ) : tree.nodes.map root = tree.postorder := by
  induction tree using Tree.induction with
  | node tree ih =>
    have inner : (nodesAll tree.children).map root = postorderAll tree.children := by
      rw [nodesAll_eq_flatMap, postorderAll_eq_flatMap, List.map_flatMap, List.flatMap_def,
        List.flatMap_def, List.map_congr_left ih]
    rw [nodes_eq, List.map_append, inner, postorder_eq]
    rfl

/-- The tokens of a node are tokens of the tree. -/
theorem postorder_subset_of_mem_nodes {tree node : Tree σ} (within : node ∈ tree.nodes) :
    node.postorder ⊆ tree.postorder := by
  induction tree using Tree.induction with
  | node tree ih =>
    rw [nodes_eq, nodesAll_eq_flatMap, List.mem_append, List.mem_singleton] at within
    rcases within with below | rfl
    · obtain ⟨child, mem, within⟩ := List.mem_flatMap.mp below
      have part : child.postorder ⊆ tree.postorder := by
        rw [postorder_eq tree, postorderAll_eq_flatMap]
        exact fun token mem' => List.mem_append_left _ (List.mem_flatMap.mpr ⟨child, mem, mem'⟩)
      exact List.Subset.trans (ih child mem within) part
    · exact List.Subset.refl _

end Formula.Tree
