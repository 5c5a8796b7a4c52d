import Formula.Proofs.Folding.Steps
import Formula.Proofs.Program.Postorder

/-!
# Folding trees

A tree is folded from its leaves up: the children first, from left to right, and then the root,
which becomes the number that it computes if all its children became numbers and it may be computed
ahead. All other nodes stay where they are, over what became of their children. **Folding a
postorder folds the tree** (`fold_postorder`), though it has no tree before it and sees only the
topmost tokens.

That it takes no tokens of other nodes rests on one fact about postorders: where as many tokens on
top are numbers as there are trees below a node, these trees are numbers, all of them
(`Tree.eq_numbers_of_postorderAll`). A tree that is more than a number has its root on top.

Which nodes become numbers, and of which one the rule fails first, is said of the nodes themselves
(`Tree.Collapses`, `Tree.FirstFails`), without mention of a computation.
-/

namespace Formula

variable {σ : Type}

namespace Tree

/-- How many children the root takes. -/
def arity : Tree σ → Nat
  | number _ | var _ _ => 0
  | operation o _ => o.arity
  | call f _ => f.arity

/-- The rule of a root that may be computed ahead: that of an operator, or of a deterministic
function. -/
def rule? : Tree σ → Option (Rule σ)
  | number _ | var _ _ => none
  | operation o _ => some o.rule
  | call f _ => if f.deterministic then some f.rule else none

/-- The number that a tree is, if it is one. -/
def number? : Tree σ → Option Float
  | number x => some x
  | _ => none

/-- The number that the root computes, if its children are numbers and it may be computed ahead, and
the tree as it is otherwise. -/
def settle (tree : Tree σ) : Effect σ Error (Tree σ) :=
  match tree.rule?, tree.children.mapM number? with
  | some rule, some values => return number (← rule.apply values)
  | _, _ => return tree

mutual

/-- **The tree folded from its leaves up**, its children from left to right. -/
def fold : Tree σ → Effect σ Error (Tree σ)
  | number x => return number x
  | var name slot => return var name slot
  | operation o operands => do settle (operation o (← foldAll operands))
  | call f arguments => do settle (call f (← foldAll arguments))

/-- Several trees folded, one after the other. -/
def foldAll : List (Tree σ) → Effect σ Error (List (Tree σ))
  | [] => return []
  | tree :: rest => do
    let folded ← tree.fold
    let others ← foldAll rest
    return folded :: others

end

theorem fold_eq (tree : Tree σ) :
    tree.fold = foldAll tree.children >>= fun folded => (tree.withChildren folded).settle := by
  cases tree <;> rfl

@[simp]
theorem arity_withChildren (tree : Tree σ) (trees : List (Tree σ)) :
    (tree.withChildren trees).arity = tree.arity := by
  cases tree <;> rfl

@[simp]
theorem rule?_withChildren (tree : Tree σ) (trees : List (Tree σ)) :
    (tree.withChildren trees).rule? = tree.rule? := by
  cases tree <;> rfl

theorem saturated_iff {tree : Tree σ} :
    tree.Saturated ↔
      tree.children.length = tree.arity ∧ ∀ child ∈ tree.children, child.Saturated := by
  have all : ∀ trees : List (Tree σ), AllSaturated trees ↔ ∀ child ∈ trees, child.Saturated := by
    intro trees
    induction trees with
    | nil => simp [AllSaturated]
    | cons child rest ih => simp [AllSaturated, ih]
  cases tree <;> simp [Saturated, children, arity, all]

theorem foldable?_root (tree : Tree σ) :
    tree.root.foldable? = tree.rule?.map fun rule => (tree.arity, rule) := by
  cases tree with
  | call f arguments =>
    simp only [root, Token.foldable?, rule?, arity]
    split <;> rfl
  | _ => rfl

theorem mapM_number?_eq_some_iff {trees : List (Tree σ)} {values : List Float} :
    trees.mapM number? = some values ↔ trees = values.map .number :=
  Folding.mapM_eq_some_iff_map fun tree _ => by cases tree <;> simp [number?]

/-- A root over numbers is computed. -/
theorem settle_of_numbers {tree : Tree σ} {rule : Rule σ} {values : List Float}
    (computed : tree.rule? = some rule) (numbers : tree.children = values.map .number) :
    tree.settle = rule.apply values >>= fun value => pure (number value) := by
  simp only [settle, computed, mapM_number?_eq_some_iff.mpr numbers]

/-- A root is computed if it may be and its children are numbers, and kept in all other cases. -/
theorem settle_cases (tree : Tree σ) :
    (∃ rule, ∃ values : List Float, tree.rule? = some rule ∧
      tree.children = values.map .number ∧
        tree.settle = rule.apply values >>= fun value => pure (number value)) ∨
      (∀ rule (values : List Float), tree.rule? = some rule →
        tree.children ≠ values.map .number) ∧ tree.settle = pure tree := by
  cases computed : tree.rule? with
  | none => exact .inr ⟨fun _ _ h => (nomatch h), by simp only [settle, computed]⟩
  | some rule =>
    cases numbers : tree.children.mapM number? with
    | none =>
      refine .inr ⟨fun _ values _ same => ?_, by simp only [settle, computed, numbers]⟩
      rw [mapM_number?_eq_some_iff.mpr same] at numbers
      cases numbers
    | some values =>
      have same := mapM_number?_eq_some_iff.mp numbers
      exact .inl ⟨rule, values, rfl, same, settle_of_numbers computed same⟩

theorem length_of_foldAll {trees folded : List (Tree σ)} {state after : σ}
    (h : Effect.from state (foldAll trees) = (.ok folded, after)) :
    folded.length = trees.length := by
  induction trees generalizing folded state with
  | nil =>
    cases h
    rfl
  | cons tree rest ih =>
    rw [foldAll] at h
    obtain ⟨first, mid, -, h⟩ := Effect.of_from_bind_ok h
    obtain ⟨others, last, later, put⟩ := Effect.of_from_bind_ok h
    cases put
    rw [List.length_cons, List.length_cons, ih later]

/-- What a tree is folded to is a number, or the same root over the folded children. -/
theorem number_or_kept_of_fold {tree folded : Tree σ} {state after : σ}
    (answers : Effect.from state tree.fold = (.ok folded, after)) :
    (∃ x, folded = .number x) ∨
      folded.root = tree.root ∧
        (Effect.from state (foldAll tree.children)).1 = .ok folded.children := by
  rw [fold_eq] at answers
  obtain ⟨children, mid, reached, settled⟩ := Effect.of_from_bind_ok answers
  rcases settle_cases (tree.withChildren children) with ⟨rule, values, -, -, settles⟩ | ⟨-, settles⟩
  · rw [settles] at settled
    obtain ⟨x, last, -, put⟩ := Effect.of_from_bind_ok settled
    cases put
    exact .inl ⟨x, rfl⟩
  · rw [settles] at settled
    cases settled
    rw [reached, children_withChildren (length_of_foldAll reached)]
    exact .inr ⟨root_withChildren tree children, rfl⟩

/-! ## The topmost tokens -/

theorem postorderAll_append (trees more : List (Tree σ)) :
    postorderAll (trees ++ more) = postorderAll trees ++ postorderAll more := by
  simp only [postorderAll_eq_flatMap, List.flatMap_append]

/-- The postorder of numbers is these numbers. -/
theorem postorderAll_numbers (values : List Float) :
    postorderAll (values.map (number (σ := σ))) = values.map .number := by
  induction values with
  | nil => rfl
  | cons x rest ih =>
    rw [List.map_cons, postorderAll, ih]
    rfl

/-- **Where the topmost tokens are as many numbers as there are trees, the trees are these
numbers.** -/
theorem eq_numbers_of_postorderAll {trees : List (Tree σ)} {values : List Float}
    {below rest : List (Token σ)} (count : values.length = trees.length)
    (top : (postorderAll trees).reverse ++ below = (values.map .number).reverse ++ rest) :
    trees = values.map .number := by
  induction trees using List.reverseRecOn generalizing values below with
  | nil =>
    rw [List.eq_nil_of_length_eq_zero count]
    rfl
  | append_singleton trees tree ih =>
    rcases List.eq_nil_or_concat' values with rfl | ⟨values, x, rfl⟩
    · simp at count
    · -- the root of the last tree is on top of all others
      simp only [postorderAll_append, postorderAll, postorder_eq tree, List.append_nil,
        List.reverse_append, List.reverse_singleton, List.cons_append,
        List.map_append, List.map_cons, List.map_nil, List.cons.injEq] at top
      obtain ⟨atRoot, top⟩ := top
      have last := eq_number_of_root atRoot
      subst last
      have others := ih (by simpa using count) top
      rw [others, List.map_append]
      rfl

end Tree

namespace Folding

open Formula.Tree

/-- **A root that folding meets on top of its children settles.** -/
theorem step_root {node : Tree σ} (count : node.children.length = node.arity)
    (below : List (Token σ)) :
    step ((postorderAll node.children).reverse ++ below) node.root =
      node.settle >>= fun folded => pure (folded.postorder.reverse ++ below) := by
  rcases settle_cases node with ⟨rule, values, computed, numbers, settles⟩ | ⟨kept, settles⟩
  · have takes : node.root.foldable? = some (values.length, rule) := by
      rw [foldable?_root, computed, ← count, numbers, List.length_map]
      rfl
    rw [settles, numbers, postorderAll_numbers, step_of_foldable takes, bind_assoc]
    rfl
  · have blocked : Blocked ((postorderAll node.children).reverse ++ below) node.root := by
      intro arity rule takes
      rw [foldable?_root, Option.map_eq_some_iff] at takes
      obtain ⟨rule, computed, takes⟩ := takes
      cases takes
      by_contra taken
      obtain ⟨⟨values, rest⟩, taken⟩ := Option.ne_none_iff_exists'.mp taken
      obtain ⟨top, many⟩ := constants?_eq_some_iff.mp taken
      exact kept rule values computed (eq_numbers_of_postorderAll (many.trans count.symm) top)
    rw [settles, step_of_blocked blocked, pure_bind, postorder_eq]
    simp

/-- Folding the postorders of trees, one after the other, folds the trees. -/
theorem foldlM_postorderAll {trees : List (Tree σ)}
    (each : ∀ tree ∈ trees, ∀ below : List (Token σ), tree.postorder.foldlM step below =
      tree.fold >>= fun folded => pure (folded.postorder.reverse ++ below))
    (below : List (Token σ)) :
    (postorderAll trees).foldlM step below =
      foldAll trees >>= fun folded => pure ((postorderAll folded).reverse ++ below) := by
  induction trees generalizing below with
  | nil => rfl
  | cons tree rest ih =>
    obtain ⟨first, later⟩ := List.forall_mem_cons.mp each
    rw [postorderAll, List.foldlM_append, first, foldAll, bind_assoc, bind_assoc]
    refine bind_congr fun folded => ?_
    rw [pure_bind, ih later, bind_assoc]
    simp [postorderAll]

/-- **Folding a postorder folds its tree**, on top of whatever was folded before. -/
theorem foldlM_postorder {tree : Tree σ} (saturated : tree.Saturated) (below : List (Token σ)) :
    tree.postorder.foldlM step below =
      tree.fold >>= fun folded => pure (folded.postorder.reverse ++ below) := by
  induction tree using Tree.induction generalizing below with
  | node tree ih =>
    obtain ⟨count, within⟩ := saturated_iff.mp saturated
    have inner := foldlM_postorderAll (fun child mem => ih child mem (within child mem)) below
    rw [postorder_eq, List.foldlM_append, inner, fold_eq, bind_assoc, bind_assoc]
    refine Effect.bind_congr_of_ok fun {_ folded _} reached => ?_
    have same := children_withChildren (length_of_foldAll reached)
    have complete : (tree.withChildren folded).children.length =
        (tree.withChildren folded).arity := by
      rw [same, arity_withChildren, length_of_foldAll reached, count]
    have settles := step_root complete below
    rw [same, root_withChildren] at settles
    rw [pure_bind, List.foldlM_cons, settles]
    simp

end Folding

namespace Tree

/-! ## The nodes that become numbers -/

/-- **A tree comes to a number**: it is one, or all of its children come to numbers, and its root
may be computed ahead and makes this number of them. -/
inductive Collapses : Tree σ → Float → Prop
  | number (x : Float) : Collapses (.number x) x
  | computed {tree : Tree σ} {f : List Float → Except String Float} {values : List Float}
      {x : Float} :
    tree.rule? = some (Rule.ofFunction f) → List.Forall₂ Collapses tree.children values →
      f values = .ok x → Collapses tree x

/-- All children of the tree come to numbers, and its root may be computed ahead, but its rule fails
on them. -/
def Fails (tree : Tree σ) (reason : String) : Prop :=
  ∃ (f : List Float → Except String Float) (values : List Float),
    tree.rule? = some (Rule.ofFunction f) ∧ List.Forall₂ Collapses tree.children values ∧
      f values = .error reason

/-- Some of the trees fail, and the first of them for this reason. -/
inductive FirstFails : List (Tree σ) → String → Prop
  | here {tree : Tree σ} {reason : String} (rest : List (Tree σ)) :
    tree.Fails reason → FirstFails (tree :: rest) reason
  | later {tree : Tree σ} {rest : List (Tree σ)} {reason : String} :
    (∀ other, ¬ tree.Fails other) → FirstFails rest reason → FirstFails (tree :: rest) reason

theorem FirstFails.append_right {front : List (Tree σ)} {reason : String}
    (first : FirstFails front reason) (back : List (Tree σ)) :
    FirstFails (front ++ back) reason := by
  induction first with
  | here rest fails => exact .here _ fails
  | later sound _ ih => exact .later sound ih

theorem FirstFails.append_left {front back : List (Tree σ)} {reason : String}
    (sound : ∀ tree ∈ front, ∀ other, ¬ tree.Fails other) (first : FirstFails back reason) :
    FirstFails (front ++ back) reason := by
  induction front with
  | nil => exact first
  | cons tree rest ih =>
    obtain ⟨now, later⟩ := List.forall_mem_cons.mp sound
    exact .later now (ih later)

theorem FirstFails.exists {trees : List (Tree σ)} {reason : String}
    (first : FirstFails trees reason) : ∃ tree ∈ trees, tree.Fails reason := by
  induction first with
  | here rest fails => exact ⟨_, List.mem_cons_self, fails⟩
  | later _ _ ih =>
    obtain ⟨tree, mem, fails⟩ := ih
    exact ⟨tree, List.mem_cons_of_mem _ mem, fails⟩

/-! ## What folding comes to -/

/-- A tree whose children come to numbers computes its root from them. -/
theorem fold_of_numbers {tree : Tree σ} {rule : Rule σ} {values : List Float}
    (computed : tree.rule? = some rule) (inputs : foldAll tree.children = pure (values.map .number))
    (count : values.length = tree.children.length) :
    tree.fold = rule.apply values >>= fun value => pure (number value) := by
  have same : (tree.withChildren (values.map .number)).children = values.map .number :=
    children_withChildren (by rw [List.length_map, count])
  rw [fold_eq, inputs, pure_bind]
  exact settle_of_numbers (by rw [rule?_withChildren, computed]) same

theorem foldAll_of_each {trees : List (Tree σ)} {values : List Float}
    (each : ∀ tree ∈ trees, ∀ x, tree.Collapses x → tree.fold = pure (.number x))
    (inputs : List.Forall₂ Collapses trees values) :
    foldAll trees = pure (values.map .number) := by
  induction inputs with
  | nil => rfl
  | @cons tree x rest xs now _ ih =>
    obtain ⟨first, later⟩ := List.forall_mem_cons.mp each
    rw [foldAll, first x now, pure_bind, ih later, pure_bind]
    rfl

/-- **A tree that comes to a number is folded to it.** -/
theorem Collapses.fold_eq {tree : Tree σ} {x : Float} (collapses : tree.Collapses x) :
    tree.fold = pure (.number x) := by
  induction tree using Tree.induction generalizing x with
  | node tree ih =>
    cases collapses with
    | number => rfl
    | computed rule inputs outcome =>
      have children := foldAll_of_each (fun child mem _ => ih child mem) inputs
      rw [fold_of_numbers rule children inputs.length_eq.symm, Rule.apply_ofFunction, outcome]
      rfl

theorem Fails.fold_eq {tree : Tree σ} {reason : String} (fails : tree.Fails reason) :
    tree.fold = throw (.arithmetic reason) := by
  obtain ⟨f, values, rule, inputs, outcome⟩ := fails
  have children := foldAll_of_each (fun _ _ _ => Collapses.fold_eq) inputs
  rw [fold_of_numbers rule children inputs.length_eq.symm, Rule.apply_ofFunction, outcome]
  rfl

/-- A tree fails for one reason. -/
theorem Fails.unique (state : σ) {tree : Tree σ} {reason other : String}
    (fails : tree.Fails reason) (too : tree.Fails other) : reason = other := by
  have same := congrArg (Effect.from state) (fails.fold_eq.symm.trans too.fold_eq)
  cases same
  rfl

theorem FirstFails.unique (state : σ) {trees : List (Tree σ)} {reason other : String}
    (first : FirstFails trees reason) (too : FirstFails trees other) : reason = other := by
  induction first with
  | here rest fails =>
    cases too with
    | here _ again => exact fails.unique state again
    | later sound _ => exact absurd fails (sound _)
  | later sound _ ih =>
    cases too with
    | here _ again => exact absurd again (sound _)
    | later _ rest => exact ih rest

/-- A number that became of a tree is one that the tree comes to. -/
def Justifies (tree folded : Tree σ) : Prop :=
  ∀ x, folded = .number x → tree.Collapses x

/-- **How the folding of nodes ends**: with an answer that meets a condition, and then none of the
nodes fails, or as the first node fails that does. -/
def Decides {α : Type} (folding : Effect σ Error α) (nodes : List (Tree σ)) (good : α → Prop) :
    Prop :=
  (∃ answer, folding = pure answer ∧ good answer ∧ ∀ node ∈ nodes, ∀ reason, ¬ node.Fails reason) ∨
    ∃ reason, folding = throw (.arithmetic reason) ∧ FirstFails nodes reason

section Decides

variable {α β : Type} {good : α → Prop} {better : β → Prop}

theorem Decides.pure {answer : α} (meets : good answer) :
    Decides (σ := σ) (Pure.pure answer) [] good :=
  .inl ⟨answer, rfl, meets, List.forall_mem_nil _⟩

/-- Foldings one after the other fold the nodes of both. -/
theorem Decides.bind {folding : Effect σ Error α} {next : α → Effect σ Error β}
    {front back : List (Tree σ)} (first : Decides folding front good)
    (second : ∀ answer, folding = Pure.pure answer → good answer →
      Decides (next answer) back better) :
    Decides (folding >>= next) (front ++ back) better := by
  rcases first with ⟨answer, reached, meets, sound⟩ | ⟨reason, failed, first⟩
  · rw [reached, pure_bind]
    rcases second answer reached meets with ⟨result, ended, good, later⟩ | ⟨reason, failed, first⟩
    · exact .inl ⟨result, ended, good, List.forall_mem_append.mpr ⟨sound, later⟩⟩
    · exact .inr ⟨reason, failed, first.append_left sound⟩
  · rw [failed]
    exact .inr ⟨reason, rfl, first.append_right back⟩

end Decides

theorem decides_foldAll {trees : List (Tree σ)}
    (each : ∀ tree ∈ trees, Decides tree.fold tree.nodes tree.Justifies) :
    Decides (foldAll trees) (nodesAll trees) (List.Forall₂ Justifies trees) := by
  induction trees with
  | nil => exact .pure .nil
  | cons tree rest ih =>
    obtain ⟨now, later⟩ := List.forall_mem_cons.mp each
    rw [foldAll, nodesAll]
    refine now.bind fun folded _ justified => ?_
    rw [← List.append_nil (nodesAll rest)]
    exact (ih later).bind fun others _ all => .pure (.cons justified all)

/-- Over children that are folded, the root becomes a number or stays, unless its rule fails. -/
theorem settle_or_fails {tree : Tree σ} (plain : tree.root.Foreseeable) {folded : List (Tree σ)}
    (children : List.Forall₂ Justifies tree.children folded) :
    (∃ answer, (tree.withChildren folded).settle = pure answer ∧ tree.Justifies answer) ∨
      ∃ reason, tree.Fails reason := by
  have same := children_withChildren children.length_eq.symm
  rcases settle_cases (tree.withChildren folded) with
    ⟨rule, values, computed, numbers, settles⟩ | ⟨-, settles⟩
  · rw [rule?_withChildren] at computed
    obtain ⟨f, rfl⟩ := plain tree.arity rule (by rw [foldable?_root, computed]; rfl)
    rw [← same, numbers, List.forall₂_map_right_iff] at children
    have inputs : List.Forall₂ Collapses tree.children values :=
      children.imp fun _ x justified => justified x rfl
    cases outcome : f values with
    | ok x =>
      refine .inl ⟨number x, ?_, fun y h => ?_⟩
      · rw [settles, Rule.apply_ofFunction, outcome]
        rfl
      · cases h
        exact .computed computed inputs outcome
    | error reason => exact .inr ⟨reason, f, values, computed, inputs, outcome⟩
  · refine .inl ⟨tree.withChildren folded, settles, fun x h => ?_⟩
    have atRoot : tree.root = .number x := by
      rw [← root_withChildren tree folded, h]
      rfl
    rw [eq_number_of_root atRoot]
    exact .number x

/-- **Folding a tree answers, unless one of its nodes fails.** -/
theorem decides_fold (state : σ) {tree : Tree σ}
    (plain : ∀ token ∈ tree.postorder, token.Foreseeable) :
    Decides tree.fold tree.nodes tree.Justifies := by
  induction tree using Tree.induction with
  | node tree ih =>
    rw [postorder_eq, postorderAll_eq_flatMap] at plain
    have inner : ∀ child ∈ tree.children, Decides child.fold child.nodes child.Justifies :=
      fun child mem => ih child mem fun token within =>
        plain token (List.mem_append_left _ (List.mem_flatMap.mpr ⟨child, mem, within⟩))
    have atRoot : tree.root.Foreseeable := plain _ (List.mem_append_right _ List.mem_cons_self)
    rw [fold_eq, nodes_eq]
    refine (decides_foldAll inner).bind fun folded reached children => ?_
    have whole : tree.fold = (tree.withChildren folded).settle := by
      rw [fold_eq, reached, pure_bind]
    rcases settle_or_fails atRoot children with ⟨answer, settles, justified⟩ | ⟨reason, fails⟩
    · refine .inl ⟨answer, settles, justified, List.forall_mem_singleton.mpr fun reason fails => ?_⟩
      have both := congrArg (Effect.from state) (fails.fold_eq.symm.trans (whole.trans settles))
      cases both
    · exact .inr ⟨reason, whole.symm.trans fails.fold_eq, .here [] fails⟩

/-- **A tree is folded to a number exactly if it comes to this number.** -/
theorem fold_eq_number_iff (state : σ) {tree : Tree σ}
    (plain : ∀ token ∈ tree.postorder, token.Foreseeable) (x : Float) :
    (Effect.from state tree.fold).1 = .ok (.number x) ↔ tree.Collapses x := by
  constructor
  · intro answers
    rcases decides_fold state plain with ⟨answer, folds, justified, -⟩ | ⟨reason, fails, -⟩
    · rw [folds] at answers
      cases answers
      exact justified x rfl
    · rw [fails] at answers
      cases answers
  · intro collapses
    rw [collapses.fold_eq]
    rfl

/-- **Folding fails as the first node does whose rule fails**, and for no other reason. -/
theorem fold_eq_error_iff (state : σ) {tree : Tree σ}
    (plain : ∀ token ∈ tree.postorder, token.Foreseeable) (error : Error) :
    (Effect.from state tree.fold).1 = .error error ↔
      ∃ reason, error = .arithmetic reason ∧ FirstFails tree.nodes reason := by
  rcases decides_fold state plain with ⟨answer, folds, -, sound⟩ | ⟨reason, failed, first⟩
  · rw [folds]
    constructor
    · intro fails
      cases fails
    · rintro ⟨reason, -, first⟩
      obtain ⟨node, mem, fails⟩ := first.exists
      exact absurd fails (sound node mem reason)
  · rw [failed]
    constructor
    · intro fails
      cases fails
      exact ⟨reason, rfl, first⟩
    · rintro ⟨other, rfl, again⟩
      rw [first.unique state again]
      rfl

end Tree

/-- **Folding a postorder is folding the tree.** It folds the tree from its leaves up and answers
the postorder of what is left. A node becomes a number exactly if it comes to one: all of its
children do, and it is an operator or a call that may be made ahead. Every other node stays in
place, over its folded children in order. And folding fails if some node's rule fails on the numbers
that its children came to, as the first such node in postorder does. -/
theorem fold_postorder {tree : Tree σ} (saturated : tree.Saturated)
    (plain : ∀ token ∈ tree.postorder, token.Foreseeable) (state : σ) :
    fold tree.postorder = Tree.postorder <$> tree.fold ∧
      (∀ node ∈ tree.nodes,
        (∀ x, (Effect.from state node.fold).1 = .ok (.number x) ↔ node.Collapses x) ∧
          ∀ folded, (Effect.from state node.fold).1 = .ok folded → (∀ x, ¬ node.Collapses x) →
            folded.root = node.root ∧
              (Effect.from state (Tree.foldAll node.children)).1 = .ok folded.children) ∧
      ∀ error, (Effect.from state (fold tree.postorder)).1 = .error error ↔
        ∃ reason, error = .arithmetic reason ∧ Tree.FirstFails tree.nodes reason := by
  have same : fold tree.postorder = Tree.postorder <$> tree.fold := by
    rw [fold, Folding.foldlM_postorder saturated, map_bind, map_eq_pure_bind]
    simp
  refine ⟨same, fun node within => ?_, fun error => ?_⟩
  · have numbers := Tree.fold_eq_number_iff state fun token mem =>
      plain token (Tree.postorder_subset_of_mem_nodes within mem)
    refine ⟨numbers, fun folded answers whole => ?_⟩
    rcases Tree.number_or_kept_of_fold (Prod.ext answers rfl) with ⟨x, rfl⟩ | kept
    · exact absurd ((numbers x).mp answers) (whole x)
    · exact kept
  · rw [← Tree.fold_eq_error_iff state plain error, same, map_eq_pure_bind, Effect.from_bind]
    rcases Effect.from state tree.fold with ⟨result, after⟩
    cases result <;> simp

/-- In `noise(3 - 1) - (seven() - x)` both constant parts are computed, also that without operands,
and the call that may not be made ahead stays between them. With a function that fails in place of
the other, its call is the first node that fails. -/
theorem fold_postorder_noise :
    let minus : Operator Nat := .between "-" 500 fun a b => .ok (a - b)
    let noise : Function Nat := ⟨"noise", 1, false, fun _ calls => (.ok 0, calls + 1)⟩
    let seven : Function Nat := ⟨"seven", 0, true, Rule.ofFunction fun _ => .ok 7⟩
    let never : Function Nat := ⟨"never", 0, true, Rule.ofFunction fun _ => .error "no answer"⟩
    let tree : Function Nat → Tree Nat := fun f =>
      .operation minus [.call noise [.operation minus [.number 3, .number 1]],
        .operation minus [.call f [], .var "x" 0]]
    (∀ f ∈ [seven, never], (tree f).Saturated ∧
        ∀ token ∈ (tree f).postorder, token.Foreseeable) ∧
      fold (tree seven).postorder = pure [.number (3 - 1), .function noise, .number 7, .var "x" 0,
        .operator minus, .operator minus] ∧
      (Effect.from 0 (fold (tree never).postorder)).1 = .error (.arithmetic "no answer") ∧
      Tree.FirstFails (tree never).nodes "no answer" := by
  intro minus noise seven never tree
  have saturated : ∀ f ∈ [seven, never], (tree f).Saturated := by
    simp [tree, minus, noise, seven, never, Tree.Saturated, Tree.AllSaturated, Operator.between]
  have plain : ∀ f ∈ [seven, never], ∀ token ∈ (tree f).postorder, token.Foreseeable := by
    have number : ∀ x : Float, (.number x : Token Nat).Foreseeable := fun _ => .of_none rfl
    have unset : (.var "x" 0 : Token Nat).Foreseeable := .of_none rfl
    have subtraction : (Token.operator minus).Foreseeable := .of_some rfl
    have drawn : (Token.function noise).Foreseeable := .of_none rfl
    have constant : (Token.function seven).Foreseeable := .of_some rfl
    have failing : (Token.function never).Foreseeable := .of_some rfl
    simp [tree, Tree.postorder, Tree.postorderAll, number, unset, subtraction, drawn, constant,
      failing]
  have answers := (fold_postorder (saturated seven (by simp)) (plain seven (by simp)) 0).1
  obtain ⟨same, -, fails⟩ := fold_postorder (saturated never (by simp)) (plain never (by simp)) 0
  have failed : (Effect.from 0 (fold (tree never).postorder)).1 =
      .error (.arithmetic "no answer") := by
    rw [same]
    rfl
  obtain ⟨reason, here, first⟩ := (fails _).mp failed
  cases here
  refine ⟨fun f mem => ⟨saturated f mem, plain f mem⟩, ?_, failed, first⟩
  rw [answers]
  rfl

end Formula
