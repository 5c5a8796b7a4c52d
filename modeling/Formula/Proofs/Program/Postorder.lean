import Formula.Operator.Builtin
import Formula.Proofs.Program.Slots
import Formula.Proofs.Tree

/-!
# Programs in postorder

A tree has a value of its own: the values of its children are computed from left to right, and its
rule is applied to them in this order. The first failure ends the computation, and is what it comes
to. **The program of the postorder computes the tree** (`evaluate_postorder`), under all bindings
and from every hidden state.

The induction is over the tree and its lists of children at once: on any stack, a run of the
postorder puts the value of the tree on top of it, or fails as the tree does (`run_postorder`).
-/

namespace Formula

variable {σ : Type} {values : String → Option Float}

namespace Tree

mutual

/-- **Every operator and every function has as many children as it takes.** -/
def Saturated : Tree σ → Prop
  | number _ | var _ _ => True
  | operation o operands => operands.length = o.arity ∧ AllSaturated operands
  | call f arguments => arguments.length = f.arity ∧ AllSaturated arguments

/-- Several trees are saturated, each for itself. -/
def AllSaturated : List (Tree σ) → Prop
  | [] => True
  | tree :: rest => tree.Saturated ∧ AllSaturated rest

end

mutual

/-- **The value of a tree** under a choice of values for its variables. -/
def evaluate (values : String → Option Float) : Tree σ → Effect σ Error Float
  | number x => return x
  | var name _ =>
    match values name with
    | some x => return x
    | none => throw (.unboundVariable name)
  | operation o operands => evaluateAll values operands >>= o.rule.apply
  | call f arguments => evaluateAll values arguments >>= f.rule.apply

/-- The values of several trees, computed one after the other. -/
def evaluateAll (values : String → Option Float) : List (Tree σ) → Effect σ Error (List Float)
  | [] => return []
  | tree :: rest => do
    let x ← tree.evaluate values
    let xs ← evaluateAll values rest
    return x :: xs

end

/-- As many values are computed as there are trees. -/
theorem length_of_evaluateAll {trees : List (Tree σ)} {xs : List Float} {state after : σ}
    (h : Effect.from state (evaluateAll values trees) = (.ok xs, after)) :
    xs.length = trees.length := by
  induction trees generalizing xs state with
  | nil =>
    cases h
    rfl
  | cons tree rest ih =>
    rw [evaluateAll] at h
    obtain ⟨x, mid, -, h⟩ := Effect.of_from_bind_ok h
    obtain ⟨later, last, computed, put⟩ := Effect.of_from_bind_ok h
    cases put
    rw [List.length_cons, List.length_cons, ih computed]

/-! ## Failures -/

/-- **What a computation on variables and rules alone can fail with**: one of its variables has no
value, or a rule fails. -/
inductive Stops (values : String → Option Float) (tokens : List (Token σ)) : Error → Prop where
  | unbound {name : String} {slot : Nat} (occurs : .var name slot ∈ tokens)
      (unset : values name = none) : Stops values tokens (.unboundVariable name)
  | rule (reason : String) : Stops values tokens (.arithmetic reason)

theorem Stops.mono {tokens more : List (Token σ)} {error : Error}
    (stops : Stops values tokens error) (part : tokens ⊆ more) : Stops values more error := by
  cases stops with
  | unbound occurs unset => exact .unbound (part occurs) unset
  | rule reason => exact .rule reason

/-- A rule that is applied to the values of trees fails, or one of the trees does. -/
theorem stops_of_apply {tokens : List (Token σ)} {inputs : Effect σ Error (List Float)}
    {rule : Rule σ} {state after : σ} {error : Error}
    (children : ∀ {after}, Effect.from state inputs = (.error error, after) →
      Stops values tokens error)
    (h : Effect.from state (inputs >>= rule.apply) = (.error error, after)) :
    Stops values tokens error := by
  rcases Effect.of_from_bind_error h with failed | ⟨xs, mid, -, failed⟩
  · exact children failed
  · obtain ⟨reason, rfl⟩ := Rule.apply_error failed
    exact .rule reason

mutual

/-- A tree fails for want of a value, or as one of its rules does. -/
theorem stops_of_evaluate : ∀ {tree : Tree σ} {state after : σ} {error : Error},
    Effect.from state (tree.evaluate values) = (.error error, after) →
      Stops values tree.postorder error
  | .number x, _, _, _, h => nomatch h
  | .var name slot, state, after, error, h => by
    rw [evaluate] at h
    cases value : values name with
    | some x =>
      rw [value] at h
      cases h
    | none =>
      rw [value] at h
      cases h
      exact .unbound List.mem_cons_self value
  | .operation o operands, state, after, error, h => by
    rw [evaluate] at h
    refine stops_of_apply (fun failed => ?_) h
    rw [postorder]
    exact (stops_of_evaluateAll failed).mono (List.subset_append_left _ _)
  | .call f arguments, state, after, error, h => by
    rw [evaluate] at h
    refine stops_of_apply (fun failed => ?_) h
    rw [postorder]
    exact (stops_of_evaluateAll failed).mono (List.subset_append_left _ _)

/-- Several trees fail as one of them does. -/
theorem stops_of_evaluateAll : ∀ {trees : List (Tree σ)} {state after : σ} {error : Error},
    Effect.from state (evaluateAll values trees) = (.error error, after) →
      Stops values (postorderAll trees) error
  | [], _, _, _, h => nomatch h
  | tree :: rest, state, after, error, h => by
    rw [evaluateAll] at h
    rw [postorderAll]
    rcases Effect.of_from_bind_error h with failed | ⟨x, mid, -, h⟩
    · exact (stops_of_evaluate failed).mono (List.subset_append_left _ _)
    · rcases Effect.of_from_bind_error h with failed | ⟨xs, last, -, put⟩
      · exact (stops_of_evaluateAll failed).mono (List.subset_append_right _ _)
      · cases put

end

end Tree

namespace Program

variable {program : Program σ} {names : List String}

/-- The slots that the names of variables have in a list of names hold the values that are
chosen. -/
def Reads (program : Program σ) (names : List String) (values : String → Option Float)
    (tokens : List (Token σ)) : Prop :=
  ∀ name slot, .var name slot ∈ tokens → program.value? (names.idxOf name) = values name

theorem Reads.mono {tokens part : List (Token σ)} (reads : program.Reads names values tokens)
    (within : part ⊆ tokens) : program.Reads names values part :=
  fun name slot occurs => reads name slot (within occurs)

/-- An operation that finds the values of its children on top of the stack puts the value of the
tree in their place. -/
theorem run_operation {children : List (Tree σ)} {arity : Nat} (count : children.length = arity)
    (rule : Rule σ) (missing : Error) (stack : List Float) :
    ((Tree.evaluateAll values children >>= fun xs => pure (xs.reverse ++ stack)) >>= fun next =>
        operate arity rule missing next) =
      (Tree.evaluateAll values children >>= rule.apply) >>= fun x => pure (x :: stack) := by
  rw [bind_assoc, bind_assoc]
  refine Effect.bind_congr_of_ok fun computed => ?_
  have found := (Tree.length_of_evaluateAll computed).trans count
  subst found
  rw [pure_bind, operate_operands]

mutual

/-- **A run of the postorder puts the value of the tree on the stack**, or fails as the tree
does. -/
theorem run_postorder : ∀ {tree : Tree σ}, tree.Saturated →
    program.Reads names values tree.postorder → ∀ stack : List Float,
      program.run (tree.postorder.map (Token.link names)) stack =
        tree.evaluate values >>= fun x => pure (x :: stack)
  | .number x, _, _, stack => rfl
  | .var name slot, _, reads, stack => by
    have value := reads name slot List.mem_cons_self
    show program.run [.var name (names.idxOf name)] stack = _
    rw [run_cons, step, value, Tree.evaluate]
    cases values name <;> rfl
  | .operation o operands, saturated, reads, stack => by
    rw [Tree.Saturated] at saturated
    rw [Tree.postorder] at reads ⊢
    have inner := run_postorderAll saturated.2 (reads.mono (List.subset_append_left _ _)) stack
    rw [List.map_append, run_append, inner, Tree.evaluate,
      ← run_operation saturated.1 o.rule (.missingOperands o.symbol) stack]
    exact bind_congr fun next => run_concat program [] (.operator o) next
  | .call f arguments, saturated, reads, stack => by
    rw [Tree.Saturated] at saturated
    rw [Tree.postorder] at reads ⊢
    have inner := run_postorderAll saturated.2 (reads.mono (List.subset_append_left _ _)) stack
    rw [List.map_append, run_append, inner, Tree.evaluate,
      ← run_operation saturated.1 f.rule (.missingArguments f.name) stack]
    exact bind_congr fun next => run_concat program [] (.function f) next

/-- A run of several postorders puts all their values on the stack, the last one on top. -/
theorem run_postorderAll : ∀ {trees : List (Tree σ)}, Tree.AllSaturated trees →
    program.Reads names values (Tree.postorderAll trees) → ∀ stack : List Float,
      program.run ((Tree.postorderAll trees).map (Token.link names)) stack =
        Tree.evaluateAll values trees >>= fun xs => pure (xs.reverse ++ stack)
  | [], _, _, stack => rfl
  | tree :: rest, saturated, reads, stack => by
    rw [Tree.AllSaturated] at saturated
    rw [Tree.postorderAll] at reads ⊢
    have first := run_postorder saturated.1 (reads.mono (List.subset_append_left _ _)) stack
    have later := run_postorderAll saturated.2 (reads.mono (List.subset_append_right _ _))
    rw [List.map_append, run_append, first, Tree.evaluateAll]
    simp [later]

end

/-- Every variable of the tokens has the value that is chosen for its name. -/
theorem reads_withValues (tokens : List (Token σ)) (reserved : List String)
    (values : String → Option Float) :
    ((ofTokens tokens reserved).withValues values).Reads (Token.variableNames tokens) values
      tokens :=
  fun _ _ occurs => value?_withValues _ _ (names_getElem?_idxOf tokens reserved occurs)

end Program

/-- **The program of a tree's postorder computes the tree**: from every hidden state, and whatever
values its variables have or lack, it comes to the value or the first failure of the tree, and
leaves the same hidden state. So it fails for want of a variable's value or as a rule does, and never for
want of operands or arguments, or because of what is left on the stack. -/
theorem evaluate_postorder {tree : Tree σ} (saturated : tree.Saturated)
    (values : String → Option Float) (reserved : List String) :
    let program := (Program.ofTokens tree.postorder reserved).withValues values
    program.evaluate = tree.evaluate values ∧
      ∀ state error, (Effect.from state program.evaluate).1 = .error error →
        Tree.Stops values tree.postorder error := by
  intro program
  have computes : program.evaluate = tree.evaluate values := by
    have ran := Program.run_postorder saturated
      (Program.reads_withValues tree.postorder reserved values) []
    rw [Program.evaluate_eq_run]
    show program.run (tree.postorder.map (Token.link (Token.variableNames tree.postorder))) [] >>=
      _ = _
    rw [ran, bind_assoc]
    simp [Program.single, Effect.ofExcept_ok]
  refine ⟨computes, fun state error failed => ?_⟩
  rw [computes] at failed
  exact Tree.stops_of_evaluate (Prod.ext failed rfl)

/-- In `f(n(), x) - y` the call is carried out before the variable that has no value is met: it
counts itself in the hidden state. -/
theorem evaluate_postorder_unbound :
    let nothing : Function Nat := ⟨"n", 0, false, Rule.ofFunction fun _ => .ok 0⟩
    let f : Function Nat := ⟨"f", 2, false, fun _ calls => (.ok 1, calls + 1)⟩
    let tree : Tree Nat :=
      .operation (.between "-" 500 fun a b => .ok (a - b))
        [.call f [.call nothing [], .var "x" 0], .var "y" 0]
    let values : String → Option Float := fun name => if name = "x" then some 2 else none
    tree.Saturated ∧
      Effect.from 0 ((Program.ofTokens tree.postorder []).withValues values).evaluate =
        (.error (.unboundVariable "y"), 1) := by
  intro nothing f tree values
  have saturated : tree.Saturated := by
    simp [tree, f, nothing, Tree.Saturated, Tree.AllSaturated, Operator.between]
  refine ⟨saturated, ?_⟩
  rw [(evaluate_postorder saturated values []).1]
  rfl

end Formula
