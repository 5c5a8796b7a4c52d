import Formula.Operator.Builtin
import Formula.Proofs.Folding.Steps
import Formula.Proofs.Program.Machine
import Formula.Proofs.Program.Run

/-!
# Within bounds

**The machine of a program does not fault.** That is so for any list of tokens, in any order, with
brackets and separators, with any slots and any numbers of arguments, and whatever is set
(`machine_within_bounds`). So all slots are those of cells, no length falls below zero, and every
rule is called with as many arguments as it is for. The machine then does what the program does:
its stacks are those of the program, read from the other end.

Called with as many arguments as they are for, the rules of the built-in operators find all that
they read, and functions over typed parameters do not refuse the call.
-/

namespace Formula

variable {σ α β : Type}

/-! ## Computations that do not fault -/

namespace Guarded

@[simp]
theorem plain_pure (a : α) : plain (pure a : Effect σ Error α) = pure a := rfl

theorem plain_bind (first : Effect σ Error α) (next : α → Effect σ Error β) :
    plain (first >>= next) = plain first >>= fun a => plain (next a) := by
  apply Effect.ext
  intro state
  have adapted : ∀ {γ : Type} (start : σ) (computation : Effect σ Error γ),
      Effect.from start (plain computation) =
        ((Effect.from start computation).1.mapError .inr, (Effect.from start computation).2) :=
    fun _ _ => rfl
  rw [adapted, Effect.from_bind, Effect.from_bind, adapted]
  rcases Effect.from state first with ⟨result, after⟩
  cases result <;> rfl

/-- An access that does not fault. -/
@[simp]
theorem access_ok (a : α) : (access (.ok a) : Guarded σ α) = pure a := rfl

/-- A rule is called as it is at work in a program, with as many arguments as it is for. -/
theorem call_eq {arity : Nat} {arguments : List Float} (given : arguments.length = arity)
    (rule : Rule σ) : call arity rule arguments = plain (rule.apply arguments) :=
  if_pos given

theorem minus_eq {length taken : Nat} (enough : taken ≤ length) :
    minus length taken = .ok (length - taken) :=
  if_pos enough

theorem word_eq {count : Int} (low : -2 ^ 63 ≤ count) (high : count < 2 ^ 63) :
    word count = .ok count :=
  if_pos ⟨low, high⟩

/-- A stack that is read from the other end is cut in the same place. -/
theorem splitAt_reverse {stack : List α} {count : Nat} (enough : count ≤ stack.length) :
    splitAt stack.reverse (stack.length - count) =
      .ok ((stack.drop count).reverse, (stack.take count).reverse) := by
  have within : stack.length - count ≤ stack.reverse.length := by
    rw [List.length_reverse]
    exact Nat.sub_le _ _
  rw [splitAt, if_pos within, List.take_reverse, List.drop_reverse, Nat.sub_sub_self enough]

/-- The same operands are taken off it. -/
theorem pop_reverse (stack : List α) (count : Nat) :
    pop stack.reverse count =
      .ok ((operands? count stack).map fun (operands, below) => (operands, below.reverse)) := by
  unfold pop operands?
  rw [List.length_reverse]
  by_cases enough : count ≤ stack.length
  · rw [if_pos enough, if_neg (Nat.not_lt.mpr enough), minus_eq enough]
    simp only [bind, Except.bind, splitAt_reverse enough]
    rfl
  · rw [if_neg enough, if_pos (Nat.lt_of_not_le enough)]
    rfl

end Guarded

open Guarded

namespace Machine

/-- A run on a stack that is read from the other end goes as the steps do. -/
theorem foldlM_reverse {step : List α → β → Effect σ Error (List α)}
    {guarded : List α → β → Guarded σ (List α)} {items : List β}
    (steps : ∀ item ∈ items, ∀ stack,
      guarded stack.reverse item = plain (List.reverse <$> step stack item))
    (stack : List α) :
    items.foldlM guarded stack.reverse = plain (List.reverse <$> items.foldlM step stack) := by
  induction items generalizing stack with
  | nil => simp
  | cons item rest ih =>
    obtain ⟨here, later⟩ := List.forall_mem_cons.mp steps
    rw [List.foldlM_cons, here, List.foldlM_cons, map_bind, plain_bind, map_eq_pure_bind,
      plain_bind, bind_assoc]
    simp only [plain_pure, pure_bind, ih later]

/-! ## Evaluation -/

/-- **An operation does not fault.** -/
theorem operate_reverse (arity : Nat) (rule : Rule σ) (missing : Error) (stack : List Float) :
    operate arity rule missing stack.reverse =
      plain (List.reverse <$> Program.operate arity rule missing stack) := by
  unfold operate Program.operate
  rw [pop_reverse, access_ok, pure_bind]
  cases taken : operands? arity stack with
  | none => rfl
  | some split =>
    obtain ⟨operands, below⟩ := split
    obtain ⟨-, given⟩ := operands?_eq_some_iff.mp taken
    simp only [Option.map_some, call_eq given, map_bind, map_pure, plain_bind, plain_pure,
      List.reverse_cons]

variable {program : Program σ}

/-- **A step does not fault**, if its slot is that of a cell. -/
theorem step_of {token : Token σ}
    (within : ∀ name slot, token = .var name slot → slot < program.cells.length)
    (stack : List Float) :
    (of program).step stack.reverse token = plain (List.reverse <$> program.step stack token) := by
  cases token with
  | var name slot =>
    rw [step, item_of program (within name slot rfl), access_ok, pure_bind, Program.step]
    cases program.value? slot with
    | none => rfl
    | some x => simp
  | operator o => exact operate_reverse _ _ _ _
  | function f => exact operate_reverse _ _ _ _
  | number x => simp [step, Program.step]
  | _ => rfl

theorem single_reverse (stack : List Float) :
    Program.single stack.reverse = Program.single stack := by
  match stack with
  | [] => rfl
  | [x] => rfl
  | x :: y :: rest =>
    have several : 2 ≤ (x :: y :: rest).reverse.length := by simp
    generalize whole : (x :: y :: rest).reverse = reversed at several
    match reversed, several with
    | _ :: _ :: _, _ =>
      rw [Program.single, Program.single, ← whole, List.length_reverse]
      · simp
      · simp

/-- **An evaluation does not fault**, and comes to the value of the program. -/
theorem evaluate_of
    (within : ∀ name slot, .var name slot ∈ program.tokens → slot < program.cells.length) :
    (of program).evaluate = plain program.evaluate := by
  have ran : program.tokens.foldlM (of program).step [] =
      plain (List.reverse <$> program.run program.tokens []) :=
    foldlM_reverse (fun token mem => step_of fun name slot same => within name slot (same ▸ mem)) []
  rw [evaluate, Program.evaluate_eq_run]
  show program.tokens.foldlM (of program).step [] >>= _ = _
  rw [ran, plain_bind, map_eq_pure_bind, plain_bind, bind_assoc]
  simp only [plain_pure, pure_bind, single_reverse]

/-! ## Checking -/

/-- A number of arguments is a signed word. -/
theorem signedCount_bounds (arity : Nat) :
    -2 ^ 63 ≤ Program.signedCount arity ∧ Program.signedCount arity < 2 ^ 63 := by
  have size : 0 < UInt64.size := by decide
  have low := Int.le_bmod (x := arity) size
  have high := Int.bmod_lt (x := arity) size
  unfold Program.signedCount
  unfold UInt64.size at *
  omega

/-- **A count stays a word**, if there is room for one operand more. It grows by one at most. -/
theorem tally_of {count : Int} (low : 0 ≤ count) (room : count + 1 < 2 ^ 63) (token : Token σ) :
    tally count token = .ok (Program.tally count token) ∧
      (Program.tally count token).2 ≤ count + 1 := by
  have more : word (count + 1) = .ok (count + 1) := word_eq (by omega) room
  have fewer : word (count - 1) = .ok (count - 1) := word_eq (by omega) (by omega)
  cases token with
  | number x => exact ⟨by rw [tally, more]; rfl, Int.le_refl _⟩
  | var name slot => exact ⟨by rw [tally, more]; rfl, Int.le_refl _⟩
  | operator o =>
    rw [tally, Program.tally]
    split
    · exact ⟨rfl, by omega⟩
    · exact ⟨by rw [fewer]; rfl, by omega⟩
  | function f =>
    obtain ⟨least, greatest⟩ := signedCount_bounds f.arity
    rw [tally, Program.tally]
    dsimp only
    generalize Program.signedCount f.arity = arity at *
    split
    · rename_i several
      have others : word (arity - 1) = .ok (arity - 1) := word_eq (by omega) (by omega)
      have left : word (count - (arity - 1)) = .ok (count - (arity - 1)) :=
        word_eq (by omega) (by omega)
      exact ⟨by rw [others]; simp only [bind, Except.bind, left]; rfl, by omega⟩
    · split
      · exact ⟨by rw [more]; rfl, Int.le_refl _⟩
      · exact ⟨rfl, by omega⟩
  | _ => exact ⟨rfl, Int.le_of_lt (Int.lt_succ count)⟩

/-- **A count does not leave the words**, if there is room for one operand for each token. -/
theorem inspect_of {tokens : List (Token σ)} {count : Int} (low : 0 ≤ count)
    (room : count + tokens.length < 2 ^ 63) :
    inspect count tokens = .ok (Program.inspect count tokens) := by
  induction tokens generalizing count with
  | nil => rfl
  | cons token rest ih =>
    rw [List.length_cons] at room
    obtain ⟨counted, bound⟩ := tally_of low (by omega) token
    rw [inspect, counted, Program.inspect]
    generalize Program.tally count token = outcome at bound
    obtain ⟨found, after⟩ := outcome
    dsimp only [bind, Except.bind] at bound ⊢
    split
    · rfl
    · rw [ih (by omega) (by omega)]
      rfl

/-- **A look at the variables does not fault.** -/
theorem unset_of {tokens : List (Token σ)}
    (within : ∀ name slot, .var name slot ∈ tokens → slot < program.cells.length) :
    (of program).unset tokens = .ok (tokens.filterMap fun
      | .var name slot => if (program.value? slot).isNone then some (.unset name) else none
      | _ => none) := by
  induction tokens with
  | nil => rfl
  | cons token rest ih =>
    have later := ih fun name slot mem => within name slot (List.mem_cons_of_mem _ mem)
    cases token with
    | var name slot =>
      have value := item_of program (within name slot List.mem_cons_self)
      rw [unset, value, later, List.filterMap_cons]
      cases here : program.value? slot <;> simp [here, bind, Except.bind, pure, Except.pure]
    | _ => exact later

/-- **A check does not fault**, and finds what is to be found in the program. -/
theorem validate_of
    (within : ∀ name slot, .var name slot ∈ program.tokens → slot < program.cells.length)
    (countable : program.tokens.length < 2 ^ 63) (checkVariables : Bool) :
    (of program).validate checkVariables = .ok (program.validate checkVariables) := by
  have unset : (of program).unset (of program).tokens = .ok program.unset := unset_of within
  have inspected : inspect 0 (of program).tokens = .ok (Program.inspect 0 program.tokens) :=
    inspect_of (Int.le_refl 0) (by rw [Int.zero_add]; exact_mod_cast countable)
  have tokens : (of program).tokens = program.tokens := rfl
  rw [validate, Program.validate, unset, inspected, tokens]
  cases checkVariables <;> cases program.tokens.isEmpty <;> rfl

/-! ## Folding -/

/-- The same constants are on top of a stack that is read from the other end. -/
theorem constants_reverse (stack : List (Token σ)) (arity : Nat) :
    constants stack.reverse arity = .ok ((Folding.constants? arity stack).map Prod.fst) := by
  unfold constants Folding.constants? operands?
  rw [List.length_reverse]
  by_cases few : stack.length < arity
  · rw [if_pos few, if_pos few]
    rfl
  · rw [if_neg few, if_neg few, minus_eq (Nat.not_lt.mp few)]
    simp only [bind, Except.bind, splitAt_reverse (Nat.not_lt.mp few), Option.bind_some]
    cases (stack.take arity).reverse.mapM Token.value? <;> rfl

/-- **A step of folding does not fault.** -/
theorem foldStep_reverse (folded : List (Token σ)) (token : Token σ) :
    foldStep folded.reverse token = plain (List.reverse <$> Folding.step folded token) := by
  unfold foldStep Folding.step
  cases token.foldable? with
  | none => simp
  | some operation =>
    obtain ⟨arity, rule⟩ := operation
    dsimp only
    rw [constants_reverse, access_ok, pure_bind]
    cases taken : Folding.constants? arity folded with
    | none => simp
    | some split =>
      obtain ⟨values, below⟩ := split
      obtain ⟨rfl, rfl⟩ := Folding.constants?_eq_some_iff.mp taken
      have stack : ((values.map Token.number).reverse ++ below).reverse =
          below.reverse ++ values.map Token.number := by simp
      have left : minus (below.reverse ++ values.map (Token.number (σ := σ))).length values.length =
          .ok below.reverse.length := by
        rw [minus_eq] <;> simp
      simp only [Option.map_some, call_eq rfl, stack, left, access_ok, pure_bind, map_bind,
        map_pure, plain_bind, plain_pure, List.reverse_cons, List.take_left]

/-- **Folding does not fault**, and leaves what folding leaves. -/
theorem fold_eq (tokens : List (Token σ)) : fold tokens = plain (Formula.fold tokens) :=
  foldlM_reverse (fun token _ folded => foldStep_reverse folded token) []

end Machine

/-! ## Rules -/

/-- **A built-in operator finds the operands that it reads**, if it is called with as many as it is
for. -/
theorem Operator.rule_of_builtin {o : Operator σ} (h : o ∈ Operator.builtins)
    {operands : List Float} (given : operands.length = o.arity) :
    ∃ result, o.rule operands = Effect.ofExcept result ∧ result ≠ .error "Missing operand" := by
  have unary : ∀ f : Float → Float, operands.length = 1 → ∃ result,
      (unaryRule fun x => .ok (f x) : Rule σ) operands = Effect.ofExcept result ∧
        result ≠ .error "Missing operand" := by
    intro f one
    obtain ⟨x, rfl⟩ := List.length_eq_one_iff.mp one
    exact ⟨_, rfl, nofun⟩
  have binary : ∀ f : Float → Float → Except String Float,
      (∀ x y, f x y ≠ .error "Missing operand") → operands.length = 2 → ∃ result,
        (binaryRule f : Rule σ) operands = Effect.ofExcept result ∧
          result ≠ .error "Missing operand" := by
    intro f total two
    obtain ⟨x, y, rfl⟩ := List.length_eq_two.mp two
    exact ⟨_, rfl, total x y⟩
  simp only [builtins, List.mem_cons, List.not_mem_nil, or_false] at h
  rcases h with rfl | rfl | rfl | rfl | rfl | rfl | rfl | rfl | rfl | rfl | rfl
  · exact binary _ (fun _ _ => nofun) given
  · exact binary _ (fun _ _ => nofun) given
  · exact binary _ (fun _ _ => nofun) given
  · refine binary _ (fun x y => ?_) given
    split <;> simp
  · refine binary _ (fun x y => ?_) given
    split <;> simp
  · exact binary _ (fun _ _ => nofun) given
  · exact unary _ given
  · exact unary _ given
  · exact binary _ (fun _ _ => nofun) given
  · exact binary _ (fun _ _ => nofun) given
  · exact unary _ given

/-- **A function over typed parameters computes its body**, if it is called with as many arguments
as it has parameters. -/
theorem Function.Body.exists_call? {kinds : List Parameter} (body : Body kinds)
    {arguments : List Float} (given : arguments.length = kinds.length) :
    ∃ result, body.call? kinds arguments = some result := by
  induction kinds generalizing arguments with
  | nil =>
    obtain rfl := List.length_eq_zero_iff.mp given
    exact ⟨body, rfl⟩
  | cons kind rest ih =>
    cases arguments with
    | nil => cases given
    | cons x later => exact ih (body (kind.convert x)) (Nat.succ.inj given)

/-- **No list of tokens makes a machine fault.** Whatever the order of the tokens is, the slots that
they carry and the numbers of arguments that they are for, and whatever variables are set in the
machine that is built of them: it is the machine of a program, all of whose slots are those of
cells. Its values, its checks and its settings are those of the program, and none of them is a
fault. Nor is there one in folding any list of tokens. So a rule is called with as many arguments as
it is for. Then a built-in operator finds all its operands, and a function over typed parameters
does not refuse the call. -/
theorem machine_within_bounds (tokens : List (Token σ)) (reserved : List String)
    (settings : Bindings) :
    let program := (Program.ofTokens tokens reserved).setEach settings
    let machine := Machine.of program
    (Machine.ofTokens tokens reserved).setEach settings = .ok machine ∧
      (∀ name slot, .var name slot ∈ machine.tokens → slot < machine.values.length) ∧
      machine.evaluate = plain program.evaluate ∧
      (tokens.length < 2 ^ 63 → ∀ checkVariables,
        machine.validate checkVariables = .ok (program.validate checkVariables)) ∧
      (∀ name value,
        machine.set name value = ((program.bind name value).mapError .inr).map Machine.of) ∧
      Machine.fold tokens = plain (fold tokens) ∧
      (∀ o ∈ Operator.builtins (σ := σ), ∀ operands, operands.length = o.arity →
        ∃ result, o.rule operands = Effect.ofExcept result ∧ result ≠ .error "Missing operand") ∧
      ∀ (d : Function.Definition) (arguments : List Float),
        arguments.length = (Function.ofDefinition d : Function σ).arity →
          ∃ result, d.body.call? d.parameters arguments = some result ∧
            (Function.ofDefinition d : Function σ).rule arguments = Effect.ofExcept result := by
  intro program machine
  have start := Program.linked_ofTokens tokens reserved
  obtain ⟨values, same⟩ : ∃ values,
      program = (Program.ofTokens tokens reserved).withValues values := by
    have set :=
      Machine.exists_setEach_eq (Program.ofTokens tokens reserved) Constant.value? settings
    rwa [← Program.ofTokens_eq_withValues] at set
  have linked : program.Linked := by
    rw [same]
    exact start.withValues values
  have within : ∀ name slot, .var name slot ∈ program.tokens → slot < program.cells.length := by
    intro name slot mem
    obtain ⟨bound, -⟩ := List.getElem?_eq_some_iff.mp (linked.slots name slot mem)
    rwa [Program.names, List.length_map] at bound
  have length : program.tokens.length = tokens.length := by
    rw [same, Program.tokens_withValues, Program.ofTokens, List.length_map]
  refine ⟨?_, fun name slot mem => ?_, Machine.evaluate_of within, fun countable => ?_,
    Machine.set_of linked.distinct, Machine.fold_eq tokens,
    fun o builtin operands => Operator.rule_of_builtin builtin, fun d arguments given => ?_⟩
  · rw [Machine.ofTokens_eq]
    exact Machine.setEach_of start.distinct settings
  · show slot < (program.cells.map Cell.value).length
    rw [List.length_map]
    exact within name slot mem
  · exact Machine.validate_of within (length ▸ countable)
  · obtain ⟨result, called⟩ := d.body.exists_call? given
    refine ⟨result, called, ?_⟩
    show Effect.ofExcept (d.call arguments) = _
    rw [Function.Definition.call, called]
    rfl

/-- In `x ) y x +` the tokens carry slots of another program. In the machine `x` has the first slot
and `y` the second. A setting of `sin` is passed over, and one of `z` is ignored. The evaluation
ends at the bracket, and the check goes on behind it. -/
theorem machine_within_bounds_stale :
    let plus : Token Unit := .operator (.between "+" 500 fun a b => .ok (a + b))
    let tokens : List (Token Unit) := [.var "x" 7, .closing, .var "y" 1, .var "x" 3, plus]
    let program : Program Unit :=
      ⟨[.var "x" 0, .closing, .var "y" 1, .var "x" 0, plus], [⟨"x", some 2⟩, ⟨"y", none⟩], []⟩
    let machine := Machine.of program
    (Machine.ofTokens tokens []).setEach [("sin", 1), ("x", 2), ("z", 3)] = .ok machine ∧
      machine.values = [some 2, none] ∧
      (Effect.from () machine.evaluate).1 = .error (.inr .mismatchedBrackets) ∧
      machine.validate true = .ok [.unset "y", .mismatchedBrackets, .tooManyOperands] := by
  intro plus tokens program machine
  have short : tokens.length < 2 ^ 63 := by decide
  have set : (Program.ofTokens tokens []).setEach [("sin", 1), ("x", 2), ("z", 3)] = program := by
    rfl
  obtain ⟨built, -, evaluated, checked, -⟩ :=
    machine_within_bounds tokens [] [("sin", 1), ("x", 2), ("z", 3)]
  rw [set] at built evaluated checked
  refine ⟨built, rfl, ?_, ?_⟩
  · rw [evaluated]
    rfl
  · rw [checked short true]
    rfl

end Formula
