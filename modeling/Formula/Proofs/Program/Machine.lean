import Formula.Folding
import Formula.Program.Evaluation
import Formula.Program.Validation
import Formula.Proofs.Program.Slots
import Mathlib.Algebra.Group.Int.Defs
import Mathlib.Algebra.Group.Nat.Defs
import Mathlib.Data.List.Induction

/-!
# A machine that guards its accesses

The machine of a program has its values in a vector without names, the slots of the names in a table
of their own, and its stacks in vectors with the top at the end. So it reaches into vectors by
numbers: the slot that a token carries, the place of a name, the length that a stack has below some
operands. It looks at each of them first. **What does not fit is a fault** (`Fault`), and no error
of the program: an index past the end, a length below zero, a count that is no signed word, and a
rule that is called with another number of arguments than it is for.

The machine is built of tokens, one after the other, and gives out the slots in order. It is the
machine of the program of the tokens (`Machine.ofTokens_eq`), and where a variable is set, it is
that of the program in which it is set (`Machine.set_of`).
-/

namespace Formula

variable {σ α : Type}

/-- What goes wrong with an access. -/
inductive Fault where
  /-- An index past the end of a vector. -/
  | index (index length : Nat)
  /-- A length below zero: more is taken off than there is. -/
  | length (length taken : Nat)
  /-- A count that is no signed word of 64 bits. -/
  | word (count : Int)
  /-- A rule that is called with another number of arguments than it is for. -/
  | arguments (arity given : Nat)
deriving Repr, DecidableEq

/-- A computation that ends with a fault, with an error of the program, or with a result. -/
abbrev Guarded (σ : Type) : Type → Type := Effect σ (Fault ⊕ Error)

namespace Guarded

/-- An access, which may fault. -/
def access (result : Except Fault α) : Guarded σ α := Effect.ofExcept (result.mapError .inl)

/-- A computation without accesses. -/
def plain (computation : Effect σ Error α) : Guarded σ α := computation.adapt .inr

/-- A length without the items that are taken off. -/
def minus (length taken : Nat) : Except Fault Nat :=
  if taken ≤ length then .ok (length - taken) else .error (.length length taken)

/-- The items before an index, and those from it on. -/
def splitAt (items : List α) (index : Nat) : Except Fault (List α × List α) :=
  if index ≤ items.length then .ok (items.take index, items.drop index)
  else .error (.index index items.length)

/-- The item at an index. -/
def item (items : List α) (index : Nat) : Except Fault α :=
  match items[index]? with
  | some a => .ok a
  | none => .error (.index index items.length)

/-- A count as a signed word. -/
def word (count : Int) : Except Fault Int :=
  if -2 ^ 63 ≤ count ∧ count < 2 ^ 63 then .ok count else .error (.word count)

/-- Takes the operands of an operation off a stack, if they are there. -/
def pop (stack : List α) (count : Nat) : Except Fault (Option (List α × List α)) :=
  if count ≤ stack.length then do
    let index ← minus stack.length count
    let (below, operands) ← splitAt stack index
    return some (operands, below)
  else return none

/-- Calls a rule with as many arguments as it is for. -/
def call (arity : Nat) (rule : Rule σ) (arguments : List Float) : Guarded σ Float :=
  if arguments.length = arity then plain (rule.apply arguments)
  else throw (.inl (.arguments arity arguments.length))

end Guarded

open Guarded

/-- **The program after settings that are made one by one**. One that is refused is passed over. -/
def Program.setEach (program : Program σ) : Bindings → Program σ
  | [] => program
  | (name, value) :: rest =>
    match program.bind name value with
    | .ok next => next.setEach rest
    | .error _ => program.setEach rest

/-- The state of a program: values by slot, and slots by name. -/
structure Machine (σ : Type) where
  tokens : List (Token σ)
  slots : List (String × Nat)
  values : List (Option Float)
  reserved : List String

namespace Machine

/-! ## States -/

/-- Adds a token. A name that is met first has the next slot. -/
def add (machine : Machine σ) : Token σ → Machine σ
  | .var name _ =>
    match machine.slots.lookup name with
    | some slot => { machine with tokens := machine.tokens ++ [.var name slot] }
    | none =>
      let slot := machine.values.length
      { machine with
        tokens := machine.tokens ++ [.var name slot]
        slots := machine.slots ++ [(name, slot)]
        values := machine.values ++ [Constant.value? name] }
  | token => { machine with tokens := machine.tokens ++ [token] }

/-- **The machine of a list of tokens**, whatever slots they carry. -/
def ofTokens (tokens : List (Token σ)) (reserved : List String) : Machine σ :=
  tokens.foldl add ⟨[], [], [], reserved⟩

/-- **Sets a variable**: the value in its slot. -/
def set (machine : Machine σ) (name : String) (value : Float) :
    Except (Fault ⊕ Error) (Machine σ) :=
  if machine.reserved.contains name || Function.isBuiltin name then
    .error (.inr (.nameCollision name))
  else
    match machine.slots.lookup name with
    | none => .ok machine
    | some slot =>
      match item machine.values slot with
      | .ok _ => .ok { machine with values := machine.values.set slot (some value) }
      | .error fault => .error (.inl fault)

/-- Sets variables one by one. A setting that is refused is passed over. -/
def setEach (machine : Machine σ) : Bindings → Except Fault (Machine σ)
  | [] => .ok machine
  | (name, value) :: rest =>
    match machine.set name value with
    | .ok next => next.setEach rest
    | .error (.inr _) => machine.setEach rest
    | .error (.inl fault) => .error fault

/-! ## Evaluation -/

/-- Replaces the operands on top of a stack by what a rule computes from them. -/
def operate (arity : Nat) (rule : Rule σ) (missing : Error) (stack : List Float) :
    Guarded σ (List Float) := do
  match ← access (pop stack arity) with
  | none => throw (.inr missing)
  | some (operands, below) => return below ++ [← call arity rule operands]

/-- Runs one token on a stack. -/
def step (machine : Machine σ) (stack : List Float) : Token σ → Guarded σ (List Float)
  | .number x => return stack ++ [x]
  | .var name slot => do
    match ← access (item machine.values slot) with
    | some x => return stack ++ [x]
    | none => throw (.inr (.unboundVariable name))
  | .operator o => operate o.arity o.rule (.missingOperands o.symbol) stack
  | .function f => operate f.arity f.rule (.missingArguments f.name) stack
  | .opening | .closing => throw (.inr .mismatchedBrackets)
  | .separator => throw (.inr .misplacedSeparator)

/-- **The value of a machine.** -/
def evaluate (machine : Machine σ) : Guarded σ Float := do
  let stack ← machine.tokens.foldlM machine.step []
  plain (Effect.ofExcept (Program.single stack))

/-! ## Checking -/

/-- What a token gives cause to report at a count of operands, and the count after it. -/
def tally (count : Int) : Token σ → Except Fault (List Finding × Int)
  | .number _ | .var _ _ => return ([], ← word (count + 1))
  | .function f => do
    let arity := Program.signedCount f.arity
    let found := if count < arity then [.missingArguments f.name] else []
    if 1 < arity then return (found, ← word (count - (← word (arity - 1))))
    else if arity = 0 then return (found, ← word (count + 1))
    else return (found, count)
  | .operator o => if o.isUnary then return ([], count) else return ([], ← word (count - 1))
  | .opening | .closing => return ([.mismatchedBrackets], count)
  | .separator => return ([.misplacedSeparator], count)

/-- The findings from a count of operands on. -/
def inspect (count : Int) : List (Token σ) → Except Fault (List Finding)
  | [] => return if 1 < count then [.tooManyOperands] else []
  | token :: rest => do
    let (found, after) ← tally count token
    if after < 1 then return found ++ [.tooManyOperators]
    else return found ++ (← inspect after rest)

/-- The occurrences of variables without a value. -/
def unset (machine : Machine σ) : List (Token σ) → Except Fault (List Finding)
  | [] => return []
  | .var name slot :: rest => do
    let value ← item machine.values slot
    return (if value.isNone then [.unset name] else []) ++ (← machine.unset rest)
  | _ :: rest => machine.unset rest

/-- **All findings of a check.** -/
def validate (machine : Machine σ) (checkVariables : Bool) : Except Fault (List Finding) := do
  let unset ← if checkVariables then machine.unset machine.tokens else pure []
  if machine.tokens.isEmpty then return unset ++ [.empty]
  else return unset ++ (← inspect 0 machine.tokens)

/-! ## Folding -/

/-- The tokens on top of a stack as numbers, if they are. -/
def constants (stack : List (Token σ)) (arity : Nat) : Except Fault (Option (List Float)) :=
  if stack.length < arity then return none
  else do
    let index ← minus stack.length arity
    let (_, top) ← splitAt stack index
    return top.mapM Token.value?

/-- Adds a token to what was folded so far, or the number that it computes. -/
def foldStep (folded : List (Token σ)) (token : Token σ) : Guarded σ (List (Token σ)) :=
  match token.foldable? with
  | none => return folded ++ [token]
  | some (arity, rule) => do
    match ← access (constants folded arity) with
    | none => return folded ++ [token]
    | some arguments =>
      let value ← call arity rule arguments
      let length ← access (minus folded.length arguments.length)
      return folded.take length ++ [.number value]

/-- **The tokens with all constant parts computed.** -/
def fold (tokens : List (Token σ)) : Guarded σ (List (Token σ)) := tokens.foldlM foldStep []

/-! ## The machine of a program -/

/-- **The machine of a program.** -/
def of (program : Program σ) : Machine σ where
  tokens := program.tokens
  slots := program.names.zipIdx
  values := program.cells.map Cell.value
  reserved := program.reserved

/-- The slot of a name is its place. -/
theorem lookup_zipIdx (names : List String) (name : String) (start : Nat) :
    (names.zipIdx start).lookup name =
      if name ∈ names then some (start + names.idxOf name) else none := by
  induction names generalizing start with
  | nil => rfl
  | cons first rest ih =>
    rw [List.zipIdx_cons, List.lookup_cons]
    by_cases same : name = first
    · subst same
      simp
    · have differs : (name == first) = false := beq_eq_false_iff_ne.mpr same
      rw [differs, ih, List.idxOf_cons_ne rest (Ne.symm same)]
      simp only [List.mem_cons, same, false_or]
      split
      · rw [Nat.add_right_comm, Nat.add_assoc]
      · rfl

theorem lookup_of (program : Program σ) (name : String) :
    (of program).slots.lookup name =
      if name ∈ program.names then some (program.names.idxOf name) else none := by
  rw [of, lookup_zipIdx, Nat.zero_add]

/-- A slot is within the values if it is that of a cell. -/
theorem item_of (program : Program σ) {slot : Nat} (within : slot < program.cells.length) :
    item (of program).values slot = .ok (program.value? slot) := by
  simp [item, of, Program.value?, List.getElem?_eq_getElem within]

/-! ## Building a machine -/

section OfTokens

variable (tokens : List (Token σ)) (reserved : List String)

/-- An element is added to a list without repetitions unless it is there. -/
theorem eraseDups_concat {α : Type} [DecidableEq α] (l : List α) (a : α) :
    (l ++ [a]).eraseDups = if a ∈ l then l.eraseDups else l.eraseDups ++ [a] := by
  rw [List.eraseDups_append]
  by_cases mem : a ∈ l
  · simp [List.removeAll, mem]
  · simp [List.removeAll, mem, List.eraseDups_cons]

/-- A name that is met first comes after those before it. -/
theorem variableNames_append_var (name : String) (slot : Nat) :
    Token.variableNames (tokens ++ [.var name slot]) =
      if name ∈ Token.variableNames tokens then Token.variableNames tokens
      else Token.variableNames tokens ++ [name] := by
  have met : name ∈ Token.variableNames tokens ↔ name ∈ tokens.filterMap Token.variableName? :=
    List.mem_eraseDups
  rw [Token.variableNames, List.filterMap_append]
  simp only [met]
  exact eraseDups_concat _ name

/-- A name that comes later changes no slot. -/
theorem link_append (name : String) :
    tokens.map (Token.link (Token.variableNames tokens ++ [name])) =
      tokens.map (Token.link (Token.variableNames tokens)) := by
  refine List.map_congr_left fun token mem => ?_
  cases token with
  | var other slot =>
    have met : other ∈ Token.variableNames tokens := Token.mem_variableNames.mpr ⟨slot, mem⟩
    rw [Token.link, Token.link, List.idxOf_append_of_mem met]
  | _ => rfl

/-- A token without a name is added as it is. -/
theorem of_append_other {token : Token σ} (other : token.variableName? = none) :
    of (Program.ofTokens (tokens ++ [token]) reserved) =
      (of (Program.ofTokens tokens reserved)).add token := by
  have names : Token.variableNames (tokens ++ [token]) = Token.variableNames tokens := by
    simp [Token.variableNames, other]
  have linked : token.link (Token.variableNames tokens) = token := by
    cases token with
    | var name slot => cases other
    | _ => rfl
  have added : ∀ machine : Machine σ,
      machine.add token = { machine with tokens := machine.tokens ++ [token] } := by
    intro machine
    cases token with
    | var name slot => cases other
    | _ => rfl
  rw [added]
  simp [of, Program.ofTokens, Program.names, names, linked]

/-- The machine of one token more. -/
theorem of_append (token : Token σ) :
    of (Program.ofTokens (tokens ++ [token]) reserved) =
      (of (Program.ofTokens tokens reserved)).add token := by
  cases token with
  | var name old =>
    have names := variableNames_append_var tokens name old
    rw [add, lookup_of, Program.names_ofTokens]
    by_cases met : name ∈ Token.variableNames tokens
    · rw [if_pos met] at names ⊢
      simp [of, Program.ofTokens, Program.names, names, Token.link]
    · have place : (Token.variableNames tokens ++ [name]).idxOf name =
          (Token.variableNames tokens).length := by
        rw [List.idxOf_append_of_notMem met]
        simp
      rw [if_neg met] at names ⊢
      simp [of, Program.ofTokens, Program.names, names, Token.link, link_append, place,
        List.zipIdx_append, Function.comp_def]
  | _ => exact of_append_other tokens reserved rfl

/-- **A machine that is built of tokens is that of their program.** -/
theorem ofTokens_eq : ofTokens tokens reserved = of (Program.ofTokens tokens reserved) := by
  induction tokens using List.reverseRecOn with
  | nil => rfl
  | append_singleton tokens token ih =>
    rw [of_append, ← ih, ofTokens, List.foldl_concat]
    rfl

end OfTokens

/-! ## Setting variables -/

/-- The values of cells, one of them set: in its place, or by its name. -/
theorem set_values {cells : List Cell} {name : String} (value : Float)
    (distinct : (cells.map Cell.name).Nodup) (mem : name ∈ cells.map Cell.name) :
    (cells.map Cell.value).set ((cells.map Cell.name).idxOf name) (some value) =
      (cells.map fun cell =>
        if cell.name == name then { cell with value := some value } else cell).map Cell.value := by
  induction cells with
  | nil => cases mem
  | cons cell rest ih =>
    obtain ⟨fresh, distinct⟩ := List.nodup_cons.mp distinct
    by_cases same : cell.name = name
    · have kept : ∀ other ∈ rest, other.name ≠ name := by
        rintro other found rfl
        exact fresh (same ▸ List.mem_map_of_mem found)
      simp only [List.map_cons, same, List.idxOf_cons_self, List.set_cons_zero, beq_self_eq_true,
        if_true, List.map_map, List.cons.injEq, true_and]
      refine List.map_congr_left fun other found => ?_
      simp [kept other found]
    · have later : name ∈ rest.map Cell.name := by
        rcases List.mem_cons.mp mem with here | later
        · exact absurd here.symm same
        · exact later
      have shifted := ih distinct later
      simp only [List.map_map] at shifted
      simp [List.idxOf_cons_ne _ same, same, shifted]

theorem names_assign (program : Program σ) (name : String) (value : Float) :
    (program.assign name value).names = program.names := by
  rw [Program.names, Program.names, Program.assign, List.map_map]
  refine List.map_congr_left fun cell _ => ?_
  show (if cell.name == name then _ else _ : Cell).name = cell.name
  split <;> rfl

/-- **Setting a variable does not fault**, and sets it in the program. -/
theorem set_of {program : Program σ} (distinct : program.names.Nodup) (name : String)
    (value : Float) :
    (of program).set name value = ((program.bind name value).mapError .inr).map of := by
  have refusal : ((of program).reserved.contains name || Function.isBuiltin name) =
      program.isReserved name := rfl
  rw [set, refusal, Program.bind]
  cases program.isReserved name with
  | true => rfl
  | false =>
    rw [if_neg Bool.false_ne_true, if_neg Bool.false_ne_true, lookup_of]
    by_cases mem : name ∈ program.names
    · have within : program.names.idxOf name < program.cells.length := by
        have place := List.idxOf_lt_length_iff.mpr mem
        rwa [Program.names, List.length_map] at place
      have set_value := set_values value distinct mem
      rw [if_pos mem]
      simp only [item_of program within, Except.mapError, Except.map]
      simp only [of, names_assign]
      exact congrArg (fun values => Except.ok (⟨program.tokens, program.names.zipIdx, values,
        program.reserved⟩ : Machine σ)) set_value
    · have absent : program.contains name = false := by
        simpa [Program.contains] using mem
      rw [if_neg mem, program.assign_absent absent]
      rfl

/-- Nor do settings that are made one by one. -/
theorem setEach_of {program : Program σ} (distinct : program.names.Nodup) (settings : Bindings) :
    (of program).setEach settings = .ok (of (program.setEach settings)) := by
  induction settings generalizing program with
  | nil => rfl
  | cons setting rest ih =>
    obtain ⟨name, value⟩ := setting
    rw [setEach, set_of distinct, Program.setEach, Program.bind]
    cases program.isReserved name with
    | true => exact ih distinct
    | false => exact ih (by rwa [names_assign])

/-- Settings change the values of a program, and nothing else. -/
theorem exists_setEach_eq (program : Program σ) (values : String → Option Float)
    (settings : Bindings) :
    ∃ others, (program.withValues values).setEach settings = program.withValues others := by
  induction settings generalizing values with
  | nil => exact ⟨values, rfl⟩
  | cons setting rest ih =>
    obtain ⟨name, value⟩ := setting
    rw [Program.setEach, Program.bind]
    cases (program.withValues values).isReserved name with
    | true => exact ih values
    | false =>
      rw [if_neg Bool.false_ne_true, Program.assign_withValues]
      exact ih _

end Machine

end Formula
