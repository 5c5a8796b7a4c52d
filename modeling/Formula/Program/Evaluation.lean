import Formula.Operands
import Formula.Program

/-!
# Evaluation

A program is run on a stack of numbers. Operands are put on it; an operator or a function takes its
operands off and puts its value on. The value of the program is the one number left at the end.

Any list of tokens can be run. What does not fit is an error of its own: too few operands, a bracket
or a separator, a variable without a value, no number at the end or several.
-/

namespace Formula.Program

variable {σ : Type}

/-- Replaces the `arity` topmost numbers by what a rule computes from them. -/
def operate (arity : Nat) (rule : Rule σ) (missing : Error) (stack : List Float) :
    Effect σ Error (List Float) :=
  match operands? arity stack with
  | none => throw missing
  | some (arguments, below) => return (← rule.apply arguments) :: below

/-- Runs one token on a stack. -/
def step (program : Program σ) (stack : List Float) : Token σ → Effect σ Error (List Float)
  | .number x => return x :: stack
  | .var name slot =>
    match program.value? slot with
    | some x => return x :: stack
    | none => throw (.unboundVariable name)
  | .operator o => operate o.arity o.rule (.missingOperands o.symbol) stack
  | .function f => operate f.arity f.rule (.missingArguments f.name) stack
  | .opening | .closing => throw .mismatchedBrackets
  | .separator => throw .misplacedSeparator

/-- The one number on a stack. -/
def single : List Float → Except Error Float
  | [x] => .ok x
  | stack => .error (.leftover stack.length)

/-- **The value of a program** under its bindings. -/
def evaluate (program : Program σ) : Effect σ Error Float := do
  let stack ← program.tokens.foldlM program.step []
  Effect.ofExcept (single stack)

/-- The value of a copy of the program with more variables set. -/
def evaluateWith (program : Program σ) (bindings : Bindings) : Effect σ Error Float :=
  match program.bindAll bindings with
  | (bound, none) => bound.evaluate
  | (_, some error) => throw error

/-- **The values of a program under several sets of bindings**, each on a copy of its own. -/
def evaluateBatch (program : Program σ) (batch : List Bindings) :
    StateM σ (List (Except Error Float)) :=
  batch.mapM fun bindings => (program.evaluateWith bindings).run

/-- The tokens that an evaluation comes to, each with the stack that it meets. -/
def traceFrom (program : Program σ) : List (Token σ) → List Float → σ → List (Token σ × List Float)
  | [], _, _ => []
  | token :: rest, stack, state =>
    (token, stack) ::
      match (program.step stack token).from state with
      | (.ok next, after) => program.traceFrom rest next after
      | (.error _, _) => []

/-- The course of an evaluation from a hidden state. -/
def trace (program : Program σ) (state : σ) : List (Token σ × List Float) :=
  program.traceFrom program.tokens [] state

end Formula.Program
