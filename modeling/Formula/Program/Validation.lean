import Formula.Program

/-!
# Checking a program without running it

The check walks over the tokens and counts the operands that would be on the stack. It reports all
that it finds, in order, and stops where the count falls below one. Variables without a value are
reported first, once for each occurrence, if they are asked for.

Counts are signed words of 64 bits, and a number of arguments is read as such a word: one from
`2 ^ 63` on counts as negative.
-/

namespace Formula

/-- What a check finds. -/
inductive Finding where
  | unset (name : String)
  | empty
  | missingArguments (name : String)
  | mismatchedBrackets
  | misplacedSeparator
  | tooManyOperators
  | tooManyOperands
deriving Repr, DecidableEq

/-- The message of a finding. -/
def Finding.message : Finding → String
  | .unset name => s!"The variable '{name}' has not been set"
  | .empty => "The expression is empty"
  | .missingArguments name => s!"Not enough arguments for '{name}'"
  | .mismatchedBrackets => "Mismatched parentheses"
  | .misplacedSeparator => "Misplaced function separator"
  | .tooManyOperators => "Too many operators"
  | .tooManyOperands => "Too many operands"

namespace Program

variable {σ : Type}

/-- A number of arguments as a signed word. -/
def signedCount (arity : Nat) : Int := Int.bmod arity UInt64.size

/-- What a token gives cause to report at a count of operands, and the count after it. -/
def tally (count : Int) : Token σ → List Finding × Int
  | .number _ | .var _ _ => ([], count + 1)
  | .function f =>
    let arity := signedCount f.arity
    (if count < arity then [.missingArguments f.name] else [],
      if 1 < arity then count - (arity - 1) else if arity = 0 then count + 1 else count)
  | .operator o => ([], if o.isUnary then count else count - 1)
  | .opening | .closing => ([.mismatchedBrackets], count)
  | .separator => ([.misplacedSeparator], count)

/-- The findings from a count of operands on. -/
def inspect (count : Int) : List (Token σ) → List Finding
  | [] => if 1 < count then [.tooManyOperands] else []
  | token :: rest =>
    let (found, after) := tally count token
    found ++ if after < 1 then [.tooManyOperators] else inspect after rest

/-- The occurrences of variables without a value. -/
def unset (program : Program σ) : List Finding :=
  program.tokens.filterMap fun
    | .var name slot => if (program.value? slot).isNone then some (.unset name) else none
    | _ => none

/-- **All findings of a check.** A program is valid if there are none. -/
def validate (program : Program σ) (checkVariables : Bool) : List Finding :=
  (if checkVariables then program.unset else []) ++
    if program.tokens.isEmpty then [.empty] else inspect 0 program.tokens

end Formula.Program
