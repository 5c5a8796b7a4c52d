/-!
# What can go wrong

One constructor for each cause, from reading a text to evaluating a program, with what the message
needs to name it. Positions count characters from zero.
-/

namespace Formula

/-- Why a text is not compiled, a declaration is refused, or a program has no value. -/
inductive Error where
  /-- The text is empty or blank. -/
  | emptyText
  /-- A literal with two exponents, two points, or no digit. -/
  | malformedNumber (literal : String) (position : Nat)
  /-- No part of a run of name characters is declared. -/
  | unknownName (name : String) (position : Nat) (text : String)
  /-- A character that starts nothing. -/
  | unexpectedCharacter (character : Char) (position : Nat)
  /-- Two operands meet and nothing may be implied between them. -/
  | ambiguousAdjacency (position : Nat)
  /-- No part of a run of operator characters is an operator. -/
  | unknownOperator (symbol : String) (position : Nat)
  /-- A separator outside of every bracket. -/
  | misplacedSeparator
  /-- A bracket without its partner. -/
  | mismatchedBrackets
  /-- A variable and a function of one name. -/
  | nameCollision (name : String)
  /-- An operator's symbol is empty or has a character that no operator may have. -/
  | invalidSymbol (symbol : String)
  /-- An operator of neither one nor two operands. -/
  | invalidArity (symbol : String) (arity : Nat)
  /-- A function's name is not a name. -/
  | invalidFunctionName (name : String)
  /-- A variable's name is not a name. -/
  | invalidVariableName (name : String)
  /-- A variable without a value. -/
  | unboundVariable (name : String)
  /-- An operator found too few operands. -/
  | missingOperands (symbol : String)
  /-- A function found too few arguments. -/
  | missingArguments (name : String)
  /-- A rule failed. -/
  | arithmetic (reason : String)
  /-- An evaluation ended with no value or with several. -/
  | leftover (count : Nat)
deriving Repr, DecidableEq

/-- The message that explains an error. -/
def Error.message : Error → String
  | .emptyText => "The expression can not be empty"
  | .malformedNumber literal position =>
    s!"Unable to parse number '{literal}' at position {position}"
  | .unknownName name position text =>
    s!"Unknown function or variable '{name}' at pos {position} in expression '{text}'"
  | .unexpectedCharacter character position =>
    s!"Unable to parse char '{character}' (Code:{character.toNat}) at [{position}]"
  | .ambiguousAdjacency position => s!"Missing operator between adjacent operands at [{position}]"
  | .unknownOperator symbol position => s!"Unknown operator '{symbol}' at [{position}]"
  | .misplacedSeparator => "Misplaced function separator ',' or mismatched parentheses"
  | .mismatchedBrackets => "Mismatched parentheses detected. Please check the expression"
  | .nameCollision name => s!"A variable can not have the same name as a function [{name}]"
  | .invalidSymbol symbol => s!"The operator symbol '{symbol}' is invalid"
  | .invalidArity symbol arity =>
    s!"Operator '{symbol}' can only have 1 or 2 operands, got {arity}"
  | .invalidFunctionName name => s!"The function name '{name}' is invalid"
  | .invalidVariableName name => s!"The variable name '{name}' is invalid"
  | .unboundVariable name => s!"No value has been set for the variable '{name}'"
  | .missingOperands symbol => s!"Invalid number of operands available for '{symbol}' operator"
  | .missingArguments name => s!"Invalid number of arguments available for '{name}' function"
  | .arithmetic reason => reason
  | .leftover count =>
    s!"Invalid number of items on the output queue ({count}). " ++
      "Might be caused by an invalid number of arguments for a function"

end Formula
