import Formula.Name
import Formula.Operator
import Formula.Unicode.Blank

/-!
# What a character starts

The first character of a lexeme decides what is read there. The classes do not overlap: a letter is
no operator character, and the digits of other scripts start nothing, since a literal has ASCII
digits only and a name does not start with a digit.
-/

namespace Formula.Lexer

/-- A bracket that opens. The three kinds are one to the formula. -/
def isOpening (c : Char) : Bool := c == '(' || c == '{' || c == '['

/-- A bracket that closes. -/
def isClosing (c : Char) : Bool := c == ')' || c == '}' || c == ']'

/-- A character of a literal before its exponent. -/
def isNumeral (c : Char) : Bool := c.isDigit || c == '.'

/-- What is read at a character. -/
inductive Lead where
  | numeral
  | separator
  | opening
  | closing
  | symbol
  | name
  | nothing
deriving Repr, DecidableEq

namespace Lead

/-- What is read at a character that is not blank. -/
def of (c : Char) : Lead :=
  if isNumeral c then numeral
  else if c == ',' then separator
  else if isOpening c then opening
  else if isClosing c then closing
  else if Operator.isSymbolCharacter c then symbol
  else if Name.isStart c then name
  else nothing

/-- Whether an operand starts there. -/
def startsOperand : Lead → Bool
  | numeral | opening | name => true
  | separator | closing | symbol | nothing => false

end Formula.Lexer.Lead
