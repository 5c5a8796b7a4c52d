import Formula.Decimal.Text
import Formula.Function
import Formula.Operator

/-!
# Tokens

What formulas are made of, both as they are read and in postfix order, where brackets and separators
have no place any more. A variable carries the slot of its cell in the program that it belongs to;
outside of a program the slot is zero.
-/

namespace Formula

/-- A token of a formula. -/
inductive Token (σ : Type) where
  | number (value : Float)
  | var (name : String) (slot : Nat)
  | operator (operator : Operator σ)
  | function (function : Function σ)
  | opening
  | closing
  | separator

namespace Token

variable {σ : Type}

/-- Tokens are compared without the rules of their operators and functions, and numbers as numbers:
an undefined value is not equal to itself. -/
def same : Token σ → Token σ → Bool
  | number x, number y => x == y
  | var name slot, var name' slot' => name == name' && slot == slot'
  | operator o, operator p => o == p
  | function f, function g => f == g
  | opening, opening | closing, closing | separator, separator => true
  | _, _ => false

instance : BEq (Token σ) := ⟨same⟩

/-- The token as it is shown, with its number written in a given form. Every kind of bracket is
shown as a parenthesis. -/
def textWith (form : Float → String) : Token σ → String
  | number x => "NUMBER[" ++ form x ++ "]"
  | var name _ => "VARIABLE[" ++ name ++ "]"
  | operator o => "OPERATOR[" ++ o.symbol ++ "]"
  | function f => "FUNCTION[" ++ f.name ++ "]"
  | opening => "PARENTHESES_OPEN[(]"
  | closing => "PARENTHESES_CLOSE[)]"
  | separator => "SEPARATOR[,]"

/-- The token as it is shown, with its number in plain form. -/
def text (token : Token σ) : String := token.textWith Decimal.plain

/-- A list of tokens as it is shown. -/
def render (tokens : List (Token σ)) : String := " ".intercalate (tokens.map text)

/-- The value of a number token. -/
def value? : Token σ → Option Float
  | number x => some x
  | _ => none

/-- The name of a variable token. -/
def variableName? : Token σ → Option String
  | var name _ => some name
  | _ => none

/-- An operand that starts right after this token is multiplied with the one that it ends. -/
def endsOperand : Token σ → Bool
  | number _ | var _ _ | closing => true
  | _ => false

/-- Right after this token an operand is due, so that an operator there is one that stands before
its operand. -/
def awaitsOperand : Token σ → Bool
  | opening | separator | function _ => true
  | operator o => !o.followsOperand
  | number _ | var _ _ | closing => false

end Formula.Token
