import Formula.Error
import Formula.Rule

/-!
# Operators

An operator has a symbol of one or more operator characters, takes one or two operands, and binds
them by its precedence and the side it associates to. Among those of one operand, a right
associative one stands before its operand and a left associative one after it.
-/

namespace Formula

/-- An operator of an infix formula. -/
structure Operator (σ : Type) where
  symbol : String
  arity : Nat
  leftAssociative : Bool
  precedence : Int
  rule : Rule σ

namespace Operator

variable {σ : Type}

/-- Operators are compared by all but their rules. -/
instance : BEq (Operator σ) where
  beq o p := o.symbol == p.symbol && o.arity == p.arity &&
    o.leftAssociative == p.leftAssociative && o.precedence == p.precedence

/-- The characters that symbols are made of. -/
def symbolCharacters : List Char :=
  ['+', '-', '*', '/', '%', '^', '!', '#', '§', '$', '&', ';', ':', '~', '<', '>', '|', '=', '¬']

/-- Whether a symbol may have this character. -/
def isSymbolCharacter (c : Char) : Bool := symbolCharacters.contains c

/-- Takes one operand. -/
def isUnary (o : Operator σ) : Bool := o.arity == 1

/-- Stands after its operand: an operand is complete where it has been read. -/
def followsOperand (o : Operator σ) : Bool := o.isUnary && o.leftAssociative

/-- Whether an operator can be declared: its symbol is made of operator characters, at least one,
and it takes one or two operands. -/
def check (o : Operator σ) : Except Error Unit :=
  if o.symbol.toList.isEmpty || !o.symbol.toList.all isSymbolCharacter then
    .error (.invalidSymbol o.symbol)
  else if o.arity ≠ 1 ∧ o.arity ≠ 2 then .error (.invalidArity o.symbol o.arity)
  else .ok ()

end Formula.Operator
