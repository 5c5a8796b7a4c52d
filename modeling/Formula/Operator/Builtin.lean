import Formula.Arithmetic.Elementary
import Formula.Arithmetic.Remainder
import Formula.Operator

/-!
# The operators that every formula can use

Disjunction binds least, then conjunction, sums, products, the operators before an operand, and the
power, which associates to the right. Division and remainder fail where the divisor is zero. For the
logical operators a number is true if it is not zero; they answer one or zero.
-/

namespace Formula.Operator

open Arithmetic

variable {σ : Type}

/-- The rule of a function of one operand. -/
def unaryRule (f : Float → Except String Float) : Rule σ :=
  Rule.ofFunction fun
    | x :: _ => f x
    | [] => .error "Missing operand"

/-- The rule of a function of two operands. -/
def binaryRule (f : Float → Float → Except String Float) : Rule σ :=
  Rule.ofFunction fun
    | x :: y :: _ => f x y
    | _ => .error "Missing operand"

/-- An operator before its operand. -/
def before (symbol : String) (precedence : Int) (f : Float → Float) : Operator σ :=
  ⟨symbol, 1, false, precedence, unaryRule fun x => .ok (f x)⟩

/-- A left associative operator between its operands. -/
def between (symbol : String) (precedence : Int) (f : Float → Float → Except String Float) :
    Operator σ :=
  ⟨symbol, 2, true, precedence, binaryRule f⟩

/-- The product of two operands, also where it is implied. -/
def times : Operator σ := between "*" 1000 fun x y => .ok (x * y)

/-- All built-in operators. -/
def builtins : List (Operator σ) :=
  [between "+" 500 fun x y => .ok (x + y),
   between "-" 500 fun x y => .ok (x - y),
   times,
   between "/" 1000 fun x y => if y == 0.0 then .error "Division by zero!" else .ok (x / y),
   between "%" 1000 fun x y =>
     if y == 0.0 then .error "Modulo by zero!" else .ok (remainder x y),
   ⟨"^", 2, false, 10000, binaryRule fun x y => .ok (x.pow y)⟩,
   before "-" 5000 Float.neg,
   before "+" 5000 id,
   between "&" 200 fun x y => .ok (truth (x != 0.0 && y != 0.0)),
   between "|" 100 fun x y => .ok (truth (x != 0.0 || y != 0.0)),
   before "¬" 5000 fun x => truth (x == 0.0)]

/-- The built-in operator of a symbol and a number of operands. -/
def builtin? (symbol : Char) (arity : Nat) : Option (Operator σ) :=
  builtins.find? fun o => o.arity == arity && o.symbol == String.singleton symbol

end Formula.Operator
