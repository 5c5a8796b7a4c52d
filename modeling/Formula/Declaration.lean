import Formula.Symbols

/-!
# Declarations

What a caller can add to the names of a formula: a variable, a function or an operator. A
declaration is checked on its own, against the rules of names and symbols; whether two names collide
is a matter of the table that they are entered in.
-/

namespace Formula

/-- A name or a symbol to be declared. -/
inductive Declaration (σ : Type) where
  | var (name : String)
  | function (function : Function σ)
  | operator (operator : Operator σ)

variable {σ : Type}

/-- A declaration is sound if its name or symbol is one and its operator has one or two operands. -/
def Declaration.check : Declaration σ → Except Error Unit
  | var name => if Name.isValid name then .ok () else .error (.invalidVariableName name)
  | function f => if Name.isValid f.name then .ok () else .error (.invalidFunctionName f.name)
  | operator o => o.check

/-- Enters a declaration in a table. -/
def Symbols.declare (symbols : Symbols σ) : Declaration σ → Symbols σ
  | .var name => symbols.declareVariable name
  | .function f => symbols.declareFunction f
  | .operator o => symbols.declareOperator o

end Formula
