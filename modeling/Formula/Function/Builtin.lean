import Formula.Arithmetic.Elementary
import Formula.Function.Typed

/-!
# The functions that every formula can call

Trigonometric and hyperbolic functions with their reciprocals, conversions of angles, logarithms,
powers and roots, and rounding. All are deterministic. A reciprocal fails where the function under
it is zero; everywhere else the results follow the arithmetic of floating point, undefined values
and infinities included.
-/

namespace Formula.Function

open Arithmetic

/-- A deterministic function of one number that never fails. -/
def total (name : String) (f : Float → Float) : Definition :=
  ⟨name, [.real], fun x => .ok (f x), true⟩

/-- A deterministic function of two numbers that never fails. -/
def totalPair (name : String) (f : Float → Float → Float) : Definition :=
  ⟨name, [.real, .real], fun x y => .ok (f x y), true⟩

/-- The reciprocal of a function, which fails where that is zero. -/
def reciprocal (name : String) (f : Float → Float) (described : String) : Definition :=
  ⟨name, [.real], fun x =>
    if f x == 0.0 then .error s!"Division by zero in {described}!" else .ok (1.0 / f x), true⟩

/-- Trigonometric and hyperbolic functions. -/
def trigonometric : List Definition :=
  [total "sin" Float.sin, total "cos" Float.cos, total "tan" Float.tan,
   reciprocal "cot" Float.tan "cotangent", reciprocal "sec" Float.cos "secant",
   reciprocal "csc" Float.sin "cosecant",
   total "sinh" Float.sinh, total "cosh" Float.cosh, total "tanh" Float.tanh,
   reciprocal "coth" Float.tanh "hyperbolic cotangent",
   reciprocal "sech" Float.cosh "hyperbolic secant",
   reciprocal "csch" Float.sinh "hyperbolic cosecant",
   total "asin" Float.asin, total "acos" Float.acos, total "atan" Float.atan,
   total "toradian" radians, total "todegree" degrees]

/-- Logarithms, exponentials, powers and roots. The first argument of `logb` is the base. -/
def exponential : List Definition :=
  [total "log" Float.log, total "log2" Float.log2, total "log10" Float.log10,
   total "log1p" logOnePlus, totalPair "logb" fun base x => x.log / base.log,
   total "exp" Float.exp, total "expm1" expMinusOne,
   totalPair "pow" Float.pow, total "sqrt" Float.sqrt, total "cbrt" Float.cbrt]

/-- Magnitude, rounding to whole numbers, and sign. -/
def rounding : List Definition :=
  [total "abs" Float.abs, total "ceil" Float.ceil, total "floor" Float.floor, total "signum" signum]

/-- All built-in functions. -/
def builtins : List Definition := trigonometric ++ exponential ++ rounding

/-- Whether a built-in function has this name. -/
def isBuiltin (name : String) : Bool := builtins.any fun d => d.name == name

variable {σ : Type}

/-- The built-in function of a name. -/
def builtin? (name : String) : Option (Function σ) :=
  (builtins.find? fun d => d.name == name).map ofDefinition

end Formula.Function
