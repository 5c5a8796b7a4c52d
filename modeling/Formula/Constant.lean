import Formula.Arithmetic.Elementary

/-!
# Named constants

A constant is a variable that has a value from the start. Every compiled formula can use the
constants, and can set them like any other variable.
-/

namespace Formula.Constant

/-- The constants by name. -/
def all : List (String × Float) :=
  [("pi", Arithmetic.pi), ("π", Arithmetic.pi), ("e", Arithmetic.e), ("φ", Arithmetic.goldenRatio)]

/-- The names of the constants. -/
def names : List String := all.map Prod.fst

/-- The value that a variable of this name starts with. -/
def value? (name : String) : Option Float := all.lookup name

end Formula.Constant
