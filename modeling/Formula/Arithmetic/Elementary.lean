/-!
# Elementary functions near zero, angles, truncation

`log (1 + x)` and `exp x - 1` lose their digits when computed as written for a small `x`. Both are
recovered from the rounded intermediate result `u` by a correction factor that makes up for what the
rounding lost: `log u` is multiplied by `x / (u - 1)`, and `u - 1` by `x / log u`.
-/

namespace Formula.Arithmetic

/-- The ratio of a circle's circumference to its diameter, rounded. -/
def pi : Float := 3.141592653589793

/-- The base of the natural logarithm, rounded. -/
def e : Float := 2.718281828459045

/-- The golden ratio, to eleven decimals. -/
def goldenRatio : Float := 1.61803398874

/-- `log (1 + x)`, accurate also for small `x`. -/
def logOnePlus (x : Float) : Float :=
  let u := 1.0 + x
  if u == 1.0 then x else if u.isInf then u.log else u.log * (x / (u - 1.0))

/-- `exp x - 1`, accurate also for small `x`. -/
def expMinusOne (x : Float) : Float :=
  let u := x.exp
  if u == 1.0 then x
  else if u.isInf || u - 1.0 == -1.0 then u - 1.0
  else (u - 1.0) * (x / u.log)

/-- Degrees to radians. -/
def radians (degrees : Float) : Float := degrees * (pi / 180.0)

/-- Radians to degrees. -/
def degrees (radians : Float) : Float := radians * (180.0 / pi)

/-- The number without its fractional part. -/
def truncate (x : Float) : Float := if x < 0.0 then x.ceil else x.floor

/-- The sign of a number as one or minus one. A zero and an undefined value are their own sign. -/
def signum (x : Float) : Float :=
  if x > 0.0 then 1.0 else if x < 0.0 then -1.0 else x

/-- Truth as a number. -/
def truth (b : Bool) : Float := if b then 1.0 else 0.0

end Formula.Arithmetic
