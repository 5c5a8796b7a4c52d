import Formula.Decimal.Basic

/-!
# The fewest digits that read back

The reals that round to a binary number form an interval, from halfway to the number below to
halfway to the number above; the ends belong to it exactly when the mantissa is even. The shortest
decimal of the number is the shortest one in that interval, the closest to the number among those of
that length, and the upper one of two equally close.

The search goes through the decimal grids from the coarsest: if a grid has a point in the interval,
then one of the number's two neighbours on the grid lies in it.
-/

namespace Formula.Decimal

/-- Whether a decimal lies among the reals that round to the number. -/
def Binary.readsBack (x : Binary) (d : Scaled) : Bool :=
  let low := if x.narrowBelow then 4 * x.mantissa - 1 else 4 * x.mantissa - 2
  let high := 4 * x.mantissa + 2
  let even := x.mantissa % 2 == 0
  let atLow := compareScaled d.digits d.exponent low (x.exponent - 2)
  let atHigh := compareScaled d.digits d.exponent high (x.exponent - 2)
  (atLow == .gt || (even && atLow == .eq)) && (atHigh == .lt || (even && atHigh == .eq))

/-- The decimal with all trailing zeros moved into the exponent. -/
def Scaled.strip (d : Scaled) : Scaled :=
  if d.digits ≠ 0 ∧ d.digits % 10 = 0 then strip ⟨d.digits / 10, d.exponent + 1⟩ else d
termination_by d.digits
decreasing_by omega

/-- The number's neighbours on the grid `10 ^ i` that read back: the closer one, and the upper one
of two equally close. -/
def Binary.onGrid (x : Binary) (i : Int) : Option Scaled :=
  let (num, den) := x.ratio
  let (num, den) := shiftRatio num den i
  let below : Scaled := ⟨num / den, i⟩
  let above : Scaled := ⟨num / den + 1, i⟩
  match x.readsBack below, x.readsBack above with
  | true, true => if 2 * (num % den) < den then some below else some above
  | true, false => some below
  | false, true => some above
  | false, false => none

/-- The exact decimal value of the number. -/
def Binary.exactly (x : Binary) : Scaled :=
  let halvings := (-x.exponent).toNat
  ⟨x.mantissa * Nat.pow 2 x.exponent.toNat * Nat.pow 5 halvings, -(halvings : Int)⟩

/-- **The shortest decimal of a positive number.** Seventeen digits always suffice. -/
def Binary.shortest (x : Binary) : Scaled :=
  let (num, den) := x.ratio
  let k := scale num den
  let found := (List.range 17).findSome? fun n : Nat => x.onGrid (k - (n + 1))
  (found.getD x.exactly).strip

end Formula.Decimal
