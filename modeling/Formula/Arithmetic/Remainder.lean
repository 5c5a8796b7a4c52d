import Formula.Decimal.Basic

/-!
# The exact remainder

The remainder of the quotient rounded toward zero. Both numbers are brought to the smaller of their
two exponents; the remainder of the mantissas is below one of them, so the result is exact.
-/

namespace Formula.Arithmetic

open Decimal (Binary)

/-- The remainder of two magnitudes, as a mantissa and an exponent. -/
def remainderScaled (a b : Binary) : Nat × Int :=
  let e := min a.exponent b.exponent
  (a.mantissa * Nat.pow 2 (a.exponent - e).toNat %
    (b.mantissa * Nat.pow 2 (b.exponent - e).toNat), e)

/-- **The remainder of `a` by `b`**, with the sign of `a`, also where it is zero. There is none of
an infinite number, nor by zero; by an infinite number a finite one is its own remainder. -/
def remainder (a b : Float) : Float :=
  if a.isNaN || b.isNaN || a.isInf || b == 0.0 then Float.ofBits 0x7FF8000000000000
  else if b.isInf then a
  else
    let (mantissa, exponent) := remainderScaled (Binary.ofFloat a) (Binary.ofFloat b)
    let magnitude := Binary.toFloat mantissa exponent
    if a.toBits >>> 63 == 1 then -magnitude else magnitude

end Formula.Arithmetic
