/-!
# Decimal and binary numbers, exactly

A finite magnitude of the 64-bit binary format is a natural number times a power of two; a decimal
is a natural number times a power of ten. All comparisons between the two are made in natural
numbers, without rounding. `Binary.ofBits` takes a bit pattern apart and `Binary.toFloat` puts one
together.
-/

namespace Formula.Decimal

/-- A finite magnitude, `mantissa * 2 ^ exponent`. -/
structure Binary where
  mantissa : Nat
  exponent : Int
  /-- The gap to the number below is half the gap to the number above. -/
  narrowBelow : Bool
deriving Repr, DecidableEq

/-- A decimal, `digits * 10 ^ exponent`. -/
structure Scaled where
  digits : Nat
  exponent : Int
deriving Repr, DecidableEq

namespace Binary

/-- The magnitude of a finite bit pattern. The sign bit is ignored. -/
def ofBits (bits : UInt64) : Binary :=
  let biased := ((bits >>> 52) &&& 0x7FF).toNat
  let fraction := (bits &&& 0xFFFFFFFFFFFFF).toNat
  if biased = 0 then ⟨fraction, -1074, false⟩
  else ⟨Nat.pow 2 52 + fraction, biased - 1075, fraction == 0 && 1 < biased⟩

/-- The magnitude of a finite number. -/
def ofFloat (x : Float) : Binary := ofBits x.toBits

/-- The number of magnitude `m * 2 ^ e`, for `m < 2 ^ 53` and an exponent from -1074 on whose result
is finite: a mantissa below `2 ^ 52` is doubled until it is a normal one or the exponent is least. -/
def toFloat (m : Nat) (e : Int) : Float :=
  if m = 0 then Float.ofBits 0
  else
    let shift := min (52 - Nat.log2 m) (e + 1074).toNat
    let mantissa := m <<< shift
    let biased := if mantissa < Nat.pow 2 52 then 0 else (e - shift + 1075).toNat
    Float.ofBits (UInt64.ofNat (biased <<< 52 ||| (mantissa % Nat.pow 2 52)))

/-- Numerator and denominator of the magnitude. -/
def ratio (x : Binary) : Nat × Nat :=
  (x.mantissa * Nat.pow 2 x.exponent.toNat, Nat.pow 2 (-x.exponent).toNat)

end Binary

/-- Compares `a * 10 ^ i` with `b * 2 ^ j`. -/
def compareScaled (a : Nat) (i : Int) (b : Nat) (j : Int) : Ordering :=
  compare (a * Nat.pow 10 i.toNat * Nat.pow 2 (-j).toNat)
    (b * Nat.pow 2 j.toNat * Nat.pow 10 (-i).toNat)

/-- How many decimal digits a natural number is written with. -/
def digitCount (n : Nat) : Nat := (Nat.toDigits 10 n).length

/-- The least power of ten above a positive fraction: the `k` with
`10 ^ (k - 1) ≤ num / den < 10 ^ k`. -/
def scale (num den : Nat) : Int :=
  if den ≤ num then digitCount (num / den) else 1 - (digitCount ((den - 1) / num) : Int)

/-- The fraction `num / den` divided by `10 ^ i`, as numerator and denominator. -/
def shiftRatio (num den : Nat) (i : Int) : Nat × Nat :=
  (num * Nat.pow 10 (-i).toNat, den * Nat.pow 10 i.toNat)

end Formula.Decimal
