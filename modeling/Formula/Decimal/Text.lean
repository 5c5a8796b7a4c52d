import Formula.Decimal.Shortest
import Formula.Decimal.Rounded

/-!
# Numbers as text

A number is written in one of two forms. The *plain* form has its shortest digits, positional from
`1e-4` up to below `1e16` with at least one decimal, and scientific outside of that range. The
*significant* form has a given count of digits and is always scientific. Both keep the sign of zero,
and both write the values that are not finite as `NaN`, `inf` and `-inf`.
-/

namespace Formula.Decimal

/-- The decimal digits of a natural number. -/
def digitText (n : Nat) : List Char := Nat.toDigits 10 n

/-- Digits with a point after the first one, none after a single digit. -/
def pointed : List Char → List Char
  | first :: second :: rest => first :: '.' :: second :: rest
  | digits => digits

/-- Scientific layout: the digits, pointed, and the exponent of the leading one. -/
def scientific (digits : List Char) (leading : Int) : String :=
  String.ofList (pointed digits) ++ "e" ++ toString leading

/-- Positional layout of `digits`, the first of which stands for `10 ^ leading`, with at least one
digit on each side of the point. -/
def positional (digits : List Char) (leading : Int) : String :=
  match leading with
  | .negSucc n => String.ofList ('0' :: '.' :: (List.replicate n '0' ++ digits))
  | .ofNat n =>
    let whole := digits.take (n + 1) ++ List.replicate (n + 1 - digits.length) '0'
    let fraction := digits.drop (n + 1)
    String.ofList (whole ++ '.' :: (if fraction.isEmpty then ['0'] else fraction))

/-- The exponent of the leading digit of a decimal. -/
def Scaled.leading (d : Scaled) : Int := d.exponent + digitCount d.digits - 1

/-- The plain form of a positive number. -/
def Binary.plain (x : Binary) : String :=
  let d := x.shortest
  let leading := d.leading
  if -4 ≤ leading ∧ leading < 16 then positional (digitText d.digits) leading
  else scientific (digitText d.digits) leading

/-- The text of a number whose sign is written in front of that of its magnitude. -/
def signed (x : Float) (magnitude : Binary → String) : String :=
  if x.isNaN then "NaN"
  else
    let sign := if x.toBits >>> 63 == 1 then "-" else ""
    sign ++ if x.isInf then "inf" else magnitude (Binary.ofFloat x)

/-- **The plain form**: `2.0`, `-0.0`, `0.0001`, `9.999e-5`, `1e16`. -/
def plain (x : Float) : String :=
  signed x fun magnitude => if magnitude.mantissa = 0 then "0.0" else magnitude.plain

/-- **The significant form**, with `count` digits: `2.00e0` for three of them. -/
def significant (count : Nat) (x : Float) : String :=
  signed x fun magnitude =>
    if magnitude.mantissa = 0 then scientific (List.replicate count '0') 0
    else
      let d := magnitude.significant count
      scientific (digitText d.digits) d.leading

end Formula.Decimal
