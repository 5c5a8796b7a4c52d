import Formula.Decimal.Basic

/-!
# Numbers from text

A literal has ASCII digits with at most one point among them, at least one digit, and then
optionally an exponent: `e` or `E`, a sign or none, and at least one digit. Its value is the number
nearest to the decimal it writes, the even one of two.
-/

namespace Formula.Decimal

/-- The natural number that a list of decimal digits writes. -/
def ofDigits (digits : List Char) : Nat :=
  digits.foldl (fun n c => 10 * n + (c.toNat - '0'.toNat)) 0

/-- The number nearest to `digits * 10 ^ exponent`. Beyond the range of the format, which ends
within `10 ^ 310` and begins above `10 ^ -330`, it is infinite or zero. -/
def Scaled.nearest (d : Scaled) : Float :=
  let leading := d.exponent + digitCount d.digits
  if d.digits = 0 ∨ leading < -330 then Float.ofBits 0
  else if 310 < leading then Float.ofBits 0x7FF0000000000000
  else Float.ofScientific d.digits (d.exponent < 0) d.exponent.natAbs

/-- The value of an exponent's sign and digits, `none` where a digit is missing. -/
def readExponent (cs : List Char) : Option Int :=
  let (negative, digits) :=
    match cs with
    | '-' :: rest => (true, rest)
    | '+' :: rest => (false, rest)
    | _ => (false, cs)
  if digits.isEmpty || !digits.all Char.isDigit then none
  else some (if negative then -(ofDigits digits : Int) else ofDigits digits)

/-- The decimal that a literal without a sign writes. -/
def readScaled (cs : List Char) : Option Scaled :=
  let whole := cs.takeWhile Char.isDigit
  let (fraction, rest) :=
    match cs.dropWhile Char.isDigit with
    | '.' :: rest => (rest.takeWhile Char.isDigit, rest.dropWhile Char.isDigit)
    | rest => ([], rest)
  if whole.isEmpty && fraction.isEmpty then none
  else
    let mantissa : Scaled := ⟨ofDigits (whole ++ fraction), -(fraction.length : Int)⟩
    match rest with
    | [] => some mantissa
    | mark :: rest =>
      if mark = 'e' ∨ mark = 'E' then
        (readExponent rest).map fun e => { mantissa with exponent := mantissa.exponent + e }
      else none

/-- **The value of a literal**, `none` if the text is no literal. -/
def readLiteral (cs : List Char) : Option Float := (readScaled cs).map Scaled.nearest

/-- A number with an optional minus sign, or one of the texts `NaN`, `inf` and `-inf`. -/
def read (text : String) : Option Float :=
  match text.toList with
  | ['N', 'a', 'N'] => some (Float.ofBits 0x7FF8000000000000)
  | ['i', 'n', 'f'] => some (Float.ofBits 0x7FF0000000000000)
  | ['-', 'i', 'n', 'f'] => some (Float.ofBits 0xFFF0000000000000)
  | '-' :: rest => (readLiteral rest).map Float.neg
  | cs => readLiteral cs

end Formula.Decimal
