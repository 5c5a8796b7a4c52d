import Formula.Decimal.Basic

/-!
# A given number of significant digits

Rounding keeps the exact value of the number in sight: the quotient by the chosen grid is taken in
natural numbers, and a remainder of exactly one half goes to the even neighbour.
-/

namespace Formula.Decimal

/-- The natural number nearest to `num / den`, the even one of two. -/
def roundToEven (num den : Nat) : Nat :=
  let quotient := num / den
  match compare (2 * (num % den)) den with
  | .lt => quotient
  | .gt => quotient + 1
  | .eq => if quotient % 2 = 0 then quotient else quotient + 1

/-- The positive number rounded to `count` significant digits. Rounding up to a power of ten moves
the leading digit one place to the left. -/
def Binary.significant (x : Binary) (count : Nat) : Scaled :=
  let (num, den) := x.ratio
  let i := scale num den - count
  let (num, den) := shiftRatio num den i
  let digits := roundToEven num den
  if digits = Nat.pow 10 count then ⟨Nat.pow 10 (count - 1), i + 1⟩ else ⟨digits, i⟩

end Formula.Decimal
