import Formula.Decimal.Reading
import Formula.Error
import Formula.Lexer.Lead

/-!
# Literals in a text

A literal is the longest run of digits and points, with the exponent that follows it directly. An
`e` that no digit follows, with or without a sign between them, is left for a name. A second
exponent directly after the first makes the literal malformed, as do a second point and a run
without digits.
-/

namespace Formula.Lexer

/-- How many characters of a sign stand at the front. -/
def signLength : List Char → Nat
  | '+' :: _ => 1
  | '-' :: _ => 1
  | _ => 0

/-- How many characters of an exponent stand at the front: its mark, a sign or none, and all digits
that follow, at least one. -/
def exponentLength : List Char → Nat
  | [] => 0
  | mark :: rest =>
    if mark = 'e' ∨ mark = 'E' then
      let sign := signLength rest
      match ((rest.drop sign).takeWhile Char.isDigit).length with
      | 0 => 0
      | digits => 1 + sign + digits
    else 0

/-- How many digits and points stand at the front. -/
def mantissaLength (cs : List Char) : Nat := (cs.takeWhile isNumeral).length

/-- How many characters the literal at the front has. -/
def literalLength (cs : List Char) : Nat :=
  mantissaLength cs + exponentLength (cs.drop (mantissaLength cs))

/-- How many characters of a second exponent follow the literal directly. -/
def excessLength (cs : List Char) : Nat :=
  if exponentLength (cs.drop (mantissaLength cs)) = 0 then 0
  else exponentLength (cs.drop (literalLength cs))

/-- **Reads the literal at the front**: its value and its length. -/
def readLiteral (position : Nat) (cs : List Char) : Except Error (Float × Nat) :=
  let length := literalLength cs
  let excess := excessLength cs
  if excess ≠ 0 then .error (.malformedNumber (String.ofList (cs.take (length + excess))) position)
  else
    match Decimal.readLiteral (cs.take length) with
    | some value => .ok (value, length)
    | none => .error (.malformedNumber (String.ofList (cs.take length)) position)

end Formula.Lexer
