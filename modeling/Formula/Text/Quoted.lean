import Formula.Unicode.Hidden

/-!
# Quoted text

A text in quotes, on one line and without characters that do not show: a quote and a backslash are
written after a backslash, the common controls by a letter or a zero after one, and every other
hidden character by its code point in hexadecimal.
-/

namespace Formula.Text

/-- A character of a quoted text. -/
def escape (c : Char) : List Char :=
  if c = '\x00' then ['\\', '0']
  else if c = '\t' then ['\\', 't']
  else if c = '\r' then ['\\', 'r']
  else if c = '\n' then ['\\', 'n']
  else if c = '\\' ∨ c = '"' then ['\\', c]
  else if Unicode.isHidden c then
    ['\\', 'u', '\x7b'] ++ Nat.toDigits 16 c.toNat ++ ['\x7d']
  else [c]

/-- A text in quotes. -/
def quoted (text : String) : String :=
  String.ofList ('"' :: text.toList.flatMap escape ++ ['"'])

end Formula.Text
