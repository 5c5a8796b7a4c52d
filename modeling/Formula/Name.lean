import Formula.Unicode.Alphabetic
import Formula.Unicode.Numeric

/-!
# Names

A name starts with a letter or an underscore and goes on with letters, numeric characters and
underscores, of any script.
-/

namespace Formula.Name

/-- A character that can start a name. -/
def isStart (c : Char) : Bool := Unicode.isAlphabetic c || c == '_'

/-- A character that can continue a name. -/
def isPart (c : Char) : Bool := Unicode.isAlphabetic c || Unicode.isNumeric c || c == '_'

/-- Whether a text is a name. -/
def isValid (name : String) : Bool :=
  match name.toList with
  | [] => false
  | first :: rest => isStart first && rest.all isPart

end Formula.Name
