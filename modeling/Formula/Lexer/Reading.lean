import Formula.Lexer.Cursor

/-!
# A text as lexemes

A reading is all that the lexer finds in a text: the lexemes in order, and the error that ended it,
if one did. Nothing is read after an error.
-/

namespace Formula

/-- The lexemes of a text, and the error after them if the text was not read to its end. -/
structure Reading (σ : Type) where
  lexemes : List (Lexeme σ)
  error? : Option Error

variable {σ : Type}

namespace Reading

/-- The tokens of a reading. -/
def tokens (reading : Reading σ) : List (Token σ) := reading.lexemes.map Lexeme.token

/-- A reading with one more lexeme in front. -/
def cons (lexeme : Lexeme σ) (reading : Reading σ) : Reading σ :=
  { reading with lexemes := lexeme :: reading.lexemes }

end Reading

namespace Lexer

/-- The reading from a place on. -/
def readFrom (lexer : Lexer σ) (cursor : Cursor σ) : Reading σ :=
  match _step : lexer.next cursor with
  | .finished => ⟨[], none⟩
  | .failed error => ⟨[], some error⟩
  | .found lexeme after => (lexer.readFrom after).cons lexeme
termination_by cursor.weight
decreasing_by exact next_weight _step

/-- A reading is that of the next step, and of the rest if the step finds a lexeme. -/
theorem readFrom_eq (lexer : Lexer σ) (cursor : Cursor σ) :
    lexer.readFrom cursor =
      match lexer.next cursor with
      | .finished => ⟨[], none⟩
      | .failed error => ⟨[], some error⟩
      | .found lexeme after => (lexer.readFrom after).cons lexeme := by
  rw [readFrom]
  split <;> simp_all

/-- **The reading of a text** under a table of names. -/
def readText (symbols : Symbols σ) (implicit : Bool) (text : String) : Reading σ :=
  Lexer.readFrom ⟨symbols, implicit, text⟩ (Cursor.start text.toList)

end Lexer

end Formula
