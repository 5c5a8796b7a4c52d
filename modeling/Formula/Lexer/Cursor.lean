import Formula.Lexer.Literal
import Formula.Lexer.Longest

/-!
# One lexeme at a time

A cursor stands in a text, after the token that was read last. A step skips the blanks and reads one
lexeme: a token with the characters that spell it. Where an operand starts right after an operand
the step reads nothing: it finds a product sign without characters, or fails if none may be implied.
Two literals are never multiplied without a sign.

**Progress** (`Step.found`): a step either moves the cursor over a character, or leaves it where an
operand is due. So the characters left, counted twice, and one more after an operand, are a measure
that every step decreases (`next_weight`).
-/

namespace Formula

/-- A token with the characters that spell it and the position of the first one. -/
structure Lexeme (σ : Type) where
  token : Token σ
  spelling : List Char
  position : Nat

/-- How a text is read: under which table, whether products may be implied, and the whole text, for
the errors that quote it. -/
structure Lexer (σ : Type) where
  symbols : Symbols σ
  implicit : Bool
  text : String

namespace Lexer

variable {σ : Type}

/-- A place in a text, with the token that was read last. -/
structure Cursor (σ : Type) where
  rest : List Char
  position : Nat
  previous : Option (Token σ)

/-- What a step comes to. -/
inductive Step (σ : Type) where
  | finished
  | failed (error : Error)
  | found (lexeme : Lexeme σ) (after : Cursor σ)

namespace Cursor

/-- The place before the first character of a text. -/
def start (text : List Char) : Cursor σ := ⟨text, 0, none⟩

/-- The next place that is not blank. -/
def skipBlanks (c : Cursor σ) : Cursor σ :=
  { c with
    rest := c.rest.dropWhile Unicode.isBlank
    position := c.position + (c.rest.takeWhile Unicode.isBlank).length }

/-- An operand ends here. -/
def afterOperand (c : Cursor σ) : Bool := c.previous.any Token.endsOperand

/-- A literal ends here. -/
def afterNumber (c : Cursor σ) : Bool := c.previous.any fun t => t.value?.isSome

/-- An operand is due here. -/
def operandDue (c : Cursor σ) : Bool := c.previous.all Token.awaitsOperand

/-- Finds a token that is spelled by the next `n` characters. -/
def take (c : Cursor σ) (token : Token σ) (n : Nat) : Step σ :=
  .found ⟨token, c.rest.take n, c.position⟩ ⟨c.rest.drop n, c.position + n, some token⟩

/-- What a reading from here can still take: two steps for each character, and one more after an
operand. -/
def weight (c : Cursor σ) : Nat := 2 * c.rest.length + c.afterOperand.toNat

end Cursor

/-- Reads what a character starts: a token and the number of its characters. -/
def read (lexer : Lexer σ) (here : Cursor σ) (c : Char) : Except Error (Token σ × Nat) :=
  match Lead.of c with
  | .numeral => (readLiteral here.position here.rest).map fun (x, n) => (.number x, n)
  | .separator => .ok (.separator, 1)
  | .opening => .ok (.opening, 1)
  | .closing => .ok (.closing, 1)
  | .symbol =>
    (readOperator lexer.symbols here.operandDue here.position here.rest).map
      fun (o, n) => (.operator o, n)
  | .name => readName lexer.symbols lexer.text here.position here.rest
  | .nothing => .error (.unexpectedCharacter c here.position)

/-- Two operands meet at a character that starts the second. -/
def meet (lexer : Lexer σ) (here : Cursor σ) (c : Char) : Step σ :=
  if lexer.implicit && !(Lead.of c == .numeral && here.afterNumber) then
    here.take (.operator .times) 0
  else .failed (.ambiguousAdjacency here.position)

/-- **One step**: the next lexeme, the end, or an error. -/
def next (lexer : Lexer σ) (cursor : Cursor σ) : Step σ :=
  let here := cursor.skipBlanks
  match here.rest with
  | [] => .finished
  | c :: _ =>
    if (Lead.of c).startsOperand && here.afterOperand then lexer.meet here c
    else
      match lexer.read here c with
      | .ok (token, n) => here.take token n
      | .error e => .failed e

/-! ## Progress -/

theorem longest_pos {α : Type} {answer : Nat → Option α} {n : Nat} {found : α × Nat}
    (h : longest answer n = some found) : 0 < found.2 := by
  induction n with
  | zero => cases h
  | succ n ih =>
    unfold longest at h
    split at h
    · cases h; exact Nat.succ_pos n
    · exact ih h

theorem mantissaLength_pos {c : Char} {rest : List Char} (h : isNumeral c = true) :
    0 < mantissaLength (c :: rest) := by
  simp [mantissaLength, h]

theorem readLiteral_pos {position : Nat} {c : Char} {rest : List Char} {found : Float × Nat}
    (numeral : isNumeral c = true) (h : readLiteral position (c :: rest) = .ok found) :
    0 < found.2 := by
  unfold readLiteral at h
  dsimp only at h
  split at h
  · cases h
  · split at h
    · cases h
      exact Nat.add_pos_left (mantissaLength_pos numeral) _
    · cases h

theorem isNumeral_of_lead {c : Char} (h : Lead.of c = .numeral) : isNumeral c = true := by
  unfold Lead.of at h
  split at h
  · assumption
  · repeat' split at h
    all_goals cases h

theorem readOperator_pos {symbols : Symbols σ} {operandDue : Bool} {position : Nat}
    {cs : List Char} {found : Operator σ × Nat}
    (h : readOperator symbols operandDue position cs = .ok found) : 0 < found.2 := by
  unfold readOperator at h
  split at h
  · rename_i best
    cases h
    exact longest_pos best
  · cases h

theorem readName_pos {symbols : Symbols σ} {text : String} {position : Nat} {cs : List Char}
    {found : Token σ × Nat} (h : readName symbols text position cs = .ok found) : 0 < found.2 := by
  unfold readName at h
  split at h
  · rename_i best
    cases h
    exact longest_pos best
  · cases h

/-- A length that survives a change of what it is the length of. -/
theorem map_pos {ε α β : Type} {f : α → β} {result : Except ε (α × Nat)} {found : β × Nat}
    (pos : ∀ a, result = .ok a → 0 < a.2)
    (h : (result.map fun (a, n) => (f a, n)) = .ok found) : 0 < found.2 := by
  cases result with
  | error e => cases h
  | ok a => cases h; exact pos a rfl

/-- Every lexeme that is read has a character. -/
theorem read_pos {lexer : Lexer σ} {here : Cursor σ} {c : Char} {rest : List Char}
    {found : Token σ × Nat} (front : here.rest = c :: rest) (h : lexer.read here c = .ok found) :
    0 < found.2 := by
  unfold read at h
  split at h
  · rename_i lead
    rw [front] at h
    exact map_pos (fun a => readLiteral_pos (isNumeral_of_lead lead)) h
  · cases h; exact Nat.one_pos
  · cases h; exact Nat.one_pos
  · cases h; exact Nat.one_pos
  · exact map_pos (fun a => readOperator_pos) h
  · exact readName_pos h
  · cases h

/-- Taking a character or more makes the cursor lighter, whatever was read. -/
theorem weight_take {here : Cursor σ} {token : Token σ} {n : Nat} {lexeme : Lexeme σ}
    {after : Cursor σ} (left : 0 < here.rest.length) (pos : 0 < n)
    (h : here.take token n = .found lexeme after) : after.weight < here.weight := by
  cases h
  simp only [Cursor.weight, List.length_drop]
  have := Bool.toNat_le (Cursor.afterOperand ⟨here.rest.drop n, here.position + n, some token⟩)
  omega

/-- Skipping blanks makes the cursor no heavier. -/
theorem weight_skipBlanks (c : Cursor σ) : c.skipBlanks.weight ≤ c.weight := by
  have := (List.dropWhile_sublist (l := c.rest) Unicode.isBlank).length_le
  show 2 * (c.rest.dropWhile Unicode.isBlank).length + c.afterOperand.toNat ≤ _
  simp only [Cursor.weight]
  omega

/-- **Every step decreases the weight.** -/
theorem next_weight {lexer : Lexer σ} {cursor : Cursor σ} {lexeme : Lexeme σ} {after : Cursor σ}
    (h : lexer.next cursor = .found lexeme after) : after.weight < cursor.weight := by
  refine Nat.lt_of_lt_of_le ?_ (weight_skipBlanks cursor)
  unfold next at h
  dsimp only at h
  split at h
  · cases h
  · rename_i c rest front
    split at h
    · rename_i meets
      unfold meet at h
      split at h
      · cases h
        have operand : cursor.skipBlanks.afterOperand = true := (Bool.and_eq_true_iff.mp meets).2
        simp only [Cursor.weight, operand, List.drop_zero]
        exact Nat.lt_succ_self _
      · cases h
    · split at h
      · rename_i token n read_ok
        exact weight_take (by simp [front]) (read_pos front read_ok) h
      · cases h

end Formula.Lexer
