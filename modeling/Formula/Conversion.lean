import Formula.Lexer.Reading

/-!
# From infix to postfix

The tokens of a formula pass through a yard. Operands go straight to the output. Operators and
functions wait until what they apply to is complete: an operator is released by a later one that
does not bind tighter, a function by the end of its brackets, and a closing bracket releases all
that waits above its opening one. An operator of one operand never releases one of two, since its
own operand is still to come.

Brackets and separators are checked here and nowhere else, as they are met: an error in the brackets
is reported before a lexical error that comes later in the text.
-/

namespace Formula

variable {σ : Type}

/-- What waits in the yard. -/
inductive Pending (σ : Type) where
  | operator (operator : Operator σ)
  | function (function : Function σ)
  | bracket

namespace Pending

/-- The token that a waiting entry came from. -/
def token : Pending σ → Token σ
  | operator o => .operator o
  | function f => .function f
  | bracket => .opening

/-- An opening bracket waits for its partner. -/
def isBracket : Pending σ → Bool
  | bracket => true
  | operator _ | function _ => false

/-- Whether a waiting entry is released by an operator that comes next: an operator is, unless the
next one binds tighter, or binds alike and associates to the right, or stands before its operand
while the waiting one stands between two. -/
def yieldsTo (next : Operator σ) : Pending σ → Bool
  | operator waiting =>
    !(next.isUnary && !waiting.isUnary) &&
      ((next.leftAssociative && next.precedence ≤ waiting.precedence) ||
        next.precedence < waiting.precedence)
  | function _ | bracket => false

end Pending

/-- The state of a conversion: what is put out and what waits, the latest first. -/
structure Yard (σ : Type) where
  output : List (Token σ)
  pending : List (Pending σ)

namespace Yard

/-- The yard before the first token. -/
def empty : Yard σ := ⟨[], []⟩

/-- Puts a token out. -/
def emit (yard : Yard σ) (token : Token σ) : Yard σ :=
  { yard with output := token :: yard.output }

/-- Lets an entry wait. -/
def hold (yard : Yard σ) (entry : Pending σ) : Yard σ :=
  { yard with pending := entry :: yard.pending }

/-- Puts out the latest entries for as long as they meet a condition. -/
def release (yard : Yard σ) (condition : Pending σ → Bool) : Yard σ where
  output := ((yard.pending.takeWhile condition).map Pending.token).reverse ++ yard.output
  pending := yard.pending.dropWhile condition

/-- Puts out all that waits above the last opening bracket. -/
def releaseGroup (yard : Yard σ) : Yard σ := yard.release fun entry => !entry.isBracket

/-- Puts out a function whose brackets have just been closed. -/
def releaseCall (yard : Yard σ) : Yard σ :=
  match yard.pending with
  | .function f :: rest => ⟨.function f :: yard.output, rest⟩
  | _ => yard

/-- Takes in the next token. -/
def step (yard : Yard σ) : Token σ → Except Error (Yard σ)
  | .number x => .ok (yard.emit (.number x))
  | .var name slot => .ok (yard.emit (.var name slot))
  | .function f => .ok (yard.hold (.function f))
  | .opening => .ok (yard.hold .bracket)
  | .operator o => .ok ((yard.release (Pending.yieldsTo o)).hold (.operator o))
  | .separator =>
    let group := yard.releaseGroup
    if group.pending.isEmpty then .error .misplacedSeparator else .ok group
  | .closing =>
    let group := yard.releaseGroup
    match group.pending with
    | [] => .error .mismatchedBrackets
    | _ :: rest => .ok (releaseCall { group with pending := rest })

/-- Takes in tokens in order, up to the first that is refused. -/
def takeIn (yard : Yard σ) (tokens : List (Token σ)) : Except Error (Yard σ) :=
  tokens.foldlM step yard

/-- The output after the last token, in order, unless a bracket still waits. -/
def finish (yard : Yard σ) : Except Error (List (Token σ)) :=
  if yard.pending.any Pending.isBracket then .error .mismatchedBrackets
  else .ok (yard.releaseGroup).output.reverse

/-- The tokens that are taken in before the conversion stops, the one it stops at among them. -/
def taken (yard : Yard σ) : List (Token σ) → List (Token σ)
  | [] => []
  | token :: rest =>
    token ::
      match yard.step token with
      | .ok next => next.taken rest
      | .error _ => []

end Yard

/-- The postfix order of a list of infix tokens. -/
def toPostfix (tokens : List (Token σ)) : Except Error (List (Token σ)) := do
  let yard ← Yard.empty.takeIn tokens
  yard.finish

/-- **The postfix order of a reading.** The error of a reading counts once the tokens before it have
been taken in. -/
def Reading.toPostfix (reading : Reading σ) : Except Error (List (Token σ)) := do
  let yard ← Yard.empty.takeIn reading.tokens
  match reading.error? with
  | some error => .error error
  | none => yard.finish

end Formula
