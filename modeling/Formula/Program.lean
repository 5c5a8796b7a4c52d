import Formula.Constant
import Formula.Function.Builtin
import Formula.Token

/-!
# Programs and their bindings

A program is a list of tokens in postfix order with one cell for each variable name, in the order in
which the names occur first. All occurrences of a name share the cell, whose place is the slot that
their tokens carry. A copy of a program has bindings of its own.

A variable that is named like a constant starts with its value; all others start without one.
-/

namespace Formula

/-- The value of a variable, if it has one. -/
structure Cell where
  name : String
  value : Option Float

/-- Names with values, in the order in which they are set. -/
abbrev Bindings := List (String × Float)

/-- Postfix tokens with the bindings of their variables. Names of the user's functions are reserved:
no variable can be set under them. -/
structure Program (σ : Type) where
  tokens : List (Token σ)
  cells : List Cell
  reserved : List String

variable {σ : Type}

/-- The names of the variables in a list of tokens, in the order of their first occurrences. -/
def Token.variableNames (tokens : List (Token σ)) : List String :=
  (tokens.filterMap variableName?).eraseDups

/-- Gives a variable the slot of its name. -/
def Token.link (names : List String) : Token σ → Token σ
  | var name _ => var name (names.idxOf name)
  | token => token

namespace Program

/-- **The program of a list of tokens**, whatever slots they carry. -/
def ofTokens (tokens : List (Token σ)) (reserved : List String) : Program σ :=
  let names := Token.variableNames tokens
  { tokens := tokens.map (Token.link names)
    cells := names.map fun name => ⟨name, Constant.value? name⟩
    reserved := reserved }

/-- The program built anew from its own tokens: bindings and reserved names are lost. -/
def rebuild (program : Program σ) : Program σ := ofTokens program.tokens []

/-- The names of the variables, in the order of their cells. -/
def names (program : Program σ) : List String := program.cells.map Cell.name

/-- Whether a variable of this name occurs. -/
def contains (program : Program σ) (name : String) : Bool := program.names.contains name

/-- Whether no variable can be set under this name. -/
def isReserved (program : Program σ) (name : String) : Bool :=
  program.reserved.contains name || Function.isBuiltin name

/-- The value in a slot. -/
def value? (program : Program σ) (slot : Nat) : Option Float :=
  program.cells[slot]? >>= Cell.value

/-- Sets the cell of a name. -/
def assign (program : Program σ) (name : String) (value : Float) : Program σ :=
  { program with
    cells := program.cells.map fun cell =>
      if cell.name == name then { cell with value := some value } else cell }

/-- **Sets a variable.** A name that does not occur is ignored, that of a function is refused. -/
def bind (program : Program σ) (name : String) (value : Float) : Except Error (Program σ) :=
  if program.isReserved name then .error (.nameCollision name) else .ok (program.assign name value)

/-- Sets variables one after the other up to the first that is refused. Those before it stay set. -/
def bindAll (program : Program σ) : Bindings → Program σ × Option Error
  | [] => (program, none)
  | (name, value) :: rest =>
    match program.bind name value with
    | .ok next => next.bindAll rest
    | .error error => (program, some error)

/-- The program as it is shown: its tokens in postfix order. -/
def text (program : Program σ) : String := Token.render program.tokens

end Formula.Program
