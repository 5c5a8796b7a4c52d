import Formula.Function

/-!
# Functions over typed parameters

A definition lists the kinds of its parameters and has a body over values of those kinds. Its
function converts the numbers it is called with, and refuses a call whose number of arguments is not
that of the parameters.
-/

namespace Formula.Function

/-- The kind of a parameter. -/
inductive Parameter where
  | real
  | whole
  | truth
deriving Repr, DecidableEq

/-- The values of a kind. -/
abbrev Parameter.Carrier : Parameter → Type
  | .real => Float
  | .whole => Int64
  | .truth => Bool

/-- A number as a value of a kind: a whole number is cut toward zero into the range of 64 bits, and
is zero for an undefined value; a truth is whether the number is not zero. -/
def Parameter.convert : (kind : Parameter) → Float → kind.Carrier
  | .real, x => x
  | .whole, x => x.toInt64
  | .truth, x => x != 0.0

/-- What a definition computes: one argument after the other, and then a number or a failure. -/
abbrev Body : List Parameter → Type
  | [] => Except String Float
  | kind :: kinds => kind.Carrier → Body kinds

/-- The body applied to a list of numbers, `none` unless there are as many as parameters. -/
def Body.call? : (kinds : List Parameter) → Body kinds → List Float → Option (Except String Float)
  | [], result, [] => some result
  | kind :: kinds, body, x :: xs => call? kinds (body (kind.convert x)) xs
  | [], _, _ :: _ => none
  | _ :: _, _, [] => none

/-- A function given by a body over typed parameters. -/
structure Definition where
  name : String
  parameters : List Parameter
  body : Body parameters
  deterministic : Bool

/-- The value of a call. -/
def Definition.call (d : Definition) (arguments : List Float) : Except String Float :=
  (d.body.call? d.parameters arguments).getD
    (.error s!"Expected {d.parameters.length} arguments for {d.name}, but got {arguments.length}")

variable {σ : Type}

/-- The function of a definition. -/
def ofDefinition (d : Definition) : Function σ where
  name := d.name
  arity := d.parameters.length
  deterministic := d.deterministic
  rule := Rule.ofFunction d.call

end Formula.Function
