import Formula.Error

/-!
# Rules

A rule is what an operator or a function computes: a list of numbers in, a number or the text of a
failure out. It may also read and change a hidden state, of any type `σ`: a rule that counts its
calls, or draws numbers, is a rule like any other. A rule made by `Rule.ofFunction` leaves the state
alone.
-/

namespace Formula

variable {σ ε α : Type}

/-- A computation over hidden state that may fail. The state survives a failure. -/
abbrev Effect (σ ε : Type) := ExceptT ε (StateM σ)

/-- A computation that ignores the hidden state. -/
def Effect.ofExcept (result : Except ε α) : Effect σ ε α := ExceptT.mk (pure result)

/-- The result of a computation from a given state, with the state it leaves. -/
def Effect.from (state : σ) (computation : Effect σ ε α) : Except ε α × σ :=
  Id.run (computation.run.run state)

/-- What an operator or a function computes from its arguments. -/
abbrev Rule (σ : Type) := List Float → Effect σ String Float

/-- The rule of a function of the arguments alone. -/
def Rule.ofFunction (f : List Float → Except String Float) : Rule σ :=
  fun arguments => Effect.ofExcept (f arguments)

/-- A rule at work in a program: its failure is the program's. -/
def Rule.apply (rule : Rule σ) (arguments : List Float) : Effect σ Error Float :=
  (rule arguments).adapt Error.arithmetic

end Formula
