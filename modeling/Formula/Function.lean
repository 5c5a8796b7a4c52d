import Formula.Name
import Formula.Rule

/-!
# Functions

A function has a name, a fixed number of arguments and a rule. One that is not deterministic is
called anew at every evaluation; its calls are never computed ahead.
-/

namespace Formula

/-- A named function with a fixed number of arguments. -/
structure Function (σ : Type) where
  name : String
  arity : Nat
  deterministic : Bool
  rule : Rule σ

variable {σ : Type}

/-- Functions are compared by all but their rules. -/
instance : BEq (Function σ) where
  beq f g := f.name == g.name && f.arity == g.arity && f.deterministic == g.deterministic

end Formula
