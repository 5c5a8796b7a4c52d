import Formula.Text.Quoted
import Formula.Token

/-!
# Tokens in full

The structure of a token with all its fields but the rule, for a reader who is looking for the
reason why two tokens differ.
-/

namespace Formula

/-- A record: its name and its fields in braces. -/
def Text.record (name : String) (fields : List (String × String)) : String :=
  name ++ " \x7b " ++ ", ".intercalate (fields.map fun (field, value) => field ++ ": " ++ value) ++
    " \x7d"

variable {σ : Type}

/-- An operator in full. -/
def Operator.anatomy (o : Operator σ) : String :=
  Text.record "Operator"
    [("symbol", Text.quoted o.symbol), ("arity", toString o.arity),
     ("left_associative", toString o.leftAssociative), ("precedence", toString o.precedence)]

/-- A function in full. -/
def Function.anatomy (f : Function σ) : String :=
  Text.record "Function"
    [("name", Text.quoted f.name), ("arity", toString f.arity),
     ("deterministic", toString f.deterministic)]

/-- A token in full. -/
def Token.anatomy : Token σ → String
  | number x => "Number(" ++ Decimal.plain x ++ ")"
  | var name slot =>
    let fields := [("name", Text.quoted name), ("slot", toString slot)]
    "Variable(" ++ Text.record "Variable" fields ++ ")"
  | operator o => "Operator(" ++ o.anatomy ++ ")"
  | function f => "Function(" ++ f.anatomy ++ ")"
  | opening => "ParenOpen"
  | closing => "ParenClose"
  | separator => "Separator"

end Formula
