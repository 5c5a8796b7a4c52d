import Formula.Operands
import Formula.Token

/-!
# Folding constants

Folding computes ahead what does not depend on variables: an operator, or a call of a deterministic
function, all of whose operands are numbers, becomes the number it computes. The last token of an
operand that is complete stands on top of what was folded so far, so if the `n` topmost tokens are
numbers, they are the `n` operands.

A failing rule fails the folding. A list of tokens that is not in postfix order is folded all the
same, and tokens that lack operands are kept.
-/

namespace Formula

variable {σ : Type}

/-- The number of operands and the rule of a token that may be computed ahead. -/
def Token.foldable? : Token σ → Option (Nat × Rule σ)
  | operator o => some (o.arity, o.rule)
  | function f => if f.deterministic then some (f.arity, f.rule) else none
  | _ => none

namespace Folding

/-- The `n` topmost tokens as numbers, if they are, and the tokens below. -/
def constants? (n : Nat) (folded : List (Token σ)) : Option (List Float × List (Token σ)) := do
  let (top, below) ← operands? n folded
  let values ← top.mapM Token.value?
  return (values, below)

/-- Adds a token to what was folded so far, the latest first, or the number that it computes. -/
def step (folded : List (Token σ)) (token : Token σ) : Effect σ Error (List (Token σ)) :=
  match token.foldable? with
  | none => return token :: folded
  | some (arity, rule) =>
    match constants? arity folded with
    | none => return token :: folded
    | some (values, below) => return .number (← rule.apply values) :: below

end Folding

/-- **The tokens with all constant parts computed.** -/
def fold (tokens : List (Token σ)) : Effect σ Error (List (Token σ)) :=
  List.reverse <$> tokens.foldlM Folding.step []

end Formula
