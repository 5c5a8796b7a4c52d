import Formula.Arithmetic.Elementary
import Formula.Function.Typed

/-!
# Ready-made rules

A catalogue of rules to declare functions and operators with. Rules over all arguments take any
number of them; for the others a missing argument is zero, and surplus ones are ignored. A counting
rule answers how often it has been called: it has a counter of its own in the hidden state, which is
shared by all that was made with the rule.
-/

namespace Formula.Catalogue

open Arithmetic

/-- How often each counting rule has been called. -/
abbrev Counters := Array Nat

/-- A rule of the catalogue. -/
inductive Entry where
  /-- The sum of all arguments. -/
  | sum
  /-- The product of all arguments. -/
  | product
  /-- The sum of all arguments by their number. -/
  | mean
  /-- The arguments as the digits of a number in base ten, the first one leading. -/
  | digits
  /-- The number of arguments. -/
  | count
  /-- The first argument. -/
  | first
  /-- The last argument. -/
  | last
  /-- The first argument with its sign changed. -/
  | negate
  /-- The first argument less the second. -/
  | subtract
  /-- Whether the first argument is above the second. -/
  | above
  /-- Whether the first argument is not below the second. -/
  | atLeast
  /-- Whether the first argument is below the second. -/
  | below
  /-- Whether the first two arguments are equal. -/
  | equal
  /-- The product of the whole numbers from one up to the first argument. -/
  | factorial
  /-- Always the same value. -/
  | constant (value : Float)
  /-- Always the same failure. -/
  | failure (reason : String)
  /-- The number of calls so far, this one included. -/
  | counter (cell : Nat)

/-- The sum of a list, from the left. -/
def sumOf (xs : List Float) : Float := xs.foldl (· + ·) 0.0

/-- The factorial of a whole number up to one hundred. -/
def factorialOf (x : Float) : Except String Float :=
  if x < 0.0 || x - truncate x != 0.0 || x > 100.0 then
    .error "The operand of '!' has to be a non-negative integer"
  else .ok ((List.range x.toUInt64.toNat).foldl (fun p i => p * Float.ofNat (i + 1)) 1.0)

/-- The answer of a rule without memory. -/
def plainRule {σ : Type} (f : List Float → Float) : Rule σ :=
  Rule.ofFunction fun xs => .ok (f xs)

/-- The answer of a comparison of the first two arguments. -/
def compareRule {σ : Type} (f : Float → Float → Bool) : Rule σ :=
  plainRule fun xs => truth (f (xs.getD 0 0.0) (xs.getD 1 0.0))

/-- Counts a call. -/
def countCall (cell : Nat) : Rule Counters := fun _ => do
  let calls := (← get).getD cell 0 + 1
  modify fun counters => counters.setIfInBounds cell calls
  return Float.ofNat calls

/-- The rule of an entry. -/
def Entry.rule : Entry → Rule Counters
  | sum => plainRule sumOf
  | product => plainRule fun xs => xs.foldl (· * ·) 1.0
  | mean => plainRule fun xs => sumOf xs / Float.ofNat xs.length
  | digits => plainRule fun xs => xs.foldl (fun s x => s * 10.0 + x) 0.0
  | count => plainRule fun xs => Float.ofNat xs.length
  | first => plainRule fun xs => xs.getD 0 0.0
  | last => plainRule fun xs => xs.getLastD 0.0
  | negate => plainRule fun xs => -xs.getD 0 0.0
  | subtract => plainRule fun xs => xs.getD 0 0.0 - xs.getD 1 0.0
  | above => compareRule fun x y => x > y
  | atLeast => compareRule fun x y => x ≥ y
  | below => compareRule fun x y => x < y
  | equal => compareRule fun x y => x == y
  | factorial => Rule.ofFunction fun xs => factorialOf (xs.getD 0 0.0)
  | constant value => plainRule fun _ => value
  | failure reason => Rule.ofFunction fun _ => .error reason
  | counter cell => countCall cell

/-! ## Typed functions -/

/-- Functions over typed parameters. -/
def definitions : List Function.Definition :=
  [⟨"hypot", [.real, .real], fun a b => .ok (a * a + b * b).sqrt, true⟩,
   ⟨"repeat", [.real, .whole, .truth], fun value times negate =>
     let total := value * times.toFloat
     .ok (if negate then -total else total), true⟩,
   ⟨"trunc", [.whole], fun value => .ok value.toFloat, true⟩,
   ⟨"choose", [.truth, .real, .real], fun condition yes no => .ok (if condition then yes else no),
     true⟩,
   ⟨"answer", [], .ok 42.0, true⟩,
   ⟨"coin", [], .ok 1.0, false⟩,
   ⟨"noise", [.real], fun a => .ok a, false⟩]

/-- The typed function of a name. -/
def definition? (name : String) : Option Function.Definition :=
  definitions.find? fun d => d.name == name

end Formula.Catalogue
