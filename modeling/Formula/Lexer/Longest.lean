import Formula.Lexer.Lead
import Formula.Symbols
import Formula.Token

/-!
# The longest match

Names and symbols are not cut at the end of a run of their characters, but after the longest part of
the run that means something: `ab2` is the variable `ab` and the number two where `ab` is declared
and `ab2` is not. A function's name counts only where an opening bracket comes next; inside of a run
of name characters none does, so a function is named by the whole run.
-/

namespace Formula.Lexer

variable {σ : Type}

/-- The greatest of the lengths `1, …, n` that has an answer, with its answer. -/
def longest {α : Type} (answer : Nat → Option α) : Nat → Option (α × Nat)
  | 0 => none
  | n + 1 =>
    match answer (n + 1) with
    | some a => some (a, n + 1)
    | none => longest answer n

/-- Lengths that have no answer need not be tried. -/
theorem longest_min {α : Type} {answer : Nat → Option α} {bound n : Nat}
    (above : ∀ k, k ≤ n → bound < k → answer k = none) :
    longest answer (min n bound) = longest answer n := by
  induction n with
  | zero => rw [Nat.zero_min]
  | succ n ih =>
    by_cases within : n + 1 ≤ bound
    · rw [Nat.min_eq_left within]
    · have shorter := ih fun k le => above k (Nat.le_succ_of_le le)
      rw [Nat.min_eq_right (by omega)] at shorter ⊢
      rw [shorter, longest, above (n + 1) (Nat.le_refl _) (by omega)]

/-- Whether the next character that is not blank opens a bracket. -/
def opensNext (cs : List Char) : Bool :=
  match cs.dropWhile Unicode.isBlank with
  | [] => false
  | c :: _ => isOpening c

/-- What the first `n` characters name: a function if a bracket opens next, else a variable. -/
def named? (symbols : Symbols σ) (cs : List Char) (n : Nat) : Option (Token σ) :=
  let name := String.ofList (cs.take n)
  let called := if opensNext (cs.drop n) then symbols.function? name else none
  match called with
  | some f => some (.function f)
  | none => if symbols.isVariable name then some (.var name 0) else none

/-- How many name characters stand at the front. -/
def nameLength (cs : List Char) : Nat := (cs.takeWhile Name.isPart).length

/-- **Reads the name at the front**: the token of its longest part that is declared. -/
def readName (symbols : Symbols σ) (text : String) (position : Nat) (cs : List Char) :
    Except Error (Token σ × Nat) :=
  match longest (named? symbols cs) (nameLength cs) with
  | some found => .ok found
  | none => .error (.unknownName (String.ofList (cs.take (nameLength cs))) position text)

/-- How many operator characters stand at the front. -/
def symbolLength (cs : List Char) : Nat := (cs.takeWhile Operator.isSymbolCharacter).length

/-- **Reads the operator at the front**: that of the longest symbol there. Parts of the run that are
longer than every symbol are not looked up. -/
def readOperator (symbols : Symbols σ) (operandDue : Bool) (position : Nat) (cs : List Char) :
    Except Error (Operator σ × Nat) :=
  match longest (fun n => symbols.operator? operandDue (String.ofList (cs.take n)))
      (min (symbolLength cs) symbols.longestSymbol) with
  | some found => .ok found
  | none => .error (.unknownOperator (String.ofList (cs.take (symbolLength cs))) position)

/-- The bound on the parts that are looked up cuts off no operator. -/
theorem longest_symbol (symbols : Symbols σ) (operandDue : Bool) (cs : List Char) :
    longest (fun n => symbols.operator? operandDue (String.ofList (cs.take n)))
        (min (symbolLength cs) symbols.longestSymbol) =
      longest (fun n => symbols.operator? operandDue (String.ofList (cs.take n)))
        (symbolLength cs) := by
  refine longest_min fun n within long => Symbols.operator?_eq_none ?_ operandDue
  have run : symbolLength cs ≤ cs.length :=
    (List.takeWhile_sublist Operator.isSymbolCharacter).length_le
  rw [String.length_ofList, List.length_take]
  omega

end Formula.Lexer
