import Formula.Function.Builtin
import Formula.Operator.Builtin

/-!
# Tables of names

A table says which names are variables, which functions a name calls, and which operators there are
besides the built-in ones. A declared function hides a built-in function of its name, and of two
declarations of one name or symbol the later one counts.

The variables are a set: in which order they are gone through is not determined by how they were
declared. Where it matters the order is left open, as an `Enumeration`.
-/

namespace Formula

/-- The declared names, the latest first. -/
structure Symbols (σ : Type) where
  vars : List String
  functions : List (Function σ)
  operators : List (Operator σ)

/-- **An order in which sets of names are gone through.** Nothing is known of it but that each name
comes once. -/
structure Enumeration where
  /-- The names among those that were entered, in this order. -/
  list : List String → List String
  /-- No name is left out, and none comes again. -/
  perm : ∀ names, (list names).Perm names.eraseDups

/-- Names in ascending order, each one once. -/
def sortNames (names : List String) : List String :=
  names.eraseDups.mergeSort fun a b => decide (a ≤ b)

/-- Names can be gone through in ascending order. -/
def Enumeration.ascending : Enumeration := ⟨sortNames, fun _ => List.mergeSort_perm _ _⟩

namespace Symbols

variable {σ : Type}

/-- The table without declarations. -/
def empty : Symbols σ := ⟨[], [], []⟩

/-- The table with one more variable. -/
def declareVariable (symbols : Symbols σ) (name : String) : Symbols σ :=
  { symbols with vars := name :: symbols.vars }

/-- The table with one more function, in place of an earlier one of its name. -/
def declareFunction (symbols : Symbols σ) (f : Function σ) : Symbols σ :=
  { symbols with functions := f :: symbols.functions }

/-- The table with one more operator, in place of an earlier one of its symbol. -/
def declareOperator (symbols : Symbols σ) (o : Operator σ) : Symbols σ :=
  { symbols with operators := o :: symbols.operators }

/-- Whether a variable of this name is declared. -/
def isVariable (symbols : Symbols σ) (name : String) : Bool := symbols.vars.contains name

/-- The function that a name calls. -/
def function? (symbols : Symbols σ) (name : String) : Option (Function σ) :=
  (symbols.functions.find? fun f => f.name == name) <|> Function.builtin? name

/-- The declared operator of a symbol. -/
def declaredOperator? (symbols : Symbols σ) (symbol : String) : Option (Operator σ) :=
  symbols.operators.find? fun o => o.symbol == symbol

/-- The operator that a symbol stands for where an operand is due, or where none is. A built-in
symbol of one character falls back on its other number of operands. -/
def operator? (symbols : Symbols σ) (operandDue : Bool) (symbol : String) : Option (Operator σ) :=
  match symbols.declaredOperator? symbol with
  | some o => some o
  | none =>
    match symbol.toList with
    | [c] =>
      let arity := if operandDue then 1 else 2
      Operator.builtin? c arity <|> Operator.builtin? c (3 - arity)
    | _ => none

/-- The length of the longest symbol of an operator, built-in ones among them. -/
def longestSymbol (symbols : Symbols σ) : Nat :=
  symbols.operators.foldr (fun o n => max o.symbol.length n) 1

/-- No operator has a longer symbol. -/
theorem operator?_eq_none {symbols : Symbols σ} {symbol : String}
    (long : symbols.longestSymbol < symbol.length) (operandDue : Bool) :
    symbols.operator? operandDue symbol = none := by
  have declared : ∀ (operators : List (Operator σ)),
      operators.foldr (fun o n => max o.symbol.length n) 1 < symbol.length →
        1 < symbol.length ∧ operators.find? (fun o => o.symbol == symbol) = none := by
    intro operators bound
    induction operators with
    | nil => exact ⟨bound, rfl⟩
    | cons o rest ih =>
      simp only [List.foldr_cons] at bound
      obtain ⟨several, none_later⟩ := ih (by omega)
      have other : ¬ o.symbol = symbol := fun same => by rw [same] at bound; omega
      exact ⟨several, by simpa [other] using none_later⟩
  obtain ⟨several, none_declared⟩ := declared symbols.operators long
  unfold operator? declaredOperator?
  rw [none_declared]
  split
  · contradiction
  · split
    · rename_i single
      rw [← String.length_toList, single] at several
      exact absurd several (Nat.lt_irrefl 1)
    · rfl

/-- The declared variables in ascending order. -/
def variableNames (symbols : Symbols σ) : List String := sortNames symbols.vars

/-- The names of the declared functions in ascending order. -/
def functionNames (symbols : Symbols σ) : List String :=
  sortNames (symbols.functions.map Function.name)

end Formula.Symbols
