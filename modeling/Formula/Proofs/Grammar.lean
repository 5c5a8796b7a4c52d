import Formula.Token

/-!
# The grammar of infix formulas

An expression is made of operands with an operator between any two neighbours. An operand is a
primary, with operators before and after it: a number, a variable, an expression in brackets, or a
call, whose arguments are expressions with separators between them.

**A sentence** is an expression in which every call has as many arguments as its function takes. The
grammar says nothing of precedences: it does not tell which operands an operator gets.
-/

namespace Formula

variable {σ : Type}

namespace Operator

/-- Stands before its operand. -/
def precedesOperand (o : Operator σ) : Bool := o.isUnary && !o.leftAssociative

/-- Stands between two operands. -/
def standsBetween (o : Operator σ) : Bool := o.arity == 2

section Kinds

variable {o : Operator σ}

theorem arity_of_isUnary (h : o.isUnary = true) : o.arity = 1 := by
  simpa [isUnary] using h

theorem arity_of_standsBetween (h : o.standsBetween = true) : o.arity = 2 := by
  simpa [standsBetween] using h

theorem isUnary_of_standsBetween (h : o.standsBetween = true) : o.isUnary = false := by
  simp [isUnary, arity_of_standsBetween h]

theorem standsBetween_of_isUnary (h : o.isUnary = true) : o.standsBetween = false := by
  simp [standsBetween, arity_of_isUnary h]

theorem isUnary_of_precedesOperand (h : o.precedesOperand = true) : o.isUnary = true :=
  (Bool.and_eq_true_iff.mp h).1

theorem isUnary_of_followsOperand (h : o.followsOperand = true) : o.isUnary = true :=
  (Bool.and_eq_true_iff.mp h).1

theorem leftAssociative_of_precedesOperand (h : o.precedesOperand = true) :
    o.leftAssociative = false := by
  simpa using (Bool.and_eq_true_iff.mp h).2

theorem followsOperand_of_precedesOperand (h : o.precedesOperand = true) :
    o.followsOperand = false := by
  simp [followsOperand, leftAssociative_of_precedesOperand h]

end Kinds

end Operator

/-- What a phrase may be. -/
inductive Category where
  | expression
  | operand
  | primary
  | arguments (count : Nat)

/-- **The phrases of each category**, under a rule that says which numbers of arguments a function
takes. -/
inductive Phrase (takes : Function σ → Nat → Prop) : Category → List (Token σ) → Prop where
  | single {tokens : List (Token σ)} (operand : Phrase takes .operand tokens) :
      Phrase takes .expression tokens
  | between {left right : List (Token σ)} {o : Operator σ} (first : Phrase takes .operand left)
      (kind : o.standsBetween = true) (rest : Phrase takes .expression right) :
      Phrase takes .expression (left ++ .operator o :: right)
  | plain {tokens : List (Token σ)} (primary : Phrase takes .primary tokens) :
      Phrase takes .operand tokens
  | before {o : Operator σ} {tokens : List (Token σ)} (kind : o.precedesOperand = true)
      (operand : Phrase takes .operand tokens) : Phrase takes .operand (.operator o :: tokens)
  | after {o : Operator σ} {tokens : List (Token σ)} (operand : Phrase takes .operand tokens)
      (kind : o.followsOperand = true) : Phrase takes .operand (tokens ++ [.operator o])
  | number (x : Float) : Phrase takes .primary [.number x]
  | var (name : String) (slot : Nat) : Phrase takes .primary [.var name slot]
  | group {tokens : List (Token σ)} (content : Phrase takes .expression tokens) :
      Phrase takes .primary (.opening :: (tokens ++ [.closing]))
  | call {f : Function σ} {n : Nat} {tokens : List (Token σ)} (number : takes f n)
      (list : Phrase takes (.arguments n) tokens) :
      Phrase takes .primary (.function f :: .opening :: (tokens ++ [.closing]))
  | none : Phrase takes (.arguments 0) []
  | one {tokens : List (Token σ)} (argument : Phrase takes .expression tokens) :
      Phrase takes (.arguments 1) tokens
  | more {first rest : List (Token σ)} {n : Nat} (argument : Phrase takes .expression first)
      (later : Phrase takes (.arguments (n + 1)) rest) :
      Phrase takes (.arguments (n + 2)) (first ++ .separator :: rest)

/-- As many arguments as the function takes. -/
def Exactly (f : Function σ) (n : Nat) : Prop := n = f.arity

/-- **A sentence of the grammar**: every call has as many arguments as its function takes. -/
def Sentence (tokens : List (Token σ)) : Prop := Phrase Exactly .expression tokens

namespace Phrase

variable {takes : Function σ → Nat → Prop} {tokens : List (Token σ)}

/-- An operator before an expression stands before its first operand. -/
theorem expression_before {o : Operator σ} (kind : o.precedesOperand = true)
    (h : Phrase takes .expression tokens) : Phrase takes .expression (.operator o :: tokens) := by
  cases h with
  | single operand => exact .single (.before kind operand)
  | between first between rest => exact .between (.before kind first) between rest

/-- One argument is an expression. -/
theorem expression_of_arguments (h : Phrase takes (.arguments 1) tokens) :
    Phrase takes .expression tokens := by
  cases h with
  | one argument => exact argument

/-- An operator before a list of arguments stands before the first one. -/
theorem arguments_before {o : Operator σ} {n : Nat} (kind : o.precedesOperand = true)
    (h : Phrase takes (.arguments (n + 1)) tokens) :
    Phrase takes (.arguments (n + 1)) (.operator o :: tokens) := by
  cases h with
  | one argument => exact .one (argument.expression_before kind)
  | more argument later => exact .more (argument.expression_before kind) later

/-- An operand and an operator before a list of arguments extend the first one. -/
theorem arguments_between {left : List (Token σ)} {o : Operator σ} {n : Nat}
    (first : Phrase takes .operand left) (kind : o.standsBetween = true)
    (h : Phrase takes (.arguments (n + 1)) tokens) :
    Phrase takes (.arguments (n + 1)) (left ++ .operator o :: tokens) := by
  cases h with
  | one argument => exact .one (.between first kind argument)
  | @more argument rest n expression later =>
    have extended : Phrase takes .expression (left ++ .operator o :: argument) :=
      .between first kind expression
    have joined := Phrase.more extended later
    rwa [List.append_assoc, List.cons_append] at joined

/-- The last token of a phrase completes an operand, unless the phrase is a list of arguments. -/
theorem exists_last {category : Category} (h : Phrase takes category tokens)
    (proper : ∀ n, category ≠ .arguments n) :
    ∃ front last, tokens = front ++ [last] ∧ last.awaitsOperand = false := by
  induction h with
  | single _ ih => exact ih fun _ same => nomatch same
  | @between left right o _ _ _ _ rest =>
    obtain ⟨front, last, rfl, complete⟩ := rest fun _ same => nomatch same
    exact ⟨left ++ .operator o :: front, last, by simp, complete⟩
  | plain _ ih => exact ih fun _ same => nomatch same
  | @before o tokens _ _ ih =>
    obtain ⟨front, last, rfl, complete⟩ := ih fun _ same => nomatch same
    exact ⟨.operator o :: front, last, rfl, complete⟩
  | @after o tokens _ kind _ =>
    exact ⟨tokens, .operator o, rfl, by rw [Token.awaitsOperand, kind]; rfl⟩
  | number x => exact ⟨[], .number x, rfl, rfl⟩
  | var name slot => exact ⟨[], .var name slot, rfl, rfl⟩
  | @group tokens _ _ => exact ⟨.opening :: tokens, .closing, rfl, rfl⟩
  | @call f n tokens _ _ _ => exact ⟨.function f :: .opening :: tokens, .closing, rfl, rfl⟩
  | none => exact absurd rfl (proper 0)
  | one => exact absurd rfl (proper 1)
  | @more first rest n => exact absurd rfl (proper (n + 2))

end Phrase

end Formula
