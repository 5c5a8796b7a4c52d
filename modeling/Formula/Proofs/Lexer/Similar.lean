import Formula.Proofs.Conversion.Order
import Formula.Proofs.Lexer.Spelling

/-!
# The kinds of brackets

There are three kinds of brackets, and they are one to the formula. Texts that differ in the kinds of
their brackets only are similar, character by character (`Lexer.Similar`). No bracket is part of a
blank, a literal, a name or a symbol, so that **similar texts have the same runs** of such characters
at the front (`takeWhile_similar`), and the same literal (`readLiteral_similar`).
-/

namespace Formula.Lexer

/-- **The same character, or two brackets** that both open or both close. -/
def Similar (c d : Char) : Prop :=
  c = d ∨ isOpening c = true ∧ isOpening d = true ∨ isClosing c = true ∧ isClosing d = true

instance (c d : Char) : Decidable (Similar c d) := inferInstanceAs (Decidable (_ ∨ _))

/-- The brackets of all kinds. -/
def brackets : List Char := ['(', '{', '[', ')', '}', ']']

/-! ## Characters -/

theorem mem_brackets_of_isOpening {c : Char} (h : isOpening c = true) : c ∈ brackets := by
  simp only [isOpening, Bool.or_eq_true, beq_iff_eq] at h
  rcases h with (rfl | rfl) | rfl <;> decide

theorem mem_brackets_of_isClosing {c : Char} (h : isClosing c = true) : c ∈ brackets := by
  simp only [isClosing, Bool.or_eq_true, beq_iff_eq] at h
  rcases h with (rfl | rfl) | rfl <;> decide

/-- A condition that none of the brackets meets, one by one. -/
theorem spares_brackets {condition : Char → Bool}
    (none : (brackets.all fun c => !condition c) = true) :
    ∀ c ∈ brackets, condition c = false := by
  simpa using none

theorem isBlank_bracket : ∀ c ∈ brackets, Unicode.isBlank c = false :=
  spares_brackets (by decide)

theorem isNumeral_bracket : ∀ c ∈ brackets, isNumeral c = false :=
  spares_brackets (by decide)

theorem isDigit_bracket : ∀ c ∈ brackets, c.isDigit = false :=
  spares_brackets (by decide)

theorem isPart_bracket : ∀ c ∈ brackets, Name.isPart c = false :=
  spares_brackets (by decide +kernel)

theorem isSymbolCharacter_bracket : ∀ c ∈ brackets, Operator.isSymbolCharacter c = false :=
  spares_brackets (by decide)

namespace Similar

variable {c d : Char}

theorem eq_or_mem (similar : Similar c d) : c = d ∨ c ∈ brackets ∧ d ∈ brackets := by
  rcases similar with same | ⟨first, second⟩ | ⟨first, second⟩
  · exact .inl same
  · exact .inr ⟨mem_brackets_of_isOpening first, mem_brackets_of_isOpening second⟩
  · exact .inr ⟨mem_brackets_of_isClosing first, mem_brackets_of_isClosing second⟩

/-- Similar characters start the same. -/
theorem lead (similar : Similar c d) : Lead.of c = Lead.of d := by
  rcases similar with rfl | ⟨first, second⟩ | ⟨first, second⟩
  · rfl
  · rw [(lead_of_isOpening first).2, (lead_of_isOpening second).2]
  · rw [(lead_of_isClosing first).2, (lead_of_isClosing second).2]

theorem isOpening_eq (similar : Similar c d) : isOpening c = isOpening d := by
  have apart : ∀ {c : Char}, isClosing c = true → isOpening c = false := by
    intro c closes
    simp only [isClosing, Bool.or_eq_true, beq_iff_eq] at closes
    rcases closes with (rfl | rfl) | rfl <;> decide
  rcases similar with rfl | ⟨first, second⟩ | ⟨first, second⟩
  · rfl
  · rw [first, second]
  · rw [apart first, apart second]

end Similar

/-! ## Runs -/

section Runs

variable {cs ds : List Char}

/-- Characters that are similar and no brackets are the same. -/
theorem eq_of_similar (similar : List.Forall₂ Similar cs ds) (plain : ∀ c ∈ cs, c ∉ brackets) :
    cs = ds := by
  induction similar with
  | nil => rfl
  | cons here _ ih =>
    rcases here.eq_or_mem with rfl | ⟨bracket, -⟩
    · rw [ih fun c mem => plain c (List.mem_cons_of_mem _ mem)]
    · exact absurd bracket (plain _ List.mem_cons_self)

theorem take_similar (similar : List.Forall₂ Similar cs ds) {n : Nat}
    (plain : ∀ c ∈ cs.take n, c ∉ brackets) : cs.take n = ds.take n :=
  eq_of_similar (List.forall₂_take n similar) plain

variable {condition : Char → Bool} (spares : ∀ c ∈ brackets, condition c = false)
include spares

/-- No bracket is in a run. -/
theorem plain_run : ∀ c ∈ cs.takeWhile condition, c ∉ brackets := by
  intro c mem bracket
  have inside := List.all_eq_true.mp List.all_takeWhile c mem
  rw [spares c bracket] at inside
  cases inside

theorem plain_take {n : Nat} (within : n ≤ (cs.takeWhile condition).length) :
    ∀ c ∈ cs.take n, c ∉ brackets :=
  fun c mem => plain_run spares c (take_subset_run within mem)

theorem cut_similar (similar : List.Forall₂ Similar cs ds) :
    List.Forall₂ Similar (cs.takeWhile condition) (ds.takeWhile condition) ∧
      List.Forall₂ Similar (cs.dropWhile condition) (ds.dropWhile condition) := by
  refine forall₂_cut (fun c d here => ?_) similar
  rcases here.eq_or_mem with rfl | ⟨first, second⟩
  · rfl
  · rw [spares c first, spares d second]

theorem takeWhile_similar (similar : List.Forall₂ Similar cs ds) :
    cs.takeWhile condition = ds.takeWhile condition :=
  eq_of_similar (cut_similar spares similar).1 (plain_run spares)

end Runs

/-- A bracket opens next in both, or in none. -/
theorem opensNext_similar {cs ds : List Char} (similar : List.Forall₂ Similar cs ds) :
    opensNext cs = opensNext ds := by
  have rest := (cut_similar isBlank_bracket similar).2
  unfold opensNext
  generalize cs.dropWhile Unicode.isBlank = first at rest ⊢
  generalize ds.dropWhile Unicode.isBlank = second at rest ⊢
  cases rest with
  | nil => rfl
  | cons here _ => exact here.isOpening_eq

/-! ## Literals -/

section Literals

variable {cs ds : List Char}

theorem signLength_similar (similar : List.Forall₂ Similar cs ds) :
    signLength cs = signLength ds := by
  have no_sign : ∀ c ∈ brackets, ¬ (c = '+' ∨ c = '-') := by simp [brackets]
  cases similar with
  | nil => rfl
  | @cons c d _ _ here _ =>
    rw [signLength_cons, signLength_cons]
    rcases here.eq_or_mem with rfl | ⟨first, second⟩
    · rfl
    · rw [if_neg (no_sign c first), if_neg (no_sign d second)]

theorem exponentLength_similar (similar : List.Forall₂ Similar cs ds) :
    exponentLength cs = exponentLength ds := by
  have no_mark : ∀ c ∈ brackets, ¬ (c = 'e' ∨ c = 'E') := by simp [brackets]
  cases similar with
  | nil => rfl
  | @cons c d _ _ here rest =>
    rcases here.eq_or_mem with rfl | ⟨first, second⟩
    · simp only [exponentLength, signLength_similar rest,
        takeWhile_similar isDigit_bracket (List.forall₂_drop _ rest)]
    · rw [exponentLength, exponentLength, if_neg (no_mark c first), if_neg (no_mark d second)]

/-- No bracket is in an exponent. -/
theorem plain_of_exponent {exponent : List Char} (shape : Exponent exponent) :
    ∀ c ∈ exponent, c ∉ brackets := by
  intro c mem
  cases shape with
  | none => cases mem
  | some marked signed visible numeric =>
    rcases List.mem_cons.mp mem with rfl | later
    · rcases marked with rfl | rfl <;> decide
    · rcases List.mem_append.mp later with sign | digit
      · rcases signed with rfl | rfl | rfl
        · cases sign
        · obtain rfl := List.mem_singleton.mp sign
          decide
        · obtain rfl := List.mem_singleton.mp sign
          decide
      · intro bracket
        have digit := numeric c digit
        rw [isDigit_bracket c bracket] at digit
        cases digit

theorem plain_exponent (cs : List Char) : ∀ c ∈ cs.take (exponentLength cs), c ∉ brackets :=
  plain_of_exponent (exponent_take cs)

theorem literalLength_similar (similar : List.Forall₂ Similar cs ds) :
    literalLength cs = literalLength ds := by
  have mantissas : mantissaLength cs = mantissaLength ds :=
    congrArg List.length (takeWhile_similar isNumeral_bracket similar)
  rw [literalLength, literalLength, mantissas,
    exponentLength_similar (List.forall₂_drop _ similar)]

theorem excessLength_similar (similar : List.Forall₂ Similar cs ds) :
    excessLength cs = excessLength ds := by
  have mantissas : mantissaLength cs = mantissaLength ds :=
    congrArg List.length (takeWhile_similar isNumeral_bracket similar)
  rw [excessLength, excessLength, literalLength_similar similar, mantissas,
    exponentLength_similar (List.forall₂_drop _ similar),
    exponentLength_similar (List.forall₂_drop _ similar)]

/-- No bracket is in a literal. -/
theorem plain_literal (cs : List Char) : ∀ c ∈ cs.take (literalLength cs), c ∉ brackets := by
  intro c mem
  rw [literalLength, List.take_add] at mem
  rcases List.mem_append.mp mem with mantissa | exponent
  · exact plain_take isNumeral_bracket (Nat.le_refl _) c mantissa
  · exact plain_exponent _ c exponent

theorem plain_excess (cs : List Char) :
    ∀ c ∈ cs.take (literalLength cs + excessLength cs), c ∉ brackets := by
  intro c mem
  rw [List.take_add] at mem
  rcases List.mem_append.mp mem with literal | excess
  · exact plain_literal cs c literal
  · unfold excessLength at excess
    split at excess
    · cases excess
    · exact plain_exponent _ c excess

/-- **Similar texts start with the same literal.** -/
theorem readLiteral_similar (position : Nat) (similar : List.Forall₂ Similar cs ds) :
    readLiteral position cs = readLiteral position ds := by
  simp only [readLiteral, ← literalLength_similar similar, ← excessLength_similar similar,
    ← take_similar similar (plain_literal cs), ← take_similar similar (plain_excess cs)]

end Literals

end Formula.Lexer
