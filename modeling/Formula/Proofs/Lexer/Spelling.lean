import Formula.Proofs.Lexer.Tiling

/-!
# Spellings that stand alone

A lexeme is read as far as its characters go, so that one spelling may take in what was meant for
the next. **Where a blank follows, it does not**: no literal, name or symbol has a blank in it, and
what is read is all of the spelling and nothing more. What it is read as depends on the place, for a
symbol, and on whether a bracket comes next, for a name.
-/

namespace Formula

variable {σ : Type}

/-! ## Classes of characters -/

/-- What is in one of two classes that exclude each other is not in the other. -/
theorem eq_false_of_excludes {first second : Bool} (excludes : first = true → second = false)
    (h : second = true) : first = false := by
  apply Bool.eq_false_iff.mpr
  intro both
  rw [excludes both] at h
  cases h

namespace Unicode

/-- Whether no range of the one list meets a range of the other. -/
def apart (first second : List (Nat × Nat)) : Bool :=
  first.all fun range => second.all fun other => range.2.blt other.1 || other.2.blt range.1

theorem inRanges_eq_false_of_apart {first second : List (Nat × Nat)} (disjoint : apart first second = true)
    {n : Nat} (h : inRanges first n = true) : inRanges second n = false := by
  apply Bool.eq_false_iff.mpr
  intro both
  obtain ⟨range, mem, above, below⟩ := mem_of_inRanges h
  obtain ⟨other, mem', above', below'⟩ := mem_of_inRanges both
  have sides := List.all_eq_true.mp (List.all_eq_true.mp disjoint range mem) other mem'
  simp only [Bool.or_eq_true, Nat.blt_eq] at sides
  omega

/-- Digits are those of the first range of numeric characters. -/
theorem inRanges_of_isDigit {c : Char} (h : c.isDigit = true) :
    inRanges [(0x30, 0x39)] c.toNat = true := by
  simp only [Char.isDigit, Bool.and_eq_true, decide_eq_true_eq, ge_iff_le,
    UInt32.le_iff_toNat_le] at h
  simp only [inRanges, Bool.or_false]
  have low : ¬ c.toNat < 0x30 := Nat.not_lt.mpr h.1
  rw [if_neg low]
  exact decide_eq_true h.2

end Unicode

namespace Name

/-- No name has a blank in it. -/
theorem isPart_eq_false_of_isBlank {c : Char} (h : Unicode.isBlank c = true) : isPart c = false := by
  have letter : Unicode.isAlphabetic c = false := Unicode.inRanges_eq_false_of_apart (by decide +kernel) h
  have numeric : Unicode.isNumeric c = false := Unicode.inRanges_eq_false_of_apart (by decide +kernel) h
  have underscore : c ≠ '_' := by
    rintro rfl
    exact absurd h (by decide)
  simp [isPart, letter, numeric, underscore]

/-- A character that starts a name may go on with it. -/
theorem isPart_of_isStart {c : Char} (h : isStart c = true) : isPart c = true := by
  rcases Bool.or_eq_true_iff.mp h with letter | underscore
  · simp [isPart, letter]
  · simp [isPart, underscore]

/-- No digit starts a name. -/
theorem isStart_eq_false_of_isDigit {c : Char} (h : c.isDigit = true) : isStart c = false := by
  have letter : Unicode.isAlphabetic c = false :=
    Unicode.inRanges_eq_false_of_apart (by decide +kernel) (Unicode.inRanges_of_isDigit h)
  have underscore : c ≠ '_' := by
    rintro rfl
    exact absurd h (by decide)
  simp [isStart, letter, underscore]

end Name

namespace Lexer

/-- A point, a comma, a bracket or an operator character starts no name. -/
theorem isStart_eq_false_of_mark {c : Char} (mem : c ∈ ['.', ',', '(', '{', '[', ')', '}', ']'] ++
    Operator.symbolCharacters) : Name.isStart c = false := by
  have all : ((['.', ',', '(', '{', '[', ')', '}', ']'] ++ Operator.symbolCharacters).all
      fun c => !Name.isStart c) = true := by
    decide +kernel
  simpa using List.all_eq_true.mp all c mem

/-- What starts a name starts nothing else. -/
theorem lead_of_isStart {c : Char} (h : Name.isStart c = true) : Lead.of c = .name := by
  have marks : ∀ d ∈ ['.', ',', '(', '{', '[', ')', '}', ']'] ++ Operator.symbolCharacters,
      c ≠ d := by
    rintro d mem rfl
    exact absurd (h.symm.trans (isStart_eq_false_of_mark mem)) Bool.noConfusion
  have digit : c.isDigit = false := eq_false_of_excludes Name.isStart_eq_false_of_isDigit h
  have symbol : Operator.isSymbolCharacter c = false := by
    apply Bool.eq_false_iff.mpr
    intro symbol
    exact absurd rfl (marks c (List.mem_append_right _ (List.contains_iff_mem.mp symbol)))
  simp only [List.mem_append, List.mem_cons] at marks
  simp [Lead.of, isNumeral, isOpening, isClosing, digit, symbol, h, marks]

/-- An operator character starts an operator, and nothing else. -/
theorem lead_of_isSymbolCharacter {c : Char} (h : Operator.isSymbolCharacter c = true) :
    Unicode.isBlank c = false ∧ isNumeral c = false ∧ c ≠ 'e' ∧ c ≠ 'E' ∧ Lead.of c = .symbol := by
  have all : (Operator.symbolCharacters.all fun c => !Unicode.isBlank c && !isNumeral c &&
      c != 'e' && c != 'E' && Lead.of c == .symbol) = true := by
    decide
  simpa [and_assoc] using List.all_eq_true.mp all c (List.contains_iff_mem.mp h)

/-- A bracket starts itself. -/
theorem lead_of_isOpening {c : Char} (h : isOpening c = true) :
    Unicode.isBlank c = false ∧ Lead.of c = .opening := by
  simp only [isOpening, Bool.or_eq_true, beq_iff_eq] at h
  rcases h with (rfl | rfl) | rfl <;> decide

theorem lead_of_isClosing {c : Char} (h : isClosing c = true) :
    Unicode.isBlank c = false ∧ Lead.of c = .closing := by
  simp only [isClosing, Bool.or_eq_true, beq_iff_eq] at h
  rcases h with (rfl | rfl) | rfl <;> decide

/-- What ends a literal: a character that it cannot go on with. -/
def EndsLiteral (c : Char) : Prop := isNumeral c = false ∧ c ≠ 'e' ∧ c ≠ 'E'

theorem endsLiteral_of_isBlank {c : Char} (h : Unicode.isBlank c = true) : EndsLiteral c := by
  have other : ∀ d ∈ ['.', 'e', 'E'], c ≠ d := by
    rintro d mem rfl
    have visible : (['.', 'e', 'E'].all fun d => !Unicode.isBlank d) = true := by decide
    have no_blank := List.all_eq_true.mp visible c mem
    rw [h] at no_blank
    cases no_blank
  have digit : c.isDigit = false := by
    apply eq_false_of_excludes (fun digit => ?_) h
    exact Unicode.inRanges_eq_false_of_apart (by decide +kernel) (Unicode.inRanges_of_isDigit digit)
  exact ⟨by simp [isNumeral, digit, other], other 'e' (by simp), other 'E' (by simp)⟩

/-- No symbol has a blank in it. -/
theorem isSymbolCharacter_eq_false_of_isBlank {c : Char} (h : Unicode.isBlank c = true) :
    Operator.isSymbolCharacter c = false :=
  eq_false_of_excludes (fun symbol => (lead_of_isSymbolCharacter symbol).1) h

/-! ## Literals -/

/-- An exponent of a literal, or none. -/
inductive Exponent : List Char → Prop where
  | none : Exponent []
  | some {mark : Char} {sign digits : List Char} (marked : mark = 'e' ∨ mark = 'E')
      (signed : sign = [] ∨ sign = ['+'] ∨ sign = ['-']) (visible : digits ≠ [])
      (numeric : ∀ c ∈ digits, c.isDigit = true) : Exponent (mark :: (sign ++ digits))

/-- The exponent of a literal has a sign or none, and digits. -/
theorem exponent_of_readExponent {mark : Char} (marked : mark = 'e' ∨ mark = 'E')
    {cs : List Char} {value : Int} (h : Decimal.readExponent cs = some value) :
    Exponent (mark :: cs) := by
  unfold Decimal.readExponent at h
  split at h
  rename_i negative digits parts
  split at h
  · cases h
  · rename_i valid
    obtain ⟨visible, numeric⟩ : digits ≠ [] ∧ ∀ c ∈ digits, c.isDigit = true := by
      simpa using valid
    have signed : ∀ sign, sign = [] ∨ sign = ['+'] ∨ sign = ['-'] →
        Exponent (mark :: (sign ++ digits)) :=
      fun sign kind => .some marked kind visible numeric
    split at parts
    · cases parts
      exact signed ['-'] (.inr (.inr rfl))
    · cases parts
      exact signed ['+'] (.inr (.inl rfl))
    · cases parts
      exact signed [] (.inl rfl)

/-- What comes after the digits of a literal is an exponent, or nothing. -/
theorem exponent_of_tail {tail : List Char} {mantissa scaled : Decimal.Scaled}
    (h : (match tail with
      | [] => some mantissa
      | mark :: rest =>
        if mark = 'e' ∨ mark = 'E' then
          (Decimal.readExponent rest).map fun e =>
            { mantissa with exponent := mantissa.exponent + e }
        else none) = some scaled) : Exponent tail := by
  split at h
  · exact .none
  · split at h
    · rename_i marked
      obtain ⟨value, read, -⟩ := Option.map_eq_some_iff.mp h
      exact exponent_of_readExponent marked read
    · cases h

/-- **A literal is a run of digits and points**, not empty, with an exponent or none. -/
theorem exists_exponent {literal : List Char} {x : Float}
    (h : Decimal.readLiteral literal = some x) :
    ∃ mantissa exponent, literal = mantissa ++ exponent ∧ mantissa ≠ [] ∧
      (∀ c ∈ mantissa, isNumeral c = true) ∧ Exponent exponent := by
  have digits : ∀ cs : List Char, ∀ c ∈ cs.takeWhile Char.isDigit, isNumeral c = true := by
    intro cs c mem
    rw [isNumeral, List.all_eq_true.mp List.all_takeWhile c mem, Bool.true_or]
  obtain ⟨scaled, h, -⟩ := Option.map_eq_some_iff.mp h
  unfold Decimal.readScaled at h
  dsimp only at h
  split at h
  · rename_i rest point
    refine ⟨literal.takeWhile Char.isDigit ++ '.' :: rest.takeWhile Char.isDigit,
      rest.dropWhile Char.isDigit, ?_, by simp, ?_, ?_⟩
    · rw [List.append_assoc, List.cons_append, List.takeWhile_append_dropWhile, ← point,
        List.takeWhile_append_dropWhile]
    · intro c mem
      rcases List.mem_append.mp mem with whole | fraction
      · exact digits literal c whole
      · rcases List.mem_cons.mp fraction with rfl | digit
        · rfl
        · exact digits rest c digit
    · split at h
      · cases h
      · exact exponent_of_tail h
  · split at h
    · cases h
    · rename_i some_digit
      refine ⟨literal.takeWhile Char.isDigit, literal.dropWhile Char.isDigit,
        List.takeWhile_append_dropWhile.symm, ?_, digits literal, exponent_of_tail h⟩
      intro none
      rw [none] at some_digit
      exact some_digit rfl

/-- As many elements as a run has, or fewer, are elements of the run. -/
theorem take_subset_run {α : Type} {condition : α → Bool} {l : List α} {n : Nat}
    (within : n ≤ (l.takeWhile condition).length) : l.take n ⊆ l.takeWhile condition := by
  have part : l.take n <+: l.takeWhile condition :=
    List.prefix_of_prefix_length_le (List.take_prefix n l) (List.takeWhile_prefix condition)
      (Nat.le_trans (List.length_take_le n l) within)
  exact part.subset

theorem take_of_prefix_run {condition : Char → Bool} {cs part : List Char}
    (front : part <+: cs.takeWhile condition) : cs.take part.length = part :=
  (List.prefix_iff_eq_take.mp (front.trans (List.takeWhile_prefix condition))).symm

/-- What a run takes in ends where its condition fails. -/
theorem takeWhile_run {α : Type} {condition : α → Bool} {run rest : List α}
    (all : ∀ a ∈ run, condition a = true) (stop : ∀ a ∈ rest.head?, condition a = false) :
    (run ++ rest).takeWhile condition = run := by
  have none_taken : rest.takeWhile condition = [] := by
    cases rest with
    | nil => rfl
    | cons a rest => rw [List.takeWhile_cons_of_neg (by simp [stop a rfl])]
  rw [List.takeWhile_append_of_pos all, none_taken, List.append_nil]

/-- What is behind a run is what its condition does not take in. -/
theorem dropWhile_run {α : Type} {condition : α → Bool} {run rest : List α}
    (all : ∀ a ∈ run, condition a = true) (stop : ∀ a ∈ rest.head?, condition a = false) :
    (run ++ rest).dropWhile condition = rest := by
  have cut := List.takeWhile_append_dropWhile (p := condition) (l := run ++ rest)
  rw [takeWhile_run all stop] at cut
  exact List.append_cancel_left cut

theorem signLength_cons (c : Char) (rest : List Char) :
    signLength (c :: rest) = if c = '+' ∨ c = '-' then 1 else 0 := by
  unfold signLength
  split
  · rename_i same
    cases same
    rfl
  · rename_i same
    cases same
    rfl
  · rename_i no_plus no_minus
    refine (if_neg ?_).symm
    rintro (rfl | rfl)
    · exact no_plus rest rfl
    · exact no_minus rest rfl

/-- A sign is read before digits, and none where none is. -/
theorem signLength_append {sign digits : List Char}
    (signed : sign = [] ∨ sign = ['+'] ∨ sign = ['-']) (visible : digits ≠ [])
    (numeric : ∀ c ∈ digits, c.isDigit = true) (rest : List Char) :
    signLength (sign ++ (digits ++ rest)) = sign.length := by
  rcases signed with rfl | rfl | rfl
  · obtain ⟨d, more, rfl⟩ := List.exists_cons_of_ne_nil visible
    have digit := numeric d (.head _)
    have unsigned : ¬ (d = '+' ∨ d = '-') := by
      rintro (rfl | rfl) <;> cases digit
    exact (signLength_cons d _).trans (if_neg unsigned)
  · rfl
  · rfl

/-- An exponent is read with all digits that come behind it. -/
theorem exponentLength_digits {mark : Char} {sign digits : List Char}
    (marked : mark = 'e' ∨ mark = 'E') (signed : sign = [] ∨ sign = ['+'] ∨ sign = ['-'])
    (visible : digits ≠ []) (numeric : ∀ c ∈ digits, c.isDigit = true) (rest : List Char) :
    exponentLength (mark :: (sign ++ digits) ++ rest) =
      (mark :: (sign ++ digits)).length + (rest.takeWhile Char.isDigit).length := by
  have some_digit : digits.length ≠ 0 := by simpa using visible
  have run : (digits ++ rest).takeWhile Char.isDigit = digits ++ rest.takeWhile Char.isDigit :=
    List.takeWhile_append_of_pos numeric
  rw [List.cons_append, List.append_assoc, exponentLength, if_pos marked]
  simp only [signLength_append signed visible numeric, List.drop_left, run, List.length_append,
    List.length_cons]
  split
  · omega
  · omega

/-- A sign is read, or nothing. -/
theorem take_signLength (cs : List Char) :
    cs.take (signLength cs) = [] ∨ cs.take (signLength cs) = ['+'] ∨
      cs.take (signLength cs) = ['-'] := by
  cases cs with
  | nil => exact .inl rfl
  | cons c rest =>
    rw [signLength_cons]
    split
    · rename_i sign
      rcases sign with rfl | rfl <;> simp
    · exact .inl rfl

/-- What is read as an exponent is one. -/
theorem exponent_take (cs : List Char) : Exponent (cs.take (exponentLength cs)) := by
  cases cs with
  | nil => exact .none
  | cons mark rest =>
    simp only [exponentLength]
    split
    · rename_i marked
      split
      · exact .none
      · rename_i some_digit
        have run : (rest.drop (signLength rest)).take
            ((rest.drop (signLength rest)).takeWhile Char.isDigit).length =
              (rest.drop (signLength rest)).takeWhile Char.isDigit :=
          take_of_prefix_run (List.prefix_refl _)
        have visible : (rest.drop (signLength rest)).takeWhile Char.isDigit ≠ [] :=
          fun nothing => some_digit (by rw [nothing]; rfl)
        rw [Nat.add_assoc, Nat.add_comm 1, List.take_succ_cons, List.take_add, run]
        refine .some marked (take_signLength rest) visible fun c mem => ?_
        exact List.all_eq_true.mp List.all_takeWhile c mem
    · exact .none

section Literals

variable {rest : List Char} (ends : ∀ c ∈ rest.head?, EndsLiteral c)
include ends

theorem exponentLength_of_ends : exponentLength rest = 0 := by
  cases rest with
  | nil => rfl
  | cons c rest =>
    have no_mark : ¬ (c = 'e' ∨ c = 'E') := not_or.mpr (ends c rfl).2
    rw [exponentLength, if_neg no_mark]

/-- Of an exponent all is read. -/
theorem exponentLength_append {exponent : List Char} (h : Exponent exponent) :
    exponentLength (exponent ++ rest) = exponent.length := by
  cases h with
  | none => exact exponentLength_of_ends ends
  | some marked signed visible numeric =>
    have no_more : rest.takeWhile Char.isDigit = [] :=
      takeWhile_run (List.forall_mem_nil _) fun c next => (Bool.or_eq_false_iff.mp (ends c next).1).1
    rw [exponentLength_digits marked signed visible numeric, no_more]
    rfl

/-- **All of a literal is read.** -/
theorem readLiteral_append {position : Nat} {literal : List Char} {x : Float}
    (h : Decimal.readLiteral literal = some x) :
    readLiteral position (literal ++ rest) = .ok (x, literal.length) := by
  obtain ⟨mantissa, exponent, split_literal, -, numerals, shape⟩ := exists_exponent h
  have stop : ∀ c ∈ (exponent ++ rest).head?, isNumeral c = false := by
    cases shape with
    | none =>
      intro c next
      exact (ends c next).1
    | some marked =>
      rintro c ⟨⟩
      rcases marked with rfl | rfl <;> decide
  have mantissa_length : mantissaLength (literal ++ rest) = mantissa.length := by
    rw [mantissaLength, split_literal, List.append_assoc, takeWhile_run numerals stop]
  have after_mantissa : (literal ++ rest).drop mantissa.length = exponent ++ rest := by
    rw [split_literal, List.append_assoc, List.drop_left]
  have length : literalLength (literal ++ rest) = literal.length := by
    rw [literalLength, mantissa_length, after_mantissa, exponentLength_append ends shape,
      split_literal, List.length_append]
  have excess : excessLength (literal ++ rest) = 0 := by
    rw [excessLength, length, List.drop_left, exponentLength_of_ends ends, ite_self]
  rw [readLiteral]
  simp only [excess, length, List.take_left, h]
  rfl

end Literals

/-! ## Steps -/

section Steps

variable {lexer : Lexer σ} {position : Nat} {previous : Option (Token σ)} {rest : List Char}

/-- A step finds the token that is read, with the characters that it is read from. -/
theorem next_of_read {c : Char} {more : List Char} {token : Token σ}
    (visible : Unicode.isBlank c = false)
    (unmet : (Lead.of c).startsOperand = true → previous.any Token.endsOperand = false)
    (read_ok : lexer.read ⟨c :: more ++ rest, position, previous⟩ c =
      .ok (token, (c :: more).length)) :
    lexer.next ⟨c :: more ++ rest, position, previous⟩ =
      .found ⟨token, c :: more, position⟩
        ⟨rest, position + (c :: more).length, some token⟩ := by
  let cursor : Cursor σ := ⟨c :: more ++ rest, position, previous⟩
  have front : cursor.rest = c :: (more ++ rest) := rfl
  have same : cursor.skipBlanks = cursor := Cursor.skipBlanks_of_visible front visible
  have apart : ((Lead.of c).startsOperand && cursor.afterOperand) = false := by
    cases starts : (Lead.of c).startsOperand with
    | false => rfl
    | true => exact unmet starts
  rw [next_eq_read (by rw [same]; exact front) apart, same, read_ok]
  simp [Cursor.take, cursor]

/-- A step reads a literal, where no operand ends. -/
theorem next_number {literal : List Char} {x : Float}
    (value : Decimal.readLiteral literal = some x) (due : previous.any Token.endsOperand = false)
    (ends : ∀ c ∈ rest.head?, EndsLiteral c) :
    lexer.next ⟨literal ++ rest, position, previous⟩ =
      .found ⟨.number x, literal, position⟩
        ⟨rest, position + literal.length, some (.number x)⟩ := by
  obtain ⟨mantissa, exponent, split_literal, some_numeral, numerals, -⟩ := exists_exponent value
  obtain ⟨c, more, rfl⟩ := List.exists_cons_of_ne_nil some_numeral
  have lead : Lead.of c = .numeral := by rw [Lead.of, numerals c (.head _), if_pos rfl]
  have visible : Unicode.isBlank c = false :=
    eq_false_of_excludes (fun blank => (endsLiteral_of_isBlank blank).1) (numerals c (.head _))
  rw [List.cons_append] at split_literal
  subst split_literal
  refine next_of_read visible (fun _ => due) ?_
  rw [read, lead]
  dsimp only
  rw [readLiteral_append ends value]
  rfl

/-- A step reads a symbol, where the table has an operator for all of the run. -/
theorem next_symbol {symbol : List Char} {o : Operator σ} (some_character : symbol ≠ [])
    (characters : ∀ c ∈ symbol, Operator.isSymbolCharacter c = true)
    (ends : ∀ c ∈ rest.head?, Operator.isSymbolCharacter c = false)
    (found : lexer.symbols.operator? (previous.all Token.awaitsOperand) (String.ofList symbol) =
      some o) :
    lexer.next ⟨symbol ++ rest, position, previous⟩ =
      .found ⟨.operator o, symbol, position⟩
        ⟨rest, position + symbol.length, some (.operator o)⟩ := by
  obtain ⟨c, more, rfl⟩ := List.exists_cons_of_ne_nil some_character
  obtain ⟨visible, -, -, -, lead⟩ := lead_of_isSymbolCharacter (characters c List.mem_cons_self)
  have run : symbolLength (c :: more ++ rest) = (c :: more).length := by
    rw [symbolLength, takeWhile_run characters ends]
  have operator : readOperator lexer.symbols (previous.all Token.awaitsOperand) position
      (c :: more ++ rest) = .ok (o, (c :: more).length) := by
    have whole : (c :: more ++ rest).take (more.length + 1) = c :: more := by simp
    rw [readOperator, longest_symbol, run, List.length_cons, longest, whole, found]
  refine next_of_read visible (by simp [lead, Lead.startsOperand]) ?_
  rw [read, lead]
  show (readOperator lexer.symbols (previous.all Token.awaitsOperand) position
    (c :: more ++ rest)).map _ = _
  rw [operator]
  rfl

/-- A step reads a name, where no operand ends and all of the run names something. -/
theorem next_name {name : String} {token : Token σ} (valid : Name.isValid name = true)
    (due : previous.any Token.endsOperand = false)
    (ends : ∀ c ∈ rest.head?, Name.isPart c = false)
    (named : named? lexer.symbols (name.toList ++ rest) name.toList.length = some token) :
    lexer.next ⟨name.toList ++ rest, position, previous⟩ =
      .found ⟨token, name.toList, position⟩
        ⟨rest, position + name.toList.length, some token⟩ := by
  unfold Name.isValid at valid
  split at valid
  · cases valid
  · rename_i c more spelling
    obtain ⟨starts, later⟩ := Bool.and_eq_true_iff.mp valid
    have parts : ∀ d ∈ c :: more, Name.isPart d = true :=
      List.forall_mem_cons.mpr ⟨Name.isPart_of_isStart starts, List.all_eq_true.mp later⟩
    have visible : Unicode.isBlank c = false :=
      eq_false_of_excludes Name.isPart_eq_false_of_isBlank (parts c (.head _))
    have run : nameLength (c :: more ++ rest) = (c :: more).length := by
      rw [nameLength, takeWhile_run parts ends]
    rw [spelling] at named ⊢
    refine next_of_read visible (fun _ => due) ?_
    rw [read, lead_of_isStart starts]
    dsimp only
    rw [readName, run, List.length_cons, longest, ← List.length_cons, named]

/-- A step reads a bracket or a separator, where no operand ends before an opening one. -/
theorem next_single {c : Char} {token : Token σ} (visible : Unicode.isBlank c = false)
    (lead : Lead.of c = .opening ∧ token = .opening ∧ previous.any Token.endsOperand = false ∨
      Lead.of c = .closing ∧ token = .closing ∨ Lead.of c = .separator ∧ token = .separator) :
    lexer.next ⟨[c] ++ rest, position, previous⟩ =
      .found ⟨token, [c], position⟩ ⟨rest, position + 1, some token⟩ := by
  rcases lead with ⟨lead, rfl, due⟩ | ⟨lead, rfl⟩ | ⟨lead, rfl⟩
  · exact next_of_read visible (fun _ => due) (by rw [read, lead]; rfl)
  · exact next_of_read visible (by simp [lead, Lead.startsOperand]) (by rw [read, lead]; rfl)
  · exact next_of_read visible (by simp [lead, Lead.startsOperand]) (by rw [read, lead]; rfl)

end Steps

end Lexer

end Formula
