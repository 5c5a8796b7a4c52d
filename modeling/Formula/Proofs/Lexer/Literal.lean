import Formula.Proofs.Lexer.Longest

/-!
# The grammar of literals

A literal is a run of digits and points, the mantissa, with the exponent that comes directly after
it, if one does. Both are taken as long as they go, and so is a second exponent directly after the
first, which no literal may have. **A text has one literal in front** (`Lexer.Literal.unique`), and
where it is read, the outcome is a matter of these parts only: it has a value if there is a digit in
the mantissa, no more than one point, and no second exponent (`Lexer.Literal.wellFormed_iff`), and
else all three parts are malformed.

An `e` with no digit behind it, after a sign or none, belongs to no exponent, so that a literal ends
before it (`Lexer.Literal.prefix_of_bare`). What starts there is a name.
-/

namespace Formula

variable {σ : Type}

namespace Lexer

/-! ## The parts of a literal -/

/-- A digit comes next, after a sign or none. -/
def DigitNext (text : List Char) : Prop :=
  ∃ sign digit rest, text = sign ++ digit :: rest ∧
    (sign = [] ∨ sign = ['+'] ∨ sign = ['-']) ∧ digit.isDigit = true

/-- **The exponent at the front of a text**: the longest one that the text starts with. It is empty
where no exponent is. -/
structure LeadingExponent (text exponent : List Char) : Prop where
  front : exponent <+: text
  shape : Exponent exponent
  longest : ∀ other, other <+: text → Exponent other → other.length ≤ exponent.length

/-- **The literal at the front of a text**, in parts. The mantissa is all digits and points there. A
second exponent directly after the first is in excess; where there is no first, there is no second. -/
@[ext]
structure Literal (text : List Char) where
  mantissa : List Char
  exponent : List Char
  excess : List Char
  rest : List Char
  parts : text = mantissa ++ (exponent ++ (excess ++ rest))
  numerals : ∀ c ∈ mantissa, isNumeral c = true
  whole : ∀ c ∈ (exponent ++ (excess ++ rest)).head?, isNumeral c = false
  first : LeadingExponent (exponent ++ (excess ++ rest)) exponent
  second : LeadingExponent (excess ++ rest) excess

namespace Literal

variable {text : List Char}

/-- The characters that are read as the literal. -/
def spelling (literal : Literal text) : List Char := literal.mantissa ++ literal.exponent

/-- A literal is a number if its mantissa has a digit and no second point, and nothing is in
excess. -/
structure WellFormed (literal : Literal text) : Prop where
  digit : ∃ c ∈ literal.mantissa, c.isDigit = true
  point : literal.mantissa.count '.' ≤ 1
  single : literal.excess = []

/-- The place behind a literal that is read as a number. -/
def behind (literal : Literal text) (here : Cursor σ) (x : Float) : Cursor σ :=
  ⟨literal.rest, here.position + literal.spelling.length, some (.number x)⟩

end Literal

/-! ## Exponents -/

/-- An exponent starts with its mark. -/
theorem Exponent.marked {c : Char} {rest : List Char} (shape : Exponent (c :: rest)) :
    c = 'e' ∨ c = 'E' := by
  cases shape with
  | some marked => exact marked

/-- No exponent at the front is longer than the one that is read. -/
theorem Exponent.length_le {text exponent : List Char} (shape : Exponent exponent)
    (front : exponent <+: text) : exponent.length ≤ exponentLength text := by
  obtain ⟨rest, rfl⟩ := front
  cases shape with
  | none => exact Nat.zero_le _
  | some marked signed visible numeric =>
    rw [exponentLength_digits marked signed visible numeric]
    exact Nat.le_add_right _ _

/-- **What is read as an exponent is the longest one at the front.** -/
theorem leadingExponent_take (text : List Char) :
    LeadingExponent text (text.take (exponentLength text)) := by
  refine ⟨List.take_prefix _ _, exponent_take text, fun other front shape => ?_⟩
  rw [List.length_take]
  exact Nat.le_min.mpr ⟨shape.length_le front, front.length_le⟩

namespace LeadingExponent

variable {text exponent other : List Char}

/-- A text has one exponent in front. -/
theorem unique (first : LeadingExponent text exponent) (second : LeadingExponent text other) :
    exponent = other := by
  have shorter := second.longest exponent first.front first.shape
  have longer := first.longest other second.front second.shape
  exact (List.prefix_of_prefix_length_le first.front second.front shorter).eq_of_length_le longer

/-- All of the exponent at the front is read. -/
theorem length_eq (leading : LeadingExponent text exponent) :
    exponentLength text = exponent.length := by
  rw [leading.unique (leadingExponent_take text), List.length_take_of_le (exponentLength_le text)]

end LeadingExponent

/-! ## One literal -/

namespace Literal

variable {text : List Char}

/-- The mantissa is all of the run of digits and points. -/
theorem mantissa_eq (literal : Literal text) : text.takeWhile isNumeral = literal.mantissa := by
  have run := takeWhile_run literal.numerals literal.whole
  rwa [← literal.parts] at run

/-- **A text has one literal in front.** -/
theorem unique (literal other : Literal text) : literal = other := by
  have mantissa : literal.mantissa = other.mantissa :=
    literal.mantissa_eq.symm.trans other.mantissa_eq
  have behind_mantissa : literal.exponent ++ (literal.excess ++ literal.rest) =
      other.exponent ++ (other.excess ++ other.rest) := by
    have both := literal.parts.symm.trans other.parts
    rw [mantissa] at both
    exact List.append_cancel_left both
  have exponent : literal.exponent = other.exponent := by
    have first := literal.first
    rw [behind_mantissa] at first
    exact first.unique other.first
  have behind_exponent : literal.excess ++ literal.rest = other.excess ++ other.rest := by
    rw [exponent] at behind_mantissa
    exact List.append_cancel_left behind_mantissa
  have excess : literal.excess = other.excess := by
    have second := literal.second
    rw [behind_exponent] at second
    exact second.unique other.second
  have rest : literal.rest = other.rest := by
    rw [excess] at behind_exponent
    exact List.append_cancel_left behind_exponent
  exact Literal.ext mantissa exponent excess rest

/-- **Every text has one**, though it may be empty. -/
def ofText (text : List Char) : Literal text :=
  let tail := text.dropWhile isNumeral
  let later := tail.drop (exponentLength tail)
  { mantissa := text.takeWhile isNumeral
    exponent := tail.take (exponentLength tail)
    excess := later.take (exponentLength later)
    rest := later.drop (exponentLength later)
    parts := by simp only [later, tail, List.take_append_drop, List.takeWhile_append_dropWhile]
    numerals := fun c mem => List.all_eq_true.mp List.all_takeWhile c mem
    whole := by
      simp only [later, List.take_append_drop]
      intro c next
      have stopped := List.head?_dropWhile_not isNumeral text
      rw [Option.mem_def.mp next] at stopped
      simpa using stopped
    first := by
      simp only [later, List.take_append_drop]
      exact leadingExponent_take tail
    second := by
      simp only [List.take_append_drop]
      exact leadingExponent_take later }

/-! ## What is read of it -/

variable (literal : Literal text)

theorem mantissaLength_eq : mantissaLength text = literal.mantissa.length := by
  rw [mantissaLength, literal.mantissa_eq]

theorem drop_mantissa :
    text.drop literal.mantissa.length = literal.exponent ++ (literal.excess ++ literal.rest) :=
  (congrArg (List.drop _) literal.parts).trans List.drop_left

theorem parts_spelling : text = literal.spelling ++ (literal.excess ++ literal.rest) := by
  rw [spelling, List.append_assoc]
  exact literal.parts

theorem take_spelling : text.take literal.spelling.length = literal.spelling :=
  (congrArg (List.take _) literal.parts_spelling).trans List.take_left

theorem drop_spelling : text.drop literal.spelling.length = literal.excess ++ literal.rest :=
  (congrArg (List.drop _) literal.parts_spelling).trans List.drop_left

theorem literalLength_eq : literalLength text = literal.spelling.length := by
  rw [literalLength, literal.mantissaLength_eq, literal.drop_mantissa, literal.first.length_eq,
    spelling, List.length_append]

theorem excessLength_eq : excessLength text = literal.excess.length := by
  rw [excessLength, literal.mantissaLength_eq, literal.drop_mantissa, literal.first.length_eq,
    literal.literalLength_eq, literal.drop_spelling, literal.second.length_eq]
  split
  · rename_i no_exponent
    have nothing : literal.exponent = [] := List.length_eq_zero_iff.mp no_exponent
    -- Without a first exponent the second would be the first.
    have first := literal.first
    rw [nothing, List.nil_append] at first
    rw [literal.second.unique first]
    rfl
  · rfl

end Literal

section Reading

variable {text : List Char} (literal : Literal text) (position : Nat)

/-- **A literal with a value is read**, if nothing is in excess. -/
theorem readLiteral_of_value {x : Float} (single : literal.excess = [])
    (value : Decimal.readLiteral literal.spelling = some x) :
    readLiteral position text = .ok (x, literal.spelling.length) := by
  have no_excess : ¬ excessLength text ≠ 0 := by simp [literal.excessLength_eq, single]
  unfold readLiteral
  simp only [if_neg no_excess, literal.literalLength_eq, literal.take_spelling, value]

/-- **A literal without a value is malformed**, and so is one with another exponent in excess. -/
theorem readLiteral_of_malformed
    (malformed : literal.excess = [] → Decimal.readLiteral literal.spelling = none) :
    readLiteral position text =
      .error (.malformedNumber (String.ofList (literal.spelling ++ literal.excess)) position) := by
  have quoted : text.take (literal.spelling.length + literal.excess.length) =
      literal.spelling ++ literal.excess := by
    rw [List.take_add, literal.take_spelling, literal.drop_spelling, List.take_left]
  unfold readLiteral
  simp only [literal.literalLength_eq, literal.excessLength_eq, literal.take_spelling, quoted]
  by_cases single : literal.excess = []
  · simp [single, malformed single]
  · simp [single]

end Reading

/-! ## Values -/

/-- A sign or none and digits have a value. -/
theorem isSome_readExponent {sign digits : List Char}
    (signed : sign = [] ∨ sign = ['+'] ∨ sign = ['-']) (visible : digits ≠ [])
    (numeric : ∀ c ∈ digits, c.isDigit = true) :
    (Decimal.readExponent (sign ++ digits)).isSome = true := by
  rcases signed with rfl | rfl | rfl
  · obtain ⟨d, more, rfl⟩ := List.exists_cons_of_ne_nil visible
    have digit := numeric d List.mem_cons_self
    have unsigned : d ≠ '+' ∧ d ≠ '-' := by
      constructor <;> rintro rfl <;> cases digit
    simpa [Decimal.readExponent, unsigned] using List.forall_mem_cons.mp numeric
  · simpa [Decimal.readExponent, visible] using numeric
  · simpa [Decimal.readExponent, visible] using numeric

/-- A literal has a value if it has digits, and behind them an exponent or nothing. -/
theorem isSome_scaled_iff {whole fraction tail : List Char} {mantissa : Decimal.Scaled} :
    (if (whole.isEmpty && fraction.isEmpty) = true then none
      else
        match tail with
        | [] => some mantissa
        | mark :: rest =>
          if mark = 'e' ∨ mark = 'E' then
            (Decimal.readExponent rest).map fun e =>
              { mantissa with exponent := mantissa.exponent + e }
          else none).isSome = true ↔ (whole ≠ [] ∨ fraction ≠ []) ∧ Exponent tail := by
  have some_digit : (whole ≠ [] ∨ fraction ≠ []) ↔ ¬ (whole.isEmpty && fraction.isEmpty) = true := by
    rw [Bool.and_eq_true, not_and_or, List.isEmpty_iff, List.isEmpty_iff]
  rw [some_digit]
  split
  · rename_i no_digit
    exact ⟨fun none_value => Bool.noConfusion none_value, fun both => absurd no_digit both.1⟩
  · rename_i digit
    refine ⟨fun some_value => ⟨digit, ?_⟩, fun ⟨_, shape⟩ => ?_⟩
    · obtain ⟨scaled, value⟩ := Option.isSome_iff_exists.mp some_value
      exact exponent_of_tail value
    · cases shape with
      | none => rfl
      | some marked signed visible numeric =>
        dsimp only
        rw [if_pos marked, Option.isSome_map]
        exact isSome_readExponent signed visible numeric

section Digits

variable {whole fraction tail : List Char} (digits : ∀ c ∈ whole, c.isDigit = true)
include digits

/-- Digits without a point have a value, with an exponent or without. -/
theorem isSome_readScaled_whole (stop : ∀ c ∈ tail.head?, isNumeral c = false) :
    (Decimal.readScaled (whole ++ tail)).isSome = true ↔ whole ≠ [] ∧ Exponent tail := by
  have no_digit : ∀ c ∈ tail.head?, c.isDigit = false := fun c next =>
    (Bool.or_eq_false_iff.mp (stop c next)).1
  unfold Decimal.readScaled
  simp only [takeWhile_run digits no_digit, dropWhile_run digits no_digit]
  split
  · cases stop '.' rfl
  · exact isSome_scaled_iff.trans (by simp)

/-- A point among digits leaves them their value, also in front and at the end. -/
theorem isSome_readScaled_point (places : ∀ c ∈ fraction, c.isDigit = true)
    (stop : ∀ c ∈ tail.head?, c.isDigit = false) :
    (Decimal.readScaled (whole ++ '.' :: (fraction ++ tail))).isSome = true ↔
      (whole ≠ [] ∨ fraction ≠ []) ∧ Exponent tail := by
  have no_digit : ∀ c ∈ ('.' :: (fraction ++ tail)).head?, c.isDigit = false := by
    rintro c ⟨⟩
    rfl
  unfold Decimal.readScaled
  simp only [takeWhile_run digits no_digit, dropWhile_run digits no_digit,
    takeWhile_run places stop, dropWhile_run places stop]
  exact isSome_scaled_iff

end Digits

/-- A run of digits and points is a run of digits, up to the first point. -/
theorem exists_digits {run : List Char} (numerals : ∀ c ∈ run, isNumeral c = true) :
    ∃ digits, (∀ c ∈ digits, c.isDigit = true) ∧
      (run = digits ∨ ∃ later, run = digits ++ '.' :: later) := by
  refine ⟨run.takeWhile Char.isDigit, fun c mem => List.all_eq_true.mp List.all_takeWhile c mem, ?_⟩
  have cut := List.takeWhile_append_dropWhile (p := Char.isDigit) (l := run)
  have stopped := List.head?_dropWhile_not Char.isDigit run
  cases left : run.dropWhile Char.isDigit with
  | nil =>
    rw [left, List.append_nil] at cut
    exact .inl cut.symm
  | cons c later =>
    rw [left] at cut stopped
    have numeral : isNumeral c = true := numerals c (by rw [← cut]; simp)
    have no_digit : c.isDigit = false := by simpa using stopped
    have point : c = '.' := by simpa [isNumeral, no_digit] using numeral
    exact .inr ⟨later, by rw [← point, cut]⟩

theorem exists_digit_iff {digits : List Char} (numeric : ∀ c ∈ digits, c.isDigit = true) :
    (∃ c ∈ digits, c.isDigit = true) ↔ digits ≠ [] := by
  constructor
  · rintro ⟨c, mem, -⟩
    exact List.ne_nil_of_mem mem
  · intro visible
    obtain ⟨c, mem⟩ := List.exists_mem_of_ne_nil digits visible
    exact ⟨c, mem, numeric c mem⟩

theorem count_point {digits : List Char} (numeric : ∀ c ∈ digits, c.isDigit = true) :
    digits.count '.' = 0 := by
  refine List.count_eq_zero.mpr fun mem => ?_
  cases numeric '.' mem

/-- **Digits and points have a value if there is a digit among them and no second point**, with an
exponent or without. -/
theorem isSome_readLiteral_iff {mantissa exponent : List Char}
    (numerals : ∀ c ∈ mantissa, isNumeral c = true) (shape : Exponent exponent) :
    (Decimal.readLiteral (mantissa ++ exponent)).isSome = true ↔
      (∃ c ∈ mantissa, c.isDigit = true) ∧ mantissa.count '.' ≤ 1 := by
  have behind : ∀ c ∈ exponent.head?, isNumeral c = false := by
    cases shape with
    | none => exact fun c next => nomatch next
    | some marked =>
      rintro c ⟨⟩
      rcases marked with rfl | rfl <;> decide
  have point_stops : ∀ later, ∀ c ∈ ('.' :: later).head?, c.isDigit = false := by
    rintro later c ⟨⟩
    rfl
  rw [Decimal.readLiteral, Option.isSome_map]
  obtain ⟨whole, digits, rfl | ⟨later, rfl⟩⟩ := exists_digits numerals
  · rw [isSome_readScaled_whole digits behind, exists_digit_iff digits, count_point digits]
    simp [shape]
  · have numerals_behind : ∀ c ∈ later, isNumeral c = true :=
      fun c mem => numerals c (by simp [mem])
    obtain ⟨fraction, places, rfl | ⟨others, rfl⟩⟩ := exists_digits numerals_behind
    · rw [List.append_assoc, List.cons_append, isSome_readScaled_point digits places
        fun c next => (Bool.or_eq_false_iff.mp (behind c next)).1]
      simp [shape, or_and_right, exists_or, exists_digit_iff digits, exists_digit_iff places,
        count_point digits, count_point places]
    · rw [List.append_assoc, List.cons_append, List.append_assoc, List.cons_append,
        isSome_readScaled_point digits places (point_stops _)]
      have no_exponent : ¬ Exponent ('.' :: (others ++ exponent)) := fun shape => by
        rcases shape.marked with same | same <;> cases same
      have several : ¬ (whole ++ '.' :: (fraction ++ '.' :: others)).count '.' ≤ 1 := by
        rw [List.count_append, List.count_cons_self, List.count_append, List.count_cons_self]
        omega
      exact iff_of_false (fun both => no_exponent both.2) (fun both => several both.2)

/-- **The value of a literal**: a number that is well formed has one, and nothing else has. -/
theorem Literal.wellFormed_iff {text : List Char} (literal : Literal text) :
    literal.WellFormed ↔ literal.excess = [] ∧
      (Decimal.readLiteral literal.spelling).isSome = true := by
  rw [Literal.spelling, isSome_readLiteral_iff literal.numerals literal.first.shape]
  exact ⟨fun h => ⟨h.single, h.digit, h.point⟩, fun ⟨single, digit, point⟩ => ⟨digit, point, single⟩⟩

/-! ## Marks without digits -/

/-- A character that is in no front part is behind it. -/
theorem exists_append_of_not_mem {α : Type} {a : α} {front rest before after : List α}
    (not_mem : a ∉ front) (parts : front ++ rest = before ++ a :: after) :
    ∃ between, before = front ++ between ∧ rest = between ++ a :: after := by
  rcases List.append_eq_append_iff.mp parts with
    ⟨between, before_eq, rest_eq⟩ | ⟨between, front_eq, after_eq⟩
  · exact ⟨between, before_eq, rest_eq⟩
  · cases between with
    | nil => exact ⟨[], by simpa using front_eq.symm, after_eq.symm⟩
    | cons b between =>
      cases after_eq
      exact absurd (by rw [front_eq]; simp) not_mem

section Marks

variable {mark : Char} {before after : List Char} (marked : mark = 'e' ∨ mark = 'E')
include marked

/-- No exponent has a mark in it that no digit comes behind. -/
theorem Exponent.exists_append_of_bare {exponent rest : List Char} (shape : Exponent exponent)
    (bare : ¬ DigitNext after) (parts : exponent ++ rest = before ++ mark :: after) :
    ∃ between, before = exponent ++ between ∧ rest = between ++ mark :: after := by
  cases shape with
  | none => exact ⟨before, rfl, parts⟩
  | @some first sign digits _ signed visible numeric =>
    cases before with
    | nil =>
      obtain ⟨d, more, rfl⟩ := List.exists_cons_of_ne_nil visible
      cases parts
      refine absurd ⟨sign, d, more ++ rest, ?_, signed, numeric d List.mem_cons_self⟩ bare
      simp
    | cons c before =>
      obtain ⟨rfl, later⟩ := List.cons.inj parts
      have not_mem : mark ∉ sign ++ digits := by
        intro mem
        rcases List.mem_append.mp mem with mem | mem
        · rcases signed with rfl | rfl | rfl <;> rcases marked with rfl | rfl <;> simp at mem
        · have digit := numeric mark mem
          rcases marked with rfl | rfl <;> cases digit
      obtain ⟨between, rfl, behind⟩ := exists_append_of_not_mem not_mem later
      exact ⟨between, rfl, behind⟩

/-- **A literal ends before a mark that no digit comes behind**, and so does what is in excess. -/
theorem Literal.prefix_of_bare {text : List Char} (literal : Literal text)
    (bare : ¬ DigitNext after) (parts : text = before ++ mark :: after) :
    literal.spelling ++ literal.excess <+: before := by
  have no_numeral : mark ∉ literal.mantissa := by
    intro mem
    have numeral := literal.numerals mark mem
    rcases marked with rfl | rfl <;> cases numeral
  obtain ⟨first, rfl, behind_mantissa⟩ :=
    exists_append_of_not_mem no_numeral (literal.parts.symm.trans parts)
  obtain ⟨second, rfl, behind_exponent⟩ :=
    literal.first.shape.exists_append_of_bare marked bare behind_mantissa
  obtain ⟨third, rfl, -⟩ :=
    literal.second.shape.exists_append_of_bare marked bare behind_exponent
  exact ⟨third, by simp only [Literal.spelling, List.append_assoc]⟩

end Marks

/-! ## Steps -/

/-- **A name starts right behind an operand.** After the product that is implied it is read by the
rule for names, in the same place. Where none may be implied, the two operands meet. -/
structure NameBehind (lexer : Lexer σ) (cursor : Cursor σ) : Prop where
  implied : lexer.implicit = true →
    let here : Cursor σ := { cursor with previous := some (.operator .times) }
    lexer.next cursor = .found ⟨.operator .times, [], cursor.position⟩ here ∧
      NameStep lexer here (lexer.next here)
  explicit : lexer.implicit = false →
    lexer.next cursor = .failed (.ambiguousAdjacency cursor.position)

theorem nameBehind_of_isStart {lexer : Lexer σ} {cursor : Cursor σ} {c : Char} {rest : List Char}
    (front : cursor.rest = c :: rest) (starts : Name.isStart c = true)
    (operand : cursor.afterOperand = true) : NameBehind lexer cursor := by
  have visible : Unicode.isBlank c = false :=
    eq_false_of_excludes Name.isPart_eq_false_of_isBlank (Name.isPart_of_isStart starts)
  have stays : cursor.skipBlanks = cursor := Cursor.skipBlanks_of_visible front visible
  have lead : Lead.of c = .name := lead_of_isStart starts
  have step : lexer.next cursor = lexer.meet cursor c := by
    rw [next_eq_meet (by rw [stays, front]) (by rw [lead, operand]; rfl), stays]
  rw [meet, lead] at step
  constructor
  · intro implicit here
    have goes_on : here.skipBlanks = here := Cursor.skipBlanks_of_visible front visible
    have follows : NameStep lexer here.skipBlanks (lexer.next here) :=
      nameStep_next (by rw [goes_on]; exact front) starts rfl
    rw [goes_on] at follows
    rw [implicit] at step
    exact ⟨step, follows⟩
  · intro explicit
    rw [explicit] at step
    exact step

section Steps

variable {lexer : Lexer σ} {cursor : Cursor σ} {c : Char} {more : List Char}
  (front : cursor.skipBlanks.rest = c :: more) (numeral : isNumeral c = true)
  (free : cursor.afterOperand = false) (literal : Literal cursor.skipBlanks.rest)
include front numeral free

/-- Where a digit or a point stands after no operand, the literal there is read. -/
theorem next_eq_readLiteral :
    lexer.next cursor =
      match readLiteral cursor.skipBlanks.position cursor.skipBlanks.rest with
      | .ok (x, n) => cursor.skipBlanks.take (.number x) n
      | .error e => .failed e := by
  have lead : Lead.of c = .numeral := by rw [Lead.of, numeral, if_pos rfl]
  rw [next_eq_read front (by rw [free, Bool.and_false]), read, lead]
  dsimp only
  cases readLiteral cursor.skipBlanks.position cursor.skipBlanks.rest with
  | error e => rfl
  | ok found => rfl

theorem next_of_wellFormed (wellFormed : literal.WellFormed) :
    ∃ x, Decimal.readLiteral literal.spelling = some x ∧
      lexer.next cursor =
        .found ⟨.number x, literal.spelling, cursor.skipBlanks.position⟩
          (literal.behind cursor.skipBlanks x) := by
  obtain ⟨single, some_value⟩ := literal.wellFormed_iff.mp wellFormed
  obtain ⟨x, value⟩ := Option.isSome_iff_exists.mp some_value
  refine ⟨x, value, ?_⟩
  have read : cursor.skipBlanks.rest.take literal.spelling.length = literal.spelling :=
    literal.take_spelling
  have left : cursor.skipBlanks.rest.drop literal.spelling.length = literal.rest := by
    rw [literal.drop_spelling, single, List.nil_append]
  rw [next_eq_readLiteral front numeral free, readLiteral_of_value literal _ single value]
  simp only [Cursor.take, read, left, Literal.behind]

theorem next_of_malformed (malformed : ¬ literal.WellFormed) :
    lexer.next cursor =
      .failed (.malformedNumber (String.ofList (literal.spelling ++ literal.excess))
        cursor.skipBlanks.position) := by
  have no_value : literal.excess = [] → Decimal.readLiteral literal.spelling = none := by
    intro single
    refine Option.not_isSome_iff_eq_none.mp fun value => malformed ?_
    exact literal.wellFormed_iff.mpr ⟨single, value⟩
  rw [next_eq_readLiteral front numeral free, readLiteral_of_malformed literal _ no_value]

end Steps

/-- **The grammar of literals.** Where a digit or a point stands after no operand, the text has one
literal in front, and the next step is a matter of its parts. If the mantissa has a digit and no
second point, and nothing is in excess, the step finds the number that the literal writes and passes
over the literal only. Else it fails where the literal starts, with all of it and what is in excess.
An `e` that no digit comes behind, after a sign or none, is part of neither. Where one comes directly
behind the literal, it is left there, and a name starts with it. -/
theorem next_literal (lexer : Lexer σ) (cursor : Cursor σ) {c : Char} {more : List Char}
    (front : cursor.skipBlanks.rest = c :: more) (numeral : isNumeral c = true)
    (free : cursor.afterOperand = false) :
    let here := cursor.skipBlanks
    ∃ literal : Literal here.rest, (∀ other : Literal here.rest, other = literal) ∧
      (literal.WellFormed ↔ ∃ x, Decimal.readLiteral literal.spelling = some x ∧
        lexer.next cursor =
          .found ⟨.number x, literal.spelling, here.position⟩ (literal.behind here x)) ∧
      (¬ literal.WellFormed ↔
        lexer.next cursor =
          .failed (.malformedNumber (String.ofList (literal.spelling ++ literal.excess))
            here.position)) ∧
      (∀ before mark after, here.rest = before ++ mark :: after → mark = 'e' ∨ mark = 'E' →
        ¬ DigitNext after → literal.spelling ++ literal.excess <+: before) ∧
      ∀ mark after, here.rest = literal.spelling ++ mark :: after → mark = 'e' ∨ mark = 'E' →
        ¬ DigitNext after → literal.rest = mark :: after ∧
          ∀ x, NameBehind lexer (literal.behind here x) := by
  intro here
  let literal : Literal here.rest := .ofText here.rest
  refine ⟨literal, fun other => other.unique literal, ?_, ?_, ?_, ?_⟩
  · refine ⟨next_of_wellFormed front numeral free literal, fun ⟨x, _, found⟩ => ?_⟩
    by_contra malformed
    rw [next_of_malformed front numeral free literal malformed] at found
    cases found
  · refine ⟨next_of_malformed front numeral free literal, fun failed wellFormed => ?_⟩
    obtain ⟨x, -, found⟩ := next_of_wellFormed front numeral free literal wellFormed
    rw [failed] at found
    cases found
  · exact fun before mark after parts marked bare => literal.prefix_of_bare marked bare parts
  · intro mark after parts marked bare
    have nothing : literal.excess = [] := by
      have shorter := (literal.prefix_of_bare marked bare parts).length_le
      rw [List.length_append] at shorter
      exact List.length_eq_zero_iff.mp (by omega)
    have rest : literal.rest = mark :: after := by
      have behind := literal.parts_spelling.symm.trans parts
      rwa [nothing, List.nil_append, List.append_right_inj] at behind
    have starts : Name.isStart mark = true := by
      rcases marked with rfl | rfl <;> decide +kernel
    exact ⟨rest, fun x => nameBehind_of_isStart rest starts rfl⟩

/-- In ` 1.5e3e+x` the first `e` is part of the number, and the second one is left for a name. In
`1e5e-3x` both have digits, so that the literal is malformed. In `.e5` there is no digit before the
`e`. -/
theorem next_literal_marks :
    let lexer : Lexer Unit := ⟨⟨["e"], [], []⟩, true, " 1.5e3e+x"⟩
    let number : Cursor Unit := ⟨" 1.5e3e+x".toList, 0, none⟩
    let twice : Cursor Unit := ⟨"1e5e-3x".toList, 4, some .separator⟩
    let point : Cursor Unit := ⟨".e5".toList, 0, none⟩
    (∃ x, Decimal.readLiteral "1.5e3".toList = some x ∧
        lexer.next number =
          .found ⟨.number x, "1.5e3".toList, 1⟩ ⟨"e+x".toList, 6, some (.number x)⟩ ∧
        NameBehind lexer ⟨"e+x".toList, 6, some (.number x)⟩) ∧
      lexer.next twice = .failed (.malformedNumber "1e5e-3" 4) ∧
      lexer.next point = .failed (.malformedNumber ".e5" 0) := by
  intro lexer number twice point
  have first : number.skipBlanks.rest = '1' :: ".5e3e+x".toList := by decide
  have second : twice.skipBlanks.rest = '1' :: "e5e-3x".toList := by decide
  have third : point.skipBlanks.rest = '.' :: "e5".toList := by decide
  refine ⟨?_, ?_, ?_⟩
  · obtain ⟨literal, unique, found, -, -, left⟩ :=
      next_literal lexer number first (by decide) rfl
    obtain rfl := unique (.ofText _)
    have bare : ¬ DigitNext "+x".toList := by
      rintro ⟨sign, digit, rest, parts, rfl | rfl | rfl, numeric⟩ <;> cases parts <;> cases numeric
    obtain ⟨x, value, step⟩ := found.mp ⟨⟨'1', by decide, rfl⟩, by decide, by decide⟩
    obtain ⟨-, name⟩ := left 'e' "+x".toList (by decide) (.inl rfl) bare
    exact ⟨x, value, step, name x⟩
  · obtain ⟨literal, unique, -, failed, -⟩ := next_literal lexer twice second (by decide) rfl
    obtain rfl := unique (.ofText _)
    exact failed.mp fun wellFormed => absurd wellFormed.single (by decide)
  · obtain ⟨literal, unique, -, failed, -⟩ := next_literal lexer point third (by decide) rfl
    obtain rfl := unique (.ofText _)
    refine failed.mp fun wellFormed => ?_
    obtain ⟨c, mem, digit⟩ := wellFormed.digit
    obtain rfl : c = '.' := List.mem_singleton.mp mem
    cases digit

end Lexer

end Formula
