import Formula.Proofs.Lexer.Neighbours

/-!
# Lexemes tile their text

The lexemes of a reading stand in the text one after the other, in the places that they carry, with
nothing but blanks between them (`Lexer.Tiles`). Each has the characters that spell its token, at
least one; only a product that is implied has none, and it stands right before its second operand.

**No character of a text is lost or read twice** (`readText_tiles`): a reading without an error
tiles the whole text, and one with an error tiles all that comes before the place that the error
names. What the error quotes is the text at that place.
-/

namespace Formula

variable {σ : Type}

/-- The characters that a token is read from: a literal of its value, its name, its symbol, a
bracket of any kind, or a comma. -/
def Token.SpelledBy (spelling : List Char) : Token σ → Prop
  | number x => Decimal.readLiteral spelling = some x
  | var name _ => spelling = name.toList
  | operator o => spelling = o.symbol.toList
  | function f => spelling = f.name.toList
  | opening => ∃ c, spelling = [c] ∧ Lexer.isOpening c = true
  | closing => ∃ c, spelling = [c] ∧ Lexer.isClosing c = true
  | separator => spelling = [',']

namespace Lexer

/-- The first character is that of an operand. -/
def OperandAt (text : List Char) : Prop :=
  ∃ c rest, text = c :: rest ∧ Unicode.isBlank c = false ∧ (Lead.of c).startsOperand = true

/-- **Lexemes tile a text from a position on**, up to a final position and what is left of the text
there: they carry the positions where they stand, and only blanks are between them. -/
inductive Tiles : Nat → List Char → List (Lexeme σ) → Nat → List Char → Prop where
  | done (position : Nat) (rest : List Char) : Tiles position rest [] position rest
  | blank {position final : Nat} {c : Char} {text rest : List Char} {lexemes : List (Lexeme σ)}
      (blank : Unicode.isBlank c = true) (later : Tiles (position + 1) text lexemes final rest) :
      Tiles position (c :: text) lexemes final rest
  | spelled {position final : Nat} {token : Token σ} {spelling text rest : List Char}
      {lexemes : List (Lexeme σ)} (visible : spelling ≠ []) (spells : token.SpelledBy spelling)
      (later : Tiles (position + spelling.length) text lexemes final rest) :
      Tiles position (spelling ++ text) (⟨token, spelling, position⟩ :: lexemes) final rest
  | implied {position final : Nat} {text rest : List Char} {lexemes : List (Lexeme σ)}
      (operand : OperandAt text) (later : Tiles position text lexemes final rest) :
      Tiles position text (⟨.operator .times, [], position⟩ :: lexemes) final rest

end Lexer

/-- The text goes on with a quotation that is not empty. -/
def Quotes (quotation : String) (text : List Char) : Prop :=
  quotation.toList ≠ [] ∧ quotation.toList <+: text

/-- What an error tells of the place where a reading ends: its position, and what stands there. No
reading ends with an error of any other kind. -/
def Error.FoundAt (text : String) (place : Nat) (rest : List Char) : Error → Prop
  | malformedNumber literal position => position = place ∧ Quotes literal rest
  | unknownName name position quoted => position = place ∧ Quotes name rest ∧ quoted = text
  | unexpectedCharacter c position => position = place ∧ [c] <+: rest
  | ambiguousAdjacency position => position = place ∧ Lexer.OperandAt rest
  | unknownOperator symbol position => position = place ∧ Quotes symbol rest
  | _ => False

namespace Lexer

/-! ## Tilings -/

namespace Tiles

variable {position final : Nat} {text rest : List Char} {lexemes : List (Lexeme σ)}

/-- Blanks in front of a tiling belong to it. -/
theorem blanks {front : List Char} (blank : ∀ c ∈ front, Unicode.isBlank c = true)
    (h : Tiles (position + front.length) text lexemes final rest) :
    Tiles position (front ++ text) lexemes final rest := by
  induction front generalizing position with
  | nil => exact h
  | cons c front ih =>
    refine .blank (blank c List.mem_cons_self) ?_
    refine ih (fun d mem => blank d (List.mem_cons_of_mem _ mem)) ?_
    rwa [List.length_cons, Nat.add_comm front.length, ← Nat.add_assoc] at h

/-- A tiling covers the text up to its final position, and leaves what comes there. -/
theorem covers (h : Tiles position text lexemes final rest) :
    ∃ front, text = front ++ rest ∧ final = position + front.length := by
  induction h with
  | done => exact ⟨[], rfl, rfl⟩
  | @blank _ _ c _ _ _ _ _ ih =>
    obtain ⟨front, rfl, rfl⟩ := ih
    exact ⟨c :: front, rfl, by rw [List.length_cons]; omega⟩
  | @spelled _ _ _ spelling _ _ _ _ _ _ ih =>
    obtain ⟨front, rfl, rfl⟩ := ih
    exact ⟨spelling ++ front, by rw [List.append_assoc], by rw [List.length_append]; omega⟩
  | implied _ _ ih => exact ih

end Tiles

/-! ## One lexeme -/

section Lexemes

variable {symbols : Symbols σ} {position n : Nat} {cs : List Char}

/-- What is found of the lengths up to `n` is within `n`. -/
theorem longest_le {α : Type} {answer : Nat → Option α} {found : α × Nat}
    (h : longest answer n = some found) : found.2 ≤ n := by
  induction n with
  | zero => cases h
  | succ n ih =>
    unfold longest at h
    split at h
    · cases h
      exact Nat.le_refl _
    · exact Nat.le_succ_of_le (ih h)

theorem exponentLength_le (cs : List Char) : exponentLength cs ≤ cs.length := by
  cases cs with
  | nil => exact Nat.le_refl 0
  | cons mark rest =>
    have digits :=
      (List.takeWhile_sublist (l := rest.drop (signLength rest)) Char.isDigit).length_le
    rw [List.length_drop] at digits
    simp only [exponentLength, List.length_cons]
    split
    · split
      · exact Nat.zero_le _
      · rename_i some_digit
        have := Nat.pos_of_ne_zero some_digit
        omega
    · exact Nat.zero_le _

theorem literalLength_le (cs : List Char) : literalLength cs ≤ cs.length := by
  have mantissa : mantissaLength cs ≤ cs.length :=
    (List.takeWhile_sublist isNumeral).length_le
  have after := exponentLength_le (cs.drop (mantissaLength cs))
  rw [List.length_drop] at after
  unfold literalLength
  omega

/-- A literal that is read has the value that it writes. -/
theorem readLiteral_spelled {x : Float} (h : readLiteral position cs = .ok (x, n)) :
    Decimal.readLiteral (cs.take n) = some x ∧ n ≤ cs.length := by
  unfold readLiteral at h
  dsimp only at h
  split at h
  · cases h
  · split at h
    · rename_i value
      cases h
      exact ⟨value, literalLength_le cs⟩
    · cases h

/-- The operator that is looked up for a symbol has this symbol. -/
theorem symbol_of_operator? {operandDue : Bool} {symbol : String} {o : Operator σ}
    (h : symbols.operator? operandDue symbol = some o) : o.symbol = symbol := by
  rcases Symbols.operator?_cases h with declared | ⟨c, arity, rfl, built_in⟩
  · simpa using List.find?_some declared
  · have matched := List.find?_some built_in
    simp only [Bool.and_eq_true, beq_iff_eq] at matched
    exact matched.2

theorem readOperator_spelled {operandDue : Bool} {o : Operator σ}
    (h : readOperator symbols operandDue position cs = .ok (o, n)) :
    cs.take n = o.symbol.toList ∧ n ≤ cs.length := by
  unfold readOperator at h
  split at h
  · rename_i best
    cases h
    have within : n ≤ symbolLength cs :=
      Nat.le_trans (longest_le best) (Nat.min_le_left _ _)
    have run : symbolLength cs ≤ cs.length :=
      (List.takeWhile_sublist Operator.isSymbolCharacter).length_le
    rw [symbol_of_operator? (longest_answer best), String.toList_ofList]
    exact ⟨rfl, Nat.le_trans within run⟩
  · cases h

/-- The function that a name calls has this name. -/
theorem name_of_function? {name : String} {f : Function σ}
    (h : symbols.function? name = some f) : f.name = name := by
  rw [Symbols.function?, Option.orElse_eq_orElse, Option.orElse_eq_or] at h
  rcases Option.or_eq_some_iff.mp h with declared | ⟨-, built_in⟩
  · simpa using List.find?_some declared
  · rw [Function.builtin?] at built_in
    obtain ⟨d, found, rfl⟩ := Option.map_eq_some_iff.mp built_in
    show d.name = name
    simpa using List.find?_some found

theorem readName_le {text : String} {token : Token σ}
    (h : readName symbols text position cs = .ok (token, n)) : n ≤ nameLength cs := by
  unfold readName at h
  split at h
  · rename_i best
    cases h
    exact longest_le best
  · cases h

theorem readName_spelled {text : String} {token : Token σ}
    (h : readName symbols text position cs = .ok (token, n)) :
    token.SpelledBy (cs.take n) ∧ n ≤ cs.length := by
  have found := readName_named h
  have run : nameLength cs ≤ cs.length := (List.takeWhile_sublist Name.isPart).length_le
  refine ⟨?_, Nat.le_trans (readName_le h) run⟩
  unfold named? at found
  dsimp only at found
  split at found
  · rename_i f called
    cases found
    split at called
    · rw [Token.SpelledBy, name_of_function? called, String.toList_ofList]
    · cases called
  · split at found
    · cases found
      exact (String.toList_ofList).symm
    · cases found

end Lexemes

/-- The characters of a class. -/
def Lead.Holds (c : Char) : Lead → Prop
  | numeral => isNumeral c = true
  | separator => c = ','
  | opening => isOpening c = true
  | closing => isClosing c = true
  | symbol => Operator.isSymbolCharacter c = true
  | name => Name.isStart c = true
  | nothing => True

theorem Lead.holds_of (c : Char) : (Lead.of c).Holds c := by
  unfold Lead.of
  split
  · assumption
  · split
    · exact beq_iff_eq.mp ‹_›
    · repeat' split
      all_goals first | assumption | trivial

/-- What a lexeme is read from spells its token. -/
theorem read_spelled {lexer : Lexer σ} {here : Cursor σ} {c : Char} {rest : List Char}
    {token : Token σ} {n : Nat} (front : here.rest = c :: rest)
    (h : lexer.read here c = .ok (token, n)) :
    token.SpelledBy (here.rest.take n) ∧ n ≤ here.rest.length := by
  have kind := Lead.holds_of c
  have one : here.rest.take 1 = [c] ∧ 1 ≤ here.rest.length := by simp [front]
  unfold read at h
  split at h <;> rename_i lead <;> rw [lead] at kind
  · cases literal : readLiteral here.position here.rest with
    | error error =>
      rw [literal] at h
      cases h
    | ok found =>
      rw [literal] at h
      cases h
      exact readLiteral_spelled literal
  · cases h
    exact ⟨one.1.trans (congrArg (fun d => [d]) kind), one.2⟩
  · cases h
    exact ⟨⟨c, one.1, kind⟩, one.2⟩
  · cases h
    exact ⟨⟨c, one.1, kind⟩, one.2⟩
  · cases symbol : readOperator lexer.symbols here.operandDue here.position here.rest with
    | error error =>
      rw [symbol] at h
      cases h
    | ok found =>
      rw [symbol] at h
      cases h
      exact readOperator_spelled symbol
  · exact readName_spelled h
  · cases h

/-- Where a run starts, a quotation of the run is in place. -/
theorem quotes_take {text : List Char} {n : Nat} (some_character : 0 < n) (left : text ≠ []) :
    Quotes (String.ofList (text.take n)) text := by
  rw [Quotes, String.toList_ofList]
  refine ⟨?_, List.take_prefix n text⟩
  rw [Ne, List.take_eq_nil_iff, not_or]
  exact ⟨Nat.ne_of_gt some_character, left⟩

/-- What is wrong with a lexeme is found where the lexeme starts. -/
theorem read_foundAt {lexer : Lexer σ} {here : Cursor σ} {c : Char} {rest : List Char}
    {error : Error} (front : here.rest = c :: rest) (h : lexer.read here c = .error error) :
    error.FoundAt lexer.text here.position here.rest := by
  have kind := Lead.holds_of c
  have left : here.rest ≠ [] := by simp [front]
  unfold read at h
  split at h <;> rename_i lead <;> rw [lead] at kind
  · have some_numeral : 0 < literalLength here.rest := by
      rw [front]
      exact Nat.add_pos_left (mantissaLength_pos kind) _
    unfold readLiteral at h
    dsimp only at h
    split at h
    · cases h
      exact ⟨rfl, quotes_take (by omega) left⟩
    · split at h
      · cases h
      · cases h
        exact ⟨rfl, quotes_take some_numeral left⟩
  · cases h
  · cases h
  · cases h
  · have some_character : 0 < symbolLength here.rest := by
      rw [front, symbolLength, List.takeWhile_cons_of_pos kind]
      exact Nat.succ_pos _
    unfold readOperator at h
    split at h
    · cases h
    · cases h
      exact ⟨rfl, quotes_take some_character left⟩
  · have part : Name.isPart c = true := by
      simp only [Lead.Holds, Name.isStart, Bool.or_eq_true] at kind
      rcases kind with letter | underscore
      · simp [Name.isPart, letter]
      · simp [Name.isPart, underscore]
    have some_character : 0 < nameLength here.rest := by
      rw [front, nameLength, List.takeWhile_cons_of_pos part]
      exact Nat.succ_pos _
    unfold readName at h
    split at h
    · cases h
    · cases h
      exact ⟨rfl, quotes_take some_character left, rfl⟩
  · cases h
    exact ⟨rfl, by simp [front]⟩

/-! ## Steps -/

namespace Cursor

variable {cursor : Cursor σ} {c : Char} {rest : List Char}

/-- No blank comes behind all blanks. -/
theorem visible_of_skipBlanks (front : cursor.skipBlanks.rest = c :: rest) :
    Unicode.isBlank c = false := by
  have stopped := List.head?_dropWhile_not Unicode.isBlank cursor.rest
  change cursor.rest.dropWhile _ = c :: rest at front
  rw [front] at stopped
  simpa using stopped

/-- Where no blank is, none is passed. -/
theorem skipBlanks_of_visible (front : cursor.rest = c :: rest)
    (visible : Unicode.isBlank c = false) : cursor.skipBlanks = cursor := by
  obtain ⟨rest, position, previous⟩ := cursor
  dsimp only at front
  simp [skipBlanks, front, visible]

end Cursor

/-- Where no operand starts after another one, a step reads what the next character starts. -/
theorem next_eq_read {lexer : Lexer σ} {cursor : Cursor σ} {c : Char} {rest : List Char}
    (front : cursor.skipBlanks.rest = c :: rest)
    (unmet : ((Lead.of c).startsOperand && cursor.afterOperand) = false) :
    lexer.next cursor =
      match lexer.read cursor.skipBlanks c with
      | .ok (token, n) => cursor.skipBlanks.take token n
      | .error e => .failed e := by
  have apart : ((Lead.of c).startsOperand && cursor.skipBlanks.afterOperand) = false := unmet
  unfold next
  dsimp only
  rw [front]
  dsimp only
  exact if_neg (by rw [apart]; exact Bool.false_ne_true)

/-- Where an operand starts after another one, the two meet. -/
theorem next_eq_meet {lexer : Lexer σ} {cursor : Cursor σ} {c : Char} {rest : List Char}
    (front : cursor.skipBlanks.rest = c :: rest)
    (meets : ((Lead.of c).startsOperand && cursor.afterOperand) = true) :
    lexer.next cursor = lexer.meet cursor.skipBlanks c := by
  have together : ((Lead.of c).startsOperand && cursor.skipBlanks.afterOperand) = true := meets
  unfold next
  dsimp only
  rw [front]
  exact if_pos together

/-! ## Readings -/

/-- **What a step does to the text**: it extends a tiling of what is left by the lexeme that it
finds, and where it finds none, the text is at its end or at the place of the error. -/
def Step.Advances (text : String) (cursor : Cursor σ) : Step σ → Prop
  | finished =>
    Tiles cursor.position cursor.rest ([] : List (Lexeme σ))
      (cursor.position + cursor.rest.length) []
  | failed error =>
    ∃ place rest, Tiles cursor.position cursor.rest ([] : List (Lexeme σ)) place rest ∧
      error.FoundAt text place rest
  | found lexeme after => ∀ lexemes final rest,
    Tiles after.position after.rest lexemes final rest →
      Tiles cursor.position cursor.rest (lexeme :: lexemes) final rest

theorem next_advances (lexer : Lexer σ) (cursor : Cursor σ) :
    (lexer.next cursor).Advances lexer.text cursor := by
  have skip : ∀ {lexemes : List (Lexeme σ)} {final : Nat} {rest : List Char},
      Tiles cursor.skipBlanks.position cursor.skipBlanks.rest lexemes final rest →
        Tiles cursor.position cursor.rest lexemes final rest := by
    intro lexemes final rest h
    have parts : cursor.rest.takeWhile Unicode.isBlank ++ cursor.skipBlanks.rest = cursor.rest :=
      List.takeWhile_append_dropWhile
    rw [← parts]
    exact .blanks (fun c mem => List.all_eq_true.mp List.all_takeWhile c mem) h
  unfold next
  dsimp only
  cases front : cursor.skipBlanks.rest with
  | nil =>
    have whole : cursor.skipBlanks.position = cursor.position + cursor.rest.length := by
      have parts : cursor.rest.takeWhile Unicode.isBlank ++ cursor.skipBlanks.rest = cursor.rest :=
        List.takeWhile_append_dropWhile
      rw [front, List.append_nil] at parts
      show cursor.position + (cursor.rest.takeWhile Unicode.isBlank).length = _
      rw [parts]
    refine skip ?_
    rw [front, whole]
    exact .done _ _
  | cons c rest =>
    have visible : Unicode.isBlank c = false := Cursor.visible_of_skipBlanks front
    dsimp only
    split
    · rename_i meets
      have operand : OperandAt cursor.skipBlanks.rest :=
        ⟨c, rest, front, visible, (Bool.and_eq_true_iff.mp meets).1⟩
      unfold meet
      split
      · exact fun lexemes final left tiled => skip (.implied operand tiled)
      · exact ⟨_, _, skip (.done _ _), rfl, operand⟩
    · cases outcome : lexer.read cursor.skipBlanks c with
      | error error => exact ⟨_, _, skip (.done _ _), read_foundAt front outcome⟩
      | ok found =>
        obtain ⟨token, n⟩ := found
        intro lexemes final left tiled
        obtain ⟨spells, within⟩ := read_spelled front outcome
        have some_character : 0 < n := read_pos front outcome
        have length : (cursor.skipBlanks.rest.take n).length = n := List.length_take_of_le within
        have some_spelling : cursor.skipBlanks.rest.take n ≠ [] := by
          rw [Ne, ← List.length_eq_zero_iff, length]
          omega
        refine skip ?_
        have parts : cursor.skipBlanks.rest.take n ++ cursor.skipBlanks.rest.drop n =
            cursor.skipBlanks.rest := List.take_append_drop _ _
        have spelled := Tiles.spelled some_spelling spells (by rw [length]; exact tiled)
        rwa [parts] at spelled

/-- A step that finds a lexeme goes on behind some characters of what is left. -/
theorem next_covers {lexer : Lexer σ} {cursor after : Cursor σ} {lexeme : Lexeme σ}
    (h : lexer.next cursor = .found lexeme after) :
    ∃ front, cursor.rest = front ++ after.rest ∧ after.position = cursor.position + front.length := by
  have step := next_advances lexer cursor
  rw [h] at step
  exact (step [] after.position after.rest (.done _ _)).covers

/-- The lexemes of a reading tile the text from its place on. -/
theorem readFrom_tiles (lexer : Lexer σ) (cursor : Cursor σ) :
    ∃ place rest, Tiles cursor.position cursor.rest (lexer.readFrom cursor).lexemes place rest ∧
      match (lexer.readFrom cursor).error? with
      | none => rest = []
      | some error => error.FoundAt lexer.text place rest := by
  have step := next_advances lexer cursor
  rw [readFrom_eq]
  cases stepped : lexer.next cursor with
  | finished =>
    rw [stepped] at step
    exact ⟨_, _, step, rfl⟩
  | failed error =>
    rw [stepped] at step
    obtain ⟨place, rest, tiled, found⟩ := step
    exact ⟨place, rest, tiled, found⟩
  | found lexeme after =>
    rw [stepped] at step
    obtain ⟨place, rest, tiled, ends⟩ := readFrom_tiles lexer after
    exact ⟨place, rest, step _ _ _ tiled, ends⟩
termination_by cursor.weight
decreasing_by exact next_weight stepped

end Lexer

/-- **The lexemes of a text tile it up to the place where its reading ends**: its end if there is no
error, and the place that the error names if there is one, with what the error quotes. -/
theorem readText_tiles (symbols : Symbols σ) (implicit : Bool) (text : String) :
    let reading := Lexer.readText symbols implicit text
    ∃ place ≤ text.toList.length,
      Lexer.Tiles 0 text.toList reading.lexemes place (text.toList.drop place) ∧
        match reading.error? with
        | none => place = text.toList.length
        | some error => error.FoundAt text place (text.toList.drop place) := by
  intro reading
  obtain ⟨place, rest, tiled, ends⟩ :=
    Lexer.readFrom_tiles ⟨symbols, implicit, text⟩ (Lexer.Cursor.start text.toList)
  obtain ⟨front, split, length⟩ := tiled.covers
  have whole : text.toList = front ++ rest := split
  have covered : place = front.length := by
    rw [length]
    exact Nat.zero_add _
  have left : text.toList.drop place = rest := by
    rw [whole, covered, List.drop_left]
  refine ⟨place, ?_, ?_, ?_⟩
  · rw [whole, covered, List.length_append]
    omega
  · rw [left]
    exact tiled
  · rw [left]
    split
    · rename_i no_error
      have at_end : rest = [] := by
        have ended : (Lexer.readFrom ⟨symbols, implicit, text⟩
          (Lexer.Cursor.start text.toList)).error? = none := no_error
        rw [ended] at ends
        exact ends
      rw [whole, covered, at_end, List.append_nil]
    · rename_i error failed
      have ended : (Lexer.readFrom ⟨symbols, implicit, text⟩
        (Lexer.Cursor.start text.toList)).error? = some error := failed
      rw [ended] at ends
      exact ends

end Formula
