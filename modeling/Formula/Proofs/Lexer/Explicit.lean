import Formula.Proofs.Lexer.Tiling
import Mathlib.Data.List.TakeWhile

/-!
# Texts in which no product may be implied

A text can be read with implied products or without. The two readings go together step by step, up
to the first place where an operand starts right after another one (`Lexer.next_explicit`). There
the one goes on with a product sign without characters, and the other one ends.

So **the reading without implied products is the one with them, cut at the first of them**
(`readText_explicit`). Two literals that meet are no such place: nothing is implied between them,
and both readings end there.
-/

namespace Formula

variable {σ : Type}

/-- The lexeme has no characters: it is a product that is implied. -/
def Lexeme.isImplied (lexeme : Lexeme σ) : Bool := lexeme.spelling.isEmpty

/-- **A reading, cut at its first implied product.** It ends with the error of two operands that
meet there. -/
def Reading.explicit (reading : Reading σ) : Reading σ :=
  match reading.lexemes.dropWhile fun lexeme => !lexeme.isImplied with
  | [] => reading
  | product :: _ =>
    ⟨reading.lexemes.takeWhile fun lexeme => !lexeme.isImplied,
      some (.ambiguousAdjacency product.position)⟩

/-- A reading that starts with an operand in this place of the text, or ends there with what is
wrong with it. -/
def Reading.StartsWithOperand (text : String) (place : Nat) : Reading σ → Prop
  | ⟨operand :: _, _⟩ =>
    operand.token.startsOperand = true ∧ operand.isImplied = false ∧ operand.position = place
  | ⟨[], some error⟩ => error.FoundAt text place (text.toList.drop place)
  | ⟨[], none⟩ => False

namespace Reading

variable {reading : Reading σ}

/-- What comes before an implied product is no matter of what comes after. -/
theorem explicit_cons {lexeme : Lexeme σ} (visible : lexeme.isImplied = false)
    (reading : Reading σ) : (reading.cons lexeme).explicit = reading.explicit.cons lexeme := by
  have front : (reading.cons lexeme).lexemes.takeWhile (fun l => !l.isImplied) =
      lexeme :: reading.lexemes.takeWhile fun l => !l.isImplied := by
    simp [cons, visible]
  have back : (reading.cons lexeme).lexemes.dropWhile (fun l => !l.isImplied) =
      reading.lexemes.dropWhile fun l => !l.isImplied := by
    simp [cons, visible]
  unfold explicit
  rw [front, back]
  split <;> rfl

theorem explicit_implied {lexeme : Lexeme σ} (implied : lexeme.isImplied = true)
    (reading : Reading σ) :
    (reading.cons lexeme).explicit = ⟨[], some (.ambiguousAdjacency lexeme.position)⟩ := by
  simp [explicit, cons, implied]

/-- A reading without implied products is not cut. -/
theorem explicit_of_visible (visible : ∀ lexeme ∈ reading.lexemes, lexeme.isImplied = false) :
    reading.explicit = reading := by
  have none_dropped : reading.lexemes.dropWhile (fun lexeme => !lexeme.isImplied) = [] := by
    refine List.dropWhile_eq_nil_iff.mpr fun lexeme mem => ?_
    rw [visible lexeme mem, Bool.not_false]
  rw [explicit, none_dropped]

/-- A reading is cut at the first of its implied products. -/
theorem explicit_of_split {before after : List (Lexeme σ)} {product : Lexeme σ}
    (split : reading.lexemes = before ++ product :: after)
    (visible : ∀ lexeme ∈ before, lexeme.isImplied = false) (implied : product.isImplied = true) :
    reading.explicit = ⟨before, some (.ambiguousAdjacency product.position)⟩ := by
  have shown : ∀ lexeme ∈ before, (!lexeme.isImplied) = true := fun lexeme mem => by
    rw [visible lexeme mem, Bool.not_false]
  rw [explicit, split, List.takeWhile_append_of_pos shown, List.dropWhile_append_of_pos shown]
  simp [implied]

end Reading

namespace Lexer

variable {lexer : Lexer σ}

/-! ## One step -/

/-- The lexer under the same table that implies no product. -/
def explicit (lexer : Lexer σ) : Lexer σ := { lexer with implicit := false }

/-- A step that implies no product: it fails where it would find one. -/
def Step.explicit : Step σ → Step σ
  | finished => finished
  | failed error => failed error
  | found lexeme after =>
    if lexeme.isImplied then failed (.ambiguousAdjacency lexeme.position) else found lexeme after

/-- A lexeme that is read has characters. -/
theorem isImplied_of_read {here : Cursor σ} {c : Char} {rest : List Char} {token : Token σ}
    {n : Nat} (front : here.rest = c :: rest) (h : lexer.read here c = .ok (token, n)) :
    Lexeme.isImplied ⟨token, here.rest.take n, here.position⟩ = false := by
  have some_character : 0 < n := read_pos front h
  cases n with
  | zero => cases some_character
  | succ n => simp [Lexeme.isImplied, front]

/-- **Without implied products a step does the same**, but where it would imply one. -/
theorem next_explicit (implies : lexer.implicit = true) (cursor : Cursor σ) :
    lexer.explicit.next cursor = (lexer.next cursor).explicit := by
  unfold next
  dsimp only
  split
  · rfl
  · rename_i c rest front
    split
    · have off : lexer.explicit.implicit = false := rfl
      unfold meet
      rw [off, implies, Bool.false_and, Bool.true_and, if_neg Bool.false_ne_true]
      -- Where two literals meet, both fail.
      split <;> rfl
    · have same : lexer.explicit.read cursor.skipBlanks c = lexer.read cursor.skipBlanks c := rfl
      rw [same]
      cases outcome : lexer.read cursor.skipBlanks c with
      | error error => rfl
      | ok found =>
        obtain ⟨token, n⟩ := found
        have visible := isImplied_of_read front outcome
        show _ = Step.explicit (.found _ _)
        rw [Step.explicit, visible]
        rfl

/-- An implied product stands where an operand starts, and the reading goes on from there. -/
theorem next_implied {cursor after : Cursor σ} {lexeme : Lexeme σ}
    (h : lexer.next cursor = .found lexeme after) (implied : lexeme.isImplied = true) :
    lexeme.token = .operator .times ∧ after.position = lexeme.position ∧
      after.previous = some (.operator .times) ∧ OperandAt after.rest := by
  unfold next at h
  dsimp only at h
  split at h
  · cases h
  · rename_i c rest front
    split at h
    · rename_i meets
      unfold meet at h
      split at h
      · cases h
        exact ⟨rfl, rfl, rfl, c, rest, front, Cursor.visible_of_skipBlanks front,
          (Bool.and_eq_true_iff.mp meets).1⟩
      · cases h
    · split at h
      · rename_i token n outcome
        cases h
        rw [isImplied_of_read front outcome] at implied
        cases implied
      · cases h

/-- Where an operand starts after no operand, it is what is read next, or what is wrong there. -/
theorem readFrom_operandAt {cursor : Cursor σ} (operand : OperandAt cursor.rest)
    (free : cursor.afterOperand = false)
    (inside : lexer.text.toList.drop cursor.position = cursor.rest) :
    (lexer.readFrom cursor).StartsWithOperand lexer.text cursor.position := by
  obtain ⟨c, rest, front, visible, starts⟩ := operand
  have here : cursor.skipBlanks = cursor := Cursor.skipBlanks_of_visible front visible
  rw [readFrom_eq]
  cases outcome : lexer.read cursor c with
  | error error =>
    have step : lexer.next cursor = .failed error := by
      simp [next, here, front, free, outcome]
    rw [step]
    show error.FoundAt _ _ _
    rw [inside]
    exact read_foundAt front outcome
  | ok found =>
    obtain ⟨token, n⟩ := found
    have step : lexer.next cursor = cursor.take token n := by
      simp [next, here, front, free, outcome]
    rw [step]
    exact ⟨(read_cases outcome).1.trans starts, isImplied_of_read front outcome, rfl⟩

/-! ## Readings -/

/-- **Without implied products a reading is cut at the first of them**, from any place on. -/
theorem readFrom_explicit (implies : lexer.implicit = true) (cursor : Cursor σ) :
    lexer.explicit.readFrom cursor = (lexer.readFrom cursor).explicit := by
  rw [readFrom_eq, readFrom_eq lexer, next_explicit implies]
  cases stepped : lexer.next cursor with
  | finished => rfl
  | failed error => rfl
  | found lexeme after =>
    dsimp only [Step.explicit]
    cases visible : lexeme.isImplied with
    | true => exact (Reading.explicit_implied visible _).symm
    | false =>
      rw [Reading.explicit_cons visible, ← readFrom_explicit implies after]
      rfl
termination_by cursor.weight
decreasing_by exact next_weight stepped

/-- **Behind an implied product the reading goes on with its second operand**, in the place of the
product. -/
theorem readFrom_implied {cursor : Cursor σ}
    (inside : lexer.text.toList.drop cursor.position = cursor.rest)
    {before after : List (Lexeme σ)} {product : Lexeme σ}
    (parts : (lexer.readFrom cursor).lexemes = before ++ product :: after)
    (implied : product.isImplied = true) :
    product.token = .operator .times ∧ OperandAt (lexer.text.toList.drop product.position) ∧
      Reading.StartsWithOperand lexer.text product.position
        ⟨after, (lexer.readFrom cursor).error?⟩ := by
  rw [readFrom_eq] at parts ⊢
  cases stepped : lexer.next cursor with
  | finished =>
    rw [stepped] at parts
    exact absurd parts.symm (by simp)
  | failed error =>
    rw [stepped] at parts
    exact absurd parts.symm (by simp)
  | found lexeme next =>
    rw [stepped] at parts
    have later : lexer.text.toList.drop next.position = next.rest := by
      obtain ⟨front, passed, moved⟩ := next_covers stepped
      rw [moved, ← List.drop_drop, inside, passed, List.drop_left]
    dsimp only [Reading.cons] at parts ⊢
    cases before with
    | nil =>
      obtain ⟨rfl, rfl⟩ := List.cons.inj parts
      obtain ⟨times, place, previous, operand⟩ := next_implied stepped implied
      have free : next.afterOperand = false := by
        rw [Cursor.afterOperand, previous]
        rfl
      rw [← place]
      refine ⟨times, ?_, readFrom_operandAt operand free later⟩
      rw [later]
      exact operand
    | cons first before => exact readFrom_implied later (List.cons.inj parts).2 implied
termination_by cursor.weight
decreasing_by exact next_weight stepped

end Lexer

/-- **A text in which no product may be implied is read as one in which it may, up to the first one
that is.** If none is, the two readings are the same. Else the reading ends in the place of the
first: with the lexemes before it, and the error of two operands that meet where the second one
starts. That operand is what comes next where the product may be implied, or what is wrong in its
place. -/
theorem readText_explicit (symbols : Symbols σ) (text : String) :
    let reading := Lexer.readText symbols true text
    let explicit := Lexer.readText symbols false text
    ((∀ lexeme ∈ reading.lexemes, lexeme.isImplied = false) → explicit = reading) ∧
      ∀ (before after : List (Lexeme σ)) (product : Lexeme σ),
        reading.lexemes = before ++ product :: after →
        (∀ lexeme ∈ before, lexeme.isImplied = false) → product.isImplied = true →
          explicit = ⟨before, some (.ambiguousAdjacency product.position)⟩ ∧
          product.token = .operator .times ∧
          Lexer.OperandAt (text.toList.drop product.position) ∧
          Reading.StartsWithOperand text product.position ⟨after, reading.error?⟩ := by
  intro reading explicit
  have cut : explicit = reading.explicit :=
    @Lexer.readFrom_explicit _ ⟨symbols, true, text⟩ rfl (.start text.toList)
  refine ⟨fun visible => ?_, fun before after product parts visible implied => ⟨?_, ?_⟩⟩
  · rw [cut, Reading.explicit_of_visible visible]
  · rw [cut, Reading.explicit_of_split parts visible implied]
  · exact @Lexer.readFrom_implied _ ⟨symbols, true, text⟩ _ rfl _ _ _ parts implied

/-- In `x + x x y` a product is implied in place six, and one in place eight, before a name that is
not known. Where no product may be implied, the reading ends in place six. In `x + x` nothing is
implied. -/
theorem readText_explicit_names :
    let symbols : Symbols Unit := ⟨["x"], [], []⟩
    let x (position : Nat) : Lexeme Unit := ⟨.var "x" 0, ['x'], position⟩
    let plus : Lexeme Unit := ⟨.operator (.between "+" 500 fun a b => .ok (a + b)), ['+'], 2⟩
    let product (position : Nat) : Lexeme Unit := ⟨.operator .times, [], position⟩
    Lexer.readText symbols true "x + x x y" =
        ⟨[x 0, plus, x 4] ++ product 6 :: [x 6, product 8],
          some (.unknownName "y" 8 "x + x x y")⟩ ∧
      Lexer.readText symbols false "x + x x y" =
        ⟨[x 0, plus, x 4], some (.ambiguousAdjacency 6)⟩ ∧
      Lexer.readText symbols true "x + x" = ⟨[x 0, plus, x 4], none⟩ ∧
      Lexer.readText symbols false "x + x" = ⟨[x 0, plus, x 4], none⟩ := by
  intro symbols x plus product
  have read : Lexer.readText symbols true "x + x x y" =
      ⟨[x 0, plus, x 4] ++ product 6 :: [x 6, product 8],
        some (.unknownName "y" 8 "x + x x y")⟩ := by
    subst symbols x plus product
    cbv
  have sum : Lexer.readText symbols true "x + x" = ⟨[x 0, plus, x 4], none⟩ := by
    subst symbols x plus
    cbv
  have visible : ∀ lexeme ∈ [x 0, plus, x 4], lexeme.isImplied = false := by
    simp [x, plus, Lexeme.isImplied]
  obtain ⟨-, cut⟩ := readText_explicit symbols "x + x x y"
  obtain ⟨same, -⟩ := readText_explicit symbols "x + x"
  rw [read] at cut
  rw [sum] at same
  exact ⟨read, (cut _ _ _ rfl visible rfl).1, sum, same visible⟩

end Formula
