import Formula.Proofs.Lexer.Explicit
import Mathlib.Logic.Function.Iterate

/-!
# A text, item by item

A reading can be asked for in calls, each of which answers with the next item: a lexeme, or the error
that ends the reading. A call carries on where the last one came to, and an error is remembered.

**The calls answer with the items of the reading, in order, and with nothing ever after**
(`Stream.call_remaining`): what remains after a call is what remained before it, without its first
item. So a stream that has come to its end stays there, whatever it is asked.

A call may find a product without characters, so the characters that are left do not bound the calls
that are answered. The weight of the place does (`length_items_le`). Right after such a product its
second operand starts: it is found with all its characters, or found to be wrong (`next_operandAt`).
-/

namespace Formula

variable {σ : Type}

/-- The items of a reading: its lexemes, and the error after them. -/
def Reading.items (reading : Reading σ) : List (Except Error (Lexeme σ)) :=
  reading.lexemes.map .ok ++ reading.error?.toList.map .error

namespace Lexer

/-- A reading under way: the place it has come to, and whether an error has ended it. -/
structure Stream (σ : Type) where
  cursor : Cursor σ
  failed : Bool

variable {lexer : Lexer σ}

namespace Stream

/-- The stream of a text from its start. -/
def start (text : List Char) : Stream σ := ⟨.start text, false⟩

/-- **A call**: the next item, if there is one, and the stream after it. Blanks are passed even where
nothing comes after them. -/
def call (lexer : Lexer σ) (stream : Stream σ) : Option (Except Error (Lexeme σ)) × Stream σ :=
  if stream.failed then (none, stream)
  else
    match lexer.next stream.cursor with
    | .finished => (none, { stream with cursor := stream.cursor.skipBlanks })
    | .failed error => (some (.error error), ⟨stream.cursor.skipBlanks, true⟩)
    | .found lexeme after => (some (.ok lexeme), ⟨after, false⟩)

/-- The answer of a call. -/
def answer (lexer : Lexer σ) (stream : Stream σ) : Option (Except Error (Lexeme σ)) :=
  (stream.call lexer).1

/-- The stream after some calls. -/
def after (lexer : Lexer σ) (calls : Nat) (stream : Stream σ) : Stream σ :=
  (fun stream => (call lexer stream).2)^[calls] stream

/-- The items that a stream has still to answer with. -/
def remaining (lexer : Lexer σ) (stream : Stream σ) : List (Except Error (Lexeme σ)) :=
  if stream.failed then [] else (lexer.readFrom stream.cursor).items

end Stream

/-! ## One call -/

/-- A place that is not blank is the next one that is not. -/
theorem next_skipBlanks (cursor : Cursor σ) :
    lexer.next cursor.skipBlanks = lexer.next cursor := by
  have same : cursor.skipBlanks.skipBlanks = cursor.skipBlanks := by
    cases front : cursor.skipBlanks.rest with
    | nil =>
      simp only [Cursor.skipBlanks] at front ⊢
      simp [front]
    | cons c rest =>
      exact Cursor.skipBlanks_of_visible front (Cursor.visible_of_skipBlanks front)
  rw [next, next, same]

/-- **A call takes the first of the items that remain**, or nothing where none does. -/
theorem Stream.call_remaining (stream : Stream σ) :
    stream.answer lexer = (stream.remaining lexer).head? ∧
      (stream.call lexer).2.remaining lexer = (stream.remaining lexer).tail := by
  obtain ⟨cursor, failed⟩ := stream
  cases failed with
  | true => exact ⟨rfl, rfl⟩
  | false =>
    have here : remaining lexer ⟨cursor, false⟩ = (lexer.readFrom cursor).items := rfl
    rw [here, readFrom_eq, answer, call]
    cases stepped : lexer.next cursor with
    | finished =>
      refine ⟨rfl, ?_⟩
      show (lexer.readFrom cursor.skipBlanks).items = []
      rw [readFrom_finished ((next_skipBlanks cursor).trans stepped)]
      rfl
    | failed error => exact ⟨rfl, rfl⟩
    | found lexeme after => exact ⟨rfl, rfl⟩

/-- After some calls, the items remain that were not among the answers. -/
theorem Stream.remaining_after (stream : Stream σ) (calls : Nat) :
    (stream.after lexer calls).remaining lexer = (stream.remaining lexer).drop calls := by
  induction calls with
  | zero => rfl
  | succ calls ih =>
    rw [after, Function.iterate_succ_apply', ← List.tail_drop, ← ih]
    exact (call_remaining _).2

/-- **The calls answer with the items that remain, one after the other.** -/
theorem Stream.answer_after (stream : Stream σ) (calls : Nat) :
    (stream.after lexer calls).answer lexer = (stream.remaining lexer)[calls]? := by
  rw [(call_remaining _).1, remaining_after, List.head?_drop]

/-- Where an operand starts after no operand, it is found with all its characters, or found to be
wrong. -/
theorem next_operandAt {cursor : Cursor σ} (operand : OperandAt cursor.rest)
    (free : cursor.afterOperand = false) :
    (∃ error, lexer.next cursor = .failed error) ∨
      ∃ lexeme after, lexer.next cursor = .found lexeme after ∧ lexeme.isImplied = false ∧
        cursor.rest = lexeme.spelling ++ after.rest := by
  obtain ⟨c, rest, front, visible, -⟩ := operand
  have here : cursor.skipBlanks = cursor := Cursor.skipBlanks_of_visible front visible
  cases outcome : lexer.read cursor c with
  | error error =>
    exact .inl ⟨error, by simp [next, here, front, free, outcome]⟩
  | ok found =>
    obtain ⟨token, n⟩ := found
    have step : lexer.next cursor = cursor.take token n := by
      simp [next, here, front, free, outcome]
    exact .inr ⟨_, _, step, isImplied_of_read front outcome, (List.take_append_drop n _).symm⟩

/-- What a call that finds a lexeme does: the stream goes on from where the lexeme ends. -/
theorem Stream.next_of_answer {stream : Stream σ} {lexeme : Lexeme σ}
    (h : stream.answer lexer = some (.ok lexeme)) :
    ∃ after, lexer.next stream.cursor = .found lexeme after ∧
      (stream.call lexer).2 = ⟨after, false⟩ := by
  obtain ⟨cursor, failed⟩ := stream
  rw [answer, call] at h
  rw [call]
  cases failed with
  | true => cases h
  | false =>
    cases stepped : lexer.next cursor with
    | finished =>
      rw [stepped] at h
      cases h
    | failed error =>
      rw [stepped] at h
      cases h
    | found found after =>
      rw [stepped] at h
      cases h
      exact ⟨after, rfl, rfl⟩

/-! ## All calls -/

/-- **A reading has no more items than its place has weight**: each lexeme makes it lighter, and an
error is found at a character. -/
theorem length_items_le (lexer : Lexer σ) (cursor : Cursor σ) :
    (lexer.readFrom cursor).items.length ≤ cursor.weight := by
  rw [readFrom_eq]
  cases stepped : lexer.next cursor with
  | finished => exact Nat.zero_le _
  | failed error =>
    have some_character : cursor.rest ≠ [] := by
      intro nothing
      have ended : lexer.next cursor = .finished := by
        simp [next, Cursor.skipBlanks, nothing]
      rw [ended] at stepped
      cases stepped
    have left : 0 < cursor.rest.length := List.length_pos_of_ne_nil some_character
    show 1 ≤ 2 * cursor.rest.length + cursor.afterOperand.toNat
    omega
  | found lexeme after =>
    have lighter : after.weight < cursor.weight := next_weight stepped
    have later : (lexer.readFrom after).items.length ≤ after.weight := length_items_le lexer after
    show (lexer.readFrom after).items.length + 1 ≤ cursor.weight
    omega
termination_by cursor.weight
decreasing_by exact next_weight stepped

/-- **After an implied product its operand is found**, with a character or more, or found to be
wrong. -/
theorem Stream.answer_implied {stream : Stream σ} {product : Lexeme σ}
    (h : stream.answer lexer = some (.ok product)) (implied : product.isImplied = true) :
    let later := (stream.call lexer).2
    product.token = .operator .times ∧
      ((∃ error, later.answer lexer = some (.error error)) ∨
        ∃ lexeme, later.answer lexer = some (.ok lexeme) ∧ lexeme.isImplied = false ∧
          later.cursor.rest = lexeme.spelling ++ (later.call lexer).2.cursor.rest) := by
  obtain ⟨after, stepped, called⟩ := next_of_answer h
  obtain ⟨times, -, previous, operand⟩ := next_implied stepped implied
  have free : after.afterOperand = false := by
    rw [Cursor.afterOperand, previous]
    rfl
  intro later
  have goes_on : later = ⟨after, false⟩ := called
  rw [goes_on, answer, call]
  refine ⟨times, ?_⟩
  rcases next_operandAt operand free with ⟨error, wrong⟩ | ⟨lexeme, last, found, visible, parts⟩
  · rw [wrong]
    exact .inl ⟨error, rfl⟩
  · rw [found]
    exact .inr ⟨lexeme, rfl, visible, parts⟩

end Lexer

/-- An error is the last item of a reading. -/
theorem Reading.length_items_of_error {reading : Reading σ} {place : Nat} {error : Error}
    (h : reading.items[place]? = some (.error error)) : reading.items.length = place + 1 := by
  obtain ⟨lexemes, error?⟩ := reading
  unfold items at h ⊢
  dsimp only at h ⊢
  rcases Nat.lt_or_ge place lexemes.length with before | behind
  · rw [List.getElem?_append_left (by simpa using before), List.getElem?_map,
      List.getElem?_eq_getElem before] at h
    cases h
  · rw [List.getElem?_append_right (by simpa using behind), List.length_map] at h
    cases error? with
    | none => cases h
    | some last =>
      have only : place - lexemes.length < 1 := (List.getElem?_eq_some_iff.mp h).1
      simp only [Option.toList_some, List.map_cons, List.map_nil, List.length_append,
        List.length_map, List.length_singleton]
      omega

/-- **A text is read in a bounded number of calls, and no more comes after that.** The calls answer
with the items of its reading, of which there are no more than twice the characters of the text.
After an error, and after the end, every call answers with nothing. An implied product is no last
item, and no other one follows it: the next call answers with an error, or passes over the characters
of a lexeme, at least one. -/
theorem readText_stream (symbols : Symbols σ) (implicit : Bool) (text : String) :
    let lexer : Lexer σ := ⟨symbols, implicit, text⟩
    let items := (Lexer.readText symbols implicit text).items
    let stream (calls : Nat) := (Lexer.Stream.start text.toList).after lexer calls
    let answer (calls : Nat) := (stream calls).answer lexer
    (∀ calls, answer calls = items[calls]?) ∧ items.length ≤ 2 * text.toList.length ∧
      (∀ calls, (answer calls = none ∨ ∃ error, answer calls = some (.error error)) →
        ∀ later, calls < later → answer later = none) ∧
      ∀ calls product, answer calls = some (.ok product) → product.isImplied = true →
        product.token = .operator .times ∧
          ((∃ error, answer (calls + 1) = some (.error error)) ∨
            ∃ lexeme, answer (calls + 1) = some (.ok lexeme) ∧ lexeme.spelling ≠ [] ∧
              (stream (calls + 1)).cursor.rest =
                lexeme.spelling ++ (stream (calls + 2)).cursor.rest) := by
  intro lexer items stream answer
  have answers : ∀ calls, answer calls = items[calls]? :=
    (Lexer.Stream.start text.toList).answer_after
  refine ⟨answers, Lexer.length_items_le lexer (.start text.toList), ?_, ?_⟩
  · intro calls ended later behind
    rw [answers] at ended ⊢
    rw [List.getElem?_eq_none_iff]
    rcases ended with nothing | ⟨error, failed⟩
    · exact Nat.le_trans (List.getElem?_eq_none_iff.mp nothing) (Nat.le_of_lt behind)
    · rw [Reading.length_items_of_error failed]
      exact behind
  · intro calls product found implied
    have next : ∀ calls, stream (calls + 1) = ((stream calls).call lexer).2 := fun calls =>
      Function.iterate_succ_apply' _ calls _
    obtain ⟨times, operand⟩ := Lexer.Stream.answer_implied found implied
    refine ⟨times, ?_⟩
    show (∃ error, (stream (calls + 1)).answer lexer = _) ∨ ∃ lexeme, _
    rw [next (calls + 1), next calls]
    refine operand.imp_right fun ⟨lexeme, read, visible, parts⟩ => ⟨lexeme, ?_, ?_, parts⟩
    · show (stream (calls + 1)).answer lexer = _
      rw [next calls]
      exact read
    · intro nothing
      rw [Lexeme.isImplied, nothing] at visible
      cases visible

/-- `x y` is read in three calls, if `x` is a variable and `y` is nothing: the second one finds the
product that is implied, and the third one what is wrong with its operand. No call after that is
answered. -/
theorem readText_stream_product :
    let lexer : Lexer Unit := ⟨⟨["x"], [], []⟩, true, "x y"⟩
    let answer (calls : Nat) := ((Lexer.Stream.start "x y".toList).after lexer calls).answer lexer
    answer 0 = some (.ok ⟨.var "x" 0, ['x'], 0⟩) ∧
      answer 1 = some (.ok ⟨.operator .times, [], 2⟩) ∧
      answer 2 = some (.error (.unknownName "y" 2 "x y")) ∧
      (∀ later, 2 < later → answer later = none) ∧
      ((∃ error, answer 2 = some (.error error)) ∨
        ∃ lexeme, answer 2 = some (.ok lexeme) ∧ lexeme.spelling ≠ []) := by
  intro lexer answer
  have read : (Lexer.readText lexer.symbols true "x y").items =
      [.ok ⟨.var "x" 0, ['x'], 0⟩, .ok ⟨.operator .times, [], 2⟩,
        .error (.unknownName "y" 2 "x y")] := by
    subst lexer
    cbv
  obtain ⟨answers, -, ended, implied⟩ := readText_stream lexer.symbols true "x y"
  rw [read] at answers
  have product : answer 1 = some (.ok ⟨.operator .times, [], 2⟩) := answers 1
  have failed : answer 2 = some (.error (.unknownName "y" 2 "x y")) := answers 2
  obtain ⟨-, operand⟩ := implied 1 _ product rfl
  refine ⟨answers 0, product, failed, ended 2 (.inr ⟨_, failed⟩), operand.imp_right ?_⟩
  rintro ⟨lexeme, found, visible, -⟩
  exact ⟨lexeme, found, visible⟩

end Formula
