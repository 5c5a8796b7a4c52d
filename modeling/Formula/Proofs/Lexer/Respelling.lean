import Formula.Proofs.Lexer.Adjacency
import Formula.Proofs.Lexer.Recognition

/-!
# Texts written again

What was read can be written again, lexeme by lexeme with blanks between them: each in its own
characters, and an implied product with its sign. **The text that is written reads to the same
tokens** (`readText_respelled`), whatever blanks and whatever kinds of brackets are chosen, and
whether products may be implied in it or not.

No run of characters and no look-ahead is the same in the two texts. What is the same is the token
before each token, and nothing else is asked for by what can be read there: **the tokens of every
reading are readable** (`Lexer.readable_readFrom`), those of phrases and of all other texts.

A product sign in the text is an operator like any other. It has to be the built-in one, so that no
other operator may be declared for it.
-/

namespace Formula

variable {σ : Type}

/-- The characters that a lexeme is written with again: its own, or the sign of a product that was
implied. -/
def Lexeme.written (lexeme : Lexeme σ) : List Char :=
  if lexeme.spelling.isEmpty then ['*'] else lexeme.spelling

/-- The lexemes of a reading written again, with a blank after each one. -/
def Reading.written (reading : Reading σ) : String :=
  String.ofList (reading.lexemes.flatMap fun lexeme => lexeme.written ++ [' '])

/-- The sign of the product is that of the built-in operator, if no other one is declared for it. -/
theorem Symbols.operator?_times {symbols : Symbols σ}
    (undeclared : symbols.declaredOperator? "*" = none) (due : Bool) :
    symbols.operator? due "*" = some Operator.times := by
  rw [operator?, undeclared]
  cases due <;> rfl

namespace Lexer

variable {lexer : Lexer σ}

/-! ## What is read is readable -/

/-- **What is read by its name has a name**, which the table knows. -/
theorem name_of_read {here : Cursor σ} {c : Char} {rest : List Char} {token : Token σ} {n : Nat}
    {name : String} (front : here.rest = c :: rest) (lead : Lead.of c = .name)
    (h : lexer.read here c = .ok (token, n)) (spelled : here.rest.take n = name.toList) :
    named? lexer.symbols here.rest n = some token ∧ Name.isValid name = true := by
  have some_character : 0 < n := read_pos front h
  have starts : Name.isStart c = true := by
    have kind := Lead.holds_of c
    rwa [lead] at kind
  have found : readName lexer.symbols lexer.text here.position here.rest = .ok (token, n) := by
    rwa [read, lead] at h
  have parts : ∀ d ∈ name.toList, Name.isPart d = true := by
    intro d mem
    rw [← spelled] at mem
    exact List.all_eq_true.mp List.all_takeWhile d (take_subset_run (readName_le found) mem)
  refine ⟨readName_named found, ?_⟩
  obtain ⟨k, rfl⟩ := Nat.exists_eq_add_one.mpr some_character
  rw [front, List.take_succ_cons] at spelled
  rw [← spelled] at parts
  rw [Name.isValid, ← spelled]
  simp only [starts, Bool.true_and, List.all_eq_true]
  exact fun d mem => parts d (List.mem_cons_of_mem c mem)

/-- **What is read in a place is readable there.** -/
theorem readableAfter_of_read {here : Cursor σ} {c : Char} {rest : List Char} {token : Token σ}
    {n : Nat} (front : here.rest = c :: rest) (h : lexer.read here c = .ok (token, n))
    (unmet : (Lead.of c).startsOperand = true → here.afterOperand = false) :
    token.ReadableAfter lexer.symbols here.previous := by
  have spells : token.SpelledBy (here.rest.take n) := (read_spelled front h).1
  have lead : Lead.of c = Lead.ofToken token := lead_of_read h
  rw [lead] at unmet
  cases token with
  | number x => exact unmet rfl
  | opening => exact unmet rfl
  | operator o => exact operator_of_read front h
  | var name slot =>
    obtain ⟨named, valid⟩ := name_of_read front lead h spells
    rcases named?_cases named with ⟨f, same, -⟩ | ⟨_, same, declared⟩
    · cases same
    · cases same
      exact ⟨unmet rfl, declared, valid, rfl⟩
  | function f =>
    obtain ⟨named, valid⟩ := name_of_read front lead h spells
    rcases named?_cases named with ⟨_, same, -, name, known⟩ | ⟨_, same, -⟩
    · cases same
      obtain rfl := name_of_function? known
      exact ⟨unmet rfl, known, valid⟩
    · cases same
  | _ => trivial

/-- **The tokens of every reading are readable**, if the sign of the product is that of the built-in
operator. -/
theorem readable_readFrom (lexer : Lexer σ)
    (undeclared : lexer.symbols.declaredOperator? "*" = none)
    (cursor : Cursor σ) :
    Readable lexer.symbols cursor.previous (lexer.readFrom cursor).tokens := by
  refine readFrom_induction
    (motive := fun cursor tokens => Readable lexer.symbols cursor.previous tokens) ?_ ?_ cursor
  · intro cursor _
    trivial
  · intro cursor lexeme after stepped rest
    obtain ⟨previous, found⟩ := next_cases stepped
    rw [previous] at rest
    refine ⟨?_, rest⟩
    rcases found with product | ⟨c, _, n, front, read_ok, -, unmet⟩
    · have named : (Token.operator Operator.times).NamedIn lexer.symbols :=
        Operator.namedIn_of_builtin (by simp [Operator.builtins]) undeclared
      rw [product]
      exact ⟨named.1, named.2.1, Symbols.operator?_times undeclared _⟩
    · have here : lexeme.token.ReadableAfter lexer.symbols cursor.skipBlanks.previous :=
        readableAfter_of_read front read_ok unmet
      exact here

/-! ## Lexemes written again -/

/-- Every lexeme of a tiling is spelled by the characters that it is written with again. -/
theorem Tiles.written {position final : Nat} {text rest : List Char} {lexemes : List (Lexeme σ)}
    (tiled : Tiles position text lexemes final rest) :
    ∀ lexeme ∈ lexemes, lexeme.token.SpelledBy lexeme.written := by
  induction tiled with
  | done => exact fun _ mem => nomatch mem
  | blank _ _ ih => exact ih
  | spelled visible spells _ ih =>
    refine List.forall_mem_cons.mpr ⟨?_, ih⟩
    rwa [Lexeme.written, if_neg (by simpa using visible)]
  | implied _ _ ih =>
    refine List.forall_mem_cons.mpr ⟨?_, ih⟩
    show ['*'] = "*".toList
    decide

/-- Lexemes with a blank after each one are spelled with blanks between them. -/
theorem spaced_written {lexemes : List (Lexeme σ)}
    (spells : ∀ lexeme ∈ lexemes, lexeme.token.SpelledBy lexeme.written) :
    Spaced (lexemes.map Lexeme.token)
      (lexemes.flatMap fun lexeme => lexeme.written ++ [' ']) := by
  induction lexemes with
  | nil => exact .done
  | cons lexeme rest ih =>
    obtain ⟨here, later⟩ := List.forall_mem_cons.mp spells
    rw [List.map_cons, List.flatMap_cons, List.append_assoc, List.singleton_append]
    exact .word here (ih later)

end Lexer

/-- **Every text can be written again**, under a table that declares no operator of its own for the
sign of the product. Each lexeme is written with its own characters, brackets of any kind for a
bracket, and the sign of the product for one that was implied, and there are blanks between them.
The new text is read to the end, and to the same tokens, whether products may be implied in it or
not: so operators before an operand stay so, and names name the same functions and variables. Of a
text that is not read to its end, this holds of what was read before the error. -/
theorem readText_respelled {symbols : Symbols σ}
    (undeclared : symbols.declaredOperator? "*" = none) (implicit : Bool) (text : String) :
    let reading := Lexer.readText symbols implicit text
    (∀ lexeme ∈ reading.lexemes, lexeme.token.SpelledBy lexeme.written) ∧
      Lexer.Spaced reading.tokens reading.written.toList ∧
      ∀ again : String, Lexer.Spaced reading.tokens again.toList → ∀ implicit,
        (Lexer.readText symbols implicit again).tokens = reading.tokens ∧
          (Lexer.readText symbols implicit again).error? = none := by
  intro reading
  obtain ⟨place, -, tiled, -⟩ := readText_tiles symbols implicit text
  have spells := tiled.written
  let lexer : Lexer σ := ⟨symbols, implicit, text⟩
  have readable : Readable symbols none reading.tokens :=
    lexer.readable_readFrom undeclared (.start text.toList)
  have called : Called reading.tokens := Lexer.readFrom_called _ _
  refine ⟨spells, ?_, fun again spaced implicit => ?_⟩
  · rw [Reading.written, String.toList_ofList]
    exact Lexer.spaced_written spells
  · exact Lexer.readFrom_spaced spaced readable called

/-- In `f(-x)x!` a product is implied after the closing bracket. With its sign, and with brackets of
other kinds, the text says the same where no product may be implied. -/
theorem readText_respelled_product :
    let fact : Operator Unit := ⟨"!", 1, true, 10001, Rule.ofFunction fun _ => .ok 0⟩
    let f : Function Unit := ⟨"f", 1, true, Rule.ofFunction fun _ => .ok 0⟩
    let symbols : Symbols Unit := ⟨["x"], [f], [fact]⟩
    let tokens : List (Token Unit) :=
      [.function f, .opening, .operator (.before "-" 5000 Float.neg), .var "x" 0, .closing,
        .operator .times, .var "x" 0, .operator fact]
    symbols.declaredOperator? "*" = none ∧
      (Lexer.readText symbols true "f(-x)x!").tokens = tokens ∧
      Lexer.Spaced tokens "f [ - x ) * x !".toList ∧
      (Lexer.readText symbols false "f [ - x ) * x !").tokens = tokens := by
  intro fact f symbols tokens
  have undeclared : symbols.declaredOperator? "*" = none := rfl
  have read : (Lexer.readText symbols true "f(-x)x!").tokens = tokens := by
    subst tokens symbols f fact
    cbv
  have spaced : Lexer.Spaced tokens "f [ - x ) * x !".toList := by
    have words : "f [ - x ) * x !".toList = ['f'] ++ ' ' :: (['['] ++ ' ' :: (['-'] ++
        ' ' :: (['x'] ++ ' ' :: ([')'] ++ ' ' :: (['*'] ++ ' ' :: (['x'] ++ ' ' ::
          (['!'] ++ []))))))) := by
      decide
    have name : (Token.var "x" 0 : Token Unit).SpelledBy ['x'] := by
      show ['x'] = "x".toList
      decide
    rw [words]
    refine .word ?_ (.word ⟨'[', rfl, rfl⟩ (.word ?_ (.word name (.word ⟨')', rfl, rfl⟩ (.word ?_
      (.word name (.token ?_ (by simp) .done)))))))
    · show ['f'] = "f".toList
      decide
    · show ['-'] = "-".toList
      decide
    · show ['*'] = "*".toList
      decide
    · show ['!'] = "!".toList
      decide
  have again := (readText_respelled undeclared true "f(-x)x!").2.2 "f [ - x ) * x !"
  rw [read] at again
  exact ⟨undeclared, read, spaced, (again spaced false).1⟩

end Formula
