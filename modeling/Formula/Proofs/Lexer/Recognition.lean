import Formula.Proofs.Lexer.Spelling
import Mathlib.Data.List.Nodup

/-!
# Sentences are read as they are written

A token that is spelled with blanks around it is read back if it may be read after the token before
it (`Token.ReadableAfter`): where an operand starts, none has just been completed, and the symbol of
an operator stands for that operator in this place. **Readable tokens are read back** from every
text that spells them (`Lexer.readFrom_spaced`).

A symbol stands for an operator before an operand or for one between two, and only the token before
it tells which. **In a phrase this is enough**: an operand is due at the start, after an opening
bracket, a separator, and any operator that does not follow an operand, and nowhere else, so that
what stands there is either the start of an operand or an operator before one (`Phrase.inPlace`).

So the tokens of every phrase are read back from every text that spells them with blanks in between,
whether products may be implied or not (`readText_spaced`): where no operand meets another, none is
ever implied.
-/

namespace Formula

variable {σ : Type}

/-! ## Places -/

/-- Whether an operand is due after some tokens, if one is due before them or not. -/
def dueAfter (due : Bool) (tokens : List (Token σ)) : Bool :=
  tokens.foldl (fun _ token => token.awaitsOperand) due

/-- The token may stand where an operand is due, or where none is. What starts an operand stands
where one is due, and so does an operator before one; all other operators stand where none is. -/
def Token.Fits (due : Bool) : Token σ → Prop
  | number _ | var _ _ | function _ | opening => due = true
  | operator o => due = o.precedesOperand
  | closing | separator => True

/-- **Every token may stand where it does**, the first one where an operand is due or not. -/
def InPlace : Bool → List (Token σ) → Prop
  | _, [] => True
  | due, token :: rest => token.Fits due ∧ InPlace token.awaitsOperand rest

theorem inPlace_append {due : Bool} {front back : List (Token σ)} :
    InPlace due (front ++ back) ↔ InPlace due front ∧ InPlace (dueAfter due front) back := by
  induction front generalizing due with
  | nil => simp [InPlace, dueAfter]
  | cons token rest ih =>
    simp only [List.cons_append, InPlace, ih, dueAfter, List.foldl_cons, and_assoc]

/-- Of the tokens before a place, the last one tells whether an operand is due there. -/
theorem dueAfter_eq (due : Bool) (tokens : List (Token σ)) :
    dueAfter due tokens = (tokens.getLast?.map Token.awaitsOperand).getD due := by
  rcases List.eq_nil_or_concat tokens with rfl | ⟨front, last, rfl⟩
  · rfl
  · simp [dueAfter]

namespace Phrase

variable {takes : Function σ → Nat → Prop} {category : Category} {tokens : List (Token σ)}

/-- After an operand none is due. -/
theorem dueAfter_operand (h : Phrase takes .operand tokens) (due : Bool) :
    dueAfter due tokens = false := by
  have proper : ∀ n, Category.operand ≠ .arguments n := by
    intro n same
    cases same
  obtain ⟨front, last, rfl, complete⟩ := h.exists_last proper
  rw [dueAfter, List.foldl_append]
  exact complete

/-- **In a phrase, every token may stand where it does.** -/
theorem inPlace (h : Phrase takes category tokens) : InPlace true tokens := by
  induction h with
  | single _ ih => exact ih
  | @between left right o operand kind _ first rest =>
    have binary := Operator.isUnary_of_standsBetween kind
    have precedes : o.precedesOperand = false := by simp [Operator.precedesOperand, binary]
    have awaits : (Token.operator o).awaitsOperand = true := by
      simp [Token.awaitsOperand, Operator.followsOperand, binary]
    rw [inPlace_append, operand.dueAfter_operand, InPlace, awaits]
    exact ⟨first, precedes.symm, rest⟩
  | plain _ ih => exact ih
  | @before o tokens kind _ ih =>
    have awaits : (Token.operator o).awaitsOperand = true := by
      rw [Token.awaitsOperand, Operator.followsOperand_of_precedesOperand kind]
      rfl
    rw [InPlace, awaits]
    exact ⟨kind.symm, ih⟩
  | @after o tokens operand kind ih =>
    have precedes : o.precedesOperand = false :=
      eq_false_of_excludes Operator.followsOperand_of_precedesOperand kind
    rw [inPlace_append, operand.dueAfter_operand]
    exact ⟨ih, precedes.symm, trivial⟩
  | number x => exact ⟨rfl, trivial⟩
  | var name slot => exact ⟨rfl, trivial⟩
  | group _ ih => exact ⟨rfl, inPlace_append.mpr ⟨ih, trivial, trivial⟩⟩
  | call _ _ ih => exact ⟨rfl, rfl, inPlace_append.mpr ⟨ih, trivial, trivial⟩⟩
  | none => trivial
  | one _ ih => exact ih
  | more _ _ argument later =>
    rw [inPlace_append]
    exact ⟨argument, trivial, later⟩

/-- After every function of a phrase comes its bracket. -/
theorem called (h : Phrase takes category tokens) : Called tokens := by
  induction h with
  | single _ ih => exact ih
  | between _ _ _ first rest => exact first.append rest
  | plain _ ih => exact ih
  | before _ _ ih => exact ih
  | after _ _ ih => exact ih.append trivial
  | number x => trivial
  | var name slot => trivial
  | group _ ih => exact ih.append trivial
  | call _ _ ih => exact ⟨⟨_, rfl⟩, ih.append trivial⟩
  | none => trivial
  | one _ ih => exact ih
  | more _ _ argument later => exact argument.append later

end Phrase

/-! ## Names and symbols -/

/-- The table knows the token by its name or its symbol: a variable that is declared under a valid
name, a function that is called by a valid name, and an operator that is declared for its symbol, or
built in where none is. -/
def Token.NamedIn (symbols : Symbols σ) : Token σ → Prop
  | var name slot => symbols.isVariable name = true ∧ Name.isValid name = true ∧ slot = 0
  | function f => symbols.function? f.name = some f ∧ Name.isValid f.name = true
  | operator o =>
    o.symbol.toList ≠ [] ∧ (∀ c ∈ o.symbol.toList, Operator.isSymbolCharacter c = true) ∧
      (symbols.declaredOperator? o.symbol = some o ∨
        symbols.declaredOperator? o.symbol = none ∧ o ∈ Operator.builtins)
  | number _ | opening | closing | separator => True

namespace Operator

/-- No two built-in operators share both their symbol and their number of operands. -/
theorem keys_builtins : (builtins (σ := σ)).map (fun o => (o.symbol, o.arity)) =
    [("+", 2), ("-", 2), ("*", 2), ("/", 2), ("%", 2), ("^", 2), ("-", 1), ("+", 1), ("&", 2),
      ("|", 2), ("¬", 1)] := rfl

/-- A built-in operator has a symbol of one character, and is found for it. -/
theorem builtin?_of_mem {o : Operator σ} (mem : o ∈ builtins) :
    ∃ c, o.symbol.toList = [c] ∧ builtin? c o.arity = some o := by
  have key : (o.symbol, o.arity) ∈ (builtins (σ := σ)).map fun o => (o.symbol, o.arity) :=
    List.mem_map_of_mem mem
  have single : ∀ key ∈ (builtins (σ := σ)).map fun o => (o.symbol, o.arity),
      key.1.toList.length = 1 := by
    rw [keys_builtins]
    decide
  have distinct : ((builtins (σ := σ)).map fun o => (o.symbol, o.arity)).Nodup := by
    rw [keys_builtins]
    decide
  obtain ⟨c, symbol⟩ := List.length_eq_one_iff.mp (single _ key)
  have singleton : o.symbol = String.singleton c := by
    apply String.ext
    rw [symbol, String.toList_singleton]
  refine ⟨c, symbol, ?_⟩
  unfold builtin?
  cases found : builtins.find? fun p => p.arity == o.arity && p.symbol == String.singleton c with
  | none =>
    have missed := List.find?_eq_none.mp found o mem
    simp [singleton] at missed
  | some p =>
    have matched := List.find?_some found
    simp only [Bool.and_eq_true, beq_iff_eq] at matched
    have same : (p.symbol, p.arity) = (o.symbol, o.arity) := by
      rw [matched.1, matched.2, singleton]
    exact congrArg some
      (List.inj_on_of_nodup_map distinct (List.mem_of_find?_eq_some found) mem same)

/-- A built-in operator of one operand stands before it. -/
theorem arity_of_precedesOperand {o : Operator σ} (mem : o ∈ builtins) :
    o.arity = if o.precedesOperand then 1 else 2 := by
  have follows := followsOperand_of_builtin mem
  rcases arity_of_builtin mem with one | two
  · have unary : o.isUnary = true := by simp [isUnary, one]
    rw [followsOperand, unary, Bool.true_and] at follows
    rw [precedesOperand, unary, follows, one]
    rfl
  · have binary : o.isUnary = false := by simp [isUnary, two]
    rw [precedesOperand, binary, two]
    rfl

end Operator

/-- The table knows a built-in operator, unless another one is declared for its symbol. -/
theorem Operator.namedIn_of_builtin {symbols : Symbols σ} {o : Operator σ} (mem : o ∈ builtins)
    (undeclared : symbols.declaredOperator? o.symbol = none) :
    (Token.operator o).NamedIn symbols := by
  have characters : ∀ key ∈ (builtins (σ := σ)).map fun o => (o.symbol, o.arity),
      key.1.toList ≠ [] ∧ key.1.toList.all isSymbolCharacter = true := by
    rw [keys_builtins]
    decide
  obtain ⟨some_character, valid⟩ := characters _ (List.mem_map_of_mem mem)
  exact ⟨some_character, List.all_eq_true.mp valid, .inr ⟨undeclared, mem⟩⟩

/-- **The table has the operator for its symbol**, where it may stand. -/
theorem Symbols.operator?_of_namedIn {symbols : Symbols σ} {o : Operator σ} {due : Bool}
    (named : (Token.operator o).NamedIn symbols) (fits : (Token.operator o).Fits due) :
    symbols.operator? due o.symbol = some o := by
  obtain ⟨-, -, declared | ⟨undeclared, built_in⟩⟩ := named
  · rw [operator?, declared]
  · obtain ⟨c, symbol, found⟩ := Operator.builtin?_of_mem built_in
    have due_eq : due = o.precedesOperand := fits
    rw [operator?, undeclared, symbol, due_eq, ← Operator.arity_of_precedesOperand built_in]
    dsimp only
    rw [found]
    rfl

/-! ## Tokens one after the other -/

/-- **The token may be read after the previous one**: no operand has just been completed where one
starts, the table has the token for its name or its symbol, and the symbol stands for this operator
in this place. -/
def Token.ReadableAfter (symbols : Symbols σ) (previous : Option (Token σ)) : Token σ → Prop
  | number _ | opening => previous.any endsOperand = false
  | var name slot =>
    previous.any endsOperand = false ∧ symbols.isVariable name = true ∧
      Name.isValid name = true ∧ slot = 0
  | function f =>
    previous.any endsOperand = false ∧ symbols.function? f.name = some f ∧
      Name.isValid f.name = true
  | operator o =>
    o.symbol.toList ≠ [] ∧ (∀ c ∈ o.symbol.toList, Operator.isSymbolCharacter c = true) ∧
      symbols.operator? (previous.all awaitsOperand) o.symbol = some o
  | closing | separator => True

/-- **Every token may be read after the one before it**, the first one after the previous one. -/
def Readable (symbols : Symbols σ) : Option (Token σ) → List (Token σ) → Prop
  | _, [] => True
  | previous, token :: rest =>
    token.ReadableAfter symbols previous ∧ Readable symbols (some token) rest

/-- Where an operand is due, none has just been completed. -/
theorem any_endsOperand_of_due {previous : Option (Token σ)}
    (due : previous.all Token.awaitsOperand = true) : previous.any Token.endsOperand = false := by
  cases previous with
  | none => rfl
  | some token => cases token <;> first | rfl | cases due

/-- Tokens that the table knows are readable if they may stand where they do. -/
theorem readable_of_inPlace {symbols : Symbols σ} {tokens : List (Token σ)}
    {previous : Option (Token σ)} (named : ∀ token ∈ tokens, token.NamedIn symbols)
    (placed : InPlace (previous.all Token.awaitsOperand) tokens) :
    Readable symbols previous tokens := by
  induction tokens generalizing previous with
  | nil => trivial
  | cons token rest ih =>
    obtain ⟨here, placed⟩ := placed
    obtain ⟨known, named⟩ := List.forall_mem_cons.mp named
    refine ⟨?_, ih named placed⟩
    cases token with
    | number x => exact any_endsOperand_of_due here
    | opening => exact any_endsOperand_of_due here
    | var name slot => exact ⟨any_endsOperand_of_due here, known⟩
    | function f => exact ⟨any_endsOperand_of_due here, known⟩
    | operator o => exact ⟨known.1, known.2.1, Symbols.operator?_of_namedIn known here⟩
    | _ => trivial

/-! ## Texts -/

namespace Lexer

/-- **Tokens spelled with blanks between them**: each in one of its spellings, with a blank after it
or the end of the text. -/
inductive Spaced : List (Token σ) → List Char → Prop where
  | done : Spaced [] []
  | blank {tokens : List (Token σ)} {c : Char} {text : List Char}
      (blank : Unicode.isBlank c = true) (later : Spaced tokens text) : Spaced tokens (c :: text)
  | token {token : Token σ} {tokens : List (Token σ)} {spelling text : List Char}
      (spells : token.SpelledBy spelling)
      (apart : ∀ c ∈ text.head?, Unicode.isBlank c = true) (later : Spaced tokens text) :
      Spaced (token :: tokens) (spelling ++ text)

variable {lexer : Lexer σ} {tokens : List (Token σ)} {text : List Char}

/-- One blank is enough. -/
theorem Spaced.word {token : Token σ} {spelling : List Char} (spells : token.SpelledBy spelling)
    (later : Spaced tokens text) : Spaced (token :: tokens) (spelling ++ ' ' :: text) := by
  refine .token spells ?_ (.blank (by decide) later)
  rintro c ⟨⟩
  decide

theorem opensNext_cons {c : Char} (visible : Unicode.isBlank c = false) (text : List Char) :
    opensNext (c :: text) = isOpening c := by
  simp [opensNext, visible]

theorem opensNext_blank {c : Char} (blank : Unicode.isBlank c = true) (text : List Char) :
    opensNext (c :: text) = opensNext text := by
  simp [opensNext, blank]

/-- Where the next token is a bracket that opens, it comes next. -/
theorem opensNext_of_spaced (spaced : Spaced (.opening :: tokens) text) :
    opensNext text = true := by
  generalize whole : Token.opening :: tokens = all at spaced
  induction spaced with
  | done => cases whole
  | blank blank _ ih => rw [opensNext_blank blank, ih whole]
  | token spells _ _ _ =>
    cases whole
    obtain ⟨c, rfl, opens⟩ := spells
    rw [List.singleton_append, opensNext_cons (lead_of_isOpening opens).1, opens]

/-- Where an operand has just been completed, no bracket opens next. -/
theorem opensNext_eq_false_of_readable (spaced : Spaced tokens text)
    {previous : Option (Token σ)} (complete : previous.any Token.endsOperand = true)
    (readable : Readable lexer.symbols previous tokens) : opensNext text = false := by
  have closed : ∀ {c : Char}, Lead.of c ≠ .opening → isOpening c = false := by
    intro c lead
    apply Bool.eq_false_iff.mpr
    intro opens
    exact lead (lead_of_isOpening opens).2
  have crowded : previous.any Token.endsOperand ≠ false := by simp [complete]
  induction spaced with
  | done => rfl
  | blank blank _ ih => rw [opensNext_blank blank, ih readable]
  | @token token tokens spelling text spells _ _ _ =>
    cases token with
    | operator o =>
      obtain ⟨some_character, characters, -⟩ := readable.1
      obtain ⟨c, more, symbol⟩ := List.exists_cons_of_ne_nil some_character
      have kind := lead_of_isSymbolCharacter (characters c (by simp [symbol]))
      have spelled : spelling = o.symbol.toList := spells
      rw [spelled, symbol, List.cons_append, opensNext_cons kind.1]
      exact closed (by rw [kind.2.2.2.2]; decide)
    | closing =>
      obtain ⟨c, rfl, closes⟩ := spells
      obtain ⟨visible, lead⟩ := lead_of_isClosing closes
      rw [List.singleton_append, opensNext_cons visible]
      exact closed (by rw [lead]; decide)
    | separator =>
      cases spells
      rfl
    | number x => exact absurd readable.1 crowded
    | opening => exact absurd readable.1 crowded
    | var name slot => exact absurd readable.1.1 crowded
    | function f => exact absurd readable.1.1 crowded

/-- **A step reads a token that may be read there**, if its spelling stands alone. -/
theorem next_spelled {token : Token σ} {spelling : List Char} {position : Nat}
    {previous : Option (Token σ)} (spells : token.SpelledBy spelling)
    (apart : ∀ c ∈ text.head?, Unicode.isBlank c = true) (later : Spaced tokens text)
    (readable : Readable lexer.symbols previous (token :: tokens))
    (called : Called (token :: tokens)) :
    lexer.next ⟨spelling ++ text, position, previous⟩ =
      .found ⟨token, spelling, position⟩ ⟨text, position + spelling.length, some token⟩ := by
  have name_ends : ∀ c ∈ text.head?, Name.isPart c = false :=
    fun c next => Name.isPart_eq_false_of_isBlank (apart c next)
  obtain ⟨here, after⟩ := readable
  cases token with
  | number x =>
    exact next_number spells here fun c next => endsLiteral_of_isBlank (apart c next)
  | var name slot =>
    obtain ⟨unmet, declared, valid, rfl⟩ := here
    have closed : opensNext text = false := opensNext_eq_false_of_readable later rfl after
    have spelled : spelling = name.toList := spells
    subst spelled
    apply next_name valid unmet name_ends
    simp [named?, closed, declared]
  | function f =>
    obtain ⟨unmet, known, valid⟩ := here
    obtain ⟨⟨rest, rfl⟩, -⟩ := called
    have opens : opensNext text = true := opensNext_of_spaced later
    have spelled : spelling = f.name.toList := spells
    subst spelled
    apply next_name valid unmet name_ends
    simp [named?, opens, known]
  | operator o =>
    obtain ⟨some_character, characters, known⟩ := here
    have spelled : spelling = o.symbol.toList := spells
    subst spelled
    refine next_symbol some_character characters ?_ ?_
    · exact fun c next => isSymbolCharacter_eq_false_of_isBlank (apart c next)
    · rw [String.ofList_toList]
      exact known
  | opening =>
    obtain ⟨c, rfl, opens⟩ := spells
    obtain ⟨visible, lead⟩ := lead_of_isOpening opens
    exact next_single visible (.inl ⟨lead, rfl, here⟩)
  | closing =>
    obtain ⟨c, rfl, closes⟩ := spells
    obtain ⟨visible, lead⟩ := lead_of_isClosing closes
    exact next_single visible (.inr (.inl ⟨lead, rfl⟩))
  | separator =>
    cases spells
    exact next_single (by decide) (.inr (.inr ⟨by decide, rfl⟩))

/-- A blank is skipped. -/
theorem readFrom_blank {c : Char} (blank : Unicode.isBlank c = true) (text : List Char)
    (position : Nat) (previous : Option (Token σ)) :
    lexer.readFrom ⟨c :: text, position, previous⟩ =
      lexer.readFrom ⟨text, position + 1, previous⟩ := by
  have same : Cursor.skipBlanks ⟨c :: text, position, previous⟩ =
      Cursor.skipBlanks ⟨text, position + 1, previous⟩ := by
    simp only [Cursor.skipBlanks, List.dropWhile_cons_of_pos blank,
      List.takeWhile_cons_of_pos blank, List.length_cons]
    rw [Nat.add_assoc, Nat.add_comm 1]
  have step : lexer.next ⟨c :: text, position, previous⟩ =
      lexer.next ⟨text, position + 1, previous⟩ := by
    rw [next, next, same]
  rw [readFrom_eq, readFrom_eq, step]

/-- **Readable tokens are read back** from where they are spelled. -/
theorem readFrom_spaced (spaced : Spaced tokens text) {position : Nat}
    {previous : Option (Token σ)} (readable : Readable lexer.symbols previous tokens)
    (called : Called tokens) :
    (lexer.readFrom ⟨text, position, previous⟩).tokens = tokens ∧
      (lexer.readFrom ⟨text, position, previous⟩).error? = none := by
  induction spaced generalizing position previous with
  | done =>
    have ended : lexer.next ⟨[], position, previous⟩ = .finished := rfl
    rw [readFrom_finished ended]
    exact ⟨rfl, rfl⟩
  | blank blank _ ih =>
    rw [readFrom_blank blank]
    exact ih readable called
  | @token token tokens spelling text spells apart later ih =>
    have step : lexer.next ⟨spelling ++ text, position, previous⟩ =
        .found ⟨token, spelling, position⟩ ⟨text, position + spelling.length, some token⟩ :=
      next_spelled spells apart later readable called
    have called_later : Called tokens := Called.of_append [token] called
    obtain ⟨read, ended⟩ :
        (lexer.readFrom ⟨text, position + spelling.length, some token⟩).tokens = tokens ∧
          (lexer.readFrom ⟨text, position + spelling.length, some token⟩).error? = none :=
      ih readable.2 called_later
    rw [readFrom_found step]
    exact ⟨congrArg (token :: ·) read, ended⟩

end Lexer

/-- **Every phrase is read as it is written**, with blanks between its tokens, in whatever spellings
they have, and whether products may be implied or not. So an operator stands before an operand
exactly where one is due, and of the symbols that are not declared, those of one operand do. -/
theorem readText_spaced {symbols : Symbols σ} {tokens : List (Token σ)} {text : String}
    (expression : Phrase (fun _ _ => True) .expression tokens)
    (named : ∀ token ∈ tokens, token.NamedIn symbols)
    (spaced : Lexer.Spaced tokens text.toList) :
    (∀ implicit, (Lexer.readText symbols implicit text).tokens = tokens ∧
        (Lexer.readText symbols implicit text).error? = none) ∧
      ∀ front o back, tokens = front ++ .operator o :: back →
        (o.precedesOperand = true ↔ front.getLast?.all Token.awaitsOperand = true) ∧
          (symbols.declaredOperator? o.symbol = none → o.isUnary = o.precedesOperand) := by
  have placed := expression.inPlace
  refine ⟨fun implicit => ?_, fun front o back split => ⟨?_, fun undeclared => ?_⟩⟩
  · exact Lexer.readFrom_spaced spaced (readable_of_inPlace named placed) expression.called
  · rw [split, inPlace_append, dueAfter_eq] at placed
    have fits : (front.getLast?.map Token.awaitsOperand).getD true = o.precedesOperand := placed.2.1
    rw [← fits]
    cases front.getLast? <;> rfl
  · obtain ⟨-, -, declared | ⟨-, built_in⟩⟩ := named (.operator o) (by simp [split])
    · rw [undeclared] at declared
      cases declared
    · rw [Operator.isUnary, Operator.arity_of_precedesOperand built_in]
      cases o.precedesOperand <;> rfl

/-- In `- [ 1 - + x ! ) - f { }` signs of both kinds stand after one another, and brackets of three
kinds. -/
theorem readText_spaced_signs :
    let fact : Operator Unit := ⟨"!", 1, true, 10001, Rule.ofFunction fun _ => .ok 0⟩
    let f : Function Unit := ⟨"f", 2, true, Rule.ofFunction fun _ => .ok 0⟩
    let symbols : Symbols Unit := ⟨["x"], [f], [fact]⟩
    let minus : Operator Unit := .between "-" 500 fun x y => .ok (x - y)
    let negative : Operator Unit := .before "-" 5000 Float.neg
    let positive : Operator Unit := .before "+" 5000 id
    let tokens (one : Float) : List (Token Unit) :=
      [.operator negative, .opening, .number one, .operator minus, .operator positive, .var "x" 0,
        .operator fact, .closing, .operator minus, .function f, .opening, .closing]
    let text := "- [ 1 - + x ! ) - f { }"
    ∃ one, Decimal.readLiteral ['1'] = some one ∧
      Phrase (fun _ _ => True) .expression (tokens one) ∧
      (∀ token ∈ tokens one, token.NamedIn symbols) ∧ Lexer.Spaced (tokens one) text.toList ∧
      ∀ implicit, (Lexer.readText symbols implicit text).tokens = tokens one := by
  intro fact f symbols minus negative positive tokens text
  obtain ⟨one, value⟩ : ∃ one, Decimal.readLiteral ['1'] = some one := ⟨_, rfl⟩
  have expression : Phrase (fun _ _ => True) .expression (tokens one) := by
    have raised : Phrase (fun _ _ => True) .operand
        [.operator positive, .var "x" 0, .operator fact] :=
      .before rfl (.after (.plain (.var "x" 0)) rfl)
    have difference : Phrase (fun _ _ => True) .expression
        [.number one, .operator minus, .operator positive, .var "x" 0, .operator fact] :=
      .between (.plain (.number one)) rfl (.single raised)
    have call : Phrase (fun _ _ => True) .primary [.function f, .opening, .closing] :=
      .call trivial .none
    exact .between (.before rfl (.plain (.group difference))) rfl (.single (.plain call))
  have built_in : ∀ o ∈ [minus, negative, positive], (Token.operator o).NamedIn symbols := by
    intro o mem
    apply Operator.namedIn_of_builtin
    · simp only [List.mem_cons, List.not_mem_nil, or_false] at mem
      rcases mem with rfl | rfl | rfl <;>
        simp [Operator.builtins, minus, negative, positive]
    · simp only [List.mem_cons, List.not_mem_nil, or_false] at mem
      rcases mem with rfl | rfl | rfl <;> rfl
  have named : ∀ token ∈ tokens one, token.NamedIn symbols := by
    simp only [tokens, List.forall_mem_cons, List.not_mem_nil, false_imp_iff, implies_true,
      and_true]
    have declared : (Token.operator fact).NamedIn symbols := by
      refine ⟨by decide, List.all_eq_true.mp (by decide), .inl ?_⟩
      rfl
    refine ⟨built_in _ (by simp), trivial, trivial, built_in _ (by simp), built_in _ (by simp),
      ⟨by decide, by decide +kernel, rfl⟩, declared, trivial, built_in _ (by simp),
      ⟨?_, by decide +kernel⟩, trivial, trivial⟩
    rfl
  have spaced : Lexer.Spaced (tokens one) text.toList := by
    have words : text.toList = ['-'] ++ ' ' :: (['['] ++ ' ' :: (['1'] ++ ' ' :: (['-'] ++
        ' ' :: (['+'] ++ ' ' :: (['x'] ++ ' ' :: (['!'] ++ ' ' :: ([')'] ++ ' ' :: (['-'] ++
          ' ' :: (['f'] ++ ' ' :: (['{'] ++ ' ' :: (['}'] ++ []))))))))))) := by
      subst text
      decide
    have minus_sign : (Token.operator minus).SpelledBy ['-'] := by
      show ['-'] = "-".toList
      decide
    rw [words]
    refine .word minus_sign (.word ⟨'[', rfl, rfl⟩ (.word value (.word minus_sign (.word ?_
      (.word ?_ (.word ?_ (.word ⟨')', rfl, rfl⟩ (.word minus_sign (.word ?_ (.word ⟨'{', rfl, rfl⟩
        (.token ⟨'}', rfl, rfl⟩ (by simp) .done)))))))))))
    · show ['+'] = "+".toList
      decide
    · show ['x'] = "x".toList
      decide
    · show ['!'] = "!".toList
      decide
    · show ['f'] = "f".toList
      decide
  exact ⟨one, value, expression, named, spaced, fun implicit =>
    ((readText_spaced expression named spaced).1 implicit).1⟩

end Formula
