import Formula.Proofs.Conversion.Faults
import Formula.Proofs.Lexer.Similar

/-!
# Texts that fail alike

Two texts that differ in the kinds of their brackets only, read under two tables that declare the
same names and symbols, whatever these stand for, are read to tokens of the same shapes
(`Lexer.readText_alike`). What an operator is, and how it binds, has a part in which operator of a
symbol is read, and none in where the reading goes on.

So one of them is converted if the other is, and else both fail for the same reason
(`compileText_firstFault`). The two errors are the same but for the text that they quote.
-/

namespace Formula

variable {σ : Type}

/-- What a token is, whatever it stands for. -/
inductive Token.Shape where
  | number
  | var
  | operator
  | function
  | opening
  | closing
  | separator

/-- The shape of a token. -/
def Token.shape : Token σ → Token.Shape
  | number _ => .number
  | var _ _ => .var
  | operator _ => .operator
  | function _ => .function
  | opening => .opening
  | closing => .closing
  | separator => .separator

/-- The error about another text. -/
def Error.quoting (text : String) : Error → Error
  | .unknownName name position _ => .unknownName name position text
  | error => error

/-- **Two tables with the same names and symbols**, whatever these stand for. -/
structure Symbols.Alike (symbols other : Symbols σ) : Prop where
  vars : ∀ name, symbols.isVariable name = other.isVariable name
  functions : ∀ name, (symbols.function? name).isSome = (other.function? name).isSome
  operators : ∀ due symbol,
    (symbols.operator? due symbol).isSome = (other.operator? due symbol).isSome

/-- **Two readings of tokens of the same shapes** that end alike. -/
structure Reading.Alike (text : String) (reading other : Reading σ) : Prop where
  shapes : reading.tokens.map Token.shape = other.tokens.map Token.shape
  error : other.error? = reading.error?.map (Error.quoting text)

namespace Lexer

/-! ## Lexemes -/

/-- What comes of one text beside what comes of the other: related results, or the same error about
the other text. -/
def Agree {α β : Type} (text : String) (related : α → β → Prop) :
    Except Error α → Except Error β → Prop
  | .ok a, .ok b => related a b
  | .error error, .error other => other = error.quoting text
  | .ok _, .error _ | .error _, .ok _ => False

theorem Agree.map {α β α' β' : Type} {text : String} {related : α → β → Prop}
    {images : α' → β' → Prop} {f : α → α'} {g : β → β'} {result : Except Error α}
    {other : Except Error β} (agree : Agree text related result other)
    (maps : ∀ a b, related a b → images (f a) (g b)) :
    Agree text images (result.map f) (other.map g) := by
  cases result with
  | error error =>
    cases other with
    | error error' => exact agree
    | ok b => cases agree
  | ok a =>
    cases other with
    | error error => cases agree
    | ok b => exact maps a b agree

/-- Where the answers to all lengths are related, so are the longest ones, of one length. -/
theorem longest_alike {α β : Type} {related : α → β → Prop} {answer : Nat → Option α}
    {answer' : Nat → Option β} {n : Nat}
    (alike : ∀ k, k ≤ n → Option.Rel related (answer k) (answer' k)) :
    Option.Rel (fun a b => related a.1 b.1 ∧ a.2 = b.2) (longest answer n)
      (longest answer' n) := by
  induction n with
  | zero => exact .none
  | succ n ih =>
    have here := alike (n + 1) (Nat.le_refl _)
    have shorter := ih fun k le => alike k (Nat.le_succ_of_le le)
    unfold longest
    generalize answer (n + 1) = first at here ⊢
    generalize answer' (n + 1) = second at here ⊢
    cases here with
    | some related => exact .some ⟨related, rfl⟩
    | none => exact shorter

theorem rel_of_isSome {α β : Type} {first : Option α} {second : Option β}
    (same : first.isSome = second.isSome) : Option.Rel (fun _ _ => True) first second := by
  cases first with
  | none =>
    cases second with
    | none => exact .none
    | some b => cases same
  | some a =>
    cases second with
    | none => cases same
    | some b => exact .some trivial

/-- A symbol stands for an operator where an operand is due if it does where none is. -/
theorem isSome_operator? (symbols : Symbols σ) (due due' : Bool) (symbol : String) :
    (symbols.operator? due symbol).isSome = (symbols.operator? due' symbol).isSome := by
  unfold Symbols.operator?
  split
  · rfl
  · split
    · cases due <;> cases due' <;> simp [Bool.or_comm]
    · rfl

section Tables

variable {symbols other : Symbols σ} (tables : symbols.Alike other) {cs ds : List Char}
  (similar : List.Forall₂ Similar cs ds)
include tables similar

/-- **The first characters name the same in both tables**, or nothing. -/
theorem named?_alike {n : Nat} (within : n ≤ nameLength cs) :
    Option.Rel (fun token token' : Token σ => token.shape = token'.shape) (named? symbols cs n)
      (named? other ds n) := by
  have same : cs.take n = ds.take n :=
    take_similar similar (plain_take isPart_bracket within)
  unfold named?
  rw [← same, ← opensNext_similar (List.forall₂_drop n similar)]
  have calls := tables.functions (String.ofList (cs.take n))
  have declared : Option.Rel (fun token token' : Token σ => token.shape = token'.shape)
      (if symbols.isVariable (String.ofList (cs.take n)) then
        some (.var (String.ofList (cs.take n)) 0) else none)
      (if other.isVariable (String.ofList (cs.take n)) then
        some (.var (String.ofList (cs.take n)) 0) else none) := by
    rw [tables.vars]
    split
    · exact .some rfl
    · exact .none
  cases opensNext (cs.drop n) with
  | false => exact declared
  | true =>
    dsimp only
    cases called : symbols.function? (String.ofList (cs.take n)) with
    | some f =>
      rw [called] at calls
      obtain ⟨f', called'⟩ := Option.isSome_iff_exists.mp calls.symm
      rw [if_pos rfl, if_pos rfl, called']
      exact .some rfl
    | none =>
      rw [called] at calls
      have uncalled : other.function? (String.ofList (cs.take n)) = none := by
        simpa using calls.symm
      rw [if_pos rfl, if_pos rfl, uncalled]
      exact declared

/-- **The same name is read, or none.** -/
theorem readName_alike (position : Nat) (text text' : String) :
    Agree text' (fun a b => a.1.shape = b.1.shape ∧ a.2 = b.2) (readName symbols text position cs)
      (readName other text' position ds) := by
  have runs : cs.takeWhile Name.isPart = ds.takeWhile Name.isPart :=
    takeWhile_similar isPart_bracket similar
  have lengths : nameLength cs = nameLength ds := congrArg List.length runs
  have name : cs.take (nameLength cs) = ds.take (nameLength cs) :=
    take_similar similar (plain_take isPart_bracket (Nat.le_refl _))
  have found := longest_alike fun k (within : k ≤ nameLength cs) =>
    named?_alike tables similar within
  unfold readName
  rw [← lengths, ← name]
  generalize longest (named? symbols cs) (nameLength cs) = first at found ⊢
  generalize longest (named? other ds) (nameLength cs) = second at found ⊢
  cases found with
  | some related => exact related
  | none => rfl

/-- **A symbol of the same length is read, or none**, whether an operand is due or not. -/
theorem readOperator_alike (due due' : Bool) (position : Nat) (text : String) :
    Agree text (fun a b => a.2 = b.2) (readOperator symbols due position cs)
      (readOperator other due' position ds) := by
  have runs : cs.takeWhile Operator.isSymbolCharacter = ds.takeWhile Operator.isSymbolCharacter :=
    takeWhile_similar isSymbolCharacter_bracket similar
  have lengths : symbolLength cs = symbolLength ds := congrArg List.length runs
  have taken : ∀ k, k ≤ symbolLength cs → cs.take k = ds.take k := fun k within =>
    take_similar similar (plain_take isSymbolCharacter_bracket within)
  have answers : ∀ k, k ≤ symbolLength cs → Option.Rel (fun _ _ => True)
      (symbols.operator? due (String.ofList (cs.take k)))
      (other.operator? due' (String.ofList (ds.take k))) := by
    intro k within
    rw [← taken k within]
    exact rel_of_isSome ((tables.operators due _).trans (isSome_operator? other due due' _))
  have found := longest_alike answers
  unfold readOperator
  rw [longest_symbol, longest_symbol, ← lengths, ← taken _ (Nat.le_refl _)]
  generalize longest _ _ = first at found ⊢
  generalize longest _ _ = second at found ⊢
  cases found with
  | some related => exact related.2
  | none => rfl

end Tables

/-! ## Steps -/

/-- Two lexers under tables that are alike. -/
structure Alike (lexer other : Lexer σ) : Prop where
  symbols : lexer.symbols.Alike other.symbols
  implicit : lexer.implicit = other.implicit

/-- Two places in similar texts, after tokens of one shape. -/
structure Cursor.Alike (cursor other : Cursor σ) : Prop where
  rest : List.Forall₂ Similar cursor.rest other.rest
  position : cursor.position = other.position
  previous : cursor.previous.map Token.shape = other.previous.map Token.shape

/-- Two steps to the same end, or to tokens of one shape and to places that are alike. -/
def Step.Alike (text : String) : Step σ → Step σ → Prop
  | .finished, .finished => True
  | .failed error, .failed other => other = error.quoting text
  | .found lexeme after, .found lexeme' after' =>
    lexeme.token.shape = lexeme'.token.shape ∧ after.Alike after'
  | _, _ => False

namespace Cursor.Alike

variable {cursor other : Cursor σ} (alike : cursor.Alike other)
include alike

theorem skipBlanks : cursor.skipBlanks.Alike other.skipBlanks := by
  refine ⟨(cut_similar isBlank_bracket alike.rest).2, ?_, alike.previous⟩
  show cursor.position + _ = other.position + _
  rw [alike.position, takeWhile_similar isBlank_bracket alike.rest]

theorem any_previous {p : Token σ → Bool}
    (by_shape : ∀ token token' : Token σ, token.shape = token'.shape → p token = p token') :
    cursor.previous.any p = other.previous.any p := by
  have same := alike.previous
  cases first : cursor.previous with
  | none =>
    rw [first] at same
    rw [Option.map_eq_none_iff.mp same.symm]
  | some token =>
    rw [first] at same
    obtain ⟨token', second, shapes⟩ := Option.map_eq_some_iff.mp same.symm
    rw [second]
    exact by_shape token token' shapes.symm

theorem afterOperand : cursor.afterOperand = other.afterOperand :=
  alike.any_previous fun token token' same => by
    cases token <;> cases token' <;> first | rfl | cases same

theorem afterNumber : cursor.afterNumber = other.afterNumber :=
  alike.any_previous fun token token' same => by
    cases token <;> cases token' <;> first | rfl | cases same

theorem take {token token' : Token σ} (shapes : token.shape = token'.shape) (text : String)
    (n : Nat) : (cursor.take token n).Alike text (other.take token' n) :=
  ⟨shapes, List.forall₂_drop n alike.rest, congrArg (· + n) alike.position, congrArg some shapes⟩

end Cursor.Alike

section Steps

variable {lexer other : Lexer σ} (lexers : lexer.Alike other) {cursor there : Cursor σ}
  (cursors : cursor.Alike there)
include lexers cursors

/-- **At similar characters, tokens of one shape and one length are read, or none.** -/
theorem read_alike {c d : Char} (similar : Similar c d) :
    Agree other.text (fun a b => a.1.shape = b.1.shape ∧ a.2 = b.2) (lexer.read cursor c)
      (other.read there d) := by
  unfold read
  rw [← similar.lead]
  cases lead : Lead.of c with
  | numeral =>
    dsimp only
    rw [← readLiteral_similar _ cursors.rest, ← cursors.position]
    cases literal : readLiteral cursor.position cursor.rest with
    | ok found => exact ⟨rfl, rfl⟩
    | error error =>
      unfold readLiteral at literal
      dsimp only at literal
      split at literal
      · cases literal
        rfl
      · split at literal
        · cases literal
        · cases literal
          rfl
  | separator => exact ⟨rfl, rfl⟩
  | opening => exact ⟨rfl, rfl⟩
  | closing => exact ⟨rfl, rfl⟩
  | symbol =>
    dsimp only
    rw [← cursors.position]
    exact (readOperator_alike lexers.symbols cursors.rest _ _ _ _).map fun a b same => ⟨rfl, same⟩
  | name =>
    dsimp only
    rw [← cursors.position]
    exact readName_alike lexers.symbols cursors.rest _ _ _
  | nothing =>
    have same : c = d := by
      rcases similar with same | ⟨opens, -⟩ | ⟨closes, -⟩
      · exact same
      · rw [(lead_of_isOpening opens).2] at lead
        cases lead
      · rw [(lead_of_isClosing closes).2] at lead
        cases lead
    subst same
    show Error.unexpectedCharacter c there.position = _
    rw [← cursors.position]
    rfl

theorem meet_alike {c d : Char} (similar : Similar c d) :
    (lexer.meet cursor c).Alike other.text (other.meet there d) := by
  unfold meet
  rw [← lexers.implicit, ← similar.lead, ← cursors.afterNumber]
  split
  · exact cursors.take rfl _ 0
  · show Error.ambiguousAdjacency there.position = _
    rw [← cursors.position]
    rfl

/-- **Steps from places that are alike are alike.** -/
theorem next_alike : (lexer.next cursor).Alike other.text (other.next there) := by
  have here := cursors.skipBlanks
  have rest := here.rest
  cases first : cursor.skipBlanks.rest with
  | nil =>
    rw [first] at rest
    have second : there.skipBlanks.rest = [] := List.forall₂_nil_left_iff.mp rest
    simp only [next, first, second]
    trivial
  | cons c cs =>
    rw [first] at rest
    obtain ⟨d, ds, similar, -, second⟩ := List.forall₂_cons_left_iff.mp rest
    simp only [next, first, second]
    rw [← similar.lead, ← here.afterOperand]
    split
    · exact meet_alike lexers here similar
    · have reads := read_alike lexers here similar
      generalize lexer.read cursor.skipBlanks c = result at reads ⊢
      generalize other.read there.skipBlanks d = result' at reads ⊢
      match result, result', reads with
      | .ok (token, n), .ok (token', n'), ⟨shapes, lengths⟩ =>
        cases lengths
        exact here.take shapes _ n
      | .error error, .error error', same => exact same

end Steps

/-! ## Readings -/

/-- Places that are alike are read on from alike. -/
theorem readFrom_alike {lexer other : Lexer σ} (lexers : lexer.Alike other) {cursor there : Cursor σ}
    (cursors : cursor.Alike there) :
    (lexer.readFrom cursor).Alike other.text (other.readFrom there) := by
  -- The steps of both readings go together, and the weight of the first cursor falls with them.
  have steps := next_alike lexers cursors
  rw [readFrom_eq, readFrom_eq other]
  match first : lexer.next cursor, second : other.next there, steps with
  | .finished, .finished, _ => exact ⟨rfl, rfl⟩
  | .failed error, .failed error', same => exact ⟨rfl, congrArg some same⟩
  | .found lexeme after, .found lexeme' after', ⟨shapes, places⟩ =>
    have rest := readFrom_alike lexers places
    exact ⟨congrArg₂ List.cons shapes rest.shapes, rest.error⟩
termination_by cursor.weight
decreasing_by exact next_weight first

theorem readText_alike {symbols other : Symbols σ} (tables : symbols.Alike other) (implicit : Bool)
    {text text' : String} (similar : List.Forall₂ Similar text.toList text'.toList) :
    (readText symbols implicit text).Alike text' (readText other implicit text') := by
  have lexers : (Lexer.mk symbols implicit text).Alike ⟨other, implicit, text'⟩ := ⟨tables, rfl⟩
  have starts : (Cursor.start text.toList : Cursor σ).Alike (.start text'.toList) :=
    ⟨similar, rfl, rfl⟩
  exact readFrom_alike lexers starts

end Lexer

/-! ## Conversions -/

theorem depthAfter_of_shapes {tokens other : List (Token σ)} (depth : Nat)
    (shapes : tokens.map Token.shape = other.map Token.shape) :
    depthAfter depth tokens = depthAfter depth other := by
  induction tokens generalizing other depth with
  | nil => rw [List.map_eq_nil_iff.mp shapes.symm]
  | cons token rest ih =>
    obtain ⟨token', rest', rfl, here, later⟩ := List.map_eq_cons_iff.mp shapes.symm
    have step : token.depthAfter depth = token'.depthAfter depth := by
      cases token <;> cases token' <;> first | rfl | cases here
    rw [depthAfter_cons, depthAfter_cons, step]
    exact congrArg _ (funext fun next => ih next later.symm)

/-- **Readings that are alike fail alike.** -/
theorem Reading.Alike.verdict {text : String} {reading other : Reading σ}
    (alike : reading.Alike text other) :
    other.verdict = reading.verdict.mapError (Error.quoting text) := by
  rcases depthAfter_cases reading.tokens with ⟨depth, counted, -⟩ |
    ⟨front, token, error, refused, -, -, -, wrong⟩
  · rw [verdict_of_counted counted,
      verdict_of_counted ((depthAfter_of_shapes 0 alike.shapes).symm.trans counted), alike.error]
    cases reading.error? with
    | some error => rfl
    | none =>
      dsimp only [Option.map]
      split <;> rfl
  · rw [verdict_of_refused refused,
      verdict_of_refused ((depthAfter_of_shapes 0 alike.shapes).symm.trans refused)]
    cases token <;> cases wrong <;> rfl

theorem Reading.Alike.firstFault {text : String} {reading other : Reading σ}
    (alike : reading.Alike text other) {error : Error} : other.FirstFault error ↔
      ∃ original, reading.FirstFault original ∧ error = original.quoting text := by
  simp only [← verdict_eq_error_iff, alike.verdict]
  cases reading.verdict with
  | ok done => simp [Except.mapError]
  | error original => simp [Except.mapError, eq_comm]

/-- **Which error a conversion reports.** For every text, under every table, it is the first fault of
the text's reading, and there is none exactly if the text is converted. Nothing else matters: neither
what other tokens there are, nor the kinds of the brackets, nor what the names and the symbols of the
table stand for. -/
theorem compileText_firstFault (symbols : Symbols σ) (implicit : Bool) (text : String) (state : σ) :
    let reading := Lexer.readText symbols implicit text
    let outcome := (Effect.from state (compileText symbols implicit false text)).1
    (∀ error, outcome = .error error ↔ reading.FirstFault error) ∧
      ((∃ output, outcome = .ok output) ↔ ∀ error, ¬ reading.FirstFault error) ∧
      (∀ other : Reading σ, other.error? = reading.error? →
        other.tokens.filter (fun token => !token.isLasting) =
          reading.tokens.filter (fun token => !token.isLasting) →
        ∀ error, other.FirstFault error ↔ outcome = .error error) ∧
      ∀ (table : Symbols σ) (text' : String), symbols.Alike table →
        List.Forall₂ Lexer.Similar text.toList text'.toList →
        ∀ error, (Effect.from state (compileText table implicit false text')).1 = .error error ↔
          ∃ original, outcome = .error original ∧ error = original.quoting text' := by
  intro reading outcome
  have faults : ∀ error, outcome = .error error ↔ reading.FirstFault error := by
    have converted : outcome = reading.toPostfix :=
      congrArg Prod.fst (from_compileText_unfolded symbols implicit text state)
    intro error
    rw [converted]
    exact Reading.toPostfix_eq_error_iff
  refine ⟨faults, ?_, ?_, ?_⟩
  · constructor
    · rintro ⟨output, converts⟩ error fault
      rw [(faults error).mpr fault] at converts
      cases converts
    · intro no_fault
      cases ended : outcome with
      | ok output => exact ⟨output, rfl⟩
      | error error => exact absurd ((faults error).mp ended) (no_fault error)
  · intro other ended marks error
    rw [faults, ← Reading.verdict_eq_error_iff, ← Reading.verdict_eq_error_iff,
      Reading.verdict_congr marks ended]
  · intro table text' tables similar error
    rw [from_compileText_unfolded, Reading.toPostfix_eq_error_iff,
      (Lexer.readText_alike tables implicit similar).firstFault]
    simp only [faults, reading]

/-- Where a symbol has an operator, another one may be declared for it. -/
theorem Symbols.alike_declareOperator {symbols : Symbols σ} {o : Operator σ}
    (known : ∀ due, (symbols.operator? due o.symbol).isSome = true) :
    symbols.Alike (symbols.declareOperator o) := by
  refine ⟨fun name => rfl, fun name => rfl, fun due symbol => ?_⟩
  by_cases same : o.symbol = symbol
  · subst same
    rw [known]
    simp [operator?, declaredOperator?, declareOperator]
  · simp [operator?, declaredOperator?, declareOperator, same]

/-- The bracket of `x*(y+z` is not closed. With a sum that binds tighter than the product, and another
kind of bracket, the same is wrong. -/
theorem compileText_firstFault_redeclared :
    let symbols : Symbols Unit := ⟨["x", "y", "z"], [], []⟩
    let table := symbols.declareOperator (.between "+" 2000 fun x y => .ok (x + y))
    (Lexer.readText symbols true "x*(y+z").FirstFault .mismatchedBrackets ∧
      (Effect.from () (compileText symbols true false "x*(y+z")).1 = .error .mismatchedBrackets ∧
      (Effect.from () (compileText table true false "x*[y+z")).1 = .error .mismatchedBrackets := by
  intro symbols table
  obtain ⟨faults, -, -, alike⟩ := compileText_firstFault symbols true "x*(y+z" ()
  have unclosed : (Effect.from () (compileText symbols true false "x*(y+z")).1 =
      .error .mismatchedBrackets := by
    rw [from_compileText_unfolded]
    subst symbols
    cbv
  refine ⟨(faults _).mp unclosed, unclosed, ?_⟩
  refine (alike table "x*[y+z" ?_ ?_ _).mpr ⟨_, unclosed, rfl⟩
  · exact Symbols.alike_declareOperator fun due => by cases due <;> rfl
  · decide

end Formula
