import Formula.Draft
import Formula.Proofs.Lexer.Tiling

/-!
# What a text mentions

The lexer cuts a text into candidates and looks them up: the parts of a run of name characters, and
those of a run of operator characters. **All that is looked up is a part of the text.** So two
tables that say the same of every part of a text (`Symbols.AgreeOn`) are read alike
(`readText_congr`), and compiled alike, errors included (`compileText_congr`).

A table with a declaration more says the same of all parts of a text but the name that is declared
(`Symbols.agreeOn_declare`). The empty name is a part of every text.
-/

namespace Formula

variable {σ : Type}

/-- What is declared: the name of a variable or of a function, or the symbol of an operator. -/
def Declaration.name : Declaration σ → String
  | var name => name
  | function f => f.name
  | operator o => o.symbol

/-- The text contains the name. -/
def Mentions (text : List Char) (name : String) : Prop := name.toList <:+: text

/-- **Two tables say the same of all that a text mentions.** -/
structure Symbols.AgreeOn (text : List Char) (symbols other : Symbols σ) : Prop where
  /-- The same names are those of variables. -/
  variable_eq : ∀ name, Mentions text name → symbols.isVariable name = other.isVariable name
  /-- The same names call the same functions. -/
  function_eq : ∀ name, Mentions text name → symbols.function? name = other.function? name
  /-- The same symbols stand for the same operators, in the same places. -/
  operator_eq : ∀ symbol, Mentions text symbol → ∀ operandDue,
    symbols.operator? operandDue symbol = other.operator? operandDue symbol

namespace Symbols

variable {text : List Char} {symbols other : Symbols σ}

theorem AgreeOn.refl (symbols : Symbols σ) : symbols.AgreeOn text symbols :=
  ⟨fun _ _ => rfl, fun _ _ => rfl, fun _ _ _ => rfl⟩

theorem AgreeOn.trans {third : Symbols σ} (first : symbols.AgreeOn text other)
    (second : other.AgreeOn text third) : symbols.AgreeOn text third where
  variable_eq name part := (first.variable_eq name part).trans (second.variable_eq name part)
  function_eq name part := (first.function_eq name part).trans (second.function_eq name part)
  operator_eq symbol part due :=
    (first.operator_eq symbol part due).trans (second.operator_eq symbol part due)

/-- **A declaration that a text does not mention makes no difference to it.** -/
theorem agreeOn_declare (symbols : Symbols σ) {declaration : Declaration σ}
    (unmentioned : ¬ Mentions text declaration.name) :
    (symbols.declare declaration).AgreeOn text symbols := by
  have differs : ∀ name, Mentions text name → declaration.name ≠ name := by
    rintro name part rfl
    exact unmentioned part
  cases declaration with
  | var name =>
    refine ⟨fun other part => ?_, fun _ _ => rfl, fun _ _ _ => rfl⟩
    have apart : other ≠ name := Ne.symm (differs other part)
    simp [declare, declareVariable, isVariable, apart]
  | function f =>
    refine ⟨fun _ _ => rfl, fun name part => ?_, fun _ _ _ => rfl⟩
    have skipped : (f.name == name) = false := beq_eq_false_iff_ne.mpr (differs name part)
    simp [declare, declareFunction, function?, skipped]
  | operator o =>
    refine ⟨fun _ _ => rfl, fun _ _ => rfl, fun symbol part due => ?_⟩
    have skipped : (o.symbol == symbol) = false := beq_eq_false_iff_ne.mpr (differs symbol part)
    have found : (symbols.declare (.operator o)).declaredOperator? symbol =
        symbols.declaredOperator? symbol := by
      simp [declare, declareOperator, declaredOperator?, skipped]
    rw [operator?, found]
    rfl

/-- Several declarations that a text does not mention make no difference to it. -/
theorem agreeOn_foldl_declare {declarations : List (Declaration σ)} (symbols : Symbols σ)
    (unmentioned : ∀ declaration ∈ declarations, ¬ Mentions text declaration.name) :
    (declarations.foldl declare symbols).AgreeOn text symbols := by
  induction declarations generalizing symbols with
  | nil => exact .refl symbols
  | cons declaration rest ih =>
    obtain ⟨here, later⟩ := List.forall_mem_cons.mp unmentioned
    exact (ih (symbols.declare declaration) later).trans (symbols.agreeOn_declare here)

end Symbols

namespace Lexer

/-! ## Look-ups -/

section Lookup

variable {text cs : List Char} {symbols other : Symbols σ}

/-- The characters that come next in a text are a part of it. -/
theorem mentions_take (inside : cs <:+ text) (n : Nat) :
    Mentions text (String.ofList (cs.take n)) := by
  rw [Mentions, String.toList_ofList]
  exact (List.take_prefix n cs).isInfix.trans inside.isInfix

variable (agree : symbols.AgreeOn text other) (inside : cs <:+ text)
include agree inside

theorem named?_congr : named? symbols cs = named? other cs := by
  funext n
  have part := mentions_take inside n
  unfold named?
  dsimp only
  rw [agree.variable_eq _ part, agree.function_eq _ part]

theorem readName_congr (quoted : String) (position : Nat) :
    readName symbols quoted position cs = readName other quoted position cs := by
  unfold readName
  rw [named?_congr agree inside]

/-- The longest symbol of a table bounds what is looked up, but not what is found. -/
theorem readOperator_congr (operandDue : Bool) (position : Nat) :
    readOperator symbols operandDue position cs = readOperator other operandDue position cs := by
  have same : (fun n => symbols.operator? operandDue (String.ofList (cs.take n))) =
      fun n => other.operator? operandDue (String.ofList (cs.take n)) := by
    funext n
    exact agree.operator_eq _ (mentions_take inside n) operandDue
  unfold readOperator
  rw [longest_symbol, longest_symbol, same]

end Lookup

/-! ## Readings -/

section Readings

variable {text : List Char} {symbols other : Symbols σ} (agree : symbols.AgreeOn text other)
  (implicit : Bool) (quoted : String)
include agree

theorem read_congr {here : Cursor σ} (inside : here.rest <:+ text) (c : Char) :
    read ⟨symbols, implicit, quoted⟩ here c = read ⟨other, implicit, quoted⟩ here c := by
  unfold read
  dsimp only
  rw [readName_congr agree inside, readOperator_congr agree inside]

/-- **A step is the same under both tables.** -/
theorem next_congr {cursor : Cursor σ} (inside : cursor.rest <:+ text) :
    next ⟨symbols, implicit, quoted⟩ cursor = next ⟨other, implicit, quoted⟩ cursor := by
  have here : cursor.skipBlanks.rest <:+ text := (List.dropWhile_suffix _).trans inside
  unfold next
  simp only [read_congr agree implicit quoted here]
  rfl

/-- So is a reading, from any place of the text on. -/
theorem readFrom_congr {cursor : Cursor σ} (inside : cursor.rest <:+ text) :
    readFrom ⟨symbols, implicit, quoted⟩ cursor = readFrom ⟨other, implicit, quoted⟩ cursor := by
  rw [readFrom_eq, readFrom_eq, ← next_congr agree implicit quoted inside]
  cases stepped : next ⟨symbols, implicit, quoted⟩ cursor with
  | finished => rfl
  | failed error => rfl
  | found lexeme after =>
    obtain ⟨front, passed, -⟩ := next_covers stepped
    have later : after.rest <:+ text := List.IsSuffix.trans ⟨front, passed.symm⟩ inside
    dsimp only
    rw [readFrom_congr later]
termination_by cursor.weight
decreasing_by exact next_weight stepped

end Readings

/-- **Tables that agree on a text read it alike.** -/
theorem readText_congr {symbols other : Symbols σ} {text : String}
    (agree : symbols.AgreeOn text.toList other) (implicit : Bool) :
    readText symbols implicit text = readText other implicit text :=
  readFrom_congr agree implicit text List.suffix_rfl

/-! ## What is found -/

/-- The name of a variable in a tiling is a part of the text. -/
theorem Tiles.mentions {position final : Nat} {text rest : List Char} {lexemes : List (Lexeme σ)}
    (tiled : Tiles position text lexemes final rest) {name : String} {slot : Nat}
    (occurs : .var name slot ∈ lexemes.map Lexeme.token) : Mentions text name := by
  induction tiled with
  | done => cases occurs
  | blank _ _ ih => exact (ih occurs).trans (List.suffix_cons _ _).isInfix
  | @spelled _ _ token spelling _ _ _ _ spells _ ih =>
    rcases List.mem_cons.mp occurs with here | later
    · obtain rfl : Token.var name slot = token := here
      obtain rfl : spelling = name.toList := spells
      exact (List.prefix_append _ _).isInfix
    · exact (ih later).trans (List.suffix_append _ _).isInfix
  | implied _ _ ih =>
    rcases List.mem_cons.mp occurs with here | later
    · cases here
    · exact ih later

end Lexer

/-- **Tables that agree on a text compile it alike**, or refuse it for the same reason. -/
theorem compileText_congr {symbols other : Symbols σ} {text : String}
    (agree : symbols.AgreeOn text.toList other) (implicit folding : Bool) :
    compileText symbols implicit folding text = compileText other implicit folding text := by
  unfold compileText
  rw [Lexer.readText_congr agree]

end Formula
