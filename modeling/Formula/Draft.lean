import Formula.Conversion
import Formula.Declaration
import Formula.Folding
import Formula.Program.Evaluation

/-!
# Drafts

A draft is a text with the declarations that it is to be compiled under. Declarations are checked as
they are made; the first one that is refused is remembered, and is what compiling reports, whatever
else there is to the draft. The constants are variables of every draft.

Of several variables that are named like functions, the one that is met first is reported. This is
the only place where the order in which names are gone through has a part: it is a parameter of what
meets them, and ascending where nothing else is said.
-/

namespace Formula

/-- A text with its declarations. Products may be implied, or not; constants are folded, or not. -/
structure Draft (σ : Type) where
  text : String
  symbols : Symbols σ
  implicit : Bool
  folding : Bool
  refused : Option Error

variable {σ : Type}

/-- The postfix order of a text under a table of names, folded if asked for. -/
def compileText (symbols : Symbols σ) (implicit folding : Bool) (text : String) :
    Effect σ Error (List (Token σ)) := do
  let tokens ← Effect.ofExcept (Lexer.readText symbols implicit text).toPostfix
  if folding then fold tokens else return tokens

namespace Draft

/-- A text without declarations: products may be implied, constants are not folded. -/
def ofText (text : String) : Draft σ := ⟨text, .empty, true, false, none⟩

/-- **Makes a declaration**, or remembers why it is refused. -/
def declare (draft : Draft σ) (declaration : Declaration σ) : Draft σ :=
  match declaration.check with
  | .ok () => { draft with symbols := draft.symbols.declare declaration }
  | .error error => { draft with refused := draft.refused <|> some error }

/-- Makes declarations in order. -/
def declareAll (draft : Draft σ) (declarations : List (Declaration σ)) : Draft σ :=
  declarations.foldl declare draft

/-- The draft with products implied, or not. -/
def withImplicit (draft : Draft σ) (enabled : Bool) : Draft σ := { draft with implicit := enabled }

/-- The draft with constants folded, or not. -/
def withFolding (draft : Draft σ) (enabled : Bool) : Draft σ := { draft with folding := enabled }

/-- The table that a draft is compiled under: its own with the constants. -/
def table (draft : Draft σ) : Symbols σ :=
  Constant.names.foldl Symbols.declareVariable draft.symbols

/-- The first variable to be met that is named like a function. -/
def clash? (draft : Draft σ) (order : Enumeration) : Option String :=
  (order.list draft.table.vars).find? fun name => (draft.table.function? name).isSome

/-- Why a draft is not even read: a refused declaration, a text without a character that is not
blank, or a variable that is named like a function. -/
def fault? (draft : Draft σ) (order : Enumeration) : Option Error :=
  draft.refused <|>
    if draft.text.toList.all Unicode.isBlank then some .emptyText
    else (draft.clash? order).map .nameCollision

/-- **Compiles a draft** to a program. -/
def compile (draft : Draft σ) (order : Enumeration := .ascending) : Effect σ Error (Program σ) :=
  match draft.fault? order with
  | some error => throw error
  | none => do
    let tokens ← compileText draft.table draft.implicit draft.folding draft.text
    return .ofTokens tokens draft.table.functionNames

end Draft

/-- The value of a text whose variables are those of a set of bindings. -/
def evaluateText (text : String) (bindings : Bindings) (order : Enumeration := .ascending) :
    Effect σ Error Float := do
  let draft := (Draft.ofText text).declareAll (bindings.map fun (name, _) => .var name)
  let program ← draft.compile order
  program.evaluateWith bindings

end Formula
