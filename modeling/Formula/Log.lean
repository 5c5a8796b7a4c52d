import Formula.Draft

/-!
# The log

What is done can be followed in messages: what a text is compiled to, token by token, the course of
each evaluation, and names that are set in vain. Messages are computed beside the results, from the
same readings, yards and runs; nothing that is computed depends on them. A step that fails logs what
it did before it failed.
-/

namespace Formula

/-- How much detail a message is part of. -/
inductive Level where
  | debug
  | trace
deriving Repr, DecidableEq

/-- An entry of the log. -/
structure Message where
  level : Level
  text : String
deriving Repr, DecidableEq

/-- The message as a line of the log. -/
def Message.line (message : Message) : String :=
  (match message.level with
    | .debug => "DEBUG "
    | .trace => "TRACE ") ++ message.text

variable {σ : Type}

/-- A token has been read. -/
def Token.readMessage (token : Token σ) : Message := ⟨.debug, "token: " ++ token.text⟩

/-- All tokens of a reading have been read. -/
def Reading.messages (reading : Reading σ) : List Message := reading.tokens.map Token.readMessage

/-- The messages of a conversion: the text, the tokens taken in, and the result, before and after
folding. -/
def compileMessages (symbols : Symbols σ) (implicit folding : Bool) (text : String) (state : σ) :
    List Message :=
  let reading := Lexer.readText symbols implicit text
  ⟨.debug, "Converting expression: " ++ text⟩ ::
    (Yard.empty.taken reading.tokens).map Token.readMessage ++
    match reading.toPostfix with
    | .error _ => []
    | .ok tokens =>
      ⟨.debug, "Postfix: " ++ Token.render tokens⟩ ::
        if folding then
          match ((fold tokens).from state).1 with
          | .ok folded => [⟨.debug, "Simplified: " ++ Token.render folded⟩]
          | .error _ => []
        else []

/-- The messages of compiling a draft. One that is not even read has none. -/
def Draft.messages (draft : Draft σ) (state : σ) (order : Enumeration := .ascending) :
    List Message :=
  match draft.fault? order with
  | some _ => []
  | none =>
    ⟨.debug, s!"Building '{draft.text}' (implicit multiplication: {draft.implicit}, " ++
      s!"simplify: {draft.folding})"⟩ ::
      compileMessages draft.table draft.implicit draft.folding draft.text state

namespace Program

/-- Setting a name that does not occur is worth a message. -/
def bindMessages (program : Program σ) (name : String) : List Message :=
  if program.isReserved name || program.contains name then []
  else [⟨.trace, s!"Expression has no variable '{name}', ignoring"⟩]

/-- The messages of setting several names, up to the first that is refused. -/
def bindAllMessages (program : Program σ) : Bindings → List Message
  | [] => []
  | (name, _) :: rest =>
    if program.isReserved name then []
    else program.bindMessages name ++ program.bindAllMessages rest

/-- A stack of numbers as it is shown, from the bottom up. -/
def stackText (stack : List Float) : String :=
  "[" ++ ", ".intercalate (stack.reverse.map Decimal.plain) ++ "]"

/-- The messages of an evaluation: one for each token that it comes to. -/
def evaluateMessages (program : Program σ) (state : σ) : List Message :=
  (program.trace state).map fun (token, stack) =>
    ⟨.trace, "evaluate " ++ token.text ++ " with stack " ++ stackText stack⟩

/-- The messages of an evaluation with more variables set. -/
def evaluateWithMessages (program : Program σ) (bindings : Bindings) (state : σ) : List Message :=
  program.bindAllMessages bindings ++
    match program.bindAll bindings with
    | (bound, none) => bound.evaluateMessages state
    | (_, some _) => []

/-- The messages of the evaluations of a batch, one after the other. -/
def eachMessages (program : Program σ) : List Bindings → σ → List Message
  | [], _ => []
  | bindings :: rest, state =>
    program.evaluateWithMessages bindings state ++
      program.eachMessages rest ((program.evaluateWith bindings).from state).2

/-- The messages of a batch. -/
def batchMessages (program : Program σ) (batch : List Bindings) (state : σ) : List Message :=
  ⟨.debug, s!"Evaluating {batch.length} binding sets of " ++ program.text⟩ ::
    program.eachMessages batch state

end Program

/-- The messages of evaluating a text. -/
def evaluateTextMessages (text : String) (bindings : Bindings) (state : σ)
    (order : Enumeration := .ascending) : List Message :=
  let draft : Draft σ := (Draft.ofText text).declareAll (bindings.map fun (name, _) => .var name)
  draft.messages state order ++
    match (draft.compile order).from state with
    | (.ok program, after) => program.evaluateWithMessages bindings after
    | (.error _, _) => []

end Formula
