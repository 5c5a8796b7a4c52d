import Formula.Log
import Formula.Program.Validation

/-!
# Sessions

A session is a family of programs, of which one is current: the program that it began with, and the
copies that were taken of programs of the family. A command asks something of the current program or
changes it, and no other.
-/

namespace Formula

/-- What can be asked of the current program, or done to it. -/
inductive Command where
  /-- Set a variable. -/
  | set (name : String) (value : Float)
  /-- Set variables one after the other. -/
  | setAll (bindings : Bindings)
  /-- The value under the current bindings. -/
  | evaluate
  /-- The values of copies under several sets of bindings. -/
  | batch (batch : List Bindings)
  /-- The findings of a check. -/
  | validate (checkVariables : Bool)
  /-- The names of the variables. -/
  | names
  /-- Whether a variable of a name occurs. -/
  | contains (name : String)
  /-- The program as it is shown. -/
  | shown
  /-- The tokens. -/
  | tokens
  /-- The tokens with constant parts folded. The program stays as it is. -/
  | folded
  /-- Take a copy, which becomes current. -/
  | copy
  /-- Make another program of the family current. -/
  | select (index : Nat)
  /-- Build the current program anew from its tokens. -/
  | rebuild

/-- What a command answers. -/
inductive Reply (σ : Type) where
  | done
  | refused (error : Error)
  | value (result : Except Error Float)
  | values (results : List (Except Error Float))
  | findings (findings : List Finding)
  | names (names : List String)
  | truth (answer : Bool)
  | text (text : String)
  | tokens (result : Except Error (List (Token σ)))
  | index (index : Nat)

/-- A family of programs and the place of the current one. -/
structure Session (σ : Type) where
  programs : List (Program σ)
  current : Fin programs.length

namespace Session

variable {σ : Type}

/-- The session that begins with a program. -/
def start (program : Program σ) : Session σ := ⟨[program], ⟨0, Nat.one_pos⟩⟩

/-- The current program. -/
def program (session : Session σ) : Program σ := session.programs[session.current]

/-- The session with another program in the current place. -/
def replace (session : Session σ) (program : Program σ) : Session σ :=
  ⟨session.programs.set session.current program, session.current.cast (by simp)⟩

/-- The session with a copy of the current program at the end of the family, as the current one. -/
def copy (session : Session σ) : Session σ :=
  ⟨session.programs ++ [session.program], ⟨session.programs.length, by simp⟩⟩

/-- The session with another current program, if there is one at the index. -/
def select (session : Session σ) (index : Nat) : Session σ :=
  if h : index < session.programs.length then ⟨session.programs, ⟨index, h⟩⟩ else session

/-- **Carries out a command.** -/
def perform (session : Session σ) : Command → StateM σ (Reply σ × Session σ)
  | .set name value =>
    match session.program.bind name value with
    | .ok program => return (.done, session.replace program)
    | .error error => return (.refused error, session)
  | .setAll bindings =>
    match session.program.bindAll bindings with
    | (program, none) => return (.done, session.replace program)
    | (program, some error) => return (.refused error, session.replace program)
  | .evaluate => return (.value (← session.program.evaluate.run), session)
  | .batch batch => return (.values (← session.program.evaluateBatch batch), session)
  | .validate checkVariables =>
    return (.findings (session.program.validate checkVariables), session)
  | .names => return (.names (sortNames session.program.names), session)
  | .contains name => return (.truth (session.program.contains name), session)
  | .shown => return (.text session.program.text, session)
  | .tokens => return (.tokens (.ok session.program.tokens), session)
  | .folded => return (.tokens (← (fold session.program.tokens).run), session)
  | .copy => return (.index session.programs.length, session.copy)
  | .select index => return (.done, session.select index)
  | .rebuild => return (.done, session.replace session.program.rebuild)

/-- The messages of a command, from the hidden state that it is carried out in. -/
def messages (session : Session σ) (state : σ) : Command → List Message
  | .set name _ => session.program.bindMessages name
  | .setAll bindings => session.program.bindAllMessages bindings
  | .evaluate => session.program.evaluateMessages state
  | .batch batch => session.program.batchMessages batch state
  | _ => []

/-- Carries out commands in order. The messages of each come before those of the next. -/
def performAll (session : Session σ) : List Command → StateM σ (List (Reply σ) × List Message)
  | [] => return ([], [])
  | command :: rest => do
    let messages := session.messages (← get) command
    let (reply, session) ← session.perform command
    let (replies, later) ← session.performAll rest
    return (reply :: replies, messages ++ later)

end Formula.Session
