import Formula.Proofs.Program.Slots
import Formula.Session

/-!
# What the programs of a session remember

A program of a session is known by **its own history**: the names that were reserved when it was
built, and the settings that were carried out on it, or on the program that it is a copy of before
it was copied. The commands tell all histories without looking at any program
(`Histories.perform`): a setting that is refused is no part of a history, and of several settings at
once those are that come before the first one that is refused.

**The programs of a session are those of their histories** (`Session.follows_after`), by induction
on the commands. So what is read for a name is what it was set to last in the program's own history,
or else the constant of this name; and all that a command changes is the current program
(`after_start_bindings`).
-/

namespace Formula

variable {σ : Type}

/-- What a name is set to last. -/
def Bindings.last? (settings : Bindings) (name : String) : Option Float :=
  settings.reverse.lookup name

/-- What has happened to a program: the names that are reserved in it, and what has been set in it,
in order. -/
structure History where
  reserved : List String
  settings : Bindings

namespace History

/-- Whether a setting of this name is refused. -/
def refuses (history : History) (name : String) : Bool :=
  history.reserved.contains name || Function.isBuiltin name

/-- The history with more settings, up to the first that is refused. -/
def set (history : History) (bindings : Bindings) : History :=
  { history with
    settings := history.settings ++ bindings.takeWhile fun binding => !history.refuses binding.1 }

/-- **The value of a name**: what it was set to last, or else the constant of this name. -/
def value? (history : History) (name : String) : Option Float :=
  history.settings.last? name <|> Constant.value? name

/-- What a command adds to the history of the program that it is carried out on. A program that is
built anew begins a history of its own. -/
def perform (history : History) : Command → History
  | .set name value => history.set [(name, value)]
  | .setAll bindings => history.set bindings
  | .rebuild => ⟨[], []⟩
  | _ => history

/-- The program of some tokens that has this history. -/
def program (tokens : List (Token σ)) (history : History) : Program σ :=
  (Program.ofTokens tokens history.reserved).withValues history.value?

end History

/-- The histories of a family of programs, and the place of the current one. -/
structure Histories where
  all : List History
  current : Nat

namespace Histories

/-- The family that begins with one program. -/
def start (reserved : List String) : Histories := ⟨[⟨reserved, []⟩], 0⟩

/-- A command adds to the history of the current program alone. A copy has the history of what it
is a copy of. -/
def perform (histories : Histories) : Command → Histories
  | .copy => ⟨histories.all ++ histories.all[histories.current]?.toList, histories.all.length⟩
  | .select index => if index < histories.all.length then ⟨histories.all, index⟩ else histories
  | command =>
    { histories with all := histories.all.modify histories.current (·.perform command) }

/-- The histories after several commands. -/
def after (histories : Histories) (commands : List Command) : Histories :=
  commands.foldl perform histories

end Histories

/-! ## Histories -/

/-- What each command keeps holds of all histories of a family. -/
theorem Histories.forall_perform {holds : History → Prop} {histories : Histories}
    (all : ∀ history ∈ histories.all, holds history)
    (kept : ∀ history command, holds history → holds (history.perform command))
    (command : Command) : ∀ history ∈ (histories.perform command).all, holds history := by
  have modified : ∀ history ∈ histories.all.modify histories.current (·.perform command),
      holds history := by
    intro history mem
    obtain ⟨index, here⟩ := List.mem_iff_getElem?.mp mem
    rw [List.getElem?_modify, Option.map_eq_map, Option.map_eq_some_iff] at here
    obtain ⟨before, there, rfl⟩ := here
    have held := all before (List.mem_of_getElem? there)
    split
    · exact kept before command held
    · exact held
  cases command with
  | copy =>
    intro history mem
    rcases List.mem_append.mp mem with old | new
    · exact all history old
    · exact all history (List.mem_of_getElem? (Option.mem_toList.mp new))
  | select index =>
    intro history mem
    rw [perform] at mem
    split at mem <;> exact all history mem
  | _ => exact modified

theorem Histories.forall_after {holds : History → Prop} {histories : Histories}
    (all : ∀ history ∈ histories.all, holds history)
    (kept : ∀ history command, holds history → holds (history.perform command))
    (commands : List Command) : ∀ history ∈ (histories.after commands).all, holds history := by
  induction commands generalizing histories with
  | nil => exact all
  | cons command rest ih => exact ih (forall_perform all kept command)

/-- No command reserves a name. -/
theorem Histories.reserved_after (reserved : List String) (commands : List Command) :
    ∀ history ∈ ((Histories.start reserved).after commands).all, history.reserved ⊆ reserved := by
  have first : ∀ history ∈ (Histories.start reserved).all, history.reserved ⊆ reserved :=
    List.forall_mem_singleton.mpr (List.Subset.refl reserved)
  refine forall_after first (fun history command within => ?_) commands
  cases command with
  | rebuild => exact List.nil_subset reserved
  | _ => exact within

/-! ## Settings -/

/-- A name that is set is set last to some value. -/
theorem Bindings.isSome_last?_iff {settings : Bindings} {name : String} :
    (settings.last? name).isSome ↔ name ∈ settings.map Prod.fst := by
  simp [last?]

theorem Bindings.last?_append_single (settings : Bindings) (name : String) (value : Float) :
    Bindings.last? (settings ++ [(name, value)]) =
      Function.update settings.last? name (some value) := by
  funext other
  by_cases same : other = name
  · subst same
    simp [last?]
  · have differs : (other == name) = false := by simpa using same
    simp [last?, List.lookup_cons, differs, same]

namespace History

variable (history : History) (tokens : List (Token σ))

/-- A name that is set has the value that it is set to. -/
theorem value?_set {name : String} (accepted : history.refuses name = false) (value : Float) :
    (history.set [(name, value)]).value? = Function.update history.value? name (some value) := by
  funext other
  have added : (history.set [(name, value)]).settings = history.settings ++ [(name, value)] := by
    simp [set, accepted]
  rw [value?, added, Bindings.last?_append_single]
  by_cases same : other = name
  · subst same
    simp
  · simp [same, value?]

theorem set_refused {name : String} (refused : history.refuses name = true) (value : Float)
    (rest : Bindings) : history.set ((name, value) :: rest) = history := by
  simp [set, refused]

/-- Settings are carried out one after the other. -/
theorem set_cons {name : String} (accepted : history.refuses name = false) (value : Float)
    (rest : Bindings) :
    history.set ((name, value) :: rest) = (history.set [(name, value)]).set rest := by
  simp only [set, List.takeWhile_cons, List.takeWhile_nil, accepted, Bool.not_false, if_true,
    List.append_assoc, List.singleton_append]
  rfl

theorem isReserved_program (name : String) :
    (history.program tokens).isReserved name = history.refuses name := rfl

/-- A setting that is not refused adds to the history. -/
theorem assign_program {name : String} (accepted : history.refuses name = false) (value : Float) :
    (history.program tokens).assign name value = (history.set [(name, value)]).program tokens := by
  rw [program, Program.assign_withValues, ← value?_set history accepted]
  rfl

/-- **Settings up to the first that is refused are part of the history.** -/
theorem bindAll_program (bindings : Bindings) :
    ((history.program tokens).bindAll bindings).1 = (history.set bindings).program tokens := by
  induction bindings generalizing history with
  | nil => simp [Program.bindAll, set]
  | cons binding rest ih =>
    obtain ⟨name, value⟩ := binding
    rw [Program.bindAll, Program.bind, isReserved_program]
    cases refused : history.refuses name with
    | true => rw [if_pos rfl, set_refused history refused]
    | false =>
      rw [if_neg Bool.false_ne_true, set_cons history refused value rest,
        assign_program history tokens refused]
      exact ih _

theorem names_program : (history.program tokens).names = Token.variableNames tokens := by
  rw [program, Program.names_withValues, Program.names_ofTokens]

theorem linked_program : (history.program tokens).Linked :=
  (Program.linked_ofTokens tokens history.reserved).withValues _

/-- What is read for a name is what its history says. -/
theorem value?_program {name : String} {slot : Nat}
    (mem : .var name slot ∈ (history.program tokens).tokens) :
    (history.program tokens).value? slot = history.value? name := by
  have cell := (history.linked_program tokens).slots name slot mem
  rw [program, Program.names_withValues] at cell
  exact Program.value?_withValues _ _ cell

theorem rebuild_program : (history.program tokens).rebuild = program tokens ⟨[], []⟩ := by
  rw [program, Program.rebuild_withValues, Program.ofTokens_eq_withValues]
  rfl

end History

namespace Session

/-- The session that commands lead to. -/
def after (session : Session σ) : List Command → StateM σ (Session σ)
  | [] => return session
  | command :: rest => do
    let (_, next) ← session.perform command
    next.after rest

/-- **The programs of a session are those of their histories.** -/
structure Follows (tokens : List (Token σ)) (session : Session σ) (histories : Histories) :
    Prop where
  programs : session.programs = histories.all.map (History.program tokens)
  current : (session.current : Nat) = histories.current

/-! ## One command -/

/-- The session that a command leads to, from a hidden state. -/
def next (session : Session σ) (command : Command) (state : σ) : Session σ :=
  (session.perform command state).1.2

theorem replace_program (session : Session σ) : session.replace session.program = session := by
  have same : session.programs.set session.current session.program = session.programs :=
    List.set_getElem_self session.current.isLt
  obtain ⟨programs, current⟩ := session
  simp only [replace, mk.injEq]
  refine ⟨same, ?_⟩
  congr 1
  · rw [same]
  · simp

theorem next_setAll (session : Session σ) (bindings : Bindings) (state : σ) :
    session.next (.setAll bindings) state =
      session.replace (session.program.bindAll bindings).1 := by
  rw [next, perform]
  rcases session.program.bindAll bindings with ⟨program, _ | error⟩ <;> rfl

/-- Setting a variable is setting all of a list of one. -/
theorem next_set (session : Session σ) (name : String) (value : Float) (state : σ) :
    session.next (.set name value) state = session.next (.setAll [(name, value)]) state := by
  rw [next_setAll, next, perform, Program.bindAll]
  cases session.program.bind name value with
  | ok program => rfl
  | error error => exact session.replace_program.symm

/-- Settings of names that do not occur leave the session as it is. -/
theorem next_absent (session : Session σ) {bindings : Bindings}
    (absent : ∀ binding ∈ bindings, session.program.contains binding.1 = false) (state : σ) :
    session.next (.setAll bindings) state = session := by
  rw [next_setAll, Program.bindAll_absent absent, replace_program]

variable {tokens : List (Token σ)} {session : Session σ} {histories : Histories}

theorem Follows.length (follows : session.Follows tokens histories) :
    session.programs.length = histories.all.length := by
  rw [follows.programs, List.length_map]

/-- The current program has a history. -/
theorem Follows.exists_current (follows : session.Follows tokens histories) :
    ∃ history, histories.all[histories.current]? = some history ∧
      session.program = history.program tokens := by
  have bound : histories.current < histories.all.length := by
    rw [← follows.current, ← follows.length]
    exact session.current.isLt
  refine ⟨histories.all[histories.current], List.getElem?_eq_getElem bound, ?_⟩
  have here : session.programs[histories.current]? = some session.program := by
    rw [← follows.current]
    exact List.getElem?_eq_getElem session.current.isLt
  rw [follows.programs, List.getElem?_map, List.getElem?_eq_getElem bound] at here
  exact (Option.some.inj here).symm

/-- The current program is replaced as its history goes on. -/
theorem Follows.replace (follows : session.Follows tokens histories) {change : History → History}
    {program : Program σ}
    (changes : ∀ history, session.program = history.program tokens →
      program = (change history).program tokens) :
    (session.replace program).Follows tokens
      { histories with all := histories.all.modify histories.current change } := by
  obtain ⟨history, here, same⟩ := follows.exists_current
  refine ⟨?_, follows.current⟩
  show session.programs.set session.current program = _
  rw [follows.current, follows.programs, changes history same, List.modify_eq_set_getElem?, here]
  simp

/-- A command that adds nothing to a history leaves all of them as they are. -/
theorem Follows.keep (follows : session.Follows tokens histories) :
    session.Follows tokens { histories with all := histories.all.modify histories.current id } := by
  rw [List.modify_id]
  exact follows

/-- **A command is carried out as the histories tell.** -/
theorem Follows.next (follows : session.Follows tokens histories) (command : Command) (state : σ) :
    (session.next command state).Follows tokens (histories.perform command) := by
  cases command with
  | set name value =>
    rw [next_set, next_setAll]
    refine follows.replace fun history same => ?_
    rw [same]
    exact history.bindAll_program tokens [(name, value)]
  | setAll bindings =>
    rw [next_setAll]
    refine follows.replace fun history same => ?_
    rw [same]
    exact history.bindAll_program tokens bindings
  | rebuild =>
    refine follows.replace fun history same => ?_
    rw [same]
    exact history.rebuild_program tokens
  | copy =>
    obtain ⟨history, here, same⟩ := follows.exists_current
    refine ⟨?_, follows.length⟩
    show session.programs ++ [session.program] = List.map _ (histories.all ++ _)
    rw [here, List.map_append, follows.programs, same]
    rfl
  | select index =>
    show (session.select index).Follows tokens _
    rw [select]
    split
    · rename_i bound
      rw [Histories.perform, if_pos (follows.length ▸ bound)]
      exact ⟨follows.programs, rfl⟩
    · rename_i outside
      rw [Histories.perform, if_neg (follows.length ▸ outside)]
      exact follows
  | _ => exact follows.keep

/-- **A command changes no program but the current one.** -/
theorem programs_next (session : Session σ) (command : Command) (state : σ) {index : Nat}
    (other : index ≠ session.current) {program : Program σ}
    (here : session.programs[index]? = some program) :
    (session.next command state).programs[index]? = some program := by
  have replaced : ∀ changed, (session.replace changed).programs[index]? = some program := by
    intro changed
    rw [replace, List.getElem?_set_ne (Ne.symm other)]
    exact here
  cases command with
  | set name value =>
    rw [next_set, next_setAll]
    exact replaced _
  | setAll bindings =>
    rw [next_setAll]
    exact replaced _
  | rebuild => exact replaced _
  | copy =>
    show (session.programs ++ [session.program])[index]? = some program
    rw [List.getElem?_append_left (List.getElem?_eq_some_iff.mp here).1]
    exact here
  | select place =>
    show (session.select place).programs[index]? = some program
    rw [select]
    split <;> exact here
  | _ => exact here

/-! ## Several commands -/

/-- A session begins as its histories do. -/
theorem follows_start (tokens : List (Token σ)) (reserved : List String) :
    (start (.ofTokens tokens reserved)).Follows tokens (.start reserved) := by
  refine ⟨?_, rfl⟩
  show [Program.ofTokens tokens reserved] = [History.program tokens ⟨reserved, []⟩]
  rw [Program.ofTokens_eq_withValues]
  rfl

/-- **Commands are carried out as the histories tell.** -/
theorem Follows.after (follows : session.Follows tokens histories) (commands : List Command)
    (state : σ) : (session.after commands state).1.Follows tokens (histories.after commands) := by
  induction commands generalizing session histories state with
  | nil => exact follows
  | cons command rest ih => exact ih (follows.next command state) _

end Session

/-- **In every state that a session of a list of tokens comes to, its programs are linked, and the
value that is read for a name is the one that their histories give it.** The tokens may come with
any slots. A program that is built anew has the same tokens in the same slots, settings of names
that do not occur change nothing, and no command changes another program than the current one. -/
theorem after_start_bindings (tokens : List (Token σ)) (reserved : List String)
    (commands : List Command) (state : σ) :
    let session := ((Session.start (.ofTokens tokens reserved)).after commands state).1
    let histories := (Histories.start reserved).after commands
    session.programs.length = histories.all.length ∧
      (session.current : Nat) = histories.current ∧
      (∀ (index : Nat) (program : Program σ) (history : History),
        session.programs[index]? = some program → histories.all[index]? = some history →
          program.Linked ∧
          (∀ name other slot slot', .var name slot ∈ program.tokens →
            .var other slot' ∈ program.tokens → (slot = slot' ↔ name = other)) ∧
          (∀ name slot, .var name slot ∈ program.tokens →
            program.value? slot = history.value? name ∧
            ∀ bindings,
              (program.bindAll bindings).1.value? slot = (history.set bindings).value? name) ∧
          program.rebuild.tokens = program.tokens ∧ program.rebuild.names = program.names) ∧
      (∀ (name : String) (value : Float) (after : σ), session.program.contains name = false →
        session.next (.set name value) after = session) ∧
      (∀ (bindings : Bindings) (after : σ),
        (∀ binding ∈ bindings, session.program.contains binding.1 = false) →
          session.next (.setAll bindings) after = session) ∧
      ∀ (command : Command) (after : σ) (index : Nat) (program : Program σ),
        index ≠ (session.current : Nat) → session.programs[index]? = some program →
          (session.next command after).programs[index]? = some program := by
  intro session histories
  have follows : session.Follows tokens histories :=
    (Session.follows_start tokens reserved).after commands state
  refine ⟨follows.length, follows.current, ?_, ?_, ?_, ?_⟩
  · intro index program history here there
    obtain rfl : history.program tokens = program := by
      rw [follows.programs, List.getElem?_map, there] at here
      exact Option.some.inj here
    have linked := history.linked_program tokens
    refine ⟨linked, fun _ _ _ _ => linked.slot_eq_iff, fun name slot mem => ⟨?_, ?_⟩, ?_, ?_⟩
    · exact history.value?_program tokens mem
    · intro bindings
      rw [history.bindAll_program]
      exact (history.set bindings).value?_program tokens mem
    · rw [History.rebuild_program]
      rfl
    · rw [History.rebuild_program, History.names_program, History.names_program]
  · intro name value after absent
    rw [Session.next_set]
    exact session.next_absent (by simpa using absent) after
  · intro bindings after absent
    exact session.next_absent absent after
  · intro command after index program other here
    exact session.programs_next command after other here

end Formula
