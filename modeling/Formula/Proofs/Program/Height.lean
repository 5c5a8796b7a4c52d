import Formula.Proofs.Program.Agreement

/-!
# The height of the stack

How many values a list of postfix tokens leaves on a stack can be told without running it, if it
runs at all: each token needs its operands there (`Token.heightAfter`). **A program passes the check
if and only if its tokens lead from an empty stack to one value**
(`Program.validate_iff_height`), as far as the check can count their operands.
-/

namespace Formula

variable {σ : Type}

/-- The height of a stack after a token, if the token finds its operands there. -/
def Token.heightAfter (height : Nat) : Token σ → Option Nat
  | number _ | var _ _ => some (height + 1)
  | operator o => if o.arity ≤ height then some (height - o.arity + 1) else none
  | function f => if f.arity ≤ height then some (height - f.arity + 1) else none
  | opening | closing | separator => none

/-- The height after tokens that are run on a stack of some height. -/
def heightAfter (height : Nat) (tokens : List (Token σ)) : Option Nat :=
  tokens.foldlM Token.heightAfter height

@[simp]
theorem heightAfter_nil (height : Nat) : heightAfter height ([] : List (Token σ)) = some height :=
  rfl

theorem heightAfter_cons (height : Nat) (token : Token σ) (rest : List (Token σ)) :
    heightAfter height (token :: rest) =
      (token.heightAfter height).bind fun next => heightAfter next rest :=
  List.foldlM_cons

theorem heightAfter_append (height : Nat) (front back : List (Token σ)) :
    heightAfter height (front ++ back) =
      (heightAfter height front).bind fun next => heightAfter next back :=
  List.foldlM_append

/-- A token leaves a value on the stack. -/
theorem Token.heightAfter_pos {token : Token σ} {height after : Nat}
    (h : token.heightAfter height = some after) : 0 < after := by
  cases token with
  | number x =>
    cases h
    omega
  | var name slot =>
    cases h
    omega
  | operator o =>
    rw [heightAfter] at h
    split at h
    · cases h
      omega
    · cases h
  | function f =>
    rw [heightAfter] at h
    split at h
    · cases h
      omega
    · cases h
  | _ => cases h

/-- So do several tokens. -/
theorem heightAfter_pos {tokens : List (Token σ)} {height after : Nat}
    (some_value : tokens ≠ [] ∨ 0 < height) (h : heightAfter height tokens = some after) :
    0 < after := by
  induction tokens generalizing height with
  | nil =>
    cases h
    exact some_value.resolve_left fun none => none rfl
  | cons token rest ih =>
    rw [heightAfter_cons, Option.bind_eq_some_iff] at h
    obtain ⟨next, here, later⟩ := h
    exact ih (.inr (Token.heightAfter_pos here)) later

namespace Program

/-- The check counts the height, and reports nothing where there is one. -/
theorem tally_of_heightAfter {token : Token σ} (countable : token.Countable) {height after : Nat}
    (h : token.heightAfter height = some after) : tally height token = ([], (after : Int)) := by
  cases token with
  | number x =>
    cases h
    rfl
  | var name slot =>
    cases h
    rfl
  | operator o =>
    rw [Token.heightAfter] at h
    split at h
    · cases h
      rw [tally_operator countable]
      have count : (height : Int) - o.arity + 1 = (height - o.arity + 1 : Nat) := by omega
      rw [count]
    · cases h
  | function f =>
    rw [Token.heightAfter] at h
    split at h
    · cases h
      rw [tally_function countable, if_neg (by omega)]
      have count : (height : Int) - f.arity + 1 = (height - f.arity + 1 : Nat) := by omega
      rw [count]
    · cases h
  | _ => cases h

/-- It reports something where a token does not find its operands. -/
theorem inspect_of_heightAfter_none {token : Token σ} (countable : token.Countable) {height : Nat}
    (h : token.heightAfter height = none) (rest : List (Token σ)) :
    inspect height (token :: rest) ≠ [] := by
  rw [inspect_cons]
  cases token with
  | number x => cases h
  | var name slot => cases h
  | operator o =>
    rw [Token.heightAfter] at h
    split at h
    · cases h
    · rw [tally_operator countable, if_pos (by dsimp only; omega)]
      simp
  | function f =>
    rw [Token.heightAfter] at h
    split at h
    · cases h
    · rw [tally_function countable, if_pos (by omega)]
      simp
  | opening => simp [tally]
  | closing => simp [tally]
  | separator => simp [tally]

/-- **The check finds nothing if and only if one value is left.** -/
theorem inspect_iff_height {tokens : List (Token σ)} (countable : ∀ token ∈ tokens, token.Countable)
    {height : Nat} (some_value : tokens ≠ [] ∨ 0 < height) :
    inspect height tokens = [] ↔ heightAfter height tokens = some 1 := by
  induction tokens generalizing height with
  | nil =>
    have positive : 0 < height := some_value.resolve_left fun none => none rfl
    rw [inspect, heightAfter_nil, Option.some_inj]
    split
    · simp only [List.cons_ne_nil, false_iff]
      omega
    · simp only [true_iff]
      omega
  | cons token rest ih =>
    have here := countable token List.mem_cons_self
    rw [heightAfter_cons]
    cases after : token.heightAfter height with
    | none =>
      simp only [Option.bind_none, reduceCtorEq, iff_false]
      exact inspect_of_heightAfter_none here after rest
    | some next =>
      have positive := Token.heightAfter_pos after
      rw [inspect_cons, tally_of_heightAfter here after, List.nil_append, Option.bind_some,
        if_neg (by dsimp only; omega)]
      exact ih (fun later mem => countable later (List.mem_cons_of_mem _ mem)) (.inr positive)

/-- **A program passes the check if and only if its tokens leave one value** on an empty stack. -/
theorem validate_iff_height {program : Program σ}
    (countable : ∀ token ∈ program.tokens, token.Countable) :
    program.validate false = [] ↔ heightAfter 0 program.tokens = some 1 := by
  have checked : program.validate false =
      if program.tokens.isEmpty then [.empty] else inspect 0 program.tokens := rfl
  rw [checked]
  cases tokens : program.tokens with
  | nil => simp
  | cons token rest =>
    rw [tokens] at countable
    exact inspect_iff_height countable (.inl (List.cons_ne_nil token rest))

/-- Slots do not change the height. -/
theorem heightAfter_link (names : List String) (tokens : List (Token σ)) (height : Nat) :
    heightAfter height (tokens.map (Token.link names)) = heightAfter height tokens := by
  induction tokens generalizing height with
  | nil => rfl
  | cons token rest ih =>
    have same : (token.link names).heightAfter height = token.heightAfter height := by
      cases token <;> rfl
    rw [List.map_cons, heightAfter_cons, heightAfter_cons, same]
    exact Option.bind_congr fun next _ => ih next

/-- So it is with the program of a list of tokens. -/
theorem validate_ofTokens_iff {tokens : List (Token σ)}
    (countable : ∀ token ∈ tokens, token.Countable) (reserved : List String) :
    (ofTokens tokens reserved).validate false = [] ↔ heightAfter 0 tokens = some 1 := by
  have linked : ∀ token ∈ (ofTokens tokens reserved).tokens, token.Countable := by
    intro token mem
    obtain ⟨origin, original, rfl⟩ := List.mem_map.mp mem
    have counted := countable origin original
    cases origin with
    | var name slot => trivial
    | _ => exact counted
  rw [validate_iff_height linked]
  show heightAfter 0 (tokens.map (Token.link (Token.variableNames tokens))) = _ ↔ _
  rw [heightAfter_link]

end Program

end Formula
