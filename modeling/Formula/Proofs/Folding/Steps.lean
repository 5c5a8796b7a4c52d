import Formula.Folding
import Formula.Proofs.Effect
import Formula.Proofs.Operands
import Mathlib.Data.List.Induction

/-!
# Folding, step by step

A step of folding keeps its token, or replaces the numbers on top by what the token computes from
them. **`Folding.Makes`** is the relation that these steps build up, from the left: it says what
folding makes of a list of tokens without mention of the computation that makes it.

Folding is foreseeable where the rules that it may call are functions of their arguments. Then it
ignores the hidden state, and either makes a list of the tokens, or stops at the first token whose
rule fails on the numbers before it (`Folding.makes_or_fails`).
-/

namespace Formula

variable {σ : Type}

/-- The rule of a token that may be computed ahead is a function of its arguments. -/
def Token.Foreseeable (token : Token σ) : Prop :=
  ∀ arity rule, token.foldable? = some (arity, rule) → ∃ f, rule = Rule.ofFunction f

/-- What is not computed ahead is foreseeable, whatever its rule does. -/
theorem Token.Foreseeable.of_none {token : Token σ} (kept : token.foldable? = none) :
    token.Foreseeable := by
  intro arity rule operation
  rw [kept] at operation
  cases operation

theorem Token.Foreseeable.of_some {token : Token σ} {arity : Nat}
    {f : List Float → Except String Float}
    (operation : token.foldable? = some (arity, Rule.ofFunction f)) : token.Foreseeable := by
  intro arity rule other
  rw [operation] at other
  cases other
  exact ⟨f, rfl⟩

namespace Folding

/-- Where a partial function undoes `g`, what it reads off a list is what `g` makes the list of. -/
theorem mapM_eq_some_iff_map {α β : Type} {f : α → Option β} {g : β → α}
    (undoes : ∀ a b, f a = some b ↔ a = g b) {as : List α} {bs : List β} :
    as.mapM f = some bs ↔ as = bs.map g := by
  induction as generalizing bs with
  | nil => cases bs <;> simp
  | cons a rest ih =>
    cases bs with
    | nil => simp [Option.bind_eq_some_iff]
    | cons b later => simp [Option.bind_eq_some_iff, undoes, ih]

/-- Tokens that are all numbers are those of their values. -/
theorem mapM_value?_eq_some_iff {tokens : List (Token σ)} {values : List Float} :
    tokens.mapM Token.value? = some values ↔ tokens = values.map .number :=
  mapM_eq_some_iff_map fun token _ => by cases token <;> simp [Token.value?]

/-- The topmost tokens are constants if they are numbers, as many as are asked for. -/
theorem constants?_eq_some_iff {n : Nat} {folded below : List (Token σ)} {values : List Float} :
    constants? n folded = some (values, below) ↔
      folded = (values.map .number).reverse ++ below ∧ values.length = n := by
  unfold constants?
  constructor
  · intro h
    obtain ⟨⟨top, rest⟩, taken, h⟩ := Option.bind_eq_some_iff.mp h
    obtain ⟨found, numbers, h⟩ := Option.bind_eq_some_iff.mp h
    cases h
    rw [mapM_value?_eq_some_iff] at numbers
    obtain ⟨rfl, rfl⟩ := operands?_eq_some_iff.mp taken
    exact ⟨by rw [numbers], by rw [numbers, List.length_map]⟩
  · rintro ⟨rfl, rfl⟩
    have taken : operands? values.length ((values.map Token.number).reverse ++ below) =
        some (values.map .number, below) :=
      operands?_eq_some_iff.mpr ⟨rfl, List.length_map _⟩
    have numbers : (values.map (Token.number (σ := σ))).mapM Token.value? = some values :=
      mapM_value?_eq_some_iff.mpr rfl
    simp [taken, numbers]

/-- The token is no operation on the numbers on top. -/
def Blocked (folded : List (Token σ)) (token : Token σ) : Prop :=
  ∀ arity rule, token.foldable? = some (arity, rule) → constants? arity folded = none

/-- A token that is no operation on the numbers on top is kept. -/
theorem step_of_blocked {folded : List (Token σ)} {token : Token σ} (h : Blocked folded token) :
    step folded token = pure (token :: folded) := by
  unfold step
  split
  · rfl
  · rename_i arity rule foldable
    rw [h arity rule foldable]

/-- A token that is an operation on the numbers on top takes their place with its value. -/
theorem step_of_foldable {token : Token σ} {rule : Rule σ} {values : List Float}
    (h : token.foldable? = some (values.length, rule)) (below : List (Token σ)) :
    step ((values.map .number).reverse ++ below) token =
      rule.apply values >>= fun value => pure (.number value :: below) := by
  have taken : constants? values.length ((values.map Token.number).reverse ++ below) =
      some (values, below) := constants?_eq_some_iff.mpr ⟨rfl, rfl⟩
  simp only [step, h, taken]

/-- A token is kept, or its rule is called on the numbers on top. -/
theorem blocked_or_foldable (folded : List (Token σ)) (token : Token σ) :
    Blocked folded token ∨
      ∃ (values : List Float) (below : List (Token σ)) (rule : Rule σ),
        folded = (values.map .number).reverse ++ below ∧
          token.foldable? = some (values.length, rule) := by
  cases foldable : token.foldable? with
  | none =>
    left
    intro arity rule h
    rw [foldable] at h
    cases h
  | some found =>
    obtain ⟨arity, rule⟩ := found
    cases taken : constants? arity folded with
    | none =>
      left
      intro arity' rule' h
      rw [foldable] at h
      cases h
      exact taken
    | some split =>
      obtain ⟨values, below⟩ := split
      obtain ⟨shape, rfl⟩ := constants?_eq_some_iff.mp taken
      exact .inr ⟨values, below, rule, shape, rfl⟩

/-- Whatever its rules do, a step of folding keeps its token, or puts a number in the place of the
numbers that an operation takes. -/
theorem step_cases {folded next : List (Token σ)} {token : Token σ} {state after : σ}
    (h : Effect.from state (step folded token) = (.ok next, after)) :
    next = token :: folded ∨
      ∃ (values : List Float) (below : List (Token σ)) (rule : Rule σ) (value : Float),
        folded = (values.map .number).reverse ++ below ∧
          token.foldable? = some (values.length, rule) ∧ next = .number value :: below := by
  rcases blocked_or_foldable folded token with blocked | ⟨values, below, rule, rfl, operation⟩
  · rw [step_of_blocked blocked] at h
    cases h
    exact .inl rfl
  · rw [step_of_foldable operation] at h
    obtain ⟨value, mid, -, put⟩ := Effect.of_from_bind_ok h
    cases put
    exact .inr ⟨values, below, rule, value, rfl, operation, rfl⟩

/-- **What folding may leave of tokens**, the latest first, whatever its rules answer. -/
inductive Leaves : List (Token σ) → List (Token σ) → Prop
  | nothing : Leaves [] []
  | keep {tokens folded : List (Token σ)} (token : Token σ) :
    Leaves tokens folded → Leaves (tokens ++ [token]) (token :: folded)
  | compute {tokens below : List (Token σ)} {token : Token σ} {values : List Float}
      {rule : Rule σ} (value : Float) :
    Leaves tokens ((values.map .number).reverse ++ below) →
      token.foldable? = some (values.length, rule) →
        Leaves (tokens ++ [token]) (.number value :: below)

/-- What folding answers, it may leave. -/
theorem leaves_of_foldlM {tokens folded : List (Token σ)} {state after : σ}
    (h : Effect.from state (tokens.foldlM step []) = (.ok folded, after)) :
    Leaves tokens folded := by
  induction tokens using List.reverseRecOn generalizing folded after with
  | nil =>
    cases h
    exact .nothing
  | append_singleton tokens token ih =>
    rw [List.foldlM_append] at h
    obtain ⟨before, mid, earlier, last⟩ := Effect.of_from_bind_ok h
    rw [List.foldlM_cons] at last
    obtain ⟨next, _, stepped, ended⟩ := Effect.of_from_bind_ok last
    cases ended
    have left := ih earlier
    rcases step_cases stepped with rfl | ⟨values, below, rule, value, rfl, operation, rfl⟩
    · exact left.keep token
    · exact left.compute value operation

theorem leaves_of_fold {tokens folded : List (Token σ)} {state : σ}
    (h : (Effect.from state (fold tokens)).1 = .ok folded) : Leaves tokens folded.reverse := by
  have whole : Effect.from state (fold tokens) =
      (.ok folded, (Effect.from state (fold tokens)).2) := Prod.ext h rfl
  rw [fold, map_eq_pure_bind] at whole
  obtain ⟨left, mid, folds, reversed⟩ := Effect.of_from_bind_ok whole
  cases reversed
  rw [List.reverse_reverse]
  exact leaves_of_foldlM folds

/-- **What folding leaves are tokens that it found**, or numbers. -/
theorem Leaves.sources {tokens folded : List (Token σ)} (left : Leaves tokens folded) :
    ∀ token ∈ folded, token.value?.isSome ∨ token ∈ tokens := by
  induction left with
  | nothing => exact fun _ mem => nomatch mem
  | @keep tokens folded last _ ih =>
    refine List.forall_mem_cons.mpr ⟨.inr (by simp), fun token mem => ?_⟩
    exact (ih token mem).imp_right (List.mem_append_left [last])
  | @compute tokens below last values rule value _ _ ih =>
    refine List.forall_mem_cons.mpr ⟨.inl rfl, fun token mem => ?_⟩
    exact (ih token (List.mem_append_right _ mem)).imp_right (List.mem_append_left [last])

/-- **Folding leaves all variables in order**, with whatever marks they bear. -/
theorem Leaves.filterMap_eq {β : Type} {mark : Token σ → Option β} {tokens folded : List (Token σ)}
    (left : Leaves tokens folded)
    (unmarked : ∀ token, token.variableName? = none → mark token = none) :
    folded.reverse.filterMap mark = tokens.filterMap mark := by
  have number : ∀ x, mark (.number x) = none := fun x => unmarked _ rfl
  induction left with
  | nothing => rfl
  | keep _ _ ih => simp [ih]
  | @compute tokens below token values rule value _ operation ih =>
    have unnamed : token.variableName? = none := by
      cases token with
      | var name slot => cases operation
      | _ => rfl
    have numbers : (values.map Token.number).filterMap mark = [] := by
      simp [List.filterMap_map, number]
    simp only [List.reverse_append, List.reverse_reverse, List.filterMap_append, numbers,
      List.append_nil] at ih
    simp [number, unmarked token unnamed, ih]

/-- **What folding makes of tokens**, the latest first. -/
inductive Makes : List (Token σ) → List (Token σ) → Prop
  | nothing : Makes [] []
  | keep {tokens folded : List (Token σ)} {token : Token σ} :
    Makes tokens folded → Blocked folded token → Makes (tokens ++ [token]) (token :: folded)
  | compute {tokens below : List (Token σ)} {token : Token σ} {values : List Float}
      {f : List Float → Except String Float} {value : Float} :
    Makes tokens ((values.map .number).reverse ++ below) →
      token.foldable? = some (values.length, Rule.ofFunction f) → f values = .ok value →
        Makes (tokens ++ [token]) (.number value :: below)

theorem Makes.leaves {tokens folded : List (Token σ)} (made : Makes tokens folded) :
    Leaves tokens folded := by
  induction made with
  | nothing => exact .nothing
  | keep _ _ ih => exact ih.keep _
  | compute _ operation _ ih => exact ih.compute _ operation

/-- After `front`, the rule of the token fails on the numbers on top. -/
def Fails (front : List (Token σ)) (token : Token σ) (reason : String) : Prop :=
  ∃ (values : List Float) (below : List (Token σ)) (f : List Float → Except String Float),
    Makes front ((values.map .number).reverse ++ below) ∧
      token.foldable? = some (values.length, Rule.ofFunction f) ∧ f values = .error reason

/-- The relation is what the steps compute. -/
theorem Makes.foldlM_eq {tokens folded : List (Token σ)} (made : Makes tokens folded) :
    tokens.foldlM step [] = Effect.ofExcept (.ok folded) := by
  induction made with
  | nothing => rfl
  | keep _ blocked ih =>
    rw [List.foldlM_append, ih, Effect.ofExcept_ok, pure_bind, List.foldlM_cons,
      step_of_blocked blocked]
    rfl
  | compute _ operation outcome ih =>
    rw [List.foldlM_append, ih, Effect.ofExcept_ok, pure_bind, List.foldlM_cons,
      step_of_foldable operation, Rule.apply_ofFunction, outcome]
    rfl

theorem Makes.fold_eq {tokens folded : List (Token σ)} (made : Makes tokens folded) :
    fold tokens = Effect.ofExcept (.ok folded.reverse) := by
  rw [fold, made.foldlM_eq]
  rfl

/-- Folding stops at a token whose rule fails. -/
theorem Fails.fold_eq {front : List (Token σ)} {token : Token σ} {reason : String}
    (fails : Fails front token reason) (back : List (Token σ)) :
    fold (front ++ token :: back) = Effect.ofExcept (.error (.arithmetic reason)) := by
  obtain ⟨values, below, f, made, operation, outcome⟩ := fails
  rw [fold, List.foldlM_append, made.foldlM_eq, Effect.ofExcept_ok, pure_bind, List.foldlM_cons,
    step_of_foldable operation, Rule.apply_ofFunction, outcome]
  rfl

/-- **Folding makes a list of the tokens, or the rule of one of them fails.** -/
theorem makes_or_fails {tokens : List (Token σ)} (plain : ∀ token ∈ tokens, token.Foreseeable) :
    (∃ folded, Makes tokens folded) ∨
      ∃ front token back reason, tokens = front ++ token :: back ∧ Fails front token reason := by
  induction tokens using List.reverseRecOn with
  | nil => exact .inl ⟨[], .nothing⟩
  | append_singleton tokens token ih =>
    rcases ih fun t mem => plain t (by simp [mem]) with
      ⟨folded, made⟩ | ⟨front, failing, back, reason, split, fails⟩
    · rcases blocked_or_foldable folded token with
        blocked | ⟨values, below, rule, rfl, operation⟩
      · exact .inl ⟨token :: folded, made.keep blocked⟩
      · obtain ⟨f, rfl⟩ := plain token (by simp) values.length rule operation
        cases outcome : f values with
        | ok value => exact .inl ⟨.number value :: below, made.compute operation outcome⟩
        | error reason =>
          have fails : Fails tokens token reason := ⟨values, below, f, made, operation, outcome⟩
          exact .inr ⟨tokens, token, [], reason, rfl, fails⟩
    · exact .inr ⟨front, failing, back ++ [token], reason, by simp [split], fails⟩

/-- What folding answers from any state, it makes of the tokens. -/
theorem makes_of_fold {tokens folded : List (Token σ)} {state : σ}
    (plain : ∀ token ∈ tokens, token.Foreseeable)
    (h : (Effect.from state (fold tokens)).1 = .ok folded) : Makes tokens folded.reverse := by
  rcases makes_or_fails plain with ⟨made, makes⟩ | ⟨front, token, back, reason, rfl, fails⟩
  · rw [makes.fold_eq, Effect.from_ofExcept] at h
    cases h
    rwa [List.reverse_reverse]
  · rw [fails.fold_eq, Effect.from_ofExcept] at h
    cases h

/-- Where folding fails, it is at a token whose rule fails. -/
theorem fails_of_fold {tokens : List (Token σ)} {error : Error} {state : σ}
    (plain : ∀ token ∈ tokens, token.Foreseeable)
    (h : (Effect.from state (fold tokens)).1 = .error error) :
    ∃ front token back reason, tokens = front ++ token :: back ∧ Fails front token reason ∧
      error = .arithmetic reason := by
  rcases makes_or_fails plain with ⟨made, makes⟩ | ⟨front, token, back, reason, rfl, fails⟩
  · rw [makes.fold_eq, Effect.from_ofExcept] at h
    cases h
  · rw [fails.fold_eq, Effect.from_ofExcept] at h
    cases h
    exact ⟨front, token, back, reason, rfl, fails, rfl⟩

end Folding

end Formula
