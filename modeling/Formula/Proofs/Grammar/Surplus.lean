import Formula.Proofs.Grammar.Brackets
import Mathlib.Data.List.Chain

/-!
# Surplus and missing operands

Each token changes the number of values on a stack by its weight: an operand adds one, an operation
takes its operands and leaves one value. The balance of a list of tokens, the sum of their weights,
is one for a sentence, but also where a surplus in one place makes up for what is missing in
another, as in `f(x, x) *`.

**A surplus is an operand that nothing asks for**: an argument too many, or an operand or a part of
one that stands where an operand is already complete. Without a surplus the balance is at most one,
and it is one for sentences only (`sentence_of_balance`). The bound holds at every place of a list of
arguments, according to whether an operand is due there (`Due`) or complete (`Done`).
-/

namespace Formula

variable {σ : Type}

theorem Operator.kinds {o : Operator σ} (arity : o.arity = 1 ∨ o.arity = 2) :
    o.precedesOperand = true ∨ o.followsOperand = true ∨ o.standsBetween = true := by
  rcases arity with one | two
  · cases side : o.leftAssociative <;>
      simp [precedesOperand, followsOperand, isUnary, one, side]
  · simp [standsBetween, two]

namespace Token

/-- A number, a variable, a call or a bracket starts here. -/
def startsOperand : Token σ → Bool
  | number _ | var _ _ | function _ | opening => true
  | operator _ | closing | separator => false

/-- An operator that stands before its operand. -/
def precedesOperand : Token σ → Bool
  | operator o => o.precedesOperand
  | _ => false

/-- An operator that stands after its operand. -/
def followsOperand : Token σ → Bool
  | operator o => o.followsOperand
  | _ => false

/-- What a token adds to the number of values. -/
def weight : Token σ → Int
  | number _ | var _ _ => 1
  | operator o => 1 - o.arity
  | function f => 1 - f.arity
  | opening | closing | separator => 0

/-- An operand, or an operator before it, stands only where an operand is due. -/
def Apart (token next : Token σ) : Prop :=
  next.startsOperand = true ∨ next.precedesOperand = true → token.awaitsOperand = true

/-- Nothing is in surplus between two neighbours: an operator before an operand stands only where an
operand is due, and no operand starts right after an operator that follows its own. -/
def Uncrowded (token next : Token σ) : Prop :=
  (next.precedesOperand = true → token.awaitsOperand = true) ∧
    (token.followsOperand = true → next.startsOperand = false)

end Token

/-- What a list of tokens adds to the number of values. -/
def balance (tokens : List (Token σ)) : Int :=
  tokens.foldr (fun token total => token.weight + total) 0

/-- Brackets have room for what stands between them: those of a call for as many arguments as its
function takes, those of a group for one expression. -/
def HasRoom : Option (Function σ) → Nat → List (Token σ) → Prop
  | some f, separators, inner => if f.arity = 0 then inner = [] else separators < f.arity
  | none, separators, _ => separators = 0

/-- **Nothing is in surplus**: no operand or operator stands where an operand is complete and waits
for none, and no brackets hold more arguments than they have room for. -/
structure NoSurplus (tokens : List (Token σ)) : Prop where
  operands : tokens.IsChain Token.Uncrowded
  arguments : Content HasRoom 0 tokens

/-! ## Balance -/

@[simp]
theorem balance_nil : balance ([] : List (Token σ)) = 0 := rfl

@[simp]
theorem balance_cons (token : Token σ) (rest : List (Token σ)) :
    balance (token :: rest) = token.weight + balance rest := rfl

@[simp]
theorem balance_append (front back : List (Token σ)) :
    balance (front ++ back) = balance front + balance back := by
  induction front with
  | nil => simp
  | cons token rest ih =>
    rw [List.cons_append, balance_cons, balance_cons, ih]
    omega

theorem balance_perm {first second : List (Token σ)} (h : first.Perm second) :
    balance first = balance second := by
  induction h with
  | nil => rfl
  | cons token _ ih => rw [balance_cons, balance_cons, ih]
  | swap token next rest =>
    simp only [balance_cons]
    omega
  | trans _ _ ih ih' => exact ih.trans ih'

/-- A change of tokens that keeps their weights keeps the balance. -/
theorem balance_map {change : Token σ → Token σ} (h : ∀ token, (change token).weight = token.weight)
    (tokens : List (Token σ)) : balance (tokens.map change) = balance tokens := by
  induction tokens with
  | nil => rfl
  | cons token rest ih => rw [List.map_cons, balance_cons, balance_cons, h, ih]

theorem weight_of_isUnary {o : Operator σ} (h : o.isUnary = true) :
    (Token.operator o).weight = 0 := by
  simp [Token.weight, Operator.arity_of_isUnary h]

theorem weight_of_standsBetween {o : Operator σ} (h : o.standsBetween = true) :
    (Token.operator o).weight = -1 := by
  simp [Token.weight, Operator.arity_of_standsBetween h]

/-! ## Places in a list of arguments -/

/-- With `k` separators to come, and an operand due, the balance is at most `k + 1`, and that much
only if all arguments are complete. -/
def Due (k : Nat) (tokens : List (Token σ)) : Prop :=
  balance tokens ≤ k + 1 ∧
    (balance tokens = k + 1 → Phrase Exactly (.arguments (k + 1)) tokens)

/-- With `k` separators to come, and an operand complete, the balance is at most `k`, and that much
only if the rest completes the argument of every such operand, and all later ones. -/
def Done (k : Nat) (tokens : List (Token σ)) : Prop :=
  balance tokens ≤ k ∧
    (balance tokens = k → ∀ left, Phrase Exactly .operand left →
      Phrase Exactly (.arguments (k + 1)) (left ++ tokens))

section Places

variable {k : Nat} {tokens : List (Token σ)} {o : Operator σ}

theorem Due.nil : Due 0 ([] : List (Token σ)) :=
  ⟨by simp, fun h => by simp at h⟩

theorem Done.nil : Done 0 ([] : List (Token σ)) := by
  refine ⟨by simp, fun _ left operand => ?_⟩
  rw [List.append_nil]
  exact .one (.single operand)

/-- A primary completes the operand. -/
theorem Due.primary {front : List (Token σ)} (most : balance front ≤ 1)
    (phrase : balance front = 1 → Phrase Exactly .primary front) (h : Done k tokens) :
    Due k (front ++ tokens) := by
  obtain ⟨bound, complete⟩ := h
  refine ⟨?_, fun full => ?_⟩
  · rw [balance_append]
    omega
  · rw [balance_append] at full
    have front_full : balance front = 1 := by omega
    exact complete (by omega) front (.plain (phrase front_full))

theorem Due.number (x : Float) (h : Done k tokens) : Due k (.number x :: tokens) := by
  have one : balance [(Token.number x : Token σ)] = 1 := by simp [Token.weight]
  exact Due.primary (Int.le_of_eq one) (fun _ => .number x) h

theorem Due.var (name : String) (slot : Nat) (h : Done k tokens) :
    Due k (.var name slot :: tokens) := by
  have one : balance [(Token.var name slot : Token σ)] = 1 := by simp [Token.weight]
  exact Due.primary (Int.le_of_eq one) (fun _ => .var name slot) h

theorem Due.before (kind : o.precedesOperand = true) (h : Due k tokens) :
    Due k (.operator o :: tokens) := by
  obtain ⟨bound, complete⟩ := h
  have weightless : (Token.operator o).weight = 0 :=
    weight_of_isUnary (Operator.isUnary_of_precedesOperand kind)
  refine ⟨?_, fun full => ?_⟩
  · rw [balance_cons]
    omega
  · rw [balance_cons] at full
    exact (complete (by omega)).arguments_before kind

/-- An operator that follows its operand, where that is missing. -/
theorem Due.after (kind : o.followsOperand = true) (h : Done k tokens) :
    Due k (.operator o :: tokens) := by
  obtain ⟨bound, complete⟩ := h
  have weightless : (Token.operator o).weight = 0 :=
    weight_of_isUnary (Operator.isUnary_of_followsOperand kind)
  rw [Due, balance_cons]
  exact ⟨by omega, fun full => by omega⟩

theorem Done.after (kind : o.followsOperand = true) (h : Done k tokens) :
    Done k (.operator o :: tokens) := by
  obtain ⟨bound, complete⟩ := h
  have weightless : (Token.operator o).weight = 0 :=
    weight_of_isUnary (Operator.isUnary_of_followsOperand kind)
  refine ⟨?_, fun full left operand => ?_⟩
  · rw [balance_cons]
    omega
  · rw [balance_cons] at full
    rw [List.append_cons]
    exact complete (by omega) (left ++ [.operator o]) (.after operand kind)

/-- An operator between two operands, where the first is missing. -/
theorem Due.between (kind : o.standsBetween = true) (h : Due k tokens) :
    Due k (.operator o :: tokens) := by
  obtain ⟨bound, complete⟩ := h
  have weight := weight_of_standsBetween kind
  rw [Due, balance_cons]
  exact ⟨by omega, fun full => by omega⟩

theorem Done.between (kind : o.standsBetween = true) (h : Due k tokens) :
    Done k (.operator o :: tokens) := by
  obtain ⟨bound, complete⟩ := h
  have weight := weight_of_standsBetween kind
  refine ⟨?_, fun full left operand => ?_⟩
  · rw [balance_cons]
    omega
  · rw [balance_cons] at full
    exact .arguments_between operand kind (complete (by omega))

/-- An argument that is missing, or ends where an operand is due. -/
theorem Due.separator (h : Due k tokens) : Due (k + 1) (.separator :: tokens) := by
  obtain ⟨bound, complete⟩ := h
  have weightless : (Token.separator : Token σ).weight = 0 := rfl
  rw [Due, balance_cons]
  exact ⟨by omega, fun full => by omega⟩

theorem Done.separator (h : Due k tokens) : Done (k + 1) (.separator :: tokens) := by
  obtain ⟨bound, complete⟩ := h
  have weightless : (Token.separator : Token σ).weight = 0 := rfl
  refine ⟨?_, fun full left operand => ?_⟩
  · rw [balance_cons]
    omega
  · rw [balance_cons] at full
    exact .more (.single operand) (complete (by omega))

end Places

/-- Brackets of a group with room for what they hold are a primary, if nothing is missing. -/
theorem Due.group {inner : List (Token σ)} (h : Due 0 inner) :
    balance (.opening :: (inner ++ [.closing])) ≤ 1 ∧
      (balance (.opening :: (inner ++ [.closing])) = 1 →
        Phrase Exactly .primary (.opening :: (inner ++ [.closing]))) := by
  obtain ⟨bound, complete⟩ := h
  have weight : balance (.opening :: (inner ++ [.closing])) = balance inner := by
    simp [Token.weight]
  rw [weight]
  exact ⟨by omega, fun full => .group (complete (by omega)).expression_of_arguments⟩

/-- So are those of a call. -/
theorem Due.call {f : Function σ} {k : Nat} {inner : List (Token σ)} (h : Due k inner)
    (room : HasRoom (some f) k inner) :
    balance (.function f :: .opening :: (inner ++ [.closing])) ≤ 1 ∧
      (balance (.function f :: .opening :: (inner ++ [.closing])) = 1 →
        Phrase Exactly .primary (.function f :: .opening :: (inner ++ [.closing]))) := by
  obtain ⟨bound, complete⟩ := h
  have weight : balance (.function f :: .opening :: (inner ++ [.closing])) =
      1 - f.arity + balance inner := by
    simp [Token.weight]
  rw [weight]
  rw [HasRoom] at room
  split at room
  · rename_i nullary
    subst room
    rw [nullary]
    exact ⟨by simp, fun _ => .call (n := 0) nullary.symm .none⟩
  · refine ⟨by omega, fun full => ?_⟩
    have count : k + 1 = f.arity := by omega
    exact .call count (complete (by omega))

/-- **Without a surplus, every place of a list of arguments is within the bound**, after a token that
awaits an operand as after one that completes it. -/
theorem due_or_done {k : Nat} {tokens : List (Token σ)} (content : Content HasRoom k tokens)
    (arities : ∀ o, .operator o ∈ tokens → o.arity = 1 ∨ o.arity = 2) {previous : Token σ}
    (apart : (previous :: tokens).IsChain Token.Apart) :
    if previous.awaitsOperand then Due k tokens else Done k tokens := by
  induction content generalizing previous with
  | nil =>
    split
    · exact Due.nil
    · exact Done.nil
  | @plain token n tokens kind _ ih =>
    obtain ⟨here, apart⟩ := List.isChain_cons_cons.mp apart
    have rest := ih (fun o mem => arities o (List.mem_cons_of_mem _ mem)) apart
    cases token with
    | number x =>
      rw [if_pos (here (.inl rfl))]
      exact Due.number x rest
    | var name slot =>
      rw [if_pos (here (.inl rfl))]
      exact Due.var name slot rest
    | operator o =>
      rcases Operator.kinds (arities o List.mem_cons_self) with before | after | between
      · rw [if_pos (here (.inr before))]
        have due : o.followsOperand = false := Operator.followsOperand_of_precedesOperand before
        rw [Token.awaitsOperand, due] at rest
        exact Due.before before rest
      · rw [Token.awaitsOperand, after] at rest
        split
        · exact Due.after after rest
        · exact Done.after after rest
      · have due : o.followsOperand = false := by
          simp [Operator.followsOperand, Operator.isUnary_of_standsBetween between]
        rw [Token.awaitsOperand, due] at rest
        split
        · exact Due.between between rest
        · exact Done.between between rest
    | _ => cases kind
  | @separator n tokens _ ih =>
    obtain ⟨-, apart⟩ := List.isChain_cons_cons.mp apart
    have rest : Due n tokens := ih (fun o mem => arities o (List.mem_cons_of_mem _ mem)) apart
    split
    · exact Due.separator rest
    · exact Done.separator rest
  | @group k n inner tokens _ room _ ih_inner ih =>
    obtain ⟨here, apart⟩ := List.isChain_cons_cons.mp apart
    obtain ⟨inside, behind⟩ := List.isChain_cons_split.mp apart
    have content : Due k inner :=
      ih_inner (fun o mem => arities o (by simp [mem])) (List.IsChain.left_of_append inside)
    have rest : Done n tokens := ih (fun o mem => arities o (by simp [mem])) behind
    cases room
    rw [if_pos (here (.inl rfl))]
    have whole := Due.primary content.group.1 content.group.2 rest
    simpa using whole
  | @call f k n inner tokens _ room _ ih_inner ih =>
    obtain ⟨here, apart⟩ := List.isChain_cons_cons.mp apart
    obtain ⟨-, apart⟩ := List.isChain_cons_cons.mp apart
    obtain ⟨inside, behind⟩ := List.isChain_cons_split.mp apart
    have content : Due k inner :=
      ih_inner (fun o mem => arities o (by simp [mem])) (List.IsChain.left_of_append inside)
    have rest : Done n tokens := ih (fun o mem => arities o (by simp [mem])) behind
    rw [if_pos (here (.inl rfl))]
    have whole := Due.primary (content.call room).1 (content.call room).2 rest
    simpa using whole

/-- **Without a surplus, only sentences have balance one.** -/
theorem sentence_of_balance {tokens : List (Token σ)} (content : Content HasRoom 0 tokens)
    (arities : ∀ o, .operator o ∈ tokens → o.arity = 1 ∨ o.arity = 2)
    (apart : tokens.IsChain Token.Apart) (one : balance tokens = 1) : Sentence tokens := by
  have start : (Token.opening :: tokens).IsChain Token.Apart := apart.cons fun _ _ _ => rfl
  have due : Due 0 tokens := due_or_done content arities start
  exact (due.2 one).expression_of_arguments

/-! ## Sentences -/

/-- The number of separators in a phrase, outside of its brackets. -/
def Category.separators : Category → Nat
  | arguments n => n - 1
  | expression | operand | primary => 0

/-- The number of values that a phrase makes. -/
def Category.values : Category → Int
  | arguments n => n
  | expression | operand | primary => 1

namespace Phrase

variable {category : Category} {tokens : List (Token σ)}

/-- The brackets in a phrase have room for what they hold. -/
theorem content (h : Phrase Exactly category tokens) :
    Content HasRoom category.separators tokens := by
  induction h with
  | single _ ih => exact ih
  | between _ _ _ first rest => exact first.append (.plain rfl rest)
  | plain _ ih => exact ih
  | before _ _ ih => exact .plain rfl ih
  | after _ _ ih => exact ih.append (.plain rfl .nil)
  | number x => exact .plain rfl .nil
  | var name slot => exact .plain rfl .nil
  | group _ ih => exact .group ih rfl .nil
  | @call f n inner number list ih =>
    have room : HasRoom (some f) (n - 1) inner := by
      rw [HasRoom, ← number]
      split
      · rename_i nullary
        rw [nullary] at list
        cases list
        rfl
      · omega
    exact .call ih room .nil
  | none => exact .nil
  | one _ ih => exact ih
  | @more first rest n _ _ argument later =>
    have joined : Content HasRoom (0 + (n + 1)) (first ++ .separator :: rest) :=
      argument.append (.separator later)
    rwa [Nat.zero_add] at joined

/-- A phrase makes the values of its category. -/
theorem balance_eq (h : Phrase Exactly category tokens) : balance tokens = category.values := by
  induction h with
  | single _ ih => exact ih
  | between _ kind _ first rest =>
    rw [balance_append, balance_cons, first, rest, weight_of_standsBetween kind]
    rfl
  | plain _ ih => exact ih
  | before kind _ ih =>
    rw [balance_cons, ih, weight_of_isUnary (Operator.isUnary_of_precedesOperand kind),
      Int.zero_add]
  | after _ kind ih =>
    rw [balance_append, balance_cons, ih,
      weight_of_isUnary (Operator.isUnary_of_followsOperand kind)]
    rfl
  | number x => rfl
  | var name slot => rfl
  | group _ ih => simp [Token.weight, ih, Category.values]
  | @call f n _ number _ ih =>
    have count : n = f.arity := number
    simp [Token.weight, ih, count, Category.values]
  | none => rfl
  | one _ ih => exact ih
  | @more first rest n _ _ argument later =>
    rw [balance_append, balance_cons, argument, later]
    simp only [Token.weight, Category.values]
    omega

/-- A token that begins no operand joins two lists, if an operand is due after it, or none
follows. -/
theorem apart_joined {front back : List (Token σ)} {token : Token σ}
    (first : front.IsChain Token.Apart) (second : back.IsChain Token.Apart)
    (starts : token.startsOperand = false) (precedes : token.precedesOperand = false)
    (joint : back = [] ∨ token.awaitsOperand = true) :
    (front ++ token :: back).IsChain Token.Apart := by
  refine first.append (second.cons fun next mem => ?_) fun last _ next mem => ?_
  · rcases joint with rfl | awaits
    · cases mem
    · exact fun _ => awaits
  · cases mem
    rintro (starting | preceding)
    · rw [starts] at starting
      cases starting
    · rw [precedes] at preceding
      cases preceding

/-- Brackets keep what they hold apart. -/
theorem apart_bracket {inner : List (Token σ)} (h : inner.IsChain Token.Apart) :
    (Token.opening :: (inner ++ [.closing])).IsChain Token.Apart := by
  have closed : (inner ++ [Token.closing]).IsChain Token.Apart :=
    apart_joined h .nil rfl rfl (.inl rfl)
  exact closed.cons fun _ _ _ => rfl

/-- In a phrase, operands begin only where one is due. -/
theorem apart {takes : Function σ → Nat → Prop} (h : Phrase takes category tokens) :
    tokens.IsChain Token.Apart := by
  induction h with
  | single _ ih => exact ih
  | @between left right o _ kind _ first rest =>
    have binary := Operator.isUnary_of_standsBetween kind
    have precedes : (Token.operator o).precedesOperand = false := by
      simp [Token.precedesOperand, Operator.precedesOperand, binary]
    have awaits : (Token.operator o).awaitsOperand = true := by
      simp [Token.awaitsOperand, Operator.followsOperand, binary]
    exact apart_joined first rest rfl precedes (.inr awaits)
  | plain _ ih => exact ih
  | @before o tokens kind _ ih =>
    have awaits : (Token.operator o).awaitsOperand = true := by
      simp [Token.awaitsOperand, Operator.followsOperand_of_precedesOperand kind]
    exact ih.cons fun _ _ _ => awaits
  | @after o tokens _ kind ih =>
    simp only [Operator.followsOperand, Bool.and_eq_true] at kind
    have precedes : (Token.operator o).precedesOperand = false := by
      simp [Token.precedesOperand, Operator.precedesOperand, kind]
    exact apart_joined ih .nil rfl precedes (.inl rfl)
  | number x => exact .singleton _
  | var name slot => exact .singleton _
  | group _ ih => exact apart_bracket ih
  | call _ _ ih => exact (apart_bracket ih).cons fun _ _ _ => rfl
  | none => exact .nil
  | one _ ih => exact ih
  | more _ _ first rest => exact apart_joined first rest rfl rfl (.inr rfl)

end Phrase

/-- Where operands begin only where one is due, none is in surplus. -/
theorem Token.Apart.uncrowded {token next : Token σ} (h : token.Apart next) :
    token.Uncrowded next := by
  refine ⟨fun precedes => h (.inr precedes), fun follows => ?_⟩
  cases starts : next.startsOperand with
  | false => rfl
  | true =>
    have awaits := h (.inl starts)
    cases token with
    | operator o =>
      rw [Token.awaitsOperand, Bool.not_eq_true'] at awaits
      exact absurd (awaits.symm.trans follows) Bool.false_ne_true
    | _ => cases follows

theorem Sentence.balance_eq {tokens : List (Token σ)} (h : Sentence tokens) : balance tokens = 1 :=
  Phrase.balance_eq h

/-- **In a sentence nothing is in surplus.** -/
theorem Sentence.noSurplus {tokens : List (Token σ)} (h : Sentence tokens) : NoSurplus tokens :=
  ⟨(Phrase.apart h).imp fun _ _ => Token.Apart.uncrowded, Phrase.content h⟩

end Formula
