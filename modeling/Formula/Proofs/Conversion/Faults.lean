import Formula.Proofs.Balance

/-!
# What is wrong with a text first

Of all that can be wrong with a text, a conversion reports what a reader meets first who counts
brackets from left to right (`Reading.FirstFault`): a separator or a closing bracket where no bracket
is open, the error that ended the reading, or a bracket that is still open at the end. **That is all
that a conversion can fail for**, and whatever else there is to the tokens has no part in it
(`Reading.toPostfix_eq_error_iff`).

The yard keeps no count. The brackets that are open are those that wait in it, among operators and
functions that wait with them (`Yard.depth_takeIn`).
-/

namespace Formula

variable {σ : Type}

namespace Token

/-- By how much a token changes the number of open brackets. -/
def turn : Token σ → Int
  | opening => 1
  | closing => -1
  | number _ | var _ _ | operator _ | function _ | separator => 0

/-- What is wrong with a token where no bracket is open, if anything is. -/
def stray? : Token σ → Option Error
  | separator => some .misplacedSeparator
  | closing => some .mismatchedBrackets
  | number _ | var _ _ | operator _ | function _ | opening => none

end Token

/-- **The brackets that are open after some tokens**: none at first, and one more or less with each
token that turns. -/
def openAfter (tokens : List (Token σ)) : Int :=
  tokens.foldl (fun depth token => depth + token.turn) 0

/-- No token is a separator or a closing bracket where no bracket is open. -/
def Clear (tokens : List (Token σ)) : Prop :=
  ∀ front token, front ++ [token] <+: tokens → openAfter front = 0 → token.stray? = none

/-- **The first thing that is wrong with a reading**, from left to right. -/
inductive Reading.FirstFault (reading : Reading σ) : Error → Prop where
  /-- A separator or a closing bracket stands where no bracket is open. -/
  | stray {front : List (Token σ)} {token : Token σ} {error : Error}
      (here : front ++ [token] <+: reading.tokens) (before : Clear front)
      (outside : openAfter front = 0) (stray : token.stray? = some error) :
      reading.FirstFault error
  /-- The reading ended with an error. -/
  | lexical {error : Error} (before : Clear reading.tokens)
      (ended : reading.error? = some error) : reading.FirstFault error
  /-- A bracket is still open at the end. -/
  | unclosed (before : Clear reading.tokens) (ended : reading.error? = none)
      (still : 0 < openAfter reading.tokens) : reading.FirstFault .mismatchedBrackets

/-! ## Counting -/

theorem openAfter_concat (front : List (Token σ)) (token : Token σ) :
    openAfter (front ++ [token]) = openAfter front + token.turn :=
  List.foldl_concat _ _ _ _

theorem clear_nil : Clear ([] : List (Token σ)) := by
  intro front token here
  simp at here

theorem clear_concat {front : List (Token σ)} {token : Token σ} (before : Clear front)
    (fits : openAfter front = 0 → token.stray? = none) : Clear (front ++ [token]) := by
  intro first last here outside
  rcases List.prefix_concat_iff.mp here with same | earlier
  · obtain ⟨same_front, same_last⟩ := List.append_inj' same rfl
    cases same_last
    rw [same_front] at outside
    exact fits outside
  · exact before first last earlier outside

namespace Token

/-- A stray token is refused where no bracket is open. -/
theorem depthAfter_stray {token : Token σ} {error : Error} (stray : token.stray? = some error) :
    token.depthAfter 0 = .error error := by
  cases token with
  | closing =>
    cases stray
    rfl
  | separator =>
    cases stray
    rfl
  | _ => cases stray

/-- Any other token changes the depth as it turns. -/
theorem depthAfter_turn {token : Token σ} {depth : Nat}
    (fits : depth = 0 → token.stray? = none) :
    ∃ next : Nat, token.depthAfter depth = .ok next ∧ (next : Int) = depth + token.turn := by
  cases token with
  | opening => exact ⟨depth + 1, rfl, rfl⟩
  | closing =>
    have inside : depth ≠ 0 := fun outside => nomatch fits outside
    refine ⟨depth - 1, if_neg inside, ?_⟩
    simp only [turn]
    omega
  | separator =>
    have inside : depth ≠ 0 := fun outside => nomatch fits outside
    exact ⟨depth, if_neg inside, by simp [turn]⟩
  | _ => exact ⟨depth, rfl, by simp [turn]⟩

end Token

/-- **Counting stops at the first token that is stray**, and else comes to the brackets that are
open. -/
theorem depthAfter_cases (tokens : List (Token σ)) :
    (∃ depth : Nat, depthAfter 0 tokens = .ok depth ∧ Clear tokens ∧ openAfter tokens = depth) ∨
      ∃ front token error, depthAfter 0 tokens = .error error ∧ front ++ [token] <+: tokens ∧
        Clear front ∧ openAfter front = 0 ∧ token.stray? = some error := by
  -- From the right: either the tokens before the last one have stopped the count already, or all of
  -- them are clear and only the last one can.
  induction tokens using List.reverseRecOn with
  | nil => exact .inl ⟨0, rfl, clear_nil, rfl⟩
  | append_singleton tokens token ih =>
    rw [depthAfter_append]
    rcases ih with ⟨depth, counted, clear, opened⟩ |
      ⟨front, stray, error, stopped, here, clear, outside, wrong⟩
    · rw [counted]
      by_cases fits : depth = 0 → token.stray? = none
      · obtain ⟨next, steps, turned⟩ := Token.depthAfter_turn fits
        refine .inl ⟨next, ?_, clear_concat clear fun outside => fits (by omega), ?_⟩
        · exact (depthAfter_cons depth token []).trans (by rw [steps]; rfl)
        · rw [openAfter_concat, opened, turned]
      · obtain ⟨outside, some_error⟩ := Classical.not_imp.mp fits
        obtain ⟨error, wrong⟩ := Option.ne_none_iff_exists'.mp some_error
        subst outside
        refine .inr ⟨tokens, token, error, ?_, List.prefix_rfl, clear, opened, wrong⟩
        exact (depthAfter_cons 0 token []).trans (by rw [Token.depthAfter_stray wrong]; rfl)
    · rw [stopped]
      exact .inr ⟨front, stray, error, rfl, here.trans (List.prefix_append _ _), clear, outside,
        wrong⟩

/-- Where nothing is stray, counting comes to the brackets that are open. -/
theorem depthAfter_of_clear {tokens : List (Token σ)} (clear : Clear tokens) :
    ∃ depth : Nat, depthAfter 0 tokens = .ok depth ∧ openAfter tokens = depth := by
  rcases depthAfter_cases tokens with ⟨depth, counted, -, opened⟩ |
    ⟨front, token, error, -, here, -, outside, wrong⟩
  · exact ⟨depth, counted, opened⟩
  · rw [clear front token here outside] at wrong
    cases wrong

/-- Counting goes by brackets and separators alone. -/
theorem depthAfter_marks (depth : Nat) (tokens : List (Token σ)) :
    depthAfter depth (tokens.filter fun token => !token.isLasting) = depthAfter depth tokens := by
  induction tokens generalizing depth with
  | nil => rfl
  | cons token rest ih =>
    cases token with
    | opening => exact ih (depth + 1)
    | closing =>
      rw [List.filter_cons_of_pos rfl, depthAfter_cons, depthAfter_cons]
      exact congrArg _ (funext ih)
    | separator =>
      rw [List.filter_cons_of_pos rfl, depthAfter_cons, depthAfter_cons]
      exact congrArg _ (funext ih)
    | _ => exact ih depth

/-- A conversion comes to an end exactly if no bracket waits. -/
theorem Yard.map_finish (yard : Yard σ) :
    yard.finish.map (fun _ => ()) =
      if yard.depth = 0 then .ok () else .error .mismatchedBrackets := by
  have waits : yard.pending.any Pending.isBracket = true ↔ ¬ yard.depth = 0 := by
    simp [depth, List.countP_eq_zero]
  rw [finish]
  split
  · rename_i some_bracket
    rw [if_neg (waits.mp some_bracket)]
    rfl
  · rename_i no_bracket
    rw [if_pos (not_not.mp (mt waits.mpr no_bracket))]
    rfl

namespace Reading

variable {reading other : Reading σ} {error : Error}

/-! ## Verdicts -/

/-- **What counting brackets from left to right comes to**: an error, or nothing. -/
def verdict (reading : Reading σ) : Except Error Unit := do
  let depth ← depthAfter 0 reading.tokens
  match reading.error? with
  | some error => throw error
  | none => if depth = 0 then pure () else throw .mismatchedBrackets

theorem verdict_of_counted {depth : Nat} (counted : depthAfter 0 reading.tokens = .ok depth) :
    reading.verdict =
      match reading.error? with
      | some error => .error error
      | none => if depth = 0 then .ok () else .error .mismatchedBrackets := by
  rw [verdict, counted]
  rfl

theorem verdict_of_refused (refused : depthAfter 0 reading.tokens = .error error) :
    reading.verdict = .error error := by
  rw [verdict, refused]
  rfl

/-- **A conversion fails exactly for what counting finds.** -/
theorem map_toPostfix (reading : Reading σ) :
    reading.toPostfix.map (fun _ => ()) = reading.verdict := by
  have counted := Yard.depth_takeIn Yard.empty reading.tokens
  have start : (Yard.empty : Yard σ).depth = 0 := rfl
  rw [start] at counted
  rw [toPostfix]
  cases taken : Yard.empty.takeIn reading.tokens with
  | error error =>
    rw [taken] at counted
    rw [verdict_of_refused counted.symm]
    rfl
  | ok yard =>
    rw [taken] at counted
    rw [verdict_of_counted counted.symm]
    cases reading.error? with
    | some error => rfl
    | none => exact yard.map_finish

/-- **The verdict is the first fault**, if there is one. -/
theorem verdict_eq_error_iff : reading.verdict = .error error ↔ reading.FirstFault error := by
  constructor
  · intro judged
    rcases depthAfter_cases reading.tokens with ⟨depth, counted, clear, opened⟩ |
      ⟨front, token, found, refused, here, clear, outside, wrong⟩
    · rw [verdict_of_counted counted] at judged
      cases ended : reading.error? with
      | some found =>
        rw [ended] at judged
        cases judged
        exact .lexical clear ended
      | none =>
        rw [ended] at judged
        simp only at judged
        split at judged
        · cases judged
        · cases judged
          exact .unclosed clear ended (by omega)
    · rw [verdict_of_refused refused] at judged
      cases judged
      exact .stray here clear outside wrong
  · rintro (⟨⟨rest, tokens⟩, clear, outside, wrong⟩ | ⟨clear, ended⟩ | ⟨clear, ended, still⟩)
    · obtain ⟨depth, counted, opened⟩ := depthAfter_of_clear clear
      have zero : depth = 0 := by omega
      subst zero
      refine verdict_of_refused ?_
      rw [← tokens, List.append_assoc, depthAfter_append, counted]
      exact (depthAfter_cons _ _ rest).trans (by rw [Token.depthAfter_stray wrong]; rfl)
    · obtain ⟨depth, counted, -⟩ := depthAfter_of_clear clear
      rw [verdict_of_counted counted, ended]
    · obtain ⟨depth, counted, opened⟩ := depthAfter_of_clear clear
      rw [verdict_of_counted counted, ended]
      exact if_neg (by omega)

/-- **That is all that a conversion can fail for.** -/
theorem toPostfix_eq_error_iff : reading.toPostfix = .error error ↔ reading.FirstFault error := by
  rw [← verdict_eq_error_iff, ← map_toPostfix]
  cases reading.toPostfix <;> simp [Except.map]

/-- Two readings with the same brackets and separators, and the same error, have the same verdict. -/
theorem verdict_congr
    (marks : reading.tokens.filter (fun token => !token.isLasting) =
      other.tokens.filter fun token => !token.isLasting)
    (ended : reading.error? = other.error?) : reading.verdict = other.verdict := by
  rw [verdict, verdict, ← depthAfter_marks 0 reading.tokens, marks, depthAfter_marks, ended]

end Reading

end Formula
