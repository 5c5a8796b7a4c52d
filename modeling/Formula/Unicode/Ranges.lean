/-!
# Classes of characters as ranges of code points

A class of the character database is a list of closed ranges in ascending order. Membership is one
walk over the list, which stops at the first range above the code point: text of the common scripts
is classified within the first few ranges.

`mem_of_inRanges` turns a positive answer into a range that holds the code point. It needs no order
of the list, so two classes are told apart by comparing their ranges.
-/

namespace Formula.Unicode

/-- Whether one of the ascending ranges holds `n`. -/
def inRanges : List (Nat × Nat) → Nat → Bool
  | [], _ => false
  | (low, high) :: rest, n => if n < low then false else n ≤ high || inRanges rest n

/-- **A positive answer names its range.** -/
theorem mem_of_inRanges {ranges : List (Nat × Nat)} {n : Nat} (h : inRanges ranges n = true) :
    ∃ range ∈ ranges, range.1 ≤ n ∧ n ≤ range.2 := by
  induction ranges with
  | nil => simp [inRanges] at h
  | cons range rest ih =>
    obtain ⟨low, high⟩ := range
    unfold inRanges at h
    split at h
    · cases h
    · rename_i above
      rcases Bool.or_eq_true_iff.mp h with inside | later
      · exact ⟨(low, high), List.mem_cons_self, by simpa using above, by simpa using inside⟩
      · obtain ⟨found, mem, bounds⟩ := ih later
        exact ⟨found, List.mem_cons_of_mem _ mem, bounds⟩

end Formula.Unicode
