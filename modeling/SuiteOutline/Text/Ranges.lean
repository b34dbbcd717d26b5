/-!
# Classes of characters as ranges

A class of characters is an increasing list of inclusive ranges of code points. Membership stops
at the first range that begins above the character.
-/

namespace SuiteOutline.Text

/-- Membership of a code point in an increasing list of inclusive ranges. -/
def inRanges (code : Nat) : List (Nat × Nat) → Bool
  | [] => false
  | (first, last) :: rest =>
      if code < first then false
      else if code ≤ last then true
      else inRanges code rest

theorem exists_of_inRanges {code : Nat} {ranges : List (Nat × Nat)}
    (member : inRanges code ranges = true) :
    ∃ range ∈ ranges, range.1 ≤ code ∧ code ≤ range.2 := by
  induction ranges with
  | nil => simp [inRanges] at member
  | cons range rest ih =>
      obtain ⟨first, last⟩ := range
      simp only [inRanges] at member
      split at member
      · simp at member
      · rename_i notBelow
        split at member
        · rename_i below
          exact ⟨(first, last), by simp, Nat.not_lt.mp notBelow, below⟩
        · obtain ⟨found, isIn, bounds⟩ := ih member
          exact ⟨found, List.mem_cons_of_mem _ isIn, bounds⟩

end SuiteOutline.Text
