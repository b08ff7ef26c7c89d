/-
  PageObjects.Text.Ranges

  Sets of characters given as tables of code point ranges. A table lists its
  ranges in increasing order, both ends included, so that a search may stop at
  the first range that starts beyond the character.
-/

namespace PageObjects
namespace Text

/-- A set of code points: increasing ranges, both ends included. -/
abbrev CodeRanges := List (Nat × Nat)

namespace CodeRanges

/-- Whether `n` lies in one of the ranges. -/
def covers (n : Nat) : CodeRanges → Bool
  | [] => false
  | (lo, hi) :: rest => if n < lo then false else n ≤ hi || covers n rest

/-- Whether the table holds the character `c`. -/
def contains (table : CodeRanges) (c : Char) : Bool :=
  covers c.toNat table

/-- A number found in a table lies between the ends of one of its ranges. -/
theorem exists_mem_of_covers {n : Nat} {table : CodeRanges} (h : covers n table = true) :
    ∃ r ∈ table, r.1 ≤ n ∧ n ≤ r.2 := by
  induction table with
  | nil => simp [covers] at h
  | cons r rest ih =>
    obtain ⟨lo, hi⟩ := r
    by_cases h_lo : n < lo
    · simp [covers, h_lo] at h
    · by_cases h_hi : n ≤ hi
      · exact ⟨(lo, hi), by simp, by omega, h_hi⟩
      · have h_rest : covers n rest = true := by simpa [covers, h_lo, h_hi] using h
        obtain ⟨r, h_mem, h_in⟩ := ih h_rest
        exact ⟨r, List.mem_cons_of_mem _ h_mem, h_in⟩

end CodeRanges

end Text
end PageObjects
