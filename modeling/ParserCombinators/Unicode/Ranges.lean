import ParserCombinators.Text.Basic

/-!
Sets of code points as lists of closed ranges in ascending order. Membership in such a list means
that one of its ranges holds the code point.
-/

namespace ParserCombinators.Unicode

abbrev Ranges := List (Nat × Nat)

namespace Ranges

/-- The search ends at the first range that starts after `c`. -/
def has : Ranges → Nat → Bool
  | [], _ => false
  | (first, last) :: rest, c =>
    if c < first then false else if c ≤ last then true else has rest c

/-- No range is empty, and each starts after the end of the one before it, the first at `low` or
after. -/
def ascendFrom : Nat → Ranges → Bool
  | _, [] => true
  | low, (first, last) :: rest => low ≤ first && first ≤ last && ascendFrom (last + 1) rest

def Sorted (ranges : Ranges) : Prop := ranges.ascendFrom 0 = true

instance (ranges : Ranges) : Decidable ranges.Sorted := inferInstanceAs (Decidable (_ = true))

private theorem le_first_of_ascendFrom {ranges : Ranges} {low : Nat}
    (h : ranges.ascendFrom low = true) {range : Nat × Nat} (hmem : range ∈ ranges) :
    low ≤ range.1 := by
  induction ranges generalizing low with
  | nil => cases hmem
  | cons head rest ih =>
      obtain ⟨first, last⟩ := head
      simp only [ascendFrom, Bool.and_eq_true, decide_eq_true_eq] at h
      rcases List.mem_cons.1 hmem with rfl | hrest
      · exact h.1.1
      · have := ih h.2 hrest
        omega

private theorem has_iff_of_ascendFrom {ranges : Ranges} {low : Nat}
    (h : ranges.ascendFrom low = true) (c : Nat) :
    ranges.has c = true ↔ ∃ range ∈ ranges, range.1 ≤ c ∧ c ≤ range.2 := by
  induction ranges generalizing low with
  | nil => simp [has]
  | cons head rest ih =>
      obtain ⟨first, last⟩ := head
      simp only [ascendFrom, Bool.and_eq_true, decide_eq_true_eq] at h
      unfold has
      by_cases hfirst : c < first
      · simp only [hfirst, if_true, Bool.false_eq_true, false_iff]
        rintro ⟨range, hmem, hle, -⟩
        rcases List.mem_cons.1 hmem with rfl | hrest
        · exact absurd hle (by omega)
        · have := le_first_of_ascendFrom h.2 hrest
          omega
      · by_cases hlast : c ≤ last
        · simp only [hfirst, hlast, if_true, if_false, true_iff]
          exact ⟨(first, last), List.mem_cons_self, by omega, hlast⟩
        · simp only [hfirst, hlast, if_false, ih h.2]
          constructor
          · rintro ⟨range, hmem, hin⟩
            exact ⟨range, List.mem_cons_of_mem _ hmem, hin⟩
          · rintro ⟨range, hmem, hle, hge⟩
            rcases List.mem_cons.1 hmem with rfl | hrest
            · exact absurd hge hlast
            · exact ⟨range, hrest, hle, hge⟩

theorem has_iff {ranges : Ranges} (h : ranges.Sorted) (c : Nat) :
    ranges.has c = true ↔ ∃ range ∈ ranges, range.1 ≤ c ∧ c ≤ range.2 :=
  has_iff_of_ascendFrom h c

end Ranges

end ParserCombinators.Unicode
