import Mathlib.Data.List.TakeWhile
import ParserCombinators.Number.Decimal

/-!
Which texts are read as decimals. A decimal may lack the digits on either side of its point, but not
on both; without a point it needs digits and an exponent, or digits alone. The parts of such a text
are found again from its front, as neither a point nor the letter of an exponent is a digit.
-/

namespace ParserCombinators.Decimal

variable {negative : Bool} {whole fraction digits rest tail : Text}

/-- The digits in front of a text that does not go on with one. -/
theorem span_digits (hdigits : ∀ c ∈ digits, Digit.isDecimal c = true)
    (htail : ∀ c ∈ tail.head?, Digit.isDecimal c = false) :
    (digits ++ tail).takeWhile Digit.isDecimal = digits ∧
      (digits ++ tail).dropWhile Digit.isDecimal = tail := by
  rw [List.takeWhile_append_of_pos hdigits, List.dropWhile_append_of_pos hdigits]
  cases tail with
  | nil => simp
  | cons c tail => simp [htail c rfl]

/-- An exponent, or nothing. -/
def EndsDecimal (rest : Text) : Prop := rest = [] ∨ isExponent rest = true

/-- The letter is one of the two in ASCII. -/
theorem isExponent_signed {letter : Nat} {sign : Text} (hletter : letter ∈ [101, 69])
    (hsign : sign = [] ∨ ∃ c ∈ [45, 43], sign = [c]) (hnonempty : digits ≠ [])
    (hdigits : ∀ c ∈ digits, Digit.isDecimal c = true) :
    isExponent (letter :: (sign ++ digits)) = true := by
  have hsome : digits.isEmpty = false := by simpa using hnonempty
  have hall : digits.all Digit.isDecimal = true := List.all_eq_true.mpr hdigits
  have hbody : isExponent (letter :: (sign ++ digits)) =
      ((letter == 'e'.toNat || letter == 'E'.toNat) && !digits.isEmpty &&
        digits.all Digit.isDecimal) := by
    rcases hsign with rfl | ⟨c, hc, rfl⟩
    · obtain ⟨d, others, rfl⟩ := List.exists_cons_of_ne_nil hnonempty
      have hdigit := hdigits d List.mem_cons_self
      have hminus : d ≠ 45 := by rintro rfl; cases hdigit
      have hplus : d ≠ 43 := by rintro rfl; cases hdigit
      simp [isExponent, hminus, hplus]
    · simp only [List.mem_cons, List.not_mem_nil, or_false] at hc
      rcases hc with rfl | rfl <;> rfl
  simp only [List.mem_cons, List.not_mem_nil, or_false] at hletter
  rw [hbody, hsome, hall]
  rcases hletter with rfl | rfl <;> rfl

theorem isExponent_head (h : isExponent rest = true) :
    ∃ c text, rest = c :: text ∧ (c = 101 ∨ c = 69) := by
  cases rest with
  | nil => cases h
  | cons c text =>
      simp only [isExponent, Bool.and_eq_true, Bool.or_eq_true, beq_iff_eq] at h
      exact ⟨c, text, rfl, h.1.1⟩

theorem EndsDecimal.head (h : EndsDecimal rest) :
    ∀ c ∈ rest.head?, Digit.isDecimal c = false ∧ c ≠ 46 := by
  rcases h with rfl | hexponent
  · simp
  · obtain ⟨c, text, rfl, rfl | rfl⟩ := isExponent_head hexponent <;> simp [Digit.isDecimal]

/-- The minus of a negative number. -/
def signText (negative : Bool) : Text := if negative then [45] else []

/-- A minus is told from what follows the sign, which does not begin with one. -/
theorem unsigned_signText (h : ∀ c ∈ tail.head?, c ≠ 45) :
    ((signText negative ++ tail).head? == some 45) = negative ∧
      (if negative then (signText negative ++ tail).drop 1
        else signText negative ++ tail) = tail := by
  cases negative with
  | true => exact ⟨rfl, rfl⟩
  | false =>
      cases tail with
      | nil => exact ⟨rfl, rfl⟩
      | cons c tail => simpa [signText] using h c rfl

theorem split_pointed (hwhole : ∀ c ∈ whole, Digit.isDecimal c = true)
    (hfraction : ∀ c ∈ fraction, Digit.isDecimal c = true) (hrest : EndsDecimal rest) :
    split (signText negative ++ (whole ++ 46 :: (fraction ++ rest))) =
      ⟨negative, whole, fraction, rest⟩ := by
  have hhead : ∀ c ∈ (whole ++ 46 :: (fraction ++ rest)).head?, c ≠ 45 := by
    cases whole with
    | nil => simp
    | cons d whole =>
        rintro c ⟨⟩ rfl
        cases hwhole 45 List.mem_cons_self
  obtain ⟨hnegative, hunsigned⟩ := @unsigned_signText negative _ hhead
  have hpoint : ∀ c ∈ (46 :: (fraction ++ rest)).head?, Digit.isDecimal c = false := by
    rintro c ⟨⟩
    rfl
  obtain ⟨htake, hdrop⟩ := span_digits hwhole hpoint
  obtain ⟨htakeRest, hdropRest⟩ := span_digits hfraction fun c hc => (hrest.head c hc).1
  simp only [split, hnegative, hunsigned, htake, hdrop, List.head?_cons, List.drop_succ_cons,
    List.drop_zero, htakeRest, hdropRest]
  simp

theorem split_plain (hwhole : ∀ c ∈ whole, Digit.isDecimal c = true) (hnonempty : whole ≠ [])
    (hrest : EndsDecimal rest) :
    split (signText negative ++ (whole ++ rest)) = ⟨negative, whole, [], rest⟩ := by
  have hhead : ∀ c ∈ (whole ++ rest).head?, c ≠ 45 := by
    cases whole with
    | nil => exact absurd rfl hnonempty
    | cons d whole =>
        rintro c ⟨⟩ rfl
        cases hwhole 45 List.mem_cons_self
  obtain ⟨hnegative, hunsigned⟩ := @unsigned_signText negative _ hhead
  obtain ⟨htake, hdrop⟩ := span_digits hwhole fun c hc => (hrest.head c hc).1
  have hpoint : ¬ rest.head? = some 46 := fun h => (hrest.head 46 h).2 rfl
  simp only [split, hnegative, hunsigned, htake, hdrop, beq_iff_eq, hpoint, if_false]

/-- Parts with some digit and a proper end make up a decimal. -/
theorem read_of_split {text : Text} (hsplit : split text = ⟨negative, whole, fraction, rest⟩)
    (hdigits : whole ++ fraction ≠ []) (hrest : EndsDecimal rest) :
    read text = .ok
      { negative := negative
        digits := Digit.number 10 (whole ++ fraction)
        exponent := readExponent (rest.drop 1) - fraction.length } := by
  have hsome : (whole ++ fraction).isEmpty = false := by simpa using hdigits
  have hend : (rest.isEmpty || isExponent rest) = true := by
    rcases hrest with rfl | hexponent
    · rfl
    · rw [hexponent, Bool.or_true]
  simp only [read, hsplit, hsome, hend, Bool.not_true, Bool.or_false, Bool.false_eq_true, if_false]

end ParserCombinators.Decimal
