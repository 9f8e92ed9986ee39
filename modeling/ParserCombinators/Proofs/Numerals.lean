import Mathlib.Data.List.TakeWhile
import Mathlib.Tactic.SplitIfs
import ParserCombinators.Number.Numeral
import ParserCombinators.Number.Digit

/-!
What numerals of ASCII digits are read as: the number that the digits write by their positions. The
only thing that can go wrong is their number, in a base where that is limited.
-/

namespace ParserCombinators.Numeral

variable {base : Nat} {digits : Text}

/-- The digits are ASCII digits of the base. -/
def AreDigits (base : Nat) (digits : Text) : Prop :=
  ∀ c ∈ digits, Digit.isHexadecimal c = true ∧ Digit.value c < base

section Digits

variable {c : Nat}

theorem isHexadecimal_iff : Digit.isHexadecimal c = true ↔
    (48 ≤ c ∧ c ≤ 57) ∨ (65 ≤ c ∧ c ≤ 70) ∨ (97 ≤ c ∧ c ≤ 102) := by
  simp only [Digit.isHexadecimal, Digit.isDecimal, Bool.or_eq_true, Bool.and_eq_true,
    decide_eq_true_eq, or_assoc]

theorem isDecimal_iff : Digit.isDecimal c = true ↔ 48 ≤ c ∧ c ≤ 57 := by
  simp only [Digit.isDecimal, Bool.and_eq_true, decide_eq_true_eq]

theorem areDigits_of_isHexadecimal (h : ∀ c ∈ digits, Digit.isHexadecimal c = true) :
    AreDigits 16 digits := by
  intro c hc
  refine ⟨h c hc, ?_⟩
  have hdigit := isHexadecimal_iff.mp (h c hc)
  unfold Digit.value
  split_ifs <;> omega

/-- The digits of base ten are the decimal ones. -/
theorem areDigits_ten_iff : AreDigits 10 digits ↔ ∀ c ∈ digits, Digit.isDecimal c = true := by
  refine forall₂_congr fun c _ => ?_
  rw [isHexadecimal_iff, isDecimal_iff]
  unfold Digit.value
  split_ifs <;> omega

/-- A property of all ASCII characters holds of hexadecimal digits. -/
theorem lt_of_isHexadecimal (h : Digit.isHexadecimal c = true) : c < 128 := by
  rw [isHexadecimal_iff] at h
  omega

end Digits

theorem digitValue?_of_isHexadecimal {c : Nat} (h : Digit.isHexadecimal c = true) :
    digitValue? c = some (Digit.value c) := by
  have hall : ∀ c < 128, Digit.isHexadecimal c = true → digitValue? c = some (Digit.value c) := by
    decide
  exact hall c (lt_of_isHexadecimal h) h

theorem number_append (base : Nat) (digits : Text) (c : Nat) :
    Digit.number base (digits ++ [c]) = Digit.number base digits * base + Digit.value c := by
  rw [Digit.number, List.foldl_append]
  rfl

/-- Zeros in front change no number. -/
theorem number_zeros (base count : Nat) (digits : Text) :
    Digit.number base (List.replicate count 48 ++ digits) = Digit.number base digits := by
  induction count with
  | zero => rfl
  | succ count ih =>
      rw [← ih, List.replicate_succ, List.cons_append]
      have hzero : 0 * base + Digit.value 48 = 0 := by
        rw [Nat.zero_mul]
        rfl
      rw [Digit.number, List.foldl_cons, hzero]
      rfl

theorem extend?_digits (h : AreDigits base digits) (value : Nat) :
    extend? base value digits =
      some (digits.foldl (fun found c => found * base + Digit.value c) value) := by
  induction digits generalizing value with
  | nil => rfl
  | cons c digits ih =>
      obtain ⟨hdigit, hbase⟩ := h c List.mem_cons_self
      rw [extend?, digitValue?_of_isHexadecimal hdigit]
      simp only [hbase, if_true, List.foldl_cons]
      exact ih (fun other hother => h other (List.mem_cons_of_mem c hother)) _

theorem ofDigits_digits (hnonempty : digits ≠ []) (h : AreDigits base digits) (text : Text) :
    ofDigits base text false digits =
      if isLimited base && digitLimit < digits.length then .error (.tooManyDigits digits.length)
      else .ok (Digit.number base digits) := by
  have hnatural : natural? base digits = some (Digit.number base digits) := by
    rw [natural?, if_neg (by simpa using hnonempty), extend?_digits h]
    rfl
  simp only [ofDigits, hnatural, Bool.false_eq_true, if_false]

theorem splitSign_digits (h : AreDigits base digits) : splitSign digits = (false, digits) := by
  cases digits with
  | nil => rfl
  | cons c digits =>
      have hdigit := (h c List.mem_cons_self).1
      have hminus : c ≠ 45 := by rintro rfl; cases hdigit
      have hplus : c ≠ 43 := by rintro rfl; cases hdigit
      simp [splitSign, hminus, hplus]

/-- A numeral of digits alone is the number that they write. -/
theorem read_digits (hnonempty : digits ≠ []) (h : AreDigits base digits) :
    read base digits =
      if isLimited base && digitLimit < digits.length then .error (.tooManyDigits digits.length)
      else .ok (Digit.number base digits) := by
  simp only [read, splitSign_digits h]
  exact ofDigits_digits hnonempty h digits

theorem isBlank_of_isHexadecimal {c : Nat} (h : Digit.isHexadecimal c = true) :
    isBlank c = false := by
  have hall : ∀ c < 128, Digit.isHexadecimal c = true → isBlank c = false := by decide
  exact hall c (lt_of_isHexadecimal h) h

theorem trim_digits (h : AreDigits base digits) : trim digits = digits := by
  have hdrop (text : Text) (htext : AreDigits base text) : text.dropWhile isBlank = text := by
    cases text with
    | nil => rfl
    | cons c text =>
        have hblank := isBlank_of_isHexadecimal (htext c List.mem_cons_self).1
        simp [hblank]
  have hreverse : AreDigits base digits.reverse := fun c hc => h c (List.mem_reverse.mp hc)
  rw [trim, hdrop _ h, hdrop _ hreverse, List.reverse_reverse]

theorem ungroup?_digits (h : AreDigits base digits) (afterDigit : Bool)
    (hstart : afterDigit = true ∨ digits ≠ []) : ungroup? afterDigit digits = some digits := by
  induction digits generalizing afterDigit with
  | nil => simpa [ungroup?] using hstart
  | cons c digits ih =>
      have hdigit := (h c List.mem_cons_self).1
      have hunderscore : c ≠ CodePoint.underscore := by rintro rfl; cases hdigit
      rw [ungroup?, if_neg hunderscore,
        ih (fun other hother => h other (List.mem_cons_of_mem c hother)) true (Or.inl rfl)]
      rfl

/-- Digits alone are not changed by what grouped numerals may have besides. -/
theorem readGrouped_digits (hnonempty : digits ≠ []) (h : AreDigits base digits) :
    readGrouped base digits = read base digits := by
  simp only [readGrouped, read, trim_digits h, splitSign_digits h,
    ungroup?_digits h false (Or.inr hnonempty)]

section Parts

variable {text : Text} {c : Nat}

theorem isSome_digitValue?_of_extend? {value result : Nat}
    (h : extend? base value digits = some result) (hc : c ∈ digits) :
    (digitValue? c).isSome = true := by
  induction digits generalizing value with
  | nil => cases hc
  | cons first digits ih =>
      rw [extend?] at h
      split at h
      next digit hdigit =>
        split_ifs at h
        rcases List.mem_cons.mp hc with rfl | hc
        · rw [hdigit]
          rfl
        · exact ih h hc
      next => cases h

theorem mem_of_ungroup? {afterDigit : Bool} (h : ungroup? afterDigit text = some digits)
    (hc : c ∈ text) : c = CodePoint.underscore ∨ c ∈ digits := by
  induction text generalizing afterDigit digits with
  | nil => cases hc
  | cons first text ih =>
      rw [ungroup?] at h
      split_ifs at h with hunderscore
      · rcases List.mem_cons.mp hc with rfl | hc
        · exact .inl hunderscore
        · exact ih h hc
      · obtain ⟨others, hothers, rfl⟩ := Option.map_eq_some_iff.mp h
        rcases List.mem_cons.mp hc with rfl | hc
        · exact .inr List.mem_cons_self
        · exact (ih hothers hc).imp_right (List.mem_cons_of_mem first)

theorem mem_of_splitSign (hc : c ∈ text) : c = 45 ∨ c = 43 ∨ c ∈ (splitSign text).2 := by
  unfold splitSign
  split
  next digits => exact (List.mem_cons.mp hc).imp_right .inr
  next digits => exact .inr (List.mem_cons.mp hc)
  next => exact .inr (.inr hc)

theorem mem_dropWhile_isBlank (hc : c ∈ text) :
    isBlank c = true ∨ c ∈ text.dropWhile isBlank := by
  rw [← List.takeWhile_append_dropWhile (p := isBlank) (l := text)] at hc
  exact (List.mem_append.mp hc).imp_left List.mem_takeWhile_imp

theorem mem_trim (hc : c ∈ text) : isBlank c = true ∨ c ∈ trim text := by
  rcases mem_dropWhile_isBlank hc with hblank | hc
  · exact .inl hblank
  · rcases mem_dropWhile_isBlank (List.mem_reverse.mpr hc) with hblank | hc
    · exact .inl hblank
    · exact .inr (List.mem_reverse.mpr hc)

/-- A grouped numeral is made of blanks, signs, underscores and digits. -/
theorem part_of_readGrouped {value : Int} (h : readGrouped base text = .ok value) (hc : c ∈ text) :
    isBlank c = true ∨ c = 45 ∨ c = 43 ∨ c = CodePoint.underscore ∨
      (digitValue? c).isSome = true := by
  rcases mem_trim hc with hblank | hc
  · exact .inl hblank
  rcases mem_of_splitSign hc with hminus | hplus | hc
  · exact .inr (.inl hminus)
  · exact .inr (.inr (.inl hplus))
  refine .inr (.inr (.inr ?_))
  simp only [readGrouped] at h
  split at h
  next digits hdigits =>
    refine (mem_of_ungroup? hdigits hc).imp_right fun hc => ?_
    unfold ofDigits natural? at h
    split at h
    next => cases h
    next result hresult =>
      split_ifs at hresult
      exact isSome_digitValue?_of_extend? hresult hc
  next => cases h

end Parts

end ParserCombinators.Numeral
