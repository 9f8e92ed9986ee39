import ParserCombinators.Unicode.Lowercase

/-!
How lower case changes the length of a text. U+0130 is the only code point with a lower case of
two, and the second of the two is U+0307, which is the lower case of no other code point but
itself. So the length of a text can be told from its lower case, up to the marks U+0307 in it, and
a lower case without the letter I is taken character by character.
-/

namespace ParserCombinators

namespace Unicode

/-- Beyond ASCII, what no run has as a lower case is the lower case of itself alone. -/
theorem eq_of_lowerSimple_eq {c x : Nat}
    (hmiss : ∀ run ∈ lowerRuns,
      run.last < 128 ∨ x < run.lower ∨ run.lower + (run.last - run.first) < x)
    (hc : 128 ≤ c) (h : lowerSimple c = x) : c = x := by
  unfold lowerSimple at h
  rw [if_neg (Nat.not_lt.mpr hc)] at h
  split at h
  next run hfind =>
    have hmem := List.mem_of_find?_eq_some hfind
    have hhas := List.find?_some hfind
    simp only [CaseRun.has, Bool.and_eq_true, decide_eq_true_eq] at hhas
    have hrun := hmiss run hmem
    omega
  next => exact h

set_option maxRecDepth 8000 in
theorem lowerRuns_miss : ∀ x ∈ [48, 120, 0x307], ∀ run ∈ lowerRuns,
    run.last < 128 ∨ x < run.lower ∨ run.lower + (run.last - run.first) < x := by decide

theorem lowerSimple_self : ∀ x ∈ [48, 120, 0x307], lowerSimple x = x := by decide

/-- The digit zero and U+0307 are lower cases of themselves alone, the letter X of two. -/
theorem lowerSimple_eq_iff {c x : Nat} (hx : x ∈ [48, 120, 0x307]) :
    lowerSimple c = x ↔ c = x ∨ c = 88 ∧ x = 120 := by
  constructor
  · intro h
    rcases Nat.lt_or_ge c 128 with hascii | hbeyond
    · unfold lowerSimple at h
      rw [if_pos hascii] at h
      simp only [List.mem_cons, List.not_mem_nil, or_false] at hx
      split at h
      next hupper =>
        simp only [Bool.and_eq_true, decide_eq_true_eq] at hupper
        omega
      next => exact .inl h
    · exact .inl (eq_of_lowerSimple_eq (lowerRuns_miss x hx) hbeyond h)
  · rintro (rfl | ⟨rfl, rfl⟩)
    · exact lowerSimple_self c hx
    · rfl

theorem lowerSimple_eq_dot_iff {c : Nat} : lowerSimple c = 0x307 ↔ c = 0x307 := by
  rw [lowerSimple_eq_iff (by simp)]
  omega

section Characters

variable (before after : Text) (c : Nat)

theorem lowerIn_length : (lowerIn before c after).length = 1 + [c].count 0x130 := by
  unfold lowerIn capitalSigma
  by_cases hsigma : c = 0x3A3
  · simp [hsigma]
  · by_cases hdotted : c = 0x130 <;> simp [hsigma, hdotted]

theorem count_dot_lowerIn :
    (lowerIn before c after).count 0x307 = [c].count 0x130 + [c].count 0x307 := by
  unfold lowerIn capitalSigma smallSigma finalSigma
  by_cases hsigma : c = 0x3A3
  · rw [if_pos hsigma]
    split <;> simp [hsigma]
  · by_cases hdotted : c = 0x130
    · simp [hdotted]
    · simp [hsigma, hdotted, List.count_singleton, lowerSimple_eq_dot_iff]

end Characters

theorem count_cons_eq_add (x c : Nat) (text : Text) :
    (c :: text).count x = [c].count x + text.count x := by
  rw [← List.count_append, List.singleton_append]

theorem lowerAfter_length (before text : Text) :
    (lowerAfter before text).length = text.length + text.count 0x130 := by
  induction text generalizing before with
  | nil => rfl
  | cons c after ih =>
      rw [lowerAfter, List.length_append, lowerIn_length, ih, List.length_cons,
        count_cons_eq_add 0x130 c after]
      omega

theorem count_dot_lowerAfter (before text : Text) :
    (lowerAfter before text).count 0x307 = text.count 0x130 + text.count 0x307 := by
  induction text generalizing before with
  | nil => rfl
  | cons c after ih =>
      rw [lowerAfter, List.count_append, count_dot_lowerIn, ih, count_cons_eq_add 0x130 c after,
        count_cons_eq_add 0x307 c after]
      omega

/-- An ASCII character but the letter I is the whole lower case that it is of. -/
theorem lowerSimple_of_lowerAfter {before after lower : Text} {c x : Nat} (hascii : x < 128)
    (hletter : x ≠ 0x69) (h : lowerAfter before (c :: after) = x :: lower) :
    lowerSimple c = x ∧ lowerAfter (c :: before) after = lower := by
  rw [lowerAfter, lowerIn] at h
  split at h
  next =>
    rw [List.singleton_append, List.cons.injEq] at h
    have hsigmas : 128 ≤ finalSigma ∧ 128 ≤ smallSigma := by decide
    split at h <;> omega
  next =>
    split at h
    next =>
      rw [List.cons_append, List.cons.injEq] at h
      exact absurd h.1.symm hletter
    next =>
      rw [List.singleton_append, List.cons.injEq] at h
      exact h

end Unicode

/-- Texts with the same lower case differ in length by as much as they differ in marks U+0307. -/
theorem Text.length_add_count_of_lower_eq {actual text : Text} (h : actual.lower = text.lower) :
    actual.length + text.count 0x307 = text.length + actual.count 0x307 := by
  have hlength : actual.length + actual.count 0x130 = text.length + text.count 0x130 := by
    rw [← Unicode.lowerAfter_length [], ← Unicode.lowerAfter_length []]
    exact congrArg List.length h
  have hdots : actual.count 0x130 + actual.count 0x307 = text.count 0x130 + text.count 0x307 := by
    rw [← Unicode.count_dot_lowerAfter [], ← Unicode.count_dot_lowerAfter []]
    exact congrArg (List.count 0x307) h
  omega

/-- A text without U+0307 is not longer than a text with the same lower case. -/
theorem Text.length_le_of_lower_eq {actual text : Text} (hdot : 0x307 ∉ text)
    (h : actual.lower = text.lower) : text.length ≤ actual.length := by
  have hcount := Text.length_add_count_of_lower_eq h
  have hnone : text.count 0x307 = 0 := List.count_eq_zero.mpr hdot
  omega

/-- The mark of hexadecimal numerals is the lower case of its two spellings. -/
theorem Text.lower_eq_mark_iff {text : Text} :
    text.lower = [48, 120] ↔ text = [48, 120] ∨ text = [48, 88] := by
  refine ⟨fun h => ?_, by rintro (rfl | rfl) <;> decide⟩
  cases text with
  | nil => cases h
  | cons c after =>
      obtain ⟨hzero, hafter⟩ := Unicode.lowerSimple_of_lowerAfter (by decide) (by decide) h
      obtain rfl : c = 48 := by simpa using (Unicode.lowerSimple_eq_iff (by simp)).mp hzero
      cases after with
      | nil => cases hafter
      | cons d after =>
          obtain ⟨hletter, hrest⟩ :=
            Unicode.lowerSimple_of_lowerAfter (by decide) (by decide) hafter
          have hd : d = 120 ∨ d = 88 := by
            simpa using (Unicode.lowerSimple_eq_iff (by simp)).mp hletter
          have hnone : after.length + after.count 0x130 = 0 := by
            rw [← Unicode.lowerAfter_length [d, 48], hrest]
            rfl
          obtain rfl : after = [] := List.length_eq_zero_iff.mp (by omega)
          rcases hd with rfl | rfl
          · exact .inl rfl
          · exact .inr rfl

end ParserCombinators
