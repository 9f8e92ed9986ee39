import Mathlib.Data.List.Forall2
import ParserCombinators.Proofs.Lowercase

/-!
Texts in which some characters are already in lower case. A character and its lower case are letters
alike, and the lower case is the lower case of itself. Hence the lower case of a text stays what it
is when characters of it are replaced by theirs, with one exception. The lower case of a capital
sigma depends on where it stands: at the end of a word it is a final sigma. A small sigma in its
place stays a small sigma.

The tables are compared as bits of numbers, which takes one operation for a whole table.
-/

namespace ParserCombinators

namespace Unicode

namespace Ranges

/-- The code points of the ranges, as the bits of a number. -/
def mask : Ranges → Nat
  | [] => 0
  | range :: rest => ((1 <<< (range.2 + 1 - range.1)) - 1) <<< range.1 ||| mask rest

theorem testBit_mask {ranges : Ranges} {c : Nat} : ranges.mask.testBit c = true ↔
    ∃ range ∈ ranges, range.1 ≤ c ∧ c ≤ range.2 := by
  induction ranges with
  | nil => simp [mask]
  | cons range rest ih =>
      have hfirst : (((1 <<< (range.2 + 1 - range.1)) - 1) <<< range.1).testBit c = true ↔
          range.1 ≤ c ∧ c ≤ range.2 := by
        rw [Nat.testBit_shiftLeft, Nat.one_shiftLeft, Nat.testBit_two_pow_sub_one,
          Bool.and_eq_true, decide_eq_true_eq, decide_eq_true_eq]
        omega
      rw [mask, Nat.testBit_or, Bool.or_eq_true, hfirst, ih, List.exists_mem_cons_iff]

theorem has_eq_testBit {ranges : Ranges} (hsorted : ranges.Sorted) (c : Nat) :
    ranges.has c = ranges.mask.testBit c :=
  Bool.eq_iff_iff.mpr ((has_iff hsorted c).trans testBit_mask.symm)

end Ranges

namespace CaseRun

/-- The lower cases of a run, as a run. -/
def lowered (run : CaseRun) : CaseRun :=
  { run with first := run.lower, last := run.lower + (run.last - run.first) }

/-- So many code points from `first` on, each by `step` after the one before, as bits. -/
def bits (step : Nat) : Nat → Nat → Nat
  | 0, _ => 0
  | count + 1, first => 1 <<< first ||| bits step count (first + step)

/-- The code points of the runs, as the bits of a number. -/
def mask : List CaseRun → Nat
  | [] => 0
  | run :: runs => bits run.step ((run.last - run.first) / run.step + 1) run.first ||| mask runs

variable {run : CaseRun} {runs : List CaseRun} {c : Nat}

theorem has_iff : run.has c = true ↔
    run.first ≤ c ∧ c ≤ run.last ∧ (c - run.first) % run.step = 0 := by
  simp [has, and_assoc]

theorem lowered_has (h : run.has c = true) :
    run.lowered.has (run.lower + (c - run.first)) = true := by
  obtain ⟨hfirst, hlast, hstep⟩ := has_iff.mp h
  refine has_iff.mpr ⟨Nat.le_add_right _ _, ?_, ?_⟩
  · exact Nat.add_le_add_left (Nat.sub_le_sub_right hlast _) _
  · simpa [lowered] using hstep

theorem testBit_bits {step count first k : Nat} (hk : k < count) :
    (bits step count first).testBit (first + step * k) = true := by
  induction count generalizing first k with
  | zero => exact absurd hk (Nat.not_lt_zero k)
  | succ count ih =>
      rw [bits, Nat.testBit_or, Bool.or_eq_true]
      cases k with
      | zero => exact .inl (by simp)
      | succ k =>
          rw [Nat.mul_succ, Nat.add_comm _ step, ← Nat.add_assoc]
          exact .inr (ih (Nat.lt_of_succ_lt_succ hk))

theorem testBit_mask (hrun : run ∈ runs) (h : run.has c = true) :
    (mask runs).testBit c = true := by
  induction hrun with
  | head runs =>
      obtain ⟨hfirst, hlast, hstep⟩ := has_iff.mp h
      have hc : run.first + run.step * ((c - run.first) / run.step) = c := by
        rw [Nat.mul_div_cancel' (Nat.dvd_of_mod_eq_zero hstep), Nat.add_sub_cancel' hfirst]
      have hcount : (c - run.first) / run.step < (run.last - run.first) / run.step + 1 :=
        Nat.lt_succ_of_le (Nat.div_le_div_right (Nat.sub_le_sub_right hlast _))
      rw [mask, Nat.testBit_or, ← hc, testBit_bits hcount, Bool.true_or]
  | tail other _ ih => rw [mask, Nat.testBit_or, ih, Bool.or_true]

end CaseRun

/-- The code points that have a lower case of their own, and those that are one. -/
def upperBits : Nat := CaseRun.mask lowerRuns

def lowerBits : Nat := CaseRun.mask (lowerRuns.map CaseRun.lowered)

/-- All of them are cased letters, none is passed over by the rule for a final sigma, and none is
both. -/
theorem letter_tables : (upperBits ||| lowerBits) &&& cased.mask = upperBits ||| lowerBits ∧
    (upperBits ||| lowerBits) &&& caseIgnorable.mask = 0 ∧ upperBits &&& lowerBits = 0 ∧
    cased.Sorted ∧ caseIgnorable.Sorted := by
  decide +kernel

section Letters

variable {run : CaseRun} {c d : Nat}

theorem letter_of_testBit (h : (upperBits ||| lowerBits).testBit c = true) :
    cased.has c = true ∧ caseIgnorable.has c = false := by
  obtain ⟨hcased, hignorable, -, hsorted, hsorted'⟩ := letter_tables
  rw [Ranges.has_eq_testBit hsorted, Ranges.has_eq_testBit hsorted']
  have hcased := congrArg (Nat.testBit · c) hcased
  have hignorable := congrArg (Nat.testBit · c) hignorable
  simp only [Nat.testBit_and, h, Bool.true_and, Nat.zero_testBit] at hcased hignorable
  exact ⟨hcased, hignorable⟩

theorem testBit_upperBits (hrun : run ∈ lowerRuns) (h : run.has c = true) :
    upperBits.testBit c = true := CaseRun.testBit_mask hrun h

theorem testBit_lowerBits (hrun : run ∈ lowerRuns) (h : run.has c = true) :
    lowerBits.testBit (run.lower + (c - run.first)) = true :=
  CaseRun.testBit_mask (List.mem_map_of_mem hrun) (CaseRun.lowered_has h)

/-- A simple lower case is the code point itself or is read off a run of the table. -/
theorem lowerSimple_cases (c : Nat) : lowerSimple c = c ∨
    ∃ run ∈ lowerRuns, run.has c = true ∧ lowerSimple c = run.lower + (c - run.first) := by
  unfold lowerSimple
  split
  next hascii =>
    split
    next hupper =>
      obtain ⟨hfirst, hlast⟩ : 65 ≤ c ∧ c ≤ 90 := by simpa using hupper
      have hmem : ⟨0x41, 0x5A, 1, 0x61⟩ ∈ lowerRuns := List.mem_cons_self
      exact .inr ⟨_, hmem, CaseRun.has_iff.mpr ⟨hfirst, hlast, Nat.mod_one _⟩, by simp; omega⟩
    next => exact .inl rfl
  next =>
    split
    next run hfind =>
      have hhas : run.has c = true := by simpa using List.find?_some hfind
      exact .inr ⟨run, List.mem_of_find?_eq_some hfind, hhas, rfl⟩
    next => exact .inl rfl

/-- A code point in no run is the lower case of itself. -/
theorem lowerSimple_of_no_run (h : ∀ run ∈ lowerRuns, run.has c = false) : lowerSimple c = c := by
  rcases lowerSimple_cases c with hself | ⟨run, hrun, hhas, -⟩
  · exact hself
  · simp [h run hrun] at hhas

/-- No lower case has another lower case. -/
theorem lowerSimple_idem (c : Nat) : lowerSimple (lowerSimple c) = lowerSimple c := by
  rcases lowerSimple_cases c with hself | ⟨run, hrun, hhas, hlower⟩
  · rw [hself, hself]
  · refine lowerSimple_of_no_run fun other hother => Bool.eq_false_iff.mpr fun hagain => ?_
    rw [hlower] at hagain
    have hapart := congrArg (Nat.testBit · (run.lower + (c - run.first))) letter_tables.2.2.1
    simp [Nat.testBit_and, testBit_upperBits hother hagain, testBit_lowerBits hrun hhas] at hapart

/-- A code point and its lower case are letters alike. -/
theorem classes_lowerSimple (c : Nat) : cased.has (lowerSimple c) = cased.has c ∧
    caseIgnorable.has (lowerSimple c) = caseIgnorable.has c := by
  rcases lowerSimple_cases c with hself | ⟨run, hrun, hhas, hlower⟩
  · rw [hself]
    exact ⟨rfl, rfl⟩
  · have hsource := letter_of_testBit (c := c) (by simp [testBit_upperBits hrun hhas])
    have htarget := letter_of_testBit (c := run.lower + (c - run.first))
      (by simp [testBit_lowerBits hrun hhas])
    rw [hlower, hsource.1, hsource.2, htarget.1, htarget.2]
    exact ⟨rfl, rfl⟩

theorem lowerSimple_capitalSigma : lowerSimple capitalSigma = smallSigma := rfl

theorem lowerSimple_smallSigma : lowerSimple smallSigma = smallSigma := by
  rw [← lowerSimple_capitalSigma, lowerSimple_idem]

/-- What has another lower case is no lower case. -/
theorem lowerSimple_ne {x : Nat} (hx : lowerSimple x ≠ x) (c : Nat) : lowerSimple c ≠ x := by
  rintro rfl
  exact hx (lowerSimple_idem c)

theorem lowerSimple_ne_capitalSigma (c : Nat) : lowerSimple c ≠ capitalSigma :=
  lowerSimple_ne (by rw [lowerSimple_capitalSigma]; decide) c

theorem lowerSimple_ne_dotted (c : Nat) : lowerSimple c ≠ 0x130 :=
  lowerSimple_ne (by decide) c

end Letters

/-- The code point itself, or its lower case if that is a single code point. -/
def LowersTo (c d : Nat) : Prop := d = c ∨ Text.lower [c] = [d]

theorem lowersTo_iff {c d : Nat} : LowersTo c d ↔ d = c ∨ c ≠ 0x130 ∧ d = lowerSimple c := by
  have hlower : Text.lower [c] = lowerIn [] c [] := List.append_nil _
  unfold LowersTo
  rw [hlower, lowerIn]
  by_cases hsigma : c = capitalSigma
  · subst hsigma
    have hsingle : capitalSigma ≠ 0x130 := by decide
    simp [meetsCased, lowerSimple_capitalSigma, hsingle, eq_comm]
  · by_cases hdotted : c = 0x130
    · simp [hdotted, capitalSigma]
    · simp [hsigma, hdotted, eq_comm]

section Words

variable {c d : Nat} {before before' after after' text lowered : Text}

theorem LowersTo.classes (h : LowersTo c d) :
    cased.has d = cased.has c ∧ caseIgnorable.has d = caseIgnorable.has c := by
  rcases lowersTo_iff.mp h with rfl | ⟨-, rfl⟩
  · exact ⟨rfl, rfl⟩
  · exact classes_lowerSimple c

theorem meetsCased_cons (c : Nat) (text : Text) :
    meetsCased (c :: text) = if caseIgnorable.has c then meetsCased text else cased.has c := by
  unfold meetsCased
  rw [List.dropWhile_cons]
  cases caseIgnorable.has c <;> rfl

theorem meetsCased_lowered (h : List.Forall₂ LowersTo text lowered) :
    meetsCased lowered = meetsCased text := by
  induction h with
  | nil => rfl
  | cons hfirst _ ih =>
      obtain ⟨hcased, hignorable⟩ := hfirst.classes
      rw [meetsCased_cons, meetsCased_cons, hcased, hignorable, ih]

/-- The lower case of a character that is replaced by its own is as long, and is the same unless a
capital sigma at the end of a word was replaced by a small sigma. -/
theorem LowersTo.lowerIn (h : LowersTo c d) (hbefore : meetsCased before' = meetsCased before)
    (hafter : meetsCased after' = meetsCased after) :
    (Unicode.lowerIn before c after).length = (Unicode.lowerIn before' d after').length ∧
      (Unicode.lowerIn before c after = Unicode.lowerIn before' d after' ↔
        ¬ (c = capitalSigma ∧ d = smallSigma ∧ meetsCased before = true ∧
          meetsCased after = false)) := by
  rcases lowersTo_iff.mp h with rfl | ⟨hdotted, rfl⟩
  · have hsame : Unicode.lowerIn before' d after' = Unicode.lowerIn before d after := by
      rw [Unicode.lowerIn, Unicode.lowerIn, hbefore, hafter]
    rw [hsame]
    refine ⟨rfl, iff_of_true rfl ?_⟩
    rintro ⟨hcapital, hsmall, -⟩
    exact absurd (hcapital.symm.trans hsmall) (by decide)
  · have hlowered : Unicode.lowerIn before' (lowerSimple c) after' = [lowerSimple c] := by
      rw [Unicode.lowerIn, if_neg (lowerSimple_ne_capitalSigma c),
        if_neg (lowerSimple_ne_dotted c), lowerSimple_idem]
    rw [hlowered, Unicode.lowerIn]
    by_cases hsigma : c = capitalSigma
    · subst hsigma
      rw [if_pos rfl, lowerSimple_capitalSigma]
      refine ⟨rfl, ?_⟩
      cases meetsCased before <;> cases meetsCased after <;> simp [finalSigma, smallSigma]
    · rw [if_neg hsigma, if_neg hdotted]
      exact ⟨rfl, iff_of_true rfl fun hlost => hsigma hlost.1⟩

end Words

/-- Somewhere a capital sigma ends a word of the text, which follows `before`, nearest first, and
the other text has a small sigma there. -/
def LosesSigma (before text lowered : Text) : Prop :=
  ∃ i, text[i]? = some capitalSigma ∧ lowered[i]? = some smallSigma ∧
    meetsCased ((text.take i).reverse ++ before) = true ∧ meetsCased (text.drop (i + 1)) = false

theorem losesSigma_nil (before lowered : Text) : ¬ LosesSigma before [] lowered := by
  rintro ⟨i, hcapital, -⟩
  simp at hcapital

theorem losesSigma_cons {before text lowered : Text} {c d : Nat} :
    LosesSigma before (c :: text) (d :: lowered) ↔
      (c = capitalSigma ∧ d = smallSigma ∧ meetsCased before = true ∧
        meetsCased text = false) ∨ LosesSigma (c :: before) text lowered := by
  constructor
  · rintro ⟨i, hcapital, hsmall, hbefore, hafter⟩
    cases i with
    | zero =>
        refine .inl ⟨?_, ?_, hbefore, hafter⟩
        · simpa using hcapital
        · simpa using hsmall
    | succ i => exact .inr ⟨i, hcapital, hsmall, by simpa using hbefore, hafter⟩
  · rintro (⟨rfl, rfl, hbefore, hafter⟩ | ⟨i, hcapital, hsmall, hbefore, hafter⟩)
    · exact ⟨0, rfl, rfl, hbefore, hafter⟩
    · exact ⟨i + 1, hcapital, hsmall, by simpa using hbefore, hafter⟩

/-- Lower case is taken character by character, and the two texts agree at each but a lost sigma. -/
theorem lowerAfter_eq_iff {text lowered : Text} (h : List.Forall₂ LowersTo text lowered)
    {before before' : Text} (hbefore : meetsCased before' = meetsCased before) :
    lowerAfter before text = lowerAfter before' lowered ↔ ¬ LosesSigma before text lowered := by
  induction h generalizing before before' with
  | nil => exact iff_of_true rfl (losesSigma_nil before [])
  | @cons c d text lowered hfirst hrest ih =>
      obtain ⟨hlength, hhead⟩ := hfirst.lowerIn hbefore (meetsCased_lowered hrest)
      obtain ⟨hcased, hignorable⟩ := hfirst.classes
      have hnext : meetsCased (d :: before') = meetsCased (c :: before) := by
        rw [meetsCased_cons, meetsCased_cons, hcased, hignorable, hbefore]
      rw [lowerAfter, lowerAfter, losesSigma_cons, not_or, ← hhead, ← ih hnext]
      constructor
      · exact fun heq => List.append_inj heq hlength
      · rintro ⟨hhere, hafter⟩
        rw [hhere, hafter]

/-- The lower case of every character is part of that of the text. -/
theorem mem_lowerAfter {before text : Text} {c x i : Nat} (hc : text[i]? = some c)
    (hx : x ∈ lowerIn ((text.take i).reverse ++ before) c (text.drop (i + 1))) :
    x ∈ lowerAfter before text := by
  induction text generalizing before i with
  | nil => simp at hc
  | cons d after ih =>
      cases i with
      | zero =>
          obtain rfl : d = c := by simpa using hc
          exact List.mem_append_left _ hx
      | succ i => exact List.mem_append_right _ (ih hc (by simpa using hx))

/-- Somewhere a capital sigma ends a word of the text, and the other has a small sigma there. -/
def LosesFinalSigma (text lowered : Text) : Prop := LosesSigma [] text lowered

end Unicode

open Unicode

/-- Characters that are replaced by their lower cases leave the lower case of a text as it is,
except for a capital sigma that ended a word. -/
theorem Text.lower_eq_iff_of_lowered {text lowered : Text}
    (h : List.Forall₂ LowersTo text lowered) :
    text.lower = lowered.lower ↔ ¬ LosesFinalSigma text lowered := lowerAfter_eq_iff h rfl

/-- A sigma that is lost is a final sigma in the lower case of the one text and a small sigma in
that of the other. -/
theorem Text.sigmas_of_losesFinalSigma {text lowered : Text} (h : LosesFinalSigma text lowered) :
    finalSigma ∈ text.lower ∧ smallSigma ∈ lowered.lower := by
  obtain ⟨i, hcapital, hsmall, hbefore, hafter⟩ := h
  refine ⟨mem_lowerAfter hcapital ?_, mem_lowerAfter hsmall ?_⟩
  · simp [lowerIn, hbefore, hafter, -List.append_nil]
  · have hplain : smallSigma ≠ capitalSigma ∧ smallSigma ≠ 0x130 := by decide
    simp [lowerIn, hplain, lowerSimple_smallSigma]

end ParserCombinators
