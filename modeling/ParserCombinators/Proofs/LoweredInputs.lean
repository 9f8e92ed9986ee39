import ParserCombinators.Proofs.CaselessLiterals
import ParserCombinators.Proofs.LoweredTexts

/-!
Literals without case, on an input whose characters may already be in lower case. A literal compares
the lower case of what is ahead, taken as a text by itself, with that of its own text. So it does
the same on both inputs as long as no capital sigma that ends a word of what is ahead was replaced.
Where one was, the two lower cases differ in it, and the literal matches one of them at most.
-/

namespace ParserCombinators.Parser

open Unicode

variable {ν : Type} [DecidableEq ν] {grammar : Grammar ν} {text t t' : Text}

/-- The answer of a literal without case to what is ahead. -/
def caselessVerdict (text : Text) (t : Text) (i : Nat) : Verdict :=
  if Text.lower ((t.drop i).take text.length) = text.lower then
    .yields (i + text.length) (.text text)
  else .fails

theorem answers_caselessVerdict (htext : text ≠ []) (t : Text) (i : Nat) :
    Answers grammar t (.literal text false) i (caselessVerdict text t i) := by
  unfold caselessVerdict
  split
  next hlower => exact .caseless htext hlower
  next hlower => exact .caseless_differs hlower

/-- What is ahead on the one input is what is ahead on the other, character by character. -/
theorem lowersTo_ahead (hlowers : List.Forall₂ LowersTo t t') (i count : Nat) :
    List.Forall₂ LowersTo ((t.drop i).take count) ((t'.drop i).take count) :=
  List.forall₂_take count (List.forall₂_drop i hlowers)

/-- A literal without case gives the same answer on an input and on that input with any of its
characters replaced by their lower cases, if no capital sigma that ends a word of what is ahead was
replaced. If one was, it fails on one of the two. A literal whose lower case has no sigma gives the
same answer in any case. -/
theorem caseless_literal_lowered (htext : text ≠ []) (hlowers : List.Forall₂ LowersTo t t')
    (i : Nat) :
    ∃ v v', Answers grammar t (.literal text false) i v ∧
      Answers grammar t' (.literal text false) i v' ∧
      (¬ LosesFinalSigma ((t.drop i).take text.length) ((t'.drop i).take text.length) → v' = v) ∧
      (LosesFinalSigma ((t.drop i).take text.length) ((t'.drop i).take text.length) →
        v = .fails ∨ v' = .fails) ∧
      (finalSigma ∉ text.lower → smallSigma ∉ text.lower → v' = v) := by
  have hahead := Text.lower_eq_iff_of_lowered (lowersTo_ahead hlowers i text.length)
  have hboth (hlost : LosesFinalSigma ((t.drop i).take text.length)
      ((t'.drop i).take text.length)) :
      Text.lower ((t.drop i).take text.length) ≠ text.lower ∨
        Text.lower ((t'.drop i).take text.length) ≠ text.lower := by
    by_cases hfirst : Text.lower ((t.drop i).take text.length) = text.lower
    · exact .inr fun hsecond => hahead.mp (hfirst.trans hsecond.symm) hlost
    · exact .inl hfirst
  refine ⟨_, _, answers_caselessVerdict htext t i, answers_caselessVerdict htext t' i, ?_, ?_, ?_⟩
  · intro hkept
    rw [caselessVerdict, caselessVerdict, hahead.mpr hkept]
  · exact fun hlost => (hboth hlost).imp (if_neg ·) (if_neg ·)
  · intro hfinal hsmall
    by_cases hlost : LosesFinalSigma ((t.drop i).take text.length) ((t'.drop i).take text.length)
    · obtain ⟨hfinal', hsmall'⟩ := Text.sigmas_of_losesFinalSigma hlost
      have hfirst : Text.lower ((t.drop i).take text.length) ≠ text.lower :=
        fun heq => hfinal (heq ▸ hfinal')
      have hsecond : Text.lower ((t'.drop i).take text.length) ≠ text.lower :=
        fun heq => hsmall (heq ▸ hsmall')
      rw [caselessVerdict, caselessVerdict, if_neg hfirst, if_neg hsecond]
    · rw [caselessVerdict, caselessVerdict, hahead.mpr hlost]

/-- Inside a word a capital sigma may be replaced, and the sign of the unit Kelvin anywhere: from
the second character of `KΑΣΑ` the literal `ασα` yields what it yields on `kΑσα`. -/
theorem caseless_literal_lowered_word : ∃ v,
    Answers (fun _ => .ok .endOfInput : Grammar Unit) [0x212A, 0x391, 0x3A3, 0x391]
      (.literal [0x3B1, 0x3C3, 0x3B1] false) 1 v ∧
    Answers (fun _ => .ok .endOfInput : Grammar Unit) [0x6B, 0x391, 0x3C3, 0x3B1]
      (.literal [0x3B1, 0x3C3, 0x3B1] false) 1 v := by
  have hlowers : List.Forall₂ LowersTo [0x212A, 0x391, 0x3A3, 0x391]
      [0x6B, 0x391, 0x3C3, 0x3B1] :=
    .cons (.inr (by decide)) (.cons (.inl rfl) (.cons (.inr (by decide))
      (.cons (.inr (by decide)) .nil)))
  obtain ⟨v, v', hv, hv', hsame, -⟩ :=
    @caseless_literal_lowered Unit _ (fun _ => .ok .endOfInput) [0x3B1, 0x3C3, 0x3B1] _ _
      (by decide) hlowers 1
  have hkept := (Text.lower_eq_iff_of_lowered (lowersTo_ahead hlowers 1 3)).mp (by decide)
  obtain rfl := hsame hkept
  exact ⟨v', hv, hv'⟩

/-- The literal `ΑΣ` matches the text `ΑΣ` and not `Ασ`, in which the second character is the lower
case of what it was: the lower case of the literal ends in a final sigma. -/
theorem caseless_literal_sees_case :
    List.Forall₂ LowersTo [0x391, 0x3A3] [0x391, 0x3C3] ∧
    Parses (fun _ => .ok .endOfInput : Grammar Unit) (.literal [0x391, 0x3A3] false)
      [0x391, 0x3A3] 2 (.text [0x391, 0x3A3]) ∧
    Rejects (fun _ => .ok .endOfInput : Grammar Unit) (.literal [0x391, 0x3A3] false)
      [0x391, 0x3C3] := by
  refine ⟨.cons (.inl rfl) (.cons (.inr (by decide)) .nil), ?_, ?_⟩
  · exact (Answers.caseless (by decide) rfl).parses
  · exact (Answers.caseless_differs (by decide)).rejects

end ParserCombinators.Parser
