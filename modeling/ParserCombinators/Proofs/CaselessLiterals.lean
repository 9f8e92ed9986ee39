import ParserCombinators.Proofs.Lowercase
import ParserCombinators.Proofs.WholeRuns

/-!
How far a literal without case moves. It compares the lower case of as many characters as its text
has, or of all that are left if these are fewer, and moves over as many as its text has in either
case. Since a lower case may be longer than what it is taken from, all that is left can match though
it is too short, and the literal then moves past the end of the input.

The marks U+0307 tell when: the characters that are read are fewer than those of the text by as many
of these marks as the text has more of.
-/

namespace ParserCombinators.Parser

variable {ν : Type} [DecidableEq ν] {grammar : Grammar ν} {text : Text} {state : State}

/-- What a literal is compared with is cut at the end of the input. -/
theorem length_ahead (state : State) (count : Nat) :
    (state.ahead count).length = min count (state.input.length - state.pos) := by
  rw [State.ahead, Text.slice, List.length_take, List.length_drop, Nat.add_sub_cancel_left]

/-- Nothing has the lower case of a text that is not empty, so a literal needs no other condition
than that on what is ahead. -/
theorem lt_length_of_lower_ahead_eq (htext : text ≠ [])
    (h : (state.ahead text.length).lower = text.lower) : state.pos < state.input.length := by
  have hpositive : 0 < text.length := List.length_pos_iff.mpr htext
  have hlower (actual : Text) : actual.lower.length = actual.length + actual.count 0x130 :=
    Unicode.lowerAfter_length [] actual
  have hcounts : (state.ahead text.length).count 0x130 ≤ (state.ahead text.length).length :=
    List.count_le_length
  have hlengths := congrArg List.length h
  rw [hlower, hlower] at hlengths
  have hahead := length_ahead state text.length
  omega

/-- A literal without case answers by the lower case of what is ahead. -/
theorem Answers.caseless {t : Text} {i : Nat} (htext : text ≠ [])
    (h : Text.lower ((t.drop i).take text.length) = text.lower) :
    Answers grammar t (.literal text false) i (.yields (i + text.length) (.text text)) := by
  rintro state hstate rfl rfl
  have hlower : (state.ahead text.length).lower = text.lower := by
    rwa [State.ahead, Text.slice, Nat.add_sub_cancel_left]
  have hreads : Reads text false (state.ahead text.length) := hlower
  refine ⟨_, Returns.literal hstate, ?_⟩
  rw [matchLiteral_of_reads (lt_length_of_lower_ahead_eq htext hlower) hreads]
  exact ⟨rfl, verdict_moveTo hstate _ _⟩

theorem Answers.caseless_differs {t : Text} {i : Nat}
    (h : Text.lower ((t.drop i).take text.length) ≠ text.lower) :
    Answers grammar t (.literal text false) i .fails := by
  rintro state hstate rfl rfl
  refine ⟨_, Returns.literal hstate, ?_⟩
  rcases Nat.lt_or_ge state.pos state.input.length with hleft | hend
  · have hlower : (state.ahead text.length).lower ≠ text.lower := by
      rwa [State.ahead, Text.slice, Nat.add_sub_cancel_left]
    have hdiffers : ¬ Reads text false (state.ahead text.length) := hlower
    rw [matchLiteral_of_differs hleft hdiffers]
    exact ⟨rfl, rfl⟩
  · rw [matchLiteral_at_end hend]
    exact ⟨rfl, rfl⟩

/-- A literal without case succeeds just where the text ahead has the same lower case, and moves by
its own length. It stays in the input, and has read as many characters as its text has, just if what
it has read holds as many marks U+0307 as its text; this is so for every text without that mark. -/
theorem caseless_literal_extent (htext : text ≠ []) (hstate : state.failed = false) :
    ∃ next, Returns grammar (.literal text false) state next ∧
      (next.failed = false ↔ (state.ahead text.length).lower = text.lower) ∧
      (next.failed = false →
        next.pos = state.pos + text.length ∧
        (state.input.slice state.pos next.pos).lower = text.lower ∧
        ((next.pos ≤ state.input.length ∧
            (state.input.slice state.pos next.pos).length = text.length) ↔
          (state.input.slice state.pos next.pos).count 0x307 = text.count 0x307) ∧
        (0x307 ∉ text → next.pos ≤ state.input.length ∧
          (state.input.slice state.pos next.pos).length = text.length)) := by
  by_cases hlower : (state.ahead text.length).lower = text.lower
  · have hleft : state.pos < state.input.length := lt_length_of_lower_ahead_eq htext hlower
    have hmatch : matchLiteral text false state =
        state.moveTo (state.pos + text.length) (.text text) := matchLiteral_of_reads hleft hlower
    refine ⟨_, Returns.literal hstate, ?_⟩
    have hread : state.input.slice state.pos (state.moveTo (state.pos + text.length)
        (.text text)).pos = state.ahead text.length := rfl
    have hcount := Text.length_add_count_of_lower_eq hlower
    have hahead := length_ahead state text.length
    have hextent : (state.pos + text.length ≤ state.input.length ∧
        (state.ahead text.length).length = text.length) ↔
        (state.ahead text.length).count 0x307 = text.count 0x307 := by omega
    rw [hmatch, hread]
    refine ⟨iff_of_true hstate hlower, fun _ => ⟨rfl, hlower, hextent, fun hdot => ?_⟩⟩
    have hlength := Text.length_le_of_lower_eq hdot hlower
    have hnone : text.count 0x307 = 0 := List.count_eq_zero.mpr hdot
    exact hextent.mpr (by omega)
  · refine ⟨_, Returns.literal hstate, ?_⟩
    have hfailed : (matchLiteral text false state).failed = true := by
      rcases matchLiteral_cases text false state with ⟨-, h⟩ | ⟨-, hreads, -⟩ | ⟨-, -, h⟩
      · rw [h]
        rfl
      · exact absurd hreads hlower
      · rw [h]
        rfl
    rw [hfailed]
    simp [hlower]

/-- The sharp s and the k of the literal are capitals, and the input has a small letter and the sign
of the unit Kelvin; there is also a mark U+0307 on either side. -/
theorem caseless_literal_extent_kelvin :
    ∃ next, Returns (fun _ => .ok .endOfInput : Grammar Unit) (.literal [0x1E9E, 0x4B, 0x307] false)
      ((State.start [0x78, 0xDF, 0x212A, 0x307, 0x79] false).moveTo 1 .null) next ∧
      next.failed = false ∧ next.pos = 4 ∧ next.pos ≤ 5 := by
  obtain ⟨next, hnext, hsucceeds, hextent⟩ :=
    @caseless_literal_extent Unit _ (fun _ => .ok .endOfInput) [0x1E9E, 0x4B, 0x307]
      ((State.start [0x78, 0xDF, 0x212A, 0x307, 0x79] false).moveTo 1 .null) (by decide) rfl
  have hsuccess := hsucceeds.mpr (by decide +kernel)
  obtain ⟨hmoved, -, hinside, -⟩ := hextent hsuccess
  refine ⟨next, hnext, hsuccess, hmoved, (hinside.mpr ?_).1⟩
  rw [hmoved]
  decide

/-- The small i and a mark match the one capital letter that is left, and the literal moves past the
end of the input. -/
theorem caseless_literal_overruns :
    ∃ final, RunsTo (fun _ => .ok .endOfInput : Grammar Unit) (.literal [0x69, 0x307] false) [0x130]
        false final ∧
      final.failed = false ∧ ¬ final.pos ≤ [0x130].length ∧
      (Text.slice [0x130] 0 final.pos).length ≠ [0x69, 0x307].length := by
  have hstart : (State.start [0x130] false).failed = false := rfl
  refine ⟨_, (Returns.literal hstart).runsTo, ?_⟩
  decide +kernel

end ParserCombinators.Parser
