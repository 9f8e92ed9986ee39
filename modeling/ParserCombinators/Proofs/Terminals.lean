import ParserCombinators.Parser.Apply

/-!
What literals, patterns and the end of the input do to a state that has not failed: each fails or
moves in one of the ways listed here, and says why.
-/

namespace ParserCombinators

theorem State.atEnd_eq_true_iff {state : State} :
    state.atEnd = true ↔ state.input.length ≤ state.pos := by
  simp [State.atEnd]

theorem State.atEnd_eq_false_iff {state : State} :
    state.atEnd = false ↔ state.pos < state.input.length := by
  simp [State.atEnd]

namespace Parser

/-- Whether the text of a literal counts as the characters of the input, with case or without. -/
def Reads (text : Text) (caseSensitive : Bool) (actual : Text) : Prop :=
  if caseSensitive then actual = text else actual.lower = text.lower

section Literals

variable {text : Text} {caseSensitive : Bool} {state : State}

theorem matchLiteral_at_end (h : state.input.length ≤ state.pos) :
    matchLiteral text caseSensitive state =
      state.fail .endOfInput (Wording.literalAtEnd text) := by
  rw [matchLiteral, if_pos (State.atEnd_eq_true_iff.mpr h)]

theorem matchLiteral_of_reads (h : state.pos < state.input.length)
    (hreads : Reads text caseSensitive (state.ahead text.length)) :
    matchLiteral text caseSensitive state =
      state.moveTo (state.pos + text.length) (.text text) := by
  unfold Reads at hreads
  cases caseSensitive <;> simp_all [matchLiteral, State.atEnd_eq_false_iff.mpr h]

theorem matchLiteral_of_differs (h : state.pos < state.input.length)
    (hdiffers : ¬ Reads text caseSensitive (state.ahead text.length)) :
    matchLiteral text caseSensitive state =
      state.fail .noMatch (Wording.literalMismatch text state) := by
  unfold Reads at hdiffers
  cases caseSensitive <;> simp_all [matchLiteral, State.atEnd_eq_false_iff.mpr h]

variable (text caseSensitive state)

theorem matchLiteral_cases :
    (state.input.length ≤ state.pos ∧ matchLiteral text caseSensitive state =
      state.fail .endOfInput (Wording.literalAtEnd text)) ∨
    (state.pos < state.input.length ∧ Reads text caseSensitive (state.ahead text.length) ∧
      matchLiteral text caseSensitive state =
        state.moveTo (state.pos + text.length) (.text text)) ∨
    (state.pos < state.input.length ∧ ¬ Reads text caseSensitive (state.ahead text.length) ∧
      matchLiteral text caseSensitive state =
        state.fail .noMatch (Wording.literalMismatch text state)) := by
  rcases Nat.lt_or_ge state.pos state.input.length with hleft | hend
  · by_cases hreads : Reads text caseSensitive (state.ahead text.length)
    · exact Or.inr (Or.inl ⟨hleft, hreads, matchLiteral_of_reads hleft hreads⟩)
    · exact Or.inr (Or.inr ⟨hleft, hreads, matchLiteral_of_differs hleft hreads⟩)
  · exact Or.inl ⟨hend, matchLiteral_at_end hend⟩

end Literals

section Patterns

variable {name : Text} {compiled : Regex.Pattern} {expected found : Text} {state : State}

theorem matchPattern_at_end (h : state.input.length ≤ state.pos) :
    matchPattern name compiled expected state =
      state.fail .endOfInput (Wording.patternAtEnd name) := by
  rw [matchPattern, if_pos (State.atEnd_eq_true_iff.mpr h)]

theorem matchPattern_of_some (h : state.pos < state.input.length)
    (hfound : compiled.matchAt? state.input state.pos = some found) :
    matchPattern name compiled expected state =
      state.moveTo (state.pos + found.length) (.text found) := by
  simp [matchPattern, State.atEnd_eq_false_iff.mpr h, hfound]

theorem matchPattern_of_none (h : state.pos < state.input.length)
    (hnone : compiled.matchAt? state.input state.pos = none) :
    matchPattern name compiled expected state =
      state.fail .noMatch (Wording.patternMismatch name expected state) := by
  simp [matchPattern, State.atEnd_eq_false_iff.mpr h, hnone]

variable (name compiled expected state)

theorem matchPattern_cases :
    (state.input.length ≤ state.pos ∧ matchPattern name compiled expected state =
      state.fail .endOfInput (Wording.patternAtEnd name)) ∨
    (∃ found, state.pos < state.input.length ∧
      compiled.matchAt? state.input state.pos = some found ∧
      matchPattern name compiled expected state =
        state.moveTo (state.pos + found.length) (.text found)) ∨
    (state.pos < state.input.length ∧ compiled.matchAt? state.input state.pos = none ∧
      matchPattern name compiled expected state =
        state.fail .noMatch (Wording.patternMismatch name expected state)) := by
  rcases Nat.lt_or_ge state.pos state.input.length with hleft | hend
  · cases hfound : compiled.matchAt? state.input state.pos with
    | none => exact Or.inr (Or.inr ⟨hleft, rfl, matchPattern_of_none hleft hfound⟩)
    | some found =>
        exact Or.inr (Or.inl ⟨found, hleft, rfl, matchPattern_of_some hleft hfound⟩)
  · exact Or.inl ⟨hend, matchPattern_at_end hend⟩

end Patterns

theorem matchEnd_at_end {state : State} (h : state.input.length ≤ state.pos) :
    matchEnd state = state.withResult .null := by
  rw [matchEnd, if_pos (State.atEnd_eq_true_iff.mpr h)]

theorem matchEnd_of_left {state : State} (h : state.pos < state.input.length) :
    matchEnd state = state.fail .noMatch (Wording.inputLeft state) := by
  simp [matchEnd, State.atEnd_eq_false_iff.mpr h]

end Parser

/-- A match is the part of the input that begins at the position and is as long. -/
theorem Regex.Pattern.eq_slice_of_matchAt? {compiled : Regex.Pattern} {input found : Text}
    {pos : Nat} (h : compiled.matchAt? input pos = some found) :
    found = input.slice pos (pos + found.length) := by
  have hafter : (compiled.cursorAt input pos).after = input.drop pos := by
    unfold cursorAt
    split <;> rfl
  obtain ⟨stop, -, rfl⟩ := Option.map_eq_some_iff.mp h
  rw [Text.slice, Nat.add_sub_cancel_left, Cursor.textTo, hafter]
  exact (List.take_eq_take_iff.mpr (by simp)).symm

theorem Regex.Pattern.length_le_of_matchAt? {compiled : Regex.Pattern} {input found : Text}
    {pos : Nat} (h : compiled.matchAt? input pos = some found) (hpos : pos ≤ input.length) :
    pos + found.length ≤ input.length := by
  have hlength : found.length ≤ (input.drop pos).length := by
    rw [eq_slice_of_matchAt? h]
    exact List.length_take_le' _ _
  rw [List.length_drop] at hlength
  omega

end ParserCombinators
