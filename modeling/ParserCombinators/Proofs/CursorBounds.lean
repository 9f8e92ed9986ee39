import ParserCombinators.Proofs.Lowercase
import ParserCombinators.Proofs.Moves

/-!
The position of a state that a parser returns lies between the position it was given and the end
of the input, and so does the position of a failure. A literal without case is the one form that
needs a condition: where its text holds U+0307, an input that is shorter than the text can have
the same lower case.
-/

namespace ParserCombinators

namespace Parser

variable {ν : Type} {grammar : Grammar ν}

/-- Every form but functions of states that the grammar wrote itself, and literals without case
that hold U+0307. -/
def boundsCursor : Parser ν → Bool
  | literal text caseSensitive => caseSensitive || !text.contains 0x307
  | transform _ _ => false
  | _ => true

/-- From a position in the input the next position is not before it, and is in the input. -/
def Advances (state next : State) : Prop :=
  next.input = state.input ∧
    (state.pos ≤ state.input.length → state.pos ≤ next.pos ∧ next.pos ≤ state.input.length)

section Advances

variable {state middle next : State}

theorem Advances.of_same (hinput : next.input = state.input) (hpos : next.pos = state.pos) :
    Advances state next := by
  refine ⟨hinput, fun h => ?_⟩
  rw [hpos]
  exact ⟨Nat.le_refl _, h⟩

theorem Advances.trans (hfirst : Advances state middle) (hsecond : Advances middle next) :
    Advances state next := by
  obtain ⟨hmiddle, hfirst⟩ := hfirst
  obtain ⟨hnext, hsecond⟩ := hsecond
  refine ⟨hnext.trans hmiddle, fun h => ?_⟩
  obtain ⟨hleft, hright⟩ := hfirst h
  rw [hmiddle] at hsecond
  obtain ⟨hlower, hupper⟩ := hsecond hright
  exact ⟨Nat.le_trans hleft hlower, hupper⟩

theorem advances_moveTo {count : Nat} {value : Value}
    (h : state.pos ≤ state.input.length → state.pos + count ≤ state.input.length) :
    Advances state (state.moveTo (state.pos + count) value) :=
  ⟨rfl, fun hpos => ⟨Nat.le_add_right _ _, h hpos⟩⟩

end Advances

/-- Characters that count as the text of a literal are as many as the text has. -/
theorem Reads.length_le {text actual : Text} {caseSensitive : Bool}
    (hform : caseSensitive = true ∨ 0x307 ∉ text) (h : Reads text caseSensitive actual) :
    text.length ≤ actual.length := by
  unfold Reads at h
  split at h
  next => exact Nat.le_of_eq (congrArg List.length h.symm)
  next hcase => exact Text.length_le_of_lower_eq (hform.resolve_left hcase) h

theorem advances_matchLiteral {text : Text} {caseSensitive : Bool} (state : State)
    (hform : caseSensitive = true ∨ 0x307 ∉ text) :
    Advances state (matchLiteral text caseSensitive state) := by
  rcases matchLiteral_cases text caseSensitive state with ⟨-, h⟩ | ⟨-, hreads, h⟩ | ⟨-, -, h⟩
  · rw [h]
    exact .of_same rfl rfl
  · rw [h]
    have hlength := hreads.length_le hform
    have hahead : (state.ahead text.length).length ≤ state.input.length - state.pos := by
      rw [State.ahead, Text.slice, ← List.length_drop]
      exact List.length_take_le' _ _
    exact advances_moveTo fun hpos => by omega
  · rw [h]
    exact .of_same rfl rfl

theorem advances_matchPattern (name : Text) (compiled : Regex.Pattern) (expected : Text)
    (state : State) : Advances state (matchPattern name compiled expected state) := by
  rcases matchPattern_cases name compiled expected state with
    ⟨-, h⟩ | ⟨found, -, hfound, h⟩ | ⟨-, -, h⟩
  · rw [h]
    exact .of_same rfl rfl
  · rw [h]
    exact advances_moveTo (Regex.Pattern.length_le_of_matchAt? hfound)
  · rw [h]
    exact .of_same rfl rfl

theorem advances_movement :
    Movement (fun parser : Parser ν => parser.boundsCursor = true) Advances where
  refl := fun _ => .of_same rfl rfl
  trans := Advances.trans
  withResult := fun _ _ => .of_same rfl rfl
  fail := fun _ _ _ => .of_same rfl rfl
  explain := fun _ _ => .of_same rfl rfl
  literal := by
    intro text caseSensitive state hform _
    refine advances_matchLiteral state ?_
    simpa [boundsCursor] using hform
  pattern := fun _ _ => advances_matchPattern _ _ _ _
  handWritten := by
    intro parser hform
    cases parser <;> first | rfl | cases hform

variable [DecidableEq ν]

/-- The position never goes back and never leaves the input, whether the parser succeeds or fails
and whatever it computes from results. -/
theorem apply_cursor_bounds {parser : Parser ν} {state next : State} {fuel : Nat}
    {session after : Session ν}
    (hform : Everywhere grammar (fun part => part.boundsCursor = true) parser)
    (hsession : session.Coherent grammar) (hpos : state.pos ≤ state.input.length)
    (h : apply grammar fuel parser state session = (.done next, after)) :
    next.input = state.input ∧ state.pos ≤ next.pos ∧ next.pos ≤ state.input.length := by
  have hreturns : Returns grammar parser state next :=
    (returns_iff_apply hsession).mpr ⟨fuel, after, h⟩
  obtain ⟨hinput, hbounds⟩ := hreturns.moves advances_movement hform
  exact ⟨hinput, hbounds hpos⟩

/-- `ab` in upper or lower case, and a state one character into `cABaBa`. -/
def caseless : Grammar Unit := fun _ => .ok (literal [97, 98] false)

def caselessStart : State := (State.start [99, 65, 66, 97, 66, 97] false).moveTo 1 .null

theorem caseless_cursor_bounds :
    ∃ next after, apply caseless 9 (many (ref ())) caselessStart Session.empty =
      (.done next, after) ∧ 1 ≤ next.pos ∧ next.pos ≤ 6 := by
  have hform : Everywhere caseless (fun part => part.boundsCursor = true) (many (ref ())) := by
    refine .of_consistsOf (fun _ body h => ?_) rfl
    obtain rfl := Except.ok.inj h
    rfl
  have hpos : caselessStart.pos ≤ caselessStart.input.length := by decide
  obtain ⟨next, after, hrun⟩ : ∃ next after, apply caseless 9 (many (ref ())) caselessStart
      Session.empty = (.done next, after) := ⟨_, _, rfl⟩
  exact ⟨next, after, hrun, (apply_cursor_bounds hform Session.empty_coherent hpos hrun).2⟩

/-- The lower case of U+0130 is the text of the literal, which moves past the end of the input. -/
example : (matchLiteral [0x69, 0x307] false (State.start [0x130] false)).pos = 2 := by
  decide +kernel

end Parser

end ParserCombinators
