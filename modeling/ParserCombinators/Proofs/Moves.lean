import ParserCombinators.Proofs.Calls
import ParserCombinators.Proofs.Terminals

/-!
Relations between the state a parser is given and the state it returns that hold for all parsers
because they hold for the few ways in which a state is changed. Such a relation composes, so the
loops keep it; and backtracking returns to a state that is related to itself.

Functions of states that a grammar wrote itself can do anything, so they are left out.
-/

namespace ParserCombinators

variable {ν : Type} {grammar : Grammar ν}

namespace Parser

/-- A function of states that the grammar wrote itself. -/
def isHandWritten : Parser ν → Bool
  | transform _ _ => true
  | _ => false

/-- That no part of a parser is hand-written can be read off it and the definitions. -/
theorem Everywhere.own_of_consistsOf {parser : Parser ν}
    (hdefinitions : ∀ name body, grammar name = .ok body →
      body.consistsOf (fun part => !part.isHandWritten) = true)
    (h : parser.consistsOf (fun part => !part.isHandWritten) = true) :
    Everywhere grammar (fun part => part.isHandWritten = false) parser :=
  (Everywhere.of_consistsOf hdefinitions h).mono fun part hpart => by simpa using hpart

/-- The relation composes and holds for every change that a good parser makes by itself. -/
structure Movement (good : Parser ν → Prop) (moves : State → State → Prop) : Prop where
  refl : ∀ state, moves state state
  trans : ∀ {state middle next}, moves state middle → moves middle next → moves state next
  withResult : ∀ state value, moves state (state.withResult value)
  fail : ∀ state kind message, moves state (state.fail kind message)
  explain : ∀ state : State, ∀ message, moves state { state with error := message }
  literal : ∀ {text caseSensitive state}, good (.literal text caseSensitive) →
    state.failed = false → moves state (matchLiteral text caseSensitive state)
  pattern : ∀ {name compiled expected state}, good (.pattern name compiled expected) →
    state.failed = false → moves state (matchPattern name compiled expected state)
  handWritten : ∀ {parser}, good parser → parser.isHandWritten = false

theorem Movement.matchEnd {good : Parser ν → Prop} {moves : State → State → Prop}
    (hmoves : Movement good moves) (state : State) : moves state (matchEnd state) := by
  unfold Parser.matchEnd
  split
  next => exact hmoves.withResult state _
  next => exact hmoves.fail state _ _

/-- Every state that a good parser returns is related to the state it was given. -/
theorem Returns.moves [DecidableEq ν] {good : Parser ν → Prop} {moves : State → State → Prop}
    (hmoves : Movement good moves) {parser : Parser ν} {state next : State}
    (hgood : Everywhere grammar good parser) (h : Returns grammar parser state next) :
    moves state next := by
  refine Returns.induction_within (motive := fun _ state next => moves state next) ?_ hgood h
  intro parser state next hgood hlayer
  have hpart {outer : Parser ν} {start : State} (part : Parser ν) (middle last : State)
      (h : Calls grammar outer start part middle ∧ Returns grammar part middle last ∧
        moves middle last) : moves middle last := h.2.2
  -- A loop keeps the relation to the state it began with, and a backtrack begins there again.
  have hkeeps {outer : Parser ν} {start : State} (part : Parser ν) (middle last : State)
      (h : Calls grammar outer start part middle ∧ Returns grammar part middle last ∧
        moves middle last) (_ : last.failed = false) (hmiddle : moves state middle) :
      moves state last := hmoves.trans hmiddle h.2.2
  have hself := hmoves.refl state
  rcases hlayer with _ | hacts
  · exact hself
  cases hacts with
  | literal hstate => exact hmoves.literal hgood.self hstate
  | pattern hstate => exact hmoves.pattern hgood.self hstate
  | endOfInput _ => exact hmoves.matchEnd state
  | sequence _ hthrough =>
      exact hmoves.trans (hthrough.preserves hkeeps hself) (hmoves.withResult _ _)
  | sequence_stop _ hthrough hlast _ =>
      exact hmoves.trans (hthrough.preserves hkeeps hself) (hpart _ _ _ hlast)
  | choice _ _ halternative _ => exact hpart _ _ _ halternative
  | choice_none _ _ => exact hmoves.fail state _ _
  | many _ hcollects =>
      exact hmoves.trans (hcollects.preserves (hkeeps _) hself) (hmoves.withResult _ _)
  | many1 _ hcollects _ =>
      exact hmoves.trans (hcollects.preserves (hkeeps _) hself) (hmoves.withResult _ _)
  | many1_none _ _ => exact hmoves.fail state _ _
  | separated _ hcollects =>
      exact hmoves.trans (hcollects.preserves (hkeeps _) (hkeeps _) hself)
        (hmoves.withResult _ _)
  | separated1 _ hcollects _ =>
      exact hmoves.trans (hcollects.preserves (hkeeps _) (hkeeps _) hself)
        (hmoves.withResult _ _)
  | separated1_none _ _ => exact hmoves.fail state _ _
  | optional _ hitem _ => exact hpart _ _ _ hitem
  | optional_none _ _ _ => exact hmoves.withResult state _
  | lazy hbody => exact hpart _ _ _ hbody
  | ref _ hbody => exact hpart _ _ _ hbody
  | fail _ => exact hmoves.fail state _ _
  | succeed _ => exact hmoves.withResult state _
  | map hsource _ _ => exact hmoves.trans (hpart _ _ _ hsource) (hmoves.withResult _ _)
  | map_failed hsource _ => exact hpart _ _ _ hsource
  | chain hsource _ hnext => exact hmoves.trans (hpart _ _ _ hsource) (hpart _ _ _ hnext)
  | chain_failed hsource _ => exact hpart _ _ _ hsource
  | mapError hsource _ => exact hpart _ _ _ hsource
  | mapError_failed hsource _ => exact hmoves.trans (hpart _ _ _ hsource) (hmoves.explain _ _)
  | routine _ hdriven _ =>
      exact hmoves.trans (hdriven.preserves hkeeps hself) (hmoves.withResult _ _)
  | routine_stop _ hdriven _ hparser _ =>
      exact hmoves.trans (hdriven.preserves hkeeps hself) (hpart _ _ _ hparser)
  | trace hbody => exact hpart _ _ _ hbody
  | transform => exact absurd (hmoves.handWritten hgood.self) (by simp [isHandWritten])

theorem frame_movement : Movement (fun parser : Parser ν => parser.isHandWritten = false)
    fun state next => next.input = state.input ∧ next.debug = state.debug where
  refl := fun _ => ⟨rfl, rfl⟩
  trans := fun hfirst hsecond =>
    ⟨hsecond.1.trans hfirst.1, hsecond.2.trans hfirst.2⟩
  withResult := fun _ _ => ⟨rfl, rfl⟩
  fail := fun _ _ _ => ⟨rfl, rfl⟩
  explain := fun _ _ => ⟨rfl, rfl⟩
  literal := by
    intro text caseSensitive state _ _
    rcases matchLiteral_cases text caseSensitive state with ⟨-, h⟩ | ⟨-, -, h⟩ | ⟨-, -, h⟩ <;>
      rw [h] <;> exact ⟨rfl, rfl⟩
  pattern := by
    intro name compiled expected state _ _
    rcases matchPattern_cases name compiled expected state with
      ⟨-, h⟩ | ⟨found, -, -, h⟩ | ⟨-, -, h⟩ <;> rw [h] <;> exact ⟨rfl, rfl⟩
  handWritten := id

/-- The input and the debug mode of a run stay what they are. -/
theorem Returns.frame [DecidableEq ν] {parser : Parser ν} {state next : State}
    (hown : Everywhere grammar (fun part => part.isHandWritten = false) parser)
    (h : Returns grammar parser state next) :
    next.input = state.input ∧ next.debug = state.debug := h.moves frame_movement hown

/-- The parts of a parser are applied within the same run. -/
theorem Calls.frame [DecidableEq ν] {parser part : Parser ν} {state middle : State}
    (hown : Everywhere grammar (fun part => part.isHandWritten = false) parser)
    (h : Calls grammar parser state part middle) :
    middle.input = state.input ∧ middle.debug = state.debug := by
  refine h.preserves
    (I := fun other => other.input = state.input ∧ other.debug = state.debug) ?_ ⟨rfl, rfl⟩
  intro inner start next hpart hreturns _ hstart
  obtain ⟨hinput, hdebug⟩ := hreturns.frame (hown.of_part hpart)
  exact ⟨hinput.trans hstart.1, hdebug.trans hstart.2⟩

end Parser

end ParserCombinators
