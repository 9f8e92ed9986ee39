import ParserCombinators.Lexical.Classes
import ParserCombinators.Proofs.Calls
import ParserCombinators.Proofs.Terminals

/-!
No character is lost. A grammar of literals, patterns and the forms that collect their results gives
a result whose texts, from left to right, are just the part of the input that it moved over. What
was tried and given up on the way leaves nothing behind: a repetition drops the state of its last
item with the text that this had read, and a choice begins each alternative at the same place.
-/

namespace ParserCombinators

theorem Text.slice_self (text : Text) (pos : Nat) : text.slice pos pos = [] := by
  simp [Text.slice]

/-- Parts that follow one another make up the part from the first start to the last stop. -/
theorem Text.slice_append_slice (text : Text) {start middle stop : Nat} (hstart : start ≤ middle)
    (hstop : middle ≤ stop) : text.slice start middle ++ text.slice middle stop =
      text.slice start stop := by
  have hdrop : text.drop middle = (text.drop start).drop (middle - start) := by
    rw [List.drop_drop, Nat.add_sub_cancel' hstart]
  have hlength : stop - start = (middle - start) + (stop - middle) := by omega
  simp only [Text.slice, hdrop, hlength, List.take_add]

theorem Value.flattenAll_append (first second : List Value) :
    Value.flattenAll (first ++ second) = Value.flattenAll first ++ Value.flattenAll second := by
  induction first with
  | nil => rfl
  | cons value values ih => simp only [List.cons_append, Value.flattenAll, ih, List.append_assoc]

theorem Value.flattenAll_singleton (value : Value) : Value.flattenAll [value] = value.flatten := by
  simp [Value.flattenAll]

namespace Parser

variable {ν : Type} {grammar : Grammar ν}

/-- The forms that keep all texts they read, and read no text in another form than it has. -/
def isLossless : Parser ν → Bool
  | literal _ caseSensitive => caseSensitive
  | pattern _ _ _ | endOfInput | fail _ | broken _ => true
  | sequence _ | choice _ | optional _ | many _ | many1 _ => true
  | mapError _ _ | trace _ _ | lazy _ | ref _ => true
  | _ => false

/-- The text is what stands between the positions of the two states, which are in the input and in
order. -/
structure Consumes (state next : State) (text : Text) : Prop where
  input : next.input = state.input
  moves : state.pos ≤ next.pos
  within : next.pos ≤ state.input.length
  text : text = state.input.slice state.pos next.pos

section Consumes

variable {state middle next : State} {first second : Text}

theorem Consumes.nil (h : state.pos ≤ state.input.length) : Consumes state state [] :=
  ⟨rfl, Nat.le_refl _, h, (Text.slice_self _ _).symm⟩

theorem Consumes.append (hfirst : Consumes state middle first)
    (hsecond : Consumes middle next second) : Consumes state next (first ++ second) := by
  obtain ⟨hmiddle, hstart, -, rfl⟩ := hfirst
  obtain ⟨hnext, hstop, hwithin, rfl⟩ := hsecond
  rw [hmiddle] at hwithin ⊢
  exact ⟨hnext.trans hmiddle, Nat.le_trans hstart hstop, hwithin,
    Text.slice_append_slice _ hstart hstop⟩

theorem Consumes.withResult (h : Consumes state next first) (value : Value) :
    Consumes state (next.withResult value) first := ⟨h.input, h.moves, h.within, h.text⟩

theorem Consumes.within_input (h : Consumes state next first) : next.pos ≤ next.input.length := by
  rw [h.input]
  exact h.within

/-- A text of the input that is stepped over. -/
theorem consumes_moveTo {text : Text} {value : Value} (hpos : state.pos ≤ state.input.length)
    (h : text = state.input.slice state.pos (state.pos + text.length)) :
    Consumes state (state.moveTo (state.pos + text.length) value) text := by
  have hlength := congrArg List.length h
  simp only [Text.slice, Nat.add_sub_cancel_left, List.length_take, List.length_drop] at hlength
  refine ⟨rfl, Nat.le_add_right _ _, ?_, h⟩
  simp only [State.moveTo]
  omega

end Consumes

/-- What succeeds consumes the texts of its result. -/
def Lossless (R : State → State → Prop) : Prop :=
  ∀ state next, state.failed = false → state.pos ≤ state.input.length → R state next →
    next.failed = false → Consumes state next next.result.flatten

section Loops

variable {state last : State} {values : List Value}

theorem Through.consumes {R : Parser ν → State → State → Prop} {parts : List (Parser ν)}
    (h : Through R parts state values last) (hparts : ∀ part, Lossless (R part))
    (hstate : state.failed = false) (hpos : state.pos ≤ state.input.length) :
    Consumes state last (Value.flattenAll values) := by
  induction h with
  | nil state => exact .nil hpos
  | cons hpart hnext _ ih =>
      have hfirst := hparts _ _ _ hstate hpos hpart hnext
      exact hfirst.append (ih hnext hfirst.within_input)

theorem Rounds.consumes {R : State → State → Prop} (h : Rounds (Round R) state values last)
    (hitem : Lossless R) (hstate : state.failed = false) (hpos : state.pos ≤ state.input.length) :
    Consumes state last (Value.flattenAll values) ∧ last.failed = false := by
  induction h with
  | nil state => exact ⟨.nil hpos, hstate⟩
  | cons hround _ ih =>
      obtain ⟨hnext, hfailed, -, rfl⟩ := hround
      have hfirst := hitem _ _ hstate hpos hnext hfailed
      obtain ⟨hrest, hlast⟩ := ih hfailed hfirst.within_input
      exact ⟨hfirst.append hrest, hlast⟩

/-- The item that ends a repetition either fails, and counts for nothing, or succeeds without
moving, and adds no text. -/
theorem Collects.consumes {R : State → State → Prop} (h : Collects R state values last)
    (hitem : Lossless R) (hstate : state.failed = false) (hpos : state.pos ≤ state.input.length) :
    Consumes state last (Value.flattenAll values) := by
  cases h with
  | refused hrounds _ _ => exact (hrounds.consumes hitem hstate hpos).1
  | still hrounds hnext hfailed _ =>
      obtain ⟨hbefore, hmiddle⟩ := hrounds.consumes hitem hstate hpos
      rw [Value.flattenAll_append, Value.flattenAll_singleton]
      exact hbefore.append (hitem _ _ hmiddle hbefore.within_input hnext hfailed)

end Loops

section Terminals

variable {state : State}

theorem consumes_matchLiteral (text : Text) (hpos : state.pos ≤ state.input.length)
    (hnext : (matchLiteral text true state).failed = false) :
    Consumes state (matchLiteral text true state)
      (matchLiteral text true state).result.flatten := by
  rcases matchLiteral_cases text true state with ⟨-, h⟩ | ⟨-, hreads, h⟩ | ⟨-, -, h⟩
  · simp [h, State.fail] at hnext
  · rw [h]
    exact consumes_moveTo hpos (Eq.symm hreads)
  · simp [h, State.fail] at hnext

theorem consumes_matchPattern (name expected : Text) (compiled : Regex.Pattern)
    (hpos : state.pos ≤ state.input.length)
    (hnext : (matchPattern name compiled expected state).failed = false) :
    Consumes state (matchPattern name compiled expected state)
      (matchPattern name compiled expected state).result.flatten := by
  rcases matchPattern_cases name compiled expected state with
    ⟨-, h⟩ | ⟨found, -, hfound, h⟩ | ⟨-, -, h⟩
  · simp [h, State.fail] at hnext
  · rw [h]
    exact consumes_moveTo hpos (Regex.Pattern.eq_slice_of_matchAt? hfound)
  · simp [h, State.fail] at hnext

theorem consumes_matchEnd (hpos : state.pos ≤ state.input.length)
    (hnext : (matchEnd state).failed = false) :
    Consumes state (matchEnd state) (matchEnd state).result.flatten := by
  rcases Nat.lt_or_ge state.pos state.input.length with hleft | hend
  · simp [matchEnd_of_left hleft, State.fail] at hnext
  · rw [matchEnd_at_end hend]
    exact (Consumes.nil hpos).withResult .null

end Terminals

variable [DecidableEq ν]

theorem Returns.lossless {parser : Parser ν}
    (hform : Everywhere grammar (fun part => part.isLossless = true) parser) :
    Lossless (Returns grammar parser) := by
  intro state next hstate hpos hreturns hnext
  refine Returns.induction_within (motive := fun _ state next => state.failed = false →
    state.pos ≤ state.input.length → next.failed = false →
      Consumes state next next.result.flatten) ?_ hform hreturns hstate hpos hnext
  intro parser state next hform hlayer hstate hpos hnext
  have hparts (part : Parser ν) : Lossless fun middle last =>
      Calls grammar parser state part middle ∧ Returns grammar part middle last ∧
        (middle.failed = false → middle.pos ≤ middle.input.length → last.failed = false →
          Consumes middle last last.result.flatten) :=
    fun middle last hmiddle hwithin hlast hend => hlast.2.2 hmiddle hwithin hend
  cases hlayer.of_succeeded hstate with
  | @literal text caseSensitive _ _ =>
      obtain rfl : caseSensitive = true := hform.self
      exact consumes_matchLiteral text hpos hnext
  | pattern _ => exact consumes_matchPattern _ _ _ hpos hnext
  | endOfInput _ => exact consumes_matchEnd hpos hnext
  | sequence _ hthrough => exact (hthrough.consumes hparts hstate hpos).withResult _
  | sequence_stop _ _ _ hfailed => simp [hfailed] at hnext
  | choice _ _ halternative _ => exact hparts _ _ _ hstate hpos halternative hnext
  | choice_none _ _ => simp [State.fail] at hnext
  | many _ hcollects => exact (hcollects.consumes (hparts _) hstate hpos).withResult _
  | many1 _ hcollects _ => exact (hcollects.consumes (hparts _) hstate hpos).withResult _
  | many1_none _ _ => simp [State.fail] at hnext
  | optional _ hitem _ => exact hparts _ _ _ hstate hpos hitem hnext
  -- What the item read before it failed is given up together with its state.
  | optional_none _ _ _ => exact (Consumes.nil hpos).withResult .null
  | lazy hbody => exact hparts _ _ _ hstate hpos hbody hnext
  | ref _ hbody => exact hparts _ _ _ hstate hpos hbody hnext
  | fail _ => simp [State.fail] at hnext
  | mapError hsource _ => exact hparts _ _ _ hstate hpos hsource hnext
  | mapError_failed _ hfailed => simp [hfailed] at hnext
  | trace hbody => exact hparts _ _ _ hstate hpos hbody hnext
  | _ => exact absurd hform.self (by simp [isLossless])

/-- A lossless parser that succeeds has moved over just the texts of its result. -/
theorem apply_lossless {parser : Parser ν} {state next : State} {fuel : Nat}
    {session after : Session ν}
    (hform : Everywhere grammar (fun part => part.isLossless = true) parser)
    (hsession : session.Coherent grammar) (hstate : state.failed = false)
    (hpos : state.pos ≤ state.input.length)
    (h : apply grammar fuel parser state session = (.done next, after))
    (hnext : next.failed = false) :
    state.pos ≤ next.pos ∧ next.pos ≤ state.input.length ∧
      next.result.flatten = state.input.slice state.pos next.pos := by
  have hreturns : Returns grammar parser state next :=
    (returns_iff_apply hsession).mpr ⟨fuel, after, h⟩
  have hconsumes := Returns.lossless hform state next hstate hpos hreturns hnext
  exact ⟨hconsumes.moves, hconsumes.within, hconsumes.text⟩

/-- Letters with a number after them. -/
def labels : Grammar Unit := fun _ => .ok (sequence [Lexical.letters, Lexical.digits])

/-- A state after the first character of `?a7bc`. -/
def labelsStart : State := (State.start [63, 97, 55, 98, 99] false).moveTo 1 .null

/-- The letters at the end are read and given up, for no number follows them. -/
theorem labels_lossless : ∃ next after,
    apply labels 9 (many (ref ())) labelsStart .empty = (.done next, after) ∧
    next.pos = 3 ∧ next.result.flatten = [97, 55] := by
  have hform : Everywhere labels (fun part => part.isLossless = true) (many (ref ())) := by
    refine .of_consistsOf (fun _ body h => ?_) rfl
    obtain rfl := Except.ok.inj h
    rfl
  have hpos : labelsStart.pos ≤ labelsStart.input.length := by decide
  obtain ⟨next, after, hrun, hnext, hstop⟩ : ∃ next after,
      apply labels 9 (many (ref ())) labelsStart .empty = (.done next, after) ∧
      next.failed = false ∧ next.pos = 3 := ⟨_, _, rfl, rfl, rfl⟩
  obtain ⟨-, -, htext⟩ := apply_lossless hform Session.empty_coherent rfl hpos hrun hnext
  refine ⟨next, after, hrun, hstop, ?_⟩
  rw [htext, hstop]
  rfl

end Parser

end ParserCombinators
