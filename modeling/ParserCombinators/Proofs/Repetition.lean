import ParserCombinators.Proofs.Moves

/-!
Repetitions stop. Nothing in the text of a parser shows it: the loops go on for as long as their
items succeed, and an item may succeed without moving. What bounds them is the input. No
application goes back, and none goes on from a place at or past the end of the input; so a round
that does not end its loop leaves less of the input than there was before.

The bound needs no assumption. That a loop returns needs that every application in it does.
-/

namespace ParserCombinators.Parser

open Filter

variable {ν : Type} {grammar : Grammar ν}

/-- The next position is not before the position, and is the same where no input is left. -/
structure Forward (state next : State) : Prop where
  input : next.input = state.input
  pos : state.pos ≤ next.pos
  still : state.input.length ≤ state.pos → next.pos = state.pos

namespace Forward

variable {state middle next : State}

theorem of_same (hinput : next.input = state.input) (hpos : next.pos = state.pos) :
    Forward state next := ⟨hinput, Nat.le_of_eq hpos.symm, fun _ => hpos⟩

theorem trans (hfirst : Forward state middle) (hsecond : Forward middle next) :
    Forward state next := by
  have hinput := hfirst.input
  have hleft := hfirst.pos
  have hright := hsecond.pos
  refine ⟨hsecond.input.trans hinput, by omega, fun hend => ?_⟩
  have hmiddle : middle.pos = state.pos := hfirst.still hend
  have hnext : next.pos = middle.pos := hsecond.still (by rw [hinput, hmiddle]; exact hend)
  rw [hnext, hmiddle]

theorem moveTo (hleft : state.pos < state.input.length) (count : Nat) (value : Value) :
    Forward state (state.moveTo (state.pos + count) value) :=
  ⟨rfl, Nat.le_add_right _ _, fun hend => by omega⟩

/-- A move leaves less of the input. -/
theorem remaining_lt (h : Forward state next) (hmoves : next.pos ≠ state.pos) :
    next.input.length - next.pos < state.input.length - state.pos := by
  have hpos := h.pos
  have hleft : state.pos < state.input.length := by
    by_contra hend
    exact hmoves (h.still (by omega))
  rw [h.input]
  omega

end Forward

/-- The cursor goes forward, whatever the parser is. Literals without case are no exception: they
may end past the end of the input, but begin before it. -/
theorem forward_movement :
    Movement (fun parser : Parser ν => parser.isHandWritten = false) Forward where
  refl := fun _ => .of_same rfl rfl
  trans := Forward.trans
  withResult := fun _ _ => .of_same rfl rfl
  fail := fun _ _ _ => .of_same rfl rfl
  explain := fun _ _ => .of_same rfl rfl
  literal := by
    intro text caseSensitive state _ _
    rcases matchLiteral_cases text caseSensitive state with
      ⟨-, h⟩ | ⟨hleft, -, h⟩ | ⟨-, -, h⟩ <;> rw [h]
    · exact .of_same rfl rfl
    · exact .moveTo hleft _ _
    · exact .of_same rfl rfl
  pattern := by
    intro name compiled expected state _ _
    rcases matchPattern_cases name compiled expected state with
      ⟨-, h⟩ | ⟨found, hleft, -, h⟩ | ⟨-, -, h⟩ <;> rw [h]
    · exact .of_same rfl rfl
    · exact .moveTo hleft _ _
    · exact .of_same rfl rfl
  handWritten := id

section Rounds

variable {S R : State → State → Prop} {T : State → Value → State → Prop} {state last : State}
  {values : List Value}

/-- Every round takes at least one character, so there are not more rounds than characters. -/
theorem Rounds.length_le (h : Rounds T state values last)
    (hround : ∀ middle value next, T middle value next →
      next.input.length - next.pos < middle.input.length - middle.pos) :
    values.length ≤ state.input.length - state.pos := by
  induction h with
  | nil => simp
  | cons hfirst _ ih =>
      have hless := hround _ _ _ hfirst
      simp only [List.length_cons]
      omega

theorem Round.remaining_lt {value : Value} {next : State} (h : Round R state value next)
    (hR : ∀ middle next, R middle next → Forward middle next) :
    next.input.length - next.pos < state.input.length - state.pos :=
  (hR _ _ h.1).remaining_lt h.2.2.1

/-- The item and the separator may each stand still, but not both. -/
theorem Turn.remaining_lt {value : Value} {next : State} (h : Turn S R state value next)
    (hS : ∀ middle next, S middle next → Forward middle next)
    (hR : ∀ middle next, R middle next → Forward middle next) :
    next.input.length - next.pos < state.input.length - state.pos := by
  obtain ⟨middle, hitem, -, -, hseparator, -, hmoves⟩ := h
  exact ((hR _ _ hitem).trans (hS _ _ hseparator)).remaining_lt hmoves

/-- A repetition whose item returns in every round comes to an end. The induction is on what is
left of the input. -/
theorem exists_collects (hR : ∀ middle next, R middle next → Forward middle next)
    (hends : ∀ found middle, Rounds (Round R) state found middle → ∃ next, R middle next) :
    ∃ values last, Collects R state values last := by
  induction hleft : state.input.length - state.pos using Nat.strong_induction_on
    generalizing state with
  | _ left ih =>
      obtain ⟨next, hnext⟩ := hends [] state (.nil state)
      cases hfailed : next.failed with
      | true => exact ⟨[], state, .refused (.nil state) hnext hfailed⟩
      | false =>
          by_cases hpos : next.pos = state.pos
          · exact ⟨[next.result], next, .still (.nil state) hnext hfailed hpos⟩
          · have hround : Round R state next.result next := ⟨hnext, hfailed, hpos, rfl⟩
            have hless := hround.remaining_lt hR
            obtain ⟨values, last, hcollects⟩ := ih _ (hleft ▸ hless)
              (fun found middle h => hends (_ :: found) middle (.cons hround h)) rfl
            exact ⟨_, last, hcollects.cons hround⟩

theorem exists_collectsSeparated (hS : ∀ middle next, S middle next → Forward middle next)
    (hR : ∀ middle next, R middle next → Forward middle next)
    (hitem : ∀ found middle, Rounds (Turn S R) state found middle → ∃ next, R middle next)
    (hseparator : ∀ found middle next, Rounds (Turn S R) state found middle → R middle next →
      next.failed = false → ∃ between, S next between) :
    ∃ values last, CollectsSeparated S R state values last := by
  induction hleft : state.input.length - state.pos using Nat.strong_induction_on
    generalizing state with
  | _ left ih =>
      obtain ⟨next, hnext⟩ := hitem [] state (.nil state)
      cases hfailed : next.failed with
      | true => exact ⟨[], state, .refused (.nil state) hnext hfailed⟩
      | false =>
          obtain ⟨between, hbetween⟩ := hseparator [] state next (.nil state) hnext hfailed
          by_cases hends : between.failed = true ∨ between.pos = state.pos
          · exact ⟨[next.result], next, .unseparated (.nil state) hnext hfailed hbetween hends⟩
          · rw [not_or, Bool.not_eq_true] at hends
            have hturn : Turn S R state next.result between :=
              ⟨next, hnext, hfailed, rfl, hbetween, hends.1, hends.2⟩
            have hless := hturn.remaining_lt hS hR
            obtain ⟨values, last, hcollects⟩ := ih _ (hleft ▸ hless)
              (fun found middle h => hitem (_ :: found) middle (.cons hturn h))
              (fun found middle next h => hseparator (_ :: found) middle next (.cons hturn h)) rfl
            exact ⟨_, last, hcollects.cons hturn⟩

end Rounds

variable [DecidableEq ν]

theorem Returns.forward {parser : Parser ν} {state next : State}
    (hown : Everywhere grammar (fun part => part.isHandWritten = false) parser)
    (h : Returns grammar parser state next) : Forward state next := h.moves forward_movement hown

/-- A loop applies its item in every round that moves and once more to end, so at most once more
than there are characters left; given as many rounds as that, each of which applies the item once,
it is done. What it then gives is what the repetitions return. -/
theorem repetition_stops {item separator : Parser ν} {state : State}
    (hitem : Everywhere grammar (fun part => part.isHandWritten = false) item)
    (hseparator : Everywhere grammar (fun part => part.isHandWritten = false) separator)
    (hstate : state.failed = false) :
    ((∀ values middle, Rounds (Round (Returns grammar item)) state values middle →
        values.length ≤ state.input.length - state.pos) ∧
      ∀ values middle,
        Rounds (Turn (Returns grammar separator) (Returns grammar item)) state values middle →
        values.length ≤ state.input.length - state.pos) ∧
    ((∀ middle, Calls grammar (.many item) state item middle → Ends grammar item middle) →
      ∃ collected,
        (∀ᶠ fuel in atTop, Run.Delivers grammar (iterate (apply grammar fuel item)
          (state.input.length - state.pos + 1) [] state) collected) ∧
        Returns grammar (.many item) state (gather collected) ∧
        Returns grammar (.many1 item) state
          (gatherSome state (Wording.noItem state) collected)) ∧
    ((∀ part middle, Calls grammar (.separated separator item) state part middle →
        Ends grammar part middle) →
      ∃ collected,
        (∀ᶠ fuel in atTop, Run.Delivers grammar
          (alternate (apply grammar fuel separator) (apply grammar fuel item)
            (state.input.length - state.pos + 1) [] state) collected) ∧
        Returns grammar (.separated separator item) state (gather collected) ∧
        Returns grammar (.separated1 separator item) state
          (gatherSome state (Wording.noSeparatedItem state) collected)) := by
  have hR (middle next : State) (h : Returns grammar item middle next) : Forward middle next :=
    h.forward hitem
  have hS (middle next : State) (h : Returns grammar separator middle next) :
      Forward middle next := h.forward hseparator
  have hrounds (values : List Value) (middle : State)
      (h : Rounds (Round (Returns grammar item)) state values middle) :
      values.length ≤ state.input.length - state.pos :=
    h.length_le fun _ _ _ hround => hround.remaining_lt hR
  have hturns (values : List Value) (middle : State)
      (h : Rounds (Turn (Returns grammar separator) (Returns grammar item)) state values middle) :
      values.length ≤ state.input.length - state.pos :=
    h.length_le fun _ _ _ hturn => hturn.remaining_lt hS hR
  refine ⟨⟨hrounds, hturns⟩, ?_, ?_⟩
  · intro hends
    obtain ⟨values, last, hcollects⟩ := exists_collects hR fun found middle h =>
      hends middle (.many hstate h)
    obtain ⟨found, middle, hfound, hloop⟩ := eventually_iterate_collects hcollects
    have hlimit : found.length < state.input.length - state.pos + 1 :=
      Nat.lt_succ_of_le (hrounds found middle hfound)
    refine ⟨(last, values.reverse ++ []), ?_, ?_, ?_⟩
    · exact hloop.mono fun fuel hfuel => hfuel _ hlimit
    · rw [gather_reverse]
      exact Returns.many hstate hcollects
    · rw [gatherSome_reverse]
      exact (returns_many1_iff_collects hstate).mpr ⟨values, last, hcollects, rfl⟩
  · intro hends
    obtain ⟨values, last, hcollects⟩ := exists_collectsSeparated hS hR
      (fun found middle h => hends item middle (.separated_item hstate h))
      fun found middle next h hnext hsuccess =>
        hends separator next (.separated_separator hstate h hnext hsuccess)
    obtain ⟨found, middle, hfound, hloop⟩ := eventually_alternate_collects hcollects
    have hlimit : found.length < state.input.length - state.pos + 1 :=
      Nat.lt_succ_of_le (hturns found middle hfound)
    refine ⟨(last, values.reverse ++ []), ?_, ?_, ?_⟩
    · exact hloop.mono fun fuel hfuel => hfuel _ hlimit
    · rw [gather_reverse]
      exact Returns.separated hstate hcollects
    · rw [gatherSome_reverse]
      exact (returns_separated1_iff_collects hstate).mpr ⟨values, last, hcollects, rfl⟩

/-- An `a`, or nothing. -/
def maybeLetter : Grammar Unit := fun _ => .ok (optional (literal [97] true))

theorem ends_maybeLetter (state : State) : Ends maybeLetter (ref ()) state := by
  have hliteral (middle : State) (h : middle.failed = false) :
      Returns maybeLetter (literal [97] true) middle (matchLiteral [97] true middle) :=
    Returns.literal h
  have hoptional : Ends maybeLetter (optional (literal [97] true)) state := by
    cases hstate : state.failed with
    | true => exact ⟨state, Returns.absorb rfl hstate⟩
    | false =>
        cases hnext : (matchLiteral [97] true state).failed with
        | true => exact ⟨_, Returns.optional_none hstate (hliteral state hstate) hnext⟩
        | false => exact ⟨_, Returns.optional hstate (hliteral state hstate) hnext⟩
  obtain ⟨next, hnext⟩ := hoptional
  exact ⟨next, Returns.ref rfl hnext⟩

/-- The last two characters of `aaa` are ahead. -/
def maybeLetterStart : State := (State.start [97, 97, 97] false).moveTo 1 .null

/-- Two rounds move, and the third ends the loop at the end of the input; with an item and a
separator that never fail, all four repetitions return. -/
theorem maybeLetter_repetition_stops :
    (∃ collected, ∀ᶠ fuel in atTop, Run.Delivers maybeLetter
      (iterate (apply maybeLetter fuel (ref ())) 3 [] maybeLetterStart) collected) ∧
    Ends maybeLetter (many (ref ())) maybeLetterStart ∧
    Ends maybeLetter (many1 (ref ())) maybeLetterStart ∧
    Ends maybeLetter (separated (ref ()) (ref ())) maybeLetterStart ∧
    Ends maybeLetter (separated1 (ref ()) (ref ())) maybeLetterStart := by
  have hform : Everywhere maybeLetter (fun part => (!part.isHandWritten) = true) (ref ()) := by
    refine .of_consistsOf (fun _ body h => ?_) rfl
    obtain rfl := Except.ok.inj h
    rfl
  have hown : Everywhere maybeLetter (fun part => part.isHandWritten = false) (ref ()) :=
    hform.mono fun part h => by simpa using h
  have hstate : maybeLetterStart.failed = false := rfl
  obtain ⟨-, hmany, hseparated⟩ := repetition_stops hown hown hstate
  obtain ⟨collected, hloop, hmany, hmany1⟩ := hmany fun middle _ => ends_maybeLetter middle
  obtain ⟨_, -, hseparated, hseparated1⟩ := hseparated fun part middle hcall => by
    obtain rfl : part = ref () := by cases hcall <;> rfl
    exact ends_maybeLetter middle
  exact ⟨⟨collected, hloop⟩, ⟨_, hmany⟩, ⟨_, hmany1⟩, ⟨_, hseparated⟩, ⟨_, hseparated1⟩⟩

end ParserCombinators.Parser
