import ParserCombinators.Proofs.Agreement
import ParserCombinators.Proofs.Alike
import ParserCombinators.Proofs.Terminals

/-!
Two parsers of the same make, run side by side. A coupling relates the states that enter them and
those that leave them, and says what the operations on states have to respect: which branch is
taken may depend only on what the relation keeps. The relation is then kept by every loop, by every
layer, and so by the whole run, and the two runs end in the same way.
-/

namespace ParserCombinators.Parser

open Relation

variable {ν μ : Type}

/-- The message says nothing of a state but its place. -/
def OfPlace (message : State → Text) : Prop :=
  ∀ state other, state.input = other.input → state.pos = other.pos → message state = message other

theorem ofPlace_noAlternative : OfPlace Wording.noAlternative := by
  intro state other _ hpos
  simp only [Wording.noAlternative, hpos]

theorem ofPlace_noItem : OfPlace Wording.noItem := by
  intro state other _ hpos
  simp only [Wording.noItem, hpos]

theorem ofPlace_noSeparatedItem : OfPlace Wording.noSeparatedItem := by
  intro state other _ hpos
  simp only [Wording.noSeparatedItem, hpos]

/-- States that enter are related before a parser runs, states that leave after it. Those that leave
without having failed may enter the next parser. Only states that have not failed enter. -/
structure Coupling (like : Likeness ν μ) (enters leaves : State → State → Prop) : Prop where
  succeeded : ∀ state state', enters state state' →
    state.failed = false ∧ state'.failed = false
  rest : ∀ state state', enters state state' → state.rest = state'.rest
  still : ∀ state state' next next', enters state state' → enters next next' →
    (next.pos = state.pos ↔ next'.pos = state'.pos)
  matchAt : ∀ state state' compiled, enters state state' → like.fits compiled →
    Regex.Pattern.matchAt? compiled state.input state.pos =
      compiled.matchAt? state'.input state'.pos
  moveTo : ∀ state state' count value, enters state state' →
    leaves (state.moveTo (state.pos + count) value) (state'.moveTo (state'.pos + count) value)
  withResult : ∀ state state' value, enters state state' →
    leaves (state.withResult value) (state'.withResult value)
  fail : ∀ state state' kind message, enters state state' → OfPlace message →
    leaves (state.fail kind (message state)) (state'.fail kind (message state'))
  transform : ∀ state state' (f : State → State), like.written → enters state state' →
    leaves (f state) (f state')
  failed_eq : ∀ next next', leaves next next' → next.failed = next'.failed
  resume : ∀ next next', leaves next next' → next.failed = false →
    enters next next' ∧ next.result = next'.result
  reword : ∀ next next' (f : Option Text → Nat → Text), leaves next next' → next.failed = true →
    leaves { next with error := some (f next.error next.pos) }
      { next' with error := some (f next'.error next'.pos) }
  reword_left : ∀ next next' error, like.silent → leaves next next' →
    leaves { next with error := error } next'
  reword_right : ∀ next next' error, like.silent → leaves next next' →
    leaves next { next' with error := error }

/-- Whatever the first relation gives for the state that enters it, the second gives something
related for the state that enters beside it. -/
def Follows (enters leaves : State → State → Prop) (R R' : State → State → Prop) : Prop :=
  ∀ state state' next, enters state state' → R state next →
    ∃ next', R' state' next' ∧ leaves next next'

theorem Follows.returns [DecidableEq μ] {enters leaves : State → State → Prop}
    {R : State → State → Prop} {grammar : Grammar μ} {parser : Parser μ}
    (h : Follows enters leaves R (Acts grammar (Returns grammar) parser)) :
    Follows enters leaves R (Returns grammar parser) := by
  intro state state' next henters hnext
  obtain ⟨next', hacts, hleaves⟩ := h state state' next henters hnext
  exact ⟨next', hacts.returns, hleaves⟩

theorem Coupling.flip {like : Likeness ν μ} {enters leaves : State → State → Prop}
    (h : Coupling like enters leaves) :
    Coupling like.flip (fun state state' => enters state' state)
      fun next next' => leaves next' next where
  succeeded state state' henters := (h.succeeded state' state henters).symm
  rest state state' henters := (h.rest state' state henters).symm
  still state state' next next' hbefore hafter :=
    (h.still state' state next' next hbefore hafter).symm
  matchAt state state' compiled henters hfits :=
    (h.matchAt state' state compiled henters hfits).symm
  moveTo state state' := h.moveTo state' state
  withResult state state' := h.withResult state' state
  fail state state' := h.fail state' state
  transform state state' := h.transform state' state
  failed_eq next next' hleaves := (h.failed_eq next' next hleaves).symm
  resume next next' hleaves hnext := by
    have hnext' := (h.failed_eq next' next hleaves).trans hnext
    obtain ⟨henters, hresult⟩ := h.resume next' next hleaves hnext'
    exact ⟨henters, hresult.symm⟩
  reword next next' f hleaves hnext :=
    h.reword next' next f hleaves ((h.failed_eq next' next hleaves).trans hnext)
  reword_left next next' error hsilent := h.reword_right next' next error hsilent
  reword_right next next' error hsilent := h.reword_left next' next error hsilent

namespace Coupling

variable {like : Likeness ν μ} {enters leaves : State → State → Prop} {state state' : State}

section Terminals

variable (h : Coupling like enters leaves) (henters : enters state state')

include h henters

theorem atEnd_iff :
    state.input.length ≤ state.pos ↔ state'.input.length ≤ state'.pos := by
  rw [← List.drop_eq_nil_iff, ← List.drop_eq_nil_iff]
  exact iff_of_eq (congrArg (· = []) (h.rest state state' henters))

theorem ahead_eq (count : Nat) : state.ahead count = state'.ahead count := by
  have hrest := h.rest state state' henters
  simp only [State.rest] at hrest
  simp [State.ahead, Text.slice, hrest]

theorem literal (text : Text) (caseSensitive : Bool) :
    leaves (matchLiteral text caseSensitive state) (matchLiteral text caseSensitive state') := by
  have hend := h.atEnd_iff henters
  rcases matchLiteral_cases text caseSensitive state with
    ⟨hstate, heq⟩ | ⟨hstate, hreads, heq⟩ | ⟨hstate, hdiffers, heq⟩
  · rw [heq, matchLiteral_at_end (hend.mp hstate)]
    exact h.fail state state' _ (fun _ => Wording.literalAtEnd text) henters fun _ _ _ _ => rfl
  · have hstate' := Nat.lt_of_not_le fun hle => Nat.not_le_of_lt hstate (hend.mpr hle)
    rw [h.ahead_eq henters] at hreads
    rw [heq, matchLiteral_of_reads hstate' hreads]
    exact h.moveTo state state' _ _ henters
  · have hstate' := Nat.lt_of_not_le fun hle => Nat.not_le_of_lt hstate (hend.mpr hle)
    rw [h.ahead_eq henters] at hdiffers
    rw [heq, matchLiteral_of_differs hstate' hdiffers]
    refine h.fail state state' _ (Wording.literalMismatch text) henters ?_
    intro first second hinput hpos
    simp only [Wording.literalMismatch, State.ahead, hinput, hpos]

theorem pattern (name expected : Text) {compiled : Regex.Pattern} (hfits : like.fits compiled) :
    leaves (matchPattern name compiled expected state)
      (matchPattern name compiled expected state') := by
  have hend := h.atEnd_iff henters
  have hmatch := h.matchAt state state' compiled henters hfits
  rcases matchPattern_cases name compiled expected state with
    ⟨hstate, heq⟩ | ⟨found, hstate, hfound, heq⟩ | ⟨hstate, hnone, heq⟩
  · rw [heq, matchPattern_at_end (hend.mp hstate)]
    exact h.fail state state' _ (fun _ => Wording.patternAtEnd name) henters fun _ _ _ _ => rfl
  · have hstate' := Nat.lt_of_not_le fun hle => Nat.not_le_of_lt hstate (hend.mpr hle)
    rw [heq, matchPattern_of_some hstate' (hmatch.symm.trans hfound)]
    exact h.moveTo state state' _ _ henters
  · have hstate' := Nat.lt_of_not_le fun hle => Nat.not_le_of_lt hstate (hend.mpr hle)
    rw [heq, matchPattern_of_none hstate' (hmatch.symm.trans hnone)]
    refine h.fail state state' _ (Wording.patternMismatch name expected) henters ?_
    intro first second _ hpos
    simp only [Wording.patternMismatch, hpos]

theorem endOfInput : leaves (matchEnd state) (matchEnd state') := by
  have hend := h.atEnd_iff henters
  rcases Nat.lt_or_ge state.pos state.input.length with hleft | hstate
  · have hleft' := Nat.lt_of_not_le fun hle => Nat.not_le_of_lt hleft (hend.mpr hle)
    rw [matchEnd_of_left hleft, matchEnd_of_left hleft']
    refine h.fail state state' _ Wording.inputLeft henters ?_
    intro first second hinput hpos
    simp only [Wording.inputLeft, State.ahead, hinput, hpos]
  · rw [matchEnd_at_end hstate, matchEnd_at_end (hend.mp hstate)]
    exact h.withResult state state' _ henters

end Terminals

/-- A state that leaves without having failed enters the next parser beside one that has not
failed either. -/
theorem passes (h : Coupling like enters leaves) {next next' : State} (hleaves : leaves next next')
    (hnext : next.failed = false) :
    enters next next' ∧ next'.failed = false ∧ next.result = next'.result := by
  obtain ⟨henters, hresult⟩ := h.resume next next' hleaves hnext
  exact ⟨henters, (h.succeeded next next' henters).2, hresult⟩

/-- A state that leaves failed leaves beside one that has failed, too. -/
theorem fails (h : Coupling like enters leaves) {next next' : State} (hleaves : leaves next next')
    (hfailed : next.failed = true) : next'.failed = true :=
  (h.failed_eq next next' hleaves).symm.trans hfailed

section Parts

variable {R : Parser ν → State → State → Prop} {R' : Parser μ → State → State → Prop}
  {last : State}

theorem through (h : Coupling like enters leaves) {parts : List (Parser ν)}
    {others : List (Parser μ)}
    (hparts : List.Forall₂ (fun part other => Follows enters leaves (R part) (R' other))
      parts others)
    {values : List Value} (hthrough : Through R parts state values last)
    (henters : enters state state') :
    ∃ last', Through R' others state' values last' ∧ enters last last' := by
  induction hthrough generalizing others state' with
  | nil state =>
      cases hparts
      exact ⟨state', .nil state', henters⟩
  | cons hpart hnext _ ih =>
      cases hparts with
      | cons hfirst hrest =>
          obtain ⟨next', hpart', hleaves⟩ := hfirst _ _ _ henters hpart
          obtain ⟨henters', hnext', hresult⟩ := h.passes hleaves hnext
          obtain ⟨last', hthrough', hlast⟩ := ih hrest henters'
          rw [hresult]
          exact ⟨last', .cons hpart' hnext' hthrough', hlast⟩

theorem refuses (h : Coupling like enters leaves) {parts : List (Parser ν)}
    {others : List (Parser μ)}
    (hparts : List.Forall₂ (fun part other => Follows enters leaves (R part) (R' other))
      parts others)
    (hrefuses : Refuses R state parts) (henters : enters state state') :
    Refuses R' state' others := by
  induction hrefuses generalizing others with
  | nil =>
      cases hparts
      exact .nil
  | cons hpart hfailed _ ih =>
      cases hparts with
      | cons hfirst hrest =>
          obtain ⟨next', hpart', hleaves⟩ := hfirst _ _ _ henters hpart
          exact .cons hpart' (h.fails hleaves hfailed) (ih hrest)

theorem driven (h : Coupling like enters leaves) {steps : List Value → Step ν}
    {others : List Value → Step μ} {received all : List Value}
    (hsteps : ∀ received, SameStep (steps received) (others received))
    (hparts : ∀ received part other, steps received = .run part → others received = .run other →
      Follows enters leaves (R part) (R' other))
    (hdriven : Driven R steps received state all last) (henters : enters state state') :
    ∃ last', Driven R' others received state' all last' ∧ enters last last' := by
  induction hdriven generalizing state' with
  | nil received state => exact ⟨state', .nil received state', henters⟩
  | cons hstep hpart hnext _ ih =>
      obtain ⟨other, hstep'⟩ := (hsteps _).of_run hstep
      obtain ⟨next', hpart', hleaves⟩ := hparts _ _ _ hstep hstep' _ _ _ henters hpart
      obtain ⟨henters', hnext', hresult⟩ := h.passes hleaves hnext
      obtain ⟨last', hdriven', hlast⟩ := ih henters'
      rw [hresult] at hdriven'
      exact ⟨last', .cons hstep' hpart' hnext' hdriven', hlast⟩

end Parts

section Loops

variable {S R S' R' : State → State → Prop} {last : State} {values : List Value}

theorem rounds {T T' : State → Value → State → Prop}
    (hround : ∀ state state' value next, enters state state' → T state value next →
      ∃ next', T' state' value next' ∧ enters next next')
    (hrounds : Rounds T state values last) (henters : enters state state') :
    ∃ last', Rounds T' state' values last' ∧ enters last last' := by
  induction hrounds generalizing state' with
  | nil state => exact ⟨state', .nil state', henters⟩
  | cons hfirst _ ih =>
      obtain ⟨next', hfirst', hnext⟩ := hround _ _ _ _ henters hfirst
      obtain ⟨last', hrest', hlast⟩ := ih hnext
      exact ⟨last', .cons hfirst' hrest', hlast⟩

theorem round (h : Coupling like enters leaves) (hitem : Follows enters leaves R R')
    (state state' : State) (value : Value) (next : State) (henters : enters state state')
    (hround : Round R state value next) :
    ∃ next', Round R' state' value next' ∧ enters next next' := by
  obtain ⟨hnext, hfailed, hmoves, rfl⟩ := hround
  obtain ⟨next', hnext', hleaves⟩ := hitem _ _ _ henters hnext
  obtain ⟨henters', hfailed', hresult⟩ := h.passes hleaves hfailed
  have hmoves' : next'.pos ≠ state'.pos :=
    fun hpos => hmoves ((h.still _ _ _ _ henters henters').mpr hpos)
  exact ⟨next', ⟨hnext', hfailed', hmoves', hresult⟩, henters'⟩

theorem turn (h : Coupling like enters leaves) (hseparator : Follows enters leaves S S')
    (hitem : Follows enters leaves R R') (state state' : State) (value : Value) (next : State)
    (henters : enters state state') (hturn : Turn S R state value next) :
    ∃ next', Turn S' R' state' value next' ∧ enters next next' := by
  obtain ⟨middle, hmiddle, hfailed, rfl, hnext, hsuccess, hmoves⟩ := hturn
  obtain ⟨middle', hmiddle', hleaves⟩ := hitem _ _ _ henters hmiddle
  obtain ⟨hbetween, hfailed', hresult⟩ := h.passes hleaves hfailed
  obtain ⟨next', hnext', hleaves'⟩ := hseparator _ _ _ hbetween hnext
  obtain ⟨henters', hsuccess', -⟩ := h.passes hleaves' hsuccess
  have hmoves' : next'.pos ≠ state'.pos :=
    fun hpos => hmoves ((h.still _ _ _ _ henters henters').mpr hpos)
  exact ⟨next', ⟨middle', hmiddle', hfailed', hresult, hnext', hsuccess', hmoves'⟩, henters'⟩

theorem collects (h : Coupling like enters leaves) (hitem : Follows enters leaves R R')
    (hcollects : Collects R state values last) (henters : enters state state') :
    ∃ last', Collects R' state' values last' ∧ enters last last' := by
  cases hcollects with
  | refused hrounds hnext hfailed =>
      obtain ⟨last', hrounds', hlast⟩ := rounds (h.round hitem) hrounds henters
      obtain ⟨next', hnext', hleaves⟩ := hitem _ _ _ hlast hnext
      exact ⟨last', .refused hrounds' hnext' (h.fails hleaves hfailed), hlast⟩
  | still hrounds hnext hfailed hstill =>
      obtain ⟨middle', hrounds', hmiddle⟩ := rounds (h.round hitem) hrounds henters
      obtain ⟨next', hnext', hleaves⟩ := hitem _ _ _ hmiddle hnext
      obtain ⟨henters', hfailed', hresult⟩ := h.passes hleaves hfailed
      rw [hresult]
      exact ⟨next', .still hrounds' hnext' hfailed'
        ((h.still _ _ _ _ hmiddle henters').mp hstill), henters'⟩

theorem collectsSeparated (h : Coupling like enters leaves)
    (hseparator : Follows enters leaves S S') (hitem : Follows enters leaves R R')
    (hcollects : CollectsSeparated S R state values last) (henters : enters state state') :
    ∃ last', CollectsSeparated S' R' state' values last' ∧ enters last last' := by
  cases hcollects with
  | refused hturns hnext hfailed =>
      obtain ⟨last', hturns', hlast⟩ := rounds (h.turn hseparator hitem) hturns henters
      obtain ⟨next', hnext', hleaves⟩ := hitem _ _ _ hlast hnext
      exact ⟨last', .refused hturns' hnext' (h.fails hleaves hfailed), hlast⟩
  | @unseparated values middle next between hturns hnext hfailed hbetween hends =>
      obtain ⟨middle', hturns', hmiddle⟩ := rounds (h.turn hseparator hitem) hturns henters
      obtain ⟨next', hnext', hleaves⟩ := hitem _ _ _ hmiddle hnext
      obtain ⟨henters', hfailed', hresult⟩ := h.passes hleaves hfailed
      obtain ⟨between', hbetween', hends'⟩ := hseparator _ _ _ henters' hbetween
      have hstop : between'.failed = true ∨ between'.pos = middle'.pos := by
        cases hcase : between.failed with
        | true => exact Or.inl (h.fails hends' hcase)
        | false =>
            have hpos : between.pos = middle.pos := hends.resolve_left (by simp [hcase])
            exact Or.inr ((h.still _ _ _ _ hmiddle (h.passes hends' hcase).1).mp hpos)
      rw [hresult]
      exact ⟨next', .unseparated hturns' hnext' hfailed' hbetween' hstop, henters'⟩

end Loops

end Coupling

end ParserCombinators.Parser
