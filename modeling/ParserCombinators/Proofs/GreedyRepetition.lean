import ParserCombinators.Proofs.Correspondence
import ParserCombinators.Proofs.Repetition

/-!
Repetition leaves nothing behind. A loop ends on an attempt that failed or did not move, so the item
would do no more at the place where the loop stopped. But the state that the repetition returns is
not the one on which the last attempt was made: its result is the list of what was collected, and
after an attempt that succeeded it is that attempt's own state. So the law rests on what two runs
from one place have in common: a parser reads the input and the position of the state that it is
given, and nothing else of it.
-/

namespace ParserCombinators.Parser

variable {ν : Type}

/-- The same input at the same position, and no failure. -/
structure SamePlace (state state' : State) : Prop where
  succeeded : state.failed = false
  succeeded' : state'.failed = false
  input : state.input = state'.input
  pos : state.pos = state'.pos

/-- The same place, and there the same result, or a failure for the same reason. -/
structure SameEnd (next next' : State) : Prop where
  failed : next.failed = next'.failed
  input : next.input = next'.input
  pos : next.pos = next'.pos
  result : next.failed = false → next.result = next'.result
  reason : next.failed = true → next.error = next'.error ∧ next.kind = next'.kind

namespace SamePlace

variable {state state' : State}

theorem withResult (h : SamePlace state state') (value : Value) :
    SamePlace state (state'.withResult value) :=
  ⟨h.succeeded, h.succeeded', h.input, h.pos⟩

theorem rest (h : SamePlace state state') : state.rest = state'.rest := by
  rw [State.rest, State.rest, h.input, h.pos]

end SamePlace

namespace SameEnd

variable {next next' : State}

/-- States that have not failed end alike if they have their place and their result in common. -/
theorem of_succeeded (hplace : SamePlace next next') (hresult : next.result = next'.result) :
    SameEnd next next' where
  failed := hplace.succeeded.trans hplace.succeeded'.symm
  input := hplace.input
  pos := hplace.pos
  result _ := hresult
  reason hfailed := absurd hplace.succeeded (by simp [hfailed])

theorem samePlace (h : SameEnd next next') (hnext : next.failed = false) : SamePlace next next' :=
  ⟨hnext, h.failed.symm.trans hnext, h.input, h.pos⟩

end SameEnd

variable {grammar : Grammar ν}

/-- Every failure is worded from the place alone, and every success writes its own result. -/
theorem coupling_samePlace :
    Coupling (.within grammar fun part => part.isHandWritten = false) SamePlace SameEnd where
  succeeded _ _ h := ⟨h.succeeded, h.succeeded'⟩
  rest _ _ h := h.rest
  still _ _ _ _ hbefore hafter := by rw [hbefore.pos, hafter.pos]
  matchAt _ _ _ h _ := by rw [h.input, h.pos]
  moveTo state state' count value h := by
    have hplace : SamePlace (state.moveTo (state.pos + count) value)
        (state'.moveTo (state'.pos + count) value) :=
      ⟨h.succeeded, h.succeeded', h.input, congrArg (· + count) h.pos⟩
    exact .of_succeeded hplace rfl
  withResult state state' value h := by
    have hplace : SamePlace (state.withResult value) (state'.withResult value) :=
      ⟨h.succeeded, h.succeeded', h.input, h.pos⟩
    exact .of_succeeded hplace rfl
  fail state state' kind message h hmessage := by
    refine ⟨rfl, h.input, h.pos, nofun, fun _ => ⟨?_, rfl⟩⟩
    exact congrArg some (hmessage state state' h.input h.pos)
  transform := by
    rintro state state' f ⟨name, g, hform⟩ -
    simp [isHandWritten] at hform
  failed_eq _ _ h := h.failed
  resume _ _ h hnext := ⟨h.samePlace hnext, h.result hnext⟩
  reword next next' f h hfailed := by
    refine ⟨h.failed, h.input, h.pos, h.result, fun _ => ⟨?_, (h.reason hfailed).2⟩⟩
    simp only [(h.reason hfailed).1, h.pos]
  reword_left _ _ _ hsilent := hsilent.elim
  reword_right _ _ _ hsilent := hsilent.elim

variable [DecidableEq ν] {item : Parser ν}

/-- A parser reads nothing of a state but its place. -/
theorem Returns.of_samePlace {parser : Parser ν} {state state' next : State}
    (hown : Everywhere grammar (fun part => part.isHandWritten = false) parser)
    (h : Returns grammar parser state next) (hsame : SamePlace state state') :
    ∃ next', Returns grammar parser state' next' ∧ SameEnd next next' := by
  have halike : Alike (.within grammar fun part => part.isHandWritten = false) parser parser :=
    .of_everywhere Likeness.within_covers parser hown
  exact coupling_samePlace.follows .within halike state state' next hsame h

section Loop

variable {state last : State} {values : List Value}

/-- Where a loop has stopped, its item fails or does not move. Either attempt was made at the place
of the state that the loop gives; the item that did not move ends where it began. -/
theorem Collects.exhausted
    (hown : Everywhere grammar (fun part => part.isHandWritten = false) item)
    (h : Collects (Returns grammar item) state values last) (hstate : state.failed = false) :
    last.failed = false ∧ ∃ middle tried, SamePlace middle last ∧
      Returns grammar item middle tried ∧ (tried.failed = true ∨ tried.pos = last.pos) := by
  cases h with
  | @refused _ _ tried hrounds hitem hfailed =>
      have hlast := hrounds.succeeds hstate
      exact ⟨hlast, last, tried, ⟨hlast, hlast, rfl, rfl⟩, hitem, Or.inl hfailed⟩
  | @still _ middle _ hrounds hitem hsuccess hstays =>
      have hmiddle := hrounds.succeeds hstate
      have hinput : middle.input = last.input := (hitem.frame hown).1.symm
      exact ⟨hsuccess, middle, last, ⟨hmiddle, hsuccess, hinput, hstays.symm⟩, hitem, Or.inr rfl⟩

/-- A repetition at a place where its item does no more collects one value at most. -/
theorem collects_at_stop {stop tried : State} (hitem : Returns grammar item stop tried)
    (hstop : stop.failed = false) (hends : tried.failed = true ∨ tried.pos = stop.pos) :
    ∃ last, last.failed = false ∧ last.pos = stop.pos ∧ Collects (Returns grammar item) stop
      (if tried.failed then [] else [tried.result]) last := by
  cases hfailed : tried.failed with
  | true =>
      rw [if_pos rfl]
      exact ⟨stop, hstop, rfl, .refused (.nil stop) hitem hfailed⟩
  | false =>
      have hstays : tried.pos = stop.pos := hends.resolve_left (by simp [hfailed])
      rw [if_neg Bool.false_ne_true]
      exact ⟨tried, hfailed, hstays, .still (.nil stop) hitem hfailed hstays⟩

end Loop

/-- What a repetition that succeeds has collected before it overwrites the result. -/
theorem exists_collects_of_repetition {state stop : State} (hstate : state.failed = false)
    (h : Returns grammar (many item) state stop ∨
      Returns grammar (many1 item) state stop ∧ stop.failed = false) :
    ∃ values last, Collects (Returns grammar item) state values last ∧
      stop = last.withResult (.list values) := by
  rcases h with hmany | ⟨hmany1, hstop⟩
  · exact hmany.many_collects hstate
  · obtain ⟨values, last, hcollects, heq⟩ := (returns_many1_iff_collects hstate).mp hmany1
    have hsome : values ≠ [] := by
      rintro rfl
      simp [heq, State.fail] at hstop
    exact ⟨values, last, hcollects, heq.trans (if_neg hsome)⟩

/-- Where a repetition has succeeded, its item fails or succeeds without moving, and a repetition
from there stays: it collects nothing if the item fails, and the one value of the item if not. -/
theorem repetition_is_greedy {state stop : State} {session : Session ν} {fuel : Nat}
    (hown : Everywhere grammar (fun part => part.isHandWritten = false) item)
    (hsession : session.Coherent grammar) (hstate : state.failed = false)
    (hstop : outcome grammar (many item) state session fuel = .done stop ∨
      outcome grammar (many1 item) state session fuel = .done stop ∧ stop.failed = false) :
    stop.failed = false ∧ ∃ tried last, Returns grammar item stop tried ∧
      (tried.failed = true ∨ tried.pos = stop.pos) ∧
      Returns grammar (many item) stop last ∧ last.failed = false ∧ last.pos = stop.pos ∧
      last.result = .list (if tried.failed then [] else [tried.result]) ∧
      Returns grammar (many1 item) stop
        (if tried.failed then stop.fail .exhausted (Wording.noItem stop) else last) := by
  have hreturns : Returns grammar (many item) state stop ∨
      Returns grammar (many1 item) state stop ∧ stop.failed = false :=
    hstop.imp (fun h => (returns_iff_outcome hsession).mpr ⟨fuel, h⟩)
      fun h => ⟨(returns_iff_outcome hsession).mpr ⟨fuel, h.1⟩, h.2⟩
  obtain ⟨values, last, hcollects, rfl⟩ := exists_collects_of_repetition hstate hreturns
  obtain ⟨hlast, middle, attempt, hplace, hattempt, hends⟩ := hcollects.exhausted hown hstate
  -- The last attempt, made again on the state that is returned.
  obtain ⟨tried, htried, hsame⟩ :=
    hattempt.of_samePlace hown (hplace.withResult (.list values))
  rw [hsame.failed, hsame.pos] at hends
  have hsuccess : (last.withResult (.list values)).failed = false := hlast
  obtain ⟨again, hagain, hpos, hcollected⟩ := collects_at_stop htried hsuccess hends
  refine ⟨hsuccess, tried, again.withResult (.list _), htried, hends,
    Returns.many hsuccess hcollected, hagain, hpos, rfl, ?_⟩
  apply (returns_many1_iff_collects hsuccess).mpr
  refine ⟨_, again, hcollected, ?_⟩
  cases tried.failed <;> rfl

/-- No part of a parser over optional letters is written by hand. -/
theorem own_over_maybeLetter {parser : Parser Unit}
    (h : parser.consistsOf (fun part => !part.isHandWritten) = true) :
    Everywhere maybeLetter (fun part => part.isHandWritten = false) parser :=
  .own_of_consistsOf (fun _ _ hbody => Except.ok.inj hbody ▸ rfl) h

/-- On `aab`, optional letters stop because one of them does not move, and letters because there is
none. A repetition from there collects the letter that is missing, which is null, or nothing. -/
theorem letters_repetition_is_greedy :
    (∃ stop last, outcome maybeLetter (many (ref ())) (State.start [97, 97, 98] false) .empty 9 =
        .done stop ∧ Returns maybeLetter (many (ref ())) stop last ∧
        stop.pos = 2 ∧ last.pos = 2 ∧ last.result = .list [.null]) ∧
      ∃ stop last, outcome maybeLetter (many1 (literal [97] true))
          (State.start [97, 97, 98] false) .empty 9 = .done stop ∧
        Returns maybeLetter (many (literal [97] true)) stop last ∧
        stop.pos = 2 ∧ last.pos = 2 ∧ last.result = .list [] := by
  have hsession : Session.Coherent .empty maybeLetter := Session.empty_coherent
  have hstart : (State.start [97, 97, 98] false).failed = false := rfl
  constructor
  · obtain ⟨stop, tried, hstop, hpos, htried, hvalue⟩ : ∃ stop tried,
        outcome maybeLetter (many (ref ())) (State.start [97, 97, 98] false) .empty 9 =
          .done stop ∧ stop.pos = 2 ∧
        outcome maybeLetter (ref ()) stop .empty 9 = .done tried ∧
        Value.list (if tried.failed then [] else [tried.result]) = .list [.null] :=
      ⟨_, _, rfl, rfl, rfl, rfl⟩
    obtain ⟨-, other, last, hother, -, hlast, -, hstays, hresult, -⟩ :=
      repetition_is_greedy (own_over_maybeLetter rfl) hsession hstart (Or.inl hstop)
    obtain rfl := hother.unique ((returns_iff_outcome hsession).mpr ⟨9, htried⟩)
    exact ⟨stop, last, hstop, hlast, hpos, hstays.trans hpos, hresult.trans hvalue⟩
  · obtain ⟨stop, tried, hstop, hsuccess, hpos, htried, hvalue⟩ : ∃ stop tried,
        outcome maybeLetter (many1 (literal [97] true)) (State.start [97, 97, 98] false) .empty 9 =
          .done stop ∧ stop.failed = false ∧ stop.pos = 2 ∧
        outcome maybeLetter (literal [97] true) stop .empty 9 = .done tried ∧
        Value.list (if tried.failed then [] else [tried.result]) = .list [] :=
      ⟨_, _, rfl, rfl, rfl, rfl, rfl⟩
    obtain ⟨-, other, last, hother, -, hlast, -, hstays, hresult, -⟩ :=
      repetition_is_greedy (own_over_maybeLetter rfl) hsession hstart (Or.inr ⟨hstop, hsuccess⟩)
    obtain rfl := hother.unique ((returns_iff_outcome hsession).mpr ⟨9, htried⟩)
    exact ⟨stop, last, hstop, hlast, hpos, hstays.trans hpos, hresult.trans hvalue⟩

end ParserCombinators.Parser
