import ParserCombinators.Proofs.OrderedChoice.Completeness
import ParserCombinators.Proofs.OrderedChoice.Soundness

/-!
Adequacy of the semantics of ordered choice: applying an expression to a state that has not failed
does what is derivable, and nothing else.
-/

namespace ParserCombinators.Parser

variable {ν : Type} [DecidableEq ν] {grammar : Grammar ν}

/-- At most one verdict is derivable: the state that has it is returned, and only one is. -/
theorem Derives.unique {t : Text} {parser : Parser ν} {i : Nat} {first second : Verdict}
    (hfirst : Derives grammar t parser i first) (hsecond : Derives grammar t parser i second) :
    first = second := by
  let state : State := { State.start t false with pos := i }
  obtain ⟨next, hnext, -, rfl⟩ := answers_of_derives hfirst state rfl rfl rfl
  obtain ⟨other, hother, -, rfl⟩ := answers_of_derives hsecond state rfl rfl rfl
  rw [hnext.unique hother]

/-- An expression yields a value exactly where it is derivable that it does. -/
theorem returns_success_iff_derives {parser : Parser ν} {state : State}
    (hform : Everywhere grammar (fun part => part.isOrderedChoice = true) parser)
    (hstate : state.failed = false) (pos : Nat) (value : Value) :
    (∃ next, Returns grammar parser state next ∧
      next.failed = false ∧ next.pos = pos ∧ next.result = value) ↔
      Derives grammar state.input parser state.pos (.yields pos value) := by
  constructor
  · rintro ⟨next, hnext, hyields⟩
    rw [← verdict_eq_yields_iff.mpr hyields]
    exact derives_of_returns hform hnext hstate
  · intro h
    obtain ⟨next, hnext, -, hverdict⟩ := answers_of_derives h state hstate rfl rfl
    exact ⟨next, hnext, verdict_eq_yields_iff.mp hverdict⟩

theorem returns_failure_iff_derives {parser : Parser ν} {state : State}
    (hform : Everywhere grammar (fun part => part.isOrderedChoice = true) parser)
    (hstate : state.failed = false) :
    (∃ next, Returns grammar parser state next ∧ next.failed = true) ↔
      Derives grammar state.input parser state.pos .fails := by
  constructor
  · rintro ⟨next, hnext, hfailed⟩
    rw [← verdict_eq_fails_iff.mpr hfailed]
    exact derives_of_returns hform hnext hstate
  · intro h
    obtain ⟨next, hnext, -, hverdict⟩ := answers_of_derives h state hstate rfl rfl
    exact ⟨next, hnext, verdict_eq_fails_iff.mp hverdict⟩

/-- Applying an expression of ordered choice, over definitions that may refer to one another, ends
with a success or a failure exactly where this is derivable, whatever the session has built
already. At most one verdict is derivable. -/
theorem apply_iff_derives {parser : Parser ν} {state : State} {session : Session ν}
    (hform : Everywhere grammar (fun part => part.isOrderedChoice = true) parser)
    (hsession : session.Coherent grammar) (hstate : state.failed = false) :
    (∀ pos value,
      (∃ fuel next after, apply grammar fuel parser state session = (.done next, after) ∧
        next.failed = false ∧ next.pos = pos ∧ next.result = value) ↔
      Derives grammar state.input parser state.pos (.yields pos value)) ∧
    ((∃ fuel next after, apply grammar fuel parser state session = (.done next, after) ∧
        next.failed = true) ↔
      Derives grammar state.input parser state.pos .fails) ∧
    ∀ first second, Derives grammar state.input parser state.pos first →
      Derives grammar state.input parser state.pos second → first = second := by
  refine ⟨fun pos value => ?_, ?_, fun _ _ => Derives.unique⟩
  · exact (exists_apply_iff_returns hsession).trans
      (returns_success_iff_derives hform hstate pos value)
  · exact (exists_apply_iff_returns hsession).trans (returns_failure_iff_derives hform hstate)

/-- Parentheses, nested and one after the other: `true` names one pair, `false` many of them. -/
def nested : Grammar Bool
  | true => .ok (between (literal [40] true) (literal [41] true) (ref false))
  | false => .ok (many (ref true))

theorem consistsOf_nested {name : Bool} {body : Parser Bool} (h : nested name = .ok body) :
    body.consistsOf isOrderedChoice = true := by
  cases name <;> obtain rfl := Except.ok.inj h <;> rfl

theorem nested_yields : Derives nested [40, 40, 41, 41, 41] (ref false) 0
    (.yields 4 (.list [.list [.list []]])) := by
  have hform : Everywhere nested (fun part => part.isOrderedChoice = true) (ref false) :=
    .of_consistsOf (fun _ _ => consistsOf_nested) rfl
  have hstart : (State.start [40, 40, 41, 41, 41] false).failed = false := rfl
  have hadequate := apply_iff_derives hform Session.empty_coherent hstart
  exact (hadequate.1 4 _).mp ⟨17, _, _, rfl, rfl, rfl, rfl⟩

end ParserCombinators.Parser
