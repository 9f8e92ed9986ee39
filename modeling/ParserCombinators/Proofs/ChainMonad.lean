import ParserCombinators.Proofs.ChainLaws
import ParserCombinators.Proofs.Correspondence
import ParserCombinators.Proofs.Moves

/-!
Chains and the parsers that succeed at once form a monad. A chain hands the state of its source on
as it is, so for every parser a chain may end in success itself, and chains may be nested either
way.

A value in front of a chain is the one law that needs more: the parser computed from the value is
then given the value as its result. It makes no difference because no parser looks at the result it
is given. Every way to succeed writes a result of its own over it. A failure keeps it, so this law
holds up to the result that a failure retains.
-/

namespace ParserCombinators.Parser

variable {ν : Type}

/-- The states differ at most in their results. -/
def SameButResult (state state' : State) : Prop := ∃ value, state' = state.withResult value

/-- The same success, or failures that differ at most in the results they retain. -/
structure SameButRetained (next next' : State) : Prop where
  rest : SameButResult next next'
  success : next.failed = false → next = next'

theorem SameButRetained.refl (next : State) : SameButRetained next next :=
  ⟨⟨next.result, rfl⟩, fun _ => rfl⟩

/-- The result that a failure retains is no part of how it was met. -/
theorem SameButRetained.of_failed {next next' : State} (h : SameButResult next next')
    (hfailed : next.failed = true) : SameButRetained next next' := by
  refine ⟨h, fun hsuccess => ?_⟩
  simp [hfailed] at hsuccess

variable {grammar : Grammar ν}

/-- Two runs that begin with different results lose the difference at their first success. -/
theorem coupling_sameButResult :
    Coupling (.within grammar fun part => part.isHandWritten = false)
      (fun state state' => state.failed = false ∧ SameButResult state state')
      SameButRetained where
  succeeded := by
    rintro state _ ⟨hstate, value, rfl⟩
    exact ⟨hstate, hstate⟩
  rest := by
    rintro state _ ⟨-, value, rfl⟩
    rfl
  still := by
    rintro state _ next _ ⟨-, value, rfl⟩ ⟨-, value', rfl⟩
    rfl
  matchAt := by
    rintro state _ compiled ⟨-, value, rfl⟩ -
    rfl
  moveTo := by
    rintro state _ count value ⟨-, value', rfl⟩
    exact .refl _
  withResult := by
    rintro state _ value ⟨-, value', rfl⟩
    exact .refl _
  fail := by
    rintro state _ kind message ⟨-, value, rfl⟩ hmessage
    have hsame : message (state.withResult value) = message state := hmessage _ _ rfl rfl
    rw [hsame]
    exact .of_failed ⟨value, rfl⟩ rfl
  transform := by
    rintro state _ f ⟨name, g, hform⟩ -
    simp [isHandWritten] at hform
  failed_eq := by
    rintro next _ ⟨⟨value, rfl⟩, -⟩
    rfl
  resume := by
    rintro next next' ⟨hrest, hsame⟩ hnext
    exact ⟨⟨hnext, hrest⟩, congrArg State.result (hsame hnext)⟩
  reword := by
    rintro next _ f ⟨⟨value, rfl⟩, -⟩ hfailed
    exact .of_failed ⟨value, rfl⟩ hfailed
  reword_left _ _ _ hsilent := hsilent.elim
  reword_right _ _ _ hsilent := hsilent.elim

variable [DecidableEq ν]

/-- No parser looks at the result it is given. -/
theorem agree_sameButResult {parser : Parser ν} {state state' : State}
    (hown : Everywhere grammar (fun part => part.isHandWritten = false) parser)
    (hstate : state.failed = false) (hsame : SameButResult state state')
    {session session' : Session ν} (hsession : session.Coherent grammar)
    (hsession' : session'.Coherent grammar) :
    Agree SameButRetained (outcome grammar parser state session)
      (outcome grammar parser state' session') := by
  have halike : Alike (.within grammar fun part => part.isHandWritten = false) parser parser :=
    .of_everywhere Likeness.within_covers parser hown
  exact coupling_sameButResult.agree .within halike ⟨hstate, hsame⟩ hsession hsession'

section Laws

variable {source : Parser ν} {f g : Value → Parser ν} {value : Value} {state next : State}
  {fault : Fault}

theorem returns_chain_succeed_left_iff (hstate : state.failed = false) :
    Returns grammar (.chain (.succeed value) f) state next ↔
      Returns grammar (f value) (state.withResult value) next := by
  rw [returns_chain_iff]
  constructor
  · rintro (⟨middle, hsource, -, hnext⟩ | ⟨hsource, hfailed⟩)
    · obtain rfl := (returns_succeed_iff hstate).mp hsource
      exact hnext
    · obtain rfl := (returns_succeed_iff hstate).mp hsource
      simp [State.withResult, hstate] at hfailed
  · intro hnext
    exact Or.inl ⟨_, (returns_succeed_iff hstate).mpr rfl, hstate, hnext⟩

theorem raises_chain_succeed_left_iff (hstate : state.failed = false) :
    Raises grammar (.chain (.succeed value) f) state fault ↔
      Raises grammar (f value) (state.withResult value) fault := by
  rw [raises_chain_iff]
  constructor
  · rintro (hsource | ⟨middle, hsource, -, hraises⟩)
    · exact absurd hsource not_raises_succeed
    · obtain rfl := (returns_succeed_iff hstate).mp hsource
      exact hraises
  · intro hraises
    exact Or.inr ⟨_, (returns_succeed_iff hstate).mpr rfl, hstate, hraises⟩

theorem returns_chain_succeed_right_iff :
    Returns grammar (.chain source .succeed) state next ↔ Returns grammar source state next := by
  rw [returns_chain_iff]
  constructor
  · rintro (⟨middle, hsource, hmiddle, hnext⟩ | ⟨hsource, -⟩)
    · obtain rfl : next = middle := (returns_succeed_iff hmiddle).mp hnext
      exact hsource
    · exact hsource
  · intro hsource
    cases hnext : next.failed with
    | false => exact Or.inl ⟨next, hsource, hnext, (returns_succeed_iff hnext).mpr rfl⟩
    | true => exact Or.inr ⟨hsource, rfl⟩

theorem raises_chain_succeed_right_iff :
    Raises grammar (.chain source .succeed) state fault ↔ Raises grammar source state fault := by
  rw [raises_chain_iff]
  constructor
  · rintro (hsource | ⟨middle, -, -, hraises⟩)
    · exact hsource
    · exact absurd hraises not_raises_succeed
  · exact Or.inl

theorem returns_chain_assoc_iff :
    Returns grammar (.chain (.chain source f) g) state next ↔
      Returns grammar (.chain source fun value => .chain (f value) g) state next := by
  simp only [returns_chain_iff]
  constructor
  · rintro (⟨middle, ⟨first, hsource, hfirst, hf⟩ | ⟨-, hfailed⟩, hmiddle, hg⟩ |
      ⟨⟨first, hsource, hfirst, hf⟩ | hsource, hfailed⟩)
    · exact Or.inl ⟨first, hsource, hfirst, Or.inl ⟨middle, hf, hmiddle, hg⟩⟩
    · simp [hmiddle] at hfailed
    · exact Or.inl ⟨first, hsource, hfirst, Or.inr ⟨hf, hfailed⟩⟩
    · exact Or.inr hsource
  · rintro (⟨first, hsource, hfirst, ⟨middle, hf, hmiddle, hg⟩ | ⟨hf, hfailed⟩⟩ |
      ⟨hsource, hfailed⟩)
    · exact Or.inl ⟨middle, Or.inl ⟨first, hsource, hfirst, hf⟩, hmiddle, hg⟩
    · exact Or.inr ⟨Or.inl ⟨first, hsource, hfirst, hf⟩, hfailed⟩
    · exact Or.inr ⟨Or.inr ⟨hsource, hfailed⟩, hfailed⟩

theorem raises_chain_assoc_iff :
    Raises grammar (.chain (.chain source f) g) state fault ↔
      Raises grammar (.chain source fun value => .chain (f value) g) state fault := by
  simp only [raises_chain_iff, returns_chain_iff]
  constructor
  · rintro ((hsource | ⟨first, hsource, hfirst, hf⟩) |
      ⟨middle, ⟨first, hsource, hfirst, hf⟩ | ⟨-, hfailed⟩, hmiddle, hg⟩)
    · exact Or.inl hsource
    · exact Or.inr ⟨first, hsource, hfirst, Or.inl hf⟩
    · exact Or.inr ⟨first, hsource, hfirst, Or.inr ⟨middle, hf, hmiddle, hg⟩⟩
    · simp [hmiddle] at hfailed
  · rintro (hsource | ⟨first, hsource, hfirst, hf | ⟨middle, hf, hmiddle, hg⟩⟩)
    · exact Or.inl (Or.inl hsource)
    · exact Or.inl (Or.inr ⟨first, hsource, hfirst, hf⟩)
    · exact Or.inr ⟨middle, Or.inl ⟨first, hsource, hfirst, hf⟩, hmiddle, hg⟩

end Laws

/-- Parsers end alike on states that differ only in their results, up to the result that a failure
retains. So a value that is chained into a parser is the parser computed from it, in the same sense.
A chain into success and the two ways to nest chains are exact, for all parsers and all states. -/
theorem chain_succeed_monad {session session' : Session ν} (hsession : session.Coherent grammar)
    (hsession' : session'.Coherent grammar) :
    (∀ (parser : Parser ν) (state state' : State),
      Everywhere grammar (fun part => part.isHandWritten = false) parser →
      state.failed = false → SameButResult state state' →
      Agree SameButRetained (outcome grammar parser state session)
        (outcome grammar parser state' session')) ∧
    (∀ (value : Value) (f : Value → Parser ν) (state : State),
      Everywhere grammar (fun part => part.isHandWritten = false) (f value) →
      state.failed = false →
      Agree SameButRetained (outcome grammar (.chain (.succeed value) f) state session)
        (outcome grammar (f value) state session')) ∧
    (∀ (parser : Parser ν) (state : State),
      Agree Eq (outcome grammar (.chain parser .succeed) state session)
        (outcome grammar parser state session')) ∧
    ∀ (parser : Parser ν) (f g : Value → Parser ν) (state : State),
      Agree Eq (outcome grammar (.chain (.chain parser f) g) state session)
        (outcome grammar (.chain parser fun value => .chain (f value) g) state session') := by
  refine ⟨?_, ?_, ?_, ?_⟩
  · intro parser state state' hown hstate hsame
    exact agree_sameButResult hown hstate hsame hsession hsession'
  · intro value f state hown hstate
    have hchain : Agree Eq (outcome grammar (.chain (.succeed value) f) state session)
        (outcome grammar (f value) (state.withResult value) session) :=
      agree_eq_of_iff hsession hsession (fun _ => returns_chain_succeed_left_iff hstate)
        fun _ => raises_chain_succeed_left_iff hstate
    have hvalue : (state.withResult value).failed = false := hstate
    have hsame : SameButResult (state.withResult value) state := ⟨state.result, rfl⟩
    exact hchain.eq_trans (agree_sameButResult hown hvalue hsame hsession hsession')
  · intro parser state
    exact agree_eq_of_iff hsession hsession' (fun _ => returns_chain_succeed_right_iff)
      fun _ => raises_chain_succeed_right_iff
  · intro parser f g state
    exact agree_eq_of_iff hsession hsession' (fun _ => returns_chain_assoc_iff)
      fun _ => raises_chain_assoc_iff

/-- As many letters `a` as there are, then a `b`. -/
def lettersThen : Grammar Unit := fun _ =>
  .ok (sequence [many (literal [97] true), literal [98] true])

/-- Chained from a value, the parser fails on `aac` where it does by itself; the failure it meets
before any success would retain the value. -/
theorem lettersThen_ignores_value : ∃ fuel next next',
    outcome lettersThen (.chain (.succeed (.int 7)) fun _ => ref ())
      (State.start [97, 97, 99] false) .empty 9 = .done next ∧
    outcome lettersThen (ref ()) (State.start [97, 97, 99] false) .empty fuel = .done next' ∧
    next.failed = true ∧ next.pos = 2 ∧ SameButRetained next next' := by
  have hown : Everywhere lettersThen (fun part => (!part.isHandWritten) = true) (ref ()) := by
    refine .of_consistsOf (fun _ body h => ?_) rfl
    obtain rfl := Except.ok.inj h
    rfl
  have href : Everywhere lettersThen (fun part => part.isHandWritten = false) (ref ()) :=
    hown.mono fun part h => by simpa using h
  have hsession : Session.Coherent .empty lettersThen := Session.empty_coherent
  have hstart : (State.start [97, 97, 99] false).failed = false := rfl
  have hagree := (chain_succeed_monad hsession hsession).2.1 (.int 7) (fun _ => ref ()) _ href
    hstart
  obtain ⟨next, hnext, hfailed, hpos⟩ : ∃ next,
      outcome lettersThen (.chain (.succeed (.int 7)) fun _ => ref ())
        (State.start [97, 97, 99] false) .empty 9 = .done next ∧ next.failed = true ∧
        next.pos = 2 := ⟨_, rfl, rfl, rfl⟩
  obtain ⟨fuel, next', hnext', hsame⟩ := hagree.returned 9 next hnext
  exact ⟨fuel, next, next', hnext, hnext', hfailed, hpos, hsame⟩

end ParserCombinators.Parser
