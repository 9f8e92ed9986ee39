import ParserCombinators.Lexical.Classes
import ParserCombinators.Proofs.Correspondence
import ParserCombinators.Proofs.MatchLocality

/-!
A parser sees only what is left of the input. On two states with the same text left it ends in the
same way: it succeeds on both with the same result, fails on both with the same kind, or raises the
same fault, and it moves equally far. So a grammar means the same wherever it is used. Positions
stand in the messages of failures, which may therefore differ, and which nothing reads.
-/

namespace ParserCombinators

namespace Parser

variable {ν : Type}

/-- Every form but functions of states that the grammar wrote itself, and patterns that look at what
stands before the place where they match. -/
def seesRestOnly : Parser ν → Bool
  | pattern _ compiled _ => compiled.seesRestOnly
  | transform _ _ => false
  | _ => true

/-- What two states have in common that a parser returns for two states with the same text left. -/
structure SameVerdict (state state' next next' : State) : Prop where
  failed : next.failed = next'.failed
  distance : (next.pos : Int) - state.pos = next'.pos - state'.pos
  result : next.failed = false → next.result = next'.result
  kind : next.failed = true → next.kind = next'.kind

/-- States as far from where each run began, with the same text left. -/
structure Abreast (start start' state state' : State) : Prop where
  rest : state.rest = state'.rest
  distance : state.pos + start'.pos = state'.pos + start.pos

section Abreast

variable {start start' state state' : State}

theorem Abreast.moveTo (h : Abreast start start' state state') (count : Nat) (value : Value) :
    Abreast start start' (state.moveTo (state.pos + count) value)
      (state'.moveTo (state'.pos + count) value) := by
  obtain ⟨hrest, hdistance⟩ := h
  refine ⟨?_, ?_⟩
  · simp only [State.rest, State.moveTo] at hrest ⊢
    rw [← List.drop_drop, ← List.drop_drop, hrest]
  · simp only [State.moveTo]
    omega

/-- A pattern that sees no more than what is left finds the same in both texts. -/
theorem Abreast.matchAt?_eq (h : Abreast start start' state state') {compiled : Regex.Pattern}
    (hcompiled : compiled.seesRestOnly = true) :
    compiled.matchAt? state.input state.pos = compiled.matchAt? state'.input state'.pos := by
  have hrest : state.input.drop state.pos = state'.input.drop state'.pos := h.rest
  rw [Regex.Pattern.matchAt?_eq_drop hcompiled state.input,
    Regex.Pattern.matchAt?_eq_drop hcompiled state'.input, hrest]

end Abreast

variable {grammar : Grammar ν}

/-- Two runs that begin with the same text left stay abreast. -/
theorem coupling_abreast (start start' : State) :
    Coupling (.within grammar fun part => part.seesRestOnly = true)
      (fun state state' => (state.failed = false ∧ state'.failed = false) ∧
        Abreast start start' state state')
      fun next next' => Abreast start start' next next' ∧ next.failed = next'.failed ∧
        (next.failed = false → next.result = next'.result) ∧
        (next.failed = true → next.kind = next'.kind) where
  succeeded _ _ henters := henters.1
  rest _ _ henters := henters.2.rest
  still state state' next next' hbefore hafter := by
    have hfirst := hbefore.2.distance
    have hsecond := hafter.2.distance
    omega
  matchAt _ _ _ henters hfits := by
    obtain ⟨_, _, hcompiled⟩ := hfits
    exact henters.2.matchAt?_eq hcompiled
  moveTo state state' count value henters := by
    obtain ⟨⟨hstate, hstate'⟩, habreast⟩ := henters
    exact ⟨habreast.moveTo count value, hstate.trans hstate'.symm, fun _ => rfl,
      fun hfailed => absurd hfailed (by simp [State.moveTo, hstate])⟩
  withResult state state' value henters := by
    obtain ⟨⟨hstate, hstate'⟩, habreast⟩ := henters
    exact ⟨⟨habreast.rest, habreast.distance⟩, hstate.trans hstate'.symm, fun _ => rfl,
      fun hfailed => absurd hfailed (by simp [State.withResult, hstate])⟩
  fail state state' kind message henters _ :=
    ⟨⟨henters.2.rest, henters.2.distance⟩, rfl, fun hfailed => (by simp [State.fail] at hfailed),
      fun _ => rfl⟩
  transform _ _ _ hwritten _ := by
    obtain ⟨_, _, hform⟩ := hwritten
    simp [seesRestOnly] at hform
  failed_eq _ _ hleaves := hleaves.2.1
  resume next next' hleaves hnext := by
    obtain ⟨habreast, hfailed, hresult, -⟩ := hleaves
    exact ⟨⟨⟨hnext, hfailed.symm.trans hnext⟩, habreast⟩, hresult hnext⟩
  reword next next' f hleaves _ := by
    obtain ⟨habreast, hrest⟩ := hleaves
    exact ⟨⟨habreast.rest, habreast.distance⟩, hrest⟩
  reword_left _ _ _ hsilent := hsilent.elim
  reword_right _ _ _ hsilent := hsilent.elim

variable [DecidableEq ν]

/-- A parser that sees no more than what is left of the input ends in the same way for all states
with the same text left, at whatever position of whatever input, and moves equally far. -/
theorem apply_depends_on_rest {parser : Parser ν} {state state' : State}
    {session session' : Session ν}
    (hform : Everywhere grammar (fun part => part.seesRestOnly = true) parser)
    (hsession : session.Coherent grammar) (hsession' : session'.Coherent grammar)
    (hstate : state.failed = false) (hstate' : state'.failed = false)
    (hrest : state.rest = state'.rest) :
    Agree (SameVerdict state state') (outcome grammar parser state session)
      (outcome grammar parser state' session') := by
  have halike : Alike (.within grammar fun part => part.seesRestOnly = true) parser parser :=
    .of_everywhere Likeness.within_covers parser hform
  have hagree := (coupling_abreast state state').agree .within halike
    ⟨⟨hstate, hstate'⟩, hrest, Nat.add_comm _ _⟩ hsession hsession'
  refine hagree.mono ?_
  rintro next next' ⟨habreast, hfailed, hresult, hkind⟩
  have hdistance := habreast.distance
  exact ⟨hfailed, by omega, hresult, hkind⟩

/-- Words of letters, each followed by a digit. -/
def numbered : Grammar Unit := fun _ => .ok (sequence [Lexical.letters, Lexical.digits])

/-- The end of `?a7`, and all of `a7` in debug mode. -/
def inner : State := (State.start [63, 97, 55] false).moveTo 1 (.int 4)

def whole : State := State.start [97, 55] true

theorem numbered_depends_on_rest : ∃ fuel fuel' next next',
    outcome numbered (many (ref ())) inner .empty fuel = .done next ∧
    outcome numbered (many (ref ())) whole .empty fuel' = .done next' ∧
    next.pos = 3 ∧ SameVerdict inner whole next next' := by
  have hform : Everywhere numbered (fun part => part.seesRestOnly = true) (many (ref ())) := by
    refine .of_consistsOf (fun _ body h => ?_) rfl
    obtain rfl := Except.ok.inj h
    decide
  have hinner : inner.failed = false := rfl
  have hwhole : whole.failed = false := rfl
  have hagree := apply_depends_on_rest hform Session.empty_coherent Session.empty_coherent hinner
    hwhole rfl
  obtain ⟨next, hnext, hpos⟩ : ∃ next,
      outcome numbered (many (ref ())) inner .empty 9 = .done next ∧ next.pos = 3 :=
    ⟨_, rfl, rfl⟩
  obtain ⟨fuel', next', hnext', hsame⟩ := hagree.returned 9 next hnext
  exact ⟨9, fuel', next, next', hnext, hnext', hpos, hsame⟩

end Parser

end ParserCombinators
