import ParserCombinators.Proofs.Raises

/-!
Computations that end in the same way. Two computations agree if each ends with a state just when
the other does, where the two states are related, and each ends with a fault just when the other
ends with the same fault. So neither ends, too, just when the other does not. Sessions are left out:
they tell nothing of how a computation ends.
-/

namespace ParserCombinators.Parser

variable {ν μ : Type}

/-- The computations, given fuel, end with related states, or with the same fault, or not at all. -/
structure Agree (related : State → State → Prop) (first second : Nat → Outcome State) : Prop where
  returned : ∀ fuel next, first fuel = .done next →
    ∃ fuel' next', second fuel' = .done next' ∧ related next next'
  returned_back : ∀ fuel next', second fuel = .done next' →
    ∃ fuel' next, first fuel' = .done next ∧ related next next'
  raised : ∀ fault,
    (∃ fuel, first fuel = .raised fault) ↔ ∃ fuel, second fuel = .raised fault

theorem Agree.mono {related looser : State → State → Prop} {first second : Nat → Outcome State}
    (h : Agree related first second) (himp : ∀ next next', related next next' → looser next next') :
    Agree looser first second where
  returned fuel next hnext := by
    obtain ⟨fuel', next', hnext', hrelated⟩ := h.returned fuel next hnext
    exact ⟨fuel', next', hnext', himp next next' hrelated⟩
  returned_back fuel next' hnext' := by
    obtain ⟨fuel', next, hnext, hrelated⟩ := h.returned_back fuel next' hnext'
    exact ⟨fuel', next, hnext, himp next next' hrelated⟩
  raised := h.raised

theorem Agree.flip {related : State → State → Prop} {first second : Nat → Outcome State}
    (h : Agree related first second) : Agree (Function.swap related) second first where
  returned := h.returned_back
  returned_back := h.returned
  raised fault := (h.raised fault).symm

/-- States that are related to one between them. -/
theorem Agree.comp {near far : State → State → Prop} {first second third : Nat → Outcome State}
    (hnear : Agree near first second) (hfar : Agree far second third) :
    Agree (Relation.Comp near far) first third where
  returned fuel next hnext := by
    obtain ⟨between, middle, hmiddle, hbefore⟩ := hnear.returned fuel next hnext
    obtain ⟨fuel', next', hnext', hafter⟩ := hfar.returned between middle hmiddle
    exact ⟨fuel', next', hnext', middle, hbefore, hafter⟩
  returned_back fuel next' hnext' := by
    obtain ⟨between, middle, hmiddle, hafter⟩ := hfar.returned_back fuel next' hnext'
    obtain ⟨fuel', next, hnext, hbefore⟩ := hnear.returned_back between middle hmiddle
    exact ⟨fuel', next, hnext, middle, hbefore, hafter⟩
  raised fault := (hnear.raised fault).trans (hfar.raised fault)

theorem Agree.eq_trans {related : State → State → Prop} {first second third : Nat → Outcome State}
    (heq : Agree Eq first second) (h : Agree related second third) :
    Agree related first third :=
  (heq.comp h).mono fun _ _ ⟨_, hsame, hrelated⟩ => hsame ▸ hrelated

theorem Agree.trans_eq {related : State → State → Prop} {first second third : Nat → Outcome State}
    (h : Agree related first second) (heq : Agree Eq second third) :
    Agree related first third :=
  (h.comp heq).mono fun _ _ ⟨_, hrelated, hsame⟩ => hsame ▸ hrelated

variable [DecidableEq ν] [DecidableEq μ] {grammar : Grammar ν} {other : Grammar μ}

/-- How the application of a parser to a state ends, from a session. -/
def outcome (grammar : Grammar ν) (parser : Parser ν) (state : State) (session : Session ν)
    (fuel : Nat) : Outcome State := (apply grammar fuel parser state session).1

section Outcomes

variable {parser : Parser ν} {state next : State} {session : Session ν} {fault : Fault}

theorem returns_iff_outcome (hsession : session.Coherent grammar) :
    Returns grammar parser state next ↔
      ∃ fuel, outcome grammar parser state session fuel = .done next := by
  rw [returns_iff_apply hsession]
  simp only [outcome, Prod.ext_iff, exists_and_left, exists_eq', and_true]

theorem raises_iff_outcome (hsession : session.Coherent grammar) :
    Raises grammar parser state fault ↔
      ∃ fuel, outcome grammar parser state session fuel = .raised fault := by
  rw [raises_iff_apply hsession]
  simp only [outcome, Prod.ext_iff, exists_and_left, exists_eq', and_true]

end Outcomes

/-- Applications agree if the states they return and the faults they raise do. -/
theorem agree_of_returns {related : State → State → Prop} {parser : Parser ν} {parser' : Parser μ}
    {state state' : State} {session : Session ν} {session' : Session μ}
    (hsession : session.Coherent grammar) (hsession' : session'.Coherent other)
    (hreturns : ∀ next, Returns grammar parser state next →
      ∃ next', Returns other parser' state' next' ∧ related next next')
    (hback : ∀ next', Returns other parser' state' next' →
      ∃ next, Returns grammar parser state next ∧ related next next')
    (hraises : ∀ fault, Raises grammar parser state fault ↔ Raises other parser' state' fault) :
    Agree related (outcome grammar parser state session)
      (outcome other parser' state' session') := by
  refine ⟨?_, ?_, ?_⟩
  · intro fuel next hnext
    obtain ⟨next', hnext', hrelated⟩ :=
      hreturns next ((returns_iff_outcome hsession).mpr ⟨fuel, hnext⟩)
    obtain ⟨fuel', hfuel'⟩ := (returns_iff_outcome hsession').mp hnext'
    exact ⟨fuel', next', hfuel', hrelated⟩
  · intro fuel next' hnext'
    obtain ⟨next, hnext, hrelated⟩ :=
      hback next' ((returns_iff_outcome hsession').mpr ⟨fuel, hnext'⟩)
    obtain ⟨fuel', hfuel'⟩ := (returns_iff_outcome hsession).mp hnext
    exact ⟨fuel', next, hfuel', hrelated⟩
  · intro fault
    rw [← raises_iff_outcome hsession, ← raises_iff_outcome hsession']
    exact hraises fault

/-- Applications that return agree if the states they return do. -/
theorem agree_of_both_return {related : State → State → Prop} {parser : Parser ν}
    {parser' : Parser μ} {state state' next next' : State} {session : Session ν}
    {session' : Session μ} (hsession : session.Coherent grammar)
    (hsession' : session'.Coherent other) (h : Returns grammar parser state next)
    (h' : Returns other parser' state' next') (hrelated : related next next') :
    Agree related (outcome grammar parser state session)
      (outcome other parser' state' session') := by
  refine agree_of_returns hsession hsession' ?_ ?_ ?_
  · intro found hfound
    exact ⟨next', h', h.unique hfound ▸ hrelated⟩
  · intro found hfound
    exact ⟨next, h, h'.unique hfound ▸ hrelated⟩
  · intro fault
    constructor
    · exact fun hraises => absurd h hraises.not_returns
    · exact fun hraises => absurd h' hraises.not_returns

theorem agree_eq_of_iff {parser : Parser ν} {parser' : Parser μ} {state state' : State}
    {session : Session ν} {session' : Session μ} (hsession : session.Coherent grammar)
    (hsession' : session'.Coherent other)
    (hreturns : ∀ next, Returns grammar parser state next ↔ Returns other parser' state' next)
    (hraises : ∀ fault, Raises grammar parser state fault ↔ Raises other parser' state' fault) :
    Agree Eq (outcome grammar parser state session) (outcome other parser' state' session') :=
  agree_of_returns hsession hsession' (fun next h => ⟨next, (hreturns next).mp h, rfl⟩)
    (fun next h => ⟨next, (hreturns next).mpr h, rfl⟩) hraises

omit [DecidableEq ν] in
/-- What hands on the value it is given does not change how a computation ends. -/
theorem outcome_bind_eq {body : Run ν State} {next : State → Run ν State}
    (h : ∀ value session, (next value session).1 = .done value) (session : Session ν) :
    ((body >>= next) session).1 = (body session).1 := by
  rw [Run.bind_apply]
  rcases body session with ⟨value | fault | _, between⟩
  · exact h value between
  · rfl
  · rfl

/-- A run on an input ends as the application to the start of the input does. The log is written
beside it. -/
theorem exists_run_eq_outcome (grammar : Grammar ν) (parser : Parser ν) (input : Text)
    (debug : Bool) {session : Session ν} (hsession : session.Coherent grammar) :
    ∃ started : Session ν, started.Coherent grammar ∧ ∀ fuel,
      (run grammar fuel parser input debug session).1 =
        outcome grammar parser (State.start input debug) started fuel := by
  cases debug with
  | false => exact ⟨session, hsession, fun fuel => outcome_bind_eq (fun _ _ => rfl) session⟩
  | true =>
      let record : Record := ⟨.info, .start, parser.name, State.start input true⟩
      exact ⟨⟨session.definitions, session.built, record :: session.records⟩, hsession,
        fun fuel => outcome_bind_eq (fun _ _ => rfl) _⟩

end ParserCombinators.Parser
