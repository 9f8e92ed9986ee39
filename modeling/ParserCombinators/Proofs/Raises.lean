import ParserCombinators.Proofs.Continuations
import ParserCombinators.Proofs.Faults

/-!
Which faults end an application, whatever the session and the fuel. No parser recovers from a
fault, so an application ends with one just when an application somewhere in it raises it by
itself.
-/

namespace ParserCombinators.Parser

open Filter

variable {ν : Type} [DecidableEq ν] {grammar : Grammar ν}

/-- The parser ends with the fault for `state`: from every session of the grammar, with every
amount of fuel that is large enough. -/
def Raises (grammar : Grammar ν) (parser : Parser ν) (state : State) (fault : Fault) : Prop :=
  ∀ᶠ fuel in atTop, Run.Aborts grammar (apply grammar fuel parser state) fault

section Construction

variable {parser part : Parser ν} {state middle last : State} {fault : Fault}

theorem aborts_onSuccess {body : Run ν State} (h : state.failed = false)
    (hbody : Run.Aborts grammar body fault) :
    Run.Aborts grammar (state.onSuccess body) fault := by
  simpa [State.onSuccess, h] using hbody

/-- A routine ends with the fault of the step that its results have led to. -/
theorem eventually_drive_aborts {steps : List Value → Step ν} {all : List Value}
    (h : Driven (Returns grammar) steps [] state all last)
    (hstep : ∀ᶠ fuel in atTop, ∀ rounds,
      Run.Aborts grammar (drive (apply grammar fuel) steps (rounds + 1) all last) fault) :
    ∀ᶠ fuel in atTop,
      Run.Aborts grammar (drive (apply grammar fuel) steps fuel [] state) fault := by
  obtain ⟨count, hdriven⟩ := eventually_drive h
  filter_upwards [hdriven, hstep, eventually_gt_atTop count] with fuel hdriven hstep hfuel
  obtain ⟨rounds, rfl⟩ := exists_rounds hfuel
  exact (hdriven (rounds + 1)).trans (hstep rounds)

/-- A fault of a call is a fault of the application. -/
theorem Calls.raises (h : Calls grammar parser state part middle)
    (hpart : Raises grammar part middle fault) : Raises grammar parser state fault := by
  apply eventually_of_succ
  filter_upwards [h.visits, hpart] with fuel hvisits hpart
  exact hvisits.aborts hpart

theorem Faults.raises (h : Faults grammar parser state fault) :
    Raises grammar parser state fault := by
  apply eventually_of_succ
  cases h with
  | broken => exact Eventually.of_forall fun fuel => .refl _
  | ref hname => exact Eventually.of_forall fun fuel => (Run.Aborts.resolve hname).bind _
  | map hsource hnext hvalue =>
      filter_upwards [hsource] with fuel hsource
      refine ((hsource.leads _).trans (.of_false hnext)).trans ?_
      simp only [hvalue]
      exact .refl _
  | raise hstate hdriven hstep =>
      refine (eventually_drive_aborts hdriven ?_).mono fun fuel => aborts_onSuccess hstate
      refine Eventually.of_forall fun fuel rounds => ?_
      simp only [drive, hstep]
      exact .refl _
  | offer hstate hdriven hstep =>
      refine (eventually_drive_aborts hdriven ?_).mono fun fuel => aborts_onSuccess hstate
      refine Eventually.of_forall fun fuel rounds => ?_
      simp only [drive, hstep]
      exact .refl _

end Construction

section Laws

variable {parser : Parser ν} {state : State} {fault : Fault}

/-- Every fault of an application is raised somewhere in it. -/
theorem blames_applied (fuel : Nat) (parser : Parser ν) (state : State) :
    Run.Blames grammar (apply grammar fuel parser state) fun fault =>
      ∃ part middle, Applied grammar parser state part middle ∧
        Faults grammar part middle fault := by
  induction fuel generalizing parser state with
  | zero => exact Run.Blames.outOfFuel
  | succ fuel ih =>
      refine (blames_layer ih parser state).mono ?_
      rintro fault (hself | ⟨part, middle, hcall, inner, last, happlied, hfaults⟩)
      · exact ⟨parser, state, .self parser state, hself⟩
      · exact ⟨inner, last, happlied.of_call hcall, hfaults⟩

theorem Applied.raises {part : Parser ν} {middle : State}
    (h : Applied grammar parser state part middle) (hpart : Raises grammar part middle fault) :
    Raises grammar parser state fault :=
  h.backward (I := fun outer start => Raises grammar outer start fault)
    (fun _ _ _ _ hcall => hcall.raises) hpart

/-- An application ends with a fault just when some application in it raises the fault. -/
theorem raises_iff_applied :
    Raises grammar parser state fault ↔ ∃ part middle, Applied grammar parser state part middle ∧
      Faults grammar part middle fault := by
  constructor
  · intro h
    obtain ⟨fuel, hfuel⟩ := h.exists
    obtain ⟨after, hrun, -⟩ := hfuel .empty Session.empty_coherent
    exact blames_applied fuel parser state .empty fault after Session.empty_coherent hrun
  · rintro ⟨part, middle, happlied, hfaults⟩
    exact happlied.raises hfaults.raises

/-- A parser ends with a fault just when some amount of fuel ends in it, whichever of the grammar's
definitions the session keeps already. -/
theorem raises_iff_apply {session : Session ν} (hsession : session.Coherent grammar) :
    Raises grammar parser state fault ↔
      ∃ fuel after, apply grammar fuel parser state session = (.raised fault, after) := by
  constructor
  · intro h
    obtain ⟨fuel, hfuel⟩ := h.exists
    obtain ⟨after, hrun, -⟩ := hfuel session hsession
    exact ⟨fuel, after, hrun⟩
  · rintro ⟨fuel, after, hrun⟩
    exact raises_iff_applied.mpr
      (blames_applied fuel parser state session fault after hsession hrun)

/-- An application that ends with a fault returns no state. -/
theorem Raises.not_returns {next : State} (h : Raises grammar parser state fault) :
    ¬ Returns grammar parser state next := by
  intro hreturns
  obtain ⟨fuel, haborts, hdelivers⟩ := (h.and hreturns).exists
  obtain ⟨between, hraised, -⟩ := haborts .empty Session.empty_coherent
  obtain ⟨after, hdone, -⟩ := hdelivers .empty Session.empty_coherent
  rw [hdone] at hraised
  cases hraised

theorem Raises.unique {other : Fault} (h : Raises grammar parser state fault)
    (hother : Raises grammar parser state other) : fault = other := by
  obtain ⟨fuel, hfirst, hsecond⟩ := (h.and hother).exists
  obtain ⟨between, hfault, -⟩ := hfirst .empty Session.empty_coherent
  obtain ⟨after, hother, -⟩ := hsecond .empty Session.empty_coherent
  rw [hfault] at hother
  cases hother
  rfl

/-- What raises a fault by itself, or makes a call that establishes it, establishes it. -/
theorem Raises.induction {motive : Parser ν → State → Prop}
    (self : ∀ parser state, Faults grammar parser state fault → motive parser state)
    (call : ∀ parser state part middle, Calls grammar parser state part middle →
      Raises grammar part middle fault → motive part middle → motive parser state)
    (h : Raises grammar parser state fault) : motive parser state := by
  obtain ⟨part, middle, happlied, hfaults⟩ := raises_iff_applied.mp h
  refine (happlied.backward
    (I := fun outer start => Raises grammar outer start fault ∧ motive outer start) ?_
    ⟨hfaults.raises, self part middle hfaults⟩).2
  rintro outer start inner next hcall ⟨hraises, hmotive⟩
  exact ⟨hcall.raises hraises, call _ _ _ _ hcall hraises hmotive⟩

/-- An application ends with a fault just when it raises it by itself or one of its calls ends with
it. -/
theorem raises_iff_call :
    Raises grammar parser state fault ↔ Faults grammar parser state fault ∨
      ∃ part middle, Calls grammar parser state part middle ∧ Raises grammar part middle fault := by
  constructor
  · refine Raises.induction (motive := fun parser state => Faults grammar parser state fault ∨
      ∃ part middle, Calls grammar parser state part middle ∧ Raises grammar part middle fault)
      (fun _ _ hself => Or.inl hself) ?_
    intro parser state part middle hcall hraises _
    exact Or.inr ⟨part, middle, hcall, hraises⟩
  · rintro (hself | ⟨part, middle, hcall, hraises⟩)
    · exact hself.raises
    · exact hcall.raises hraises

end Laws

end ParserCombinators.Parser
