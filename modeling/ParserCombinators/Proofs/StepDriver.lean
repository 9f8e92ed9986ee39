import ParserCombinators.Proofs.ChainLaws
import ParserCombinators.Proofs.Renaming

/-!
Routines add nothing to chains. A routine is translated step by step: an end with a value becomes
the parser that succeeds with it, a fault or an offer of what is no parser becomes the fault, and a
parser becomes a chain into the translation of what comes next. The two agree state for state and
fault for fault, and neither ends where the other does not.

A routine may go on for as long as its results tell it to, while a parser is finite. So the
translation of the next step may stand in the chain itself or behind a name, and any grammar can be
given names for the stages of any routine.
-/

namespace ParserCombinators.Parser

variable {ν : Type}

/-- The first parser is the second, or a name for it. -/
def StandsFor (grammar : Grammar ν) (parser body : Parser ν) : Prop :=
  parser = body ∨ ∃ name, parser = .ref name ∧ grammar name = .ok body

/-- The translation of a step, where `stage` gives the translations of the routine's stages by the
results received before them. -/
inductive Translates (grammar : Grammar ν) (stage : List Value → Parser ν)
    (received : List Value) : Step ν → Parser ν → Prop
  | finish (value : Value) : Translates grammar stage received (.finish value) (.succeed value)
  | raise (fault : Fault) : Translates grammar stage received (.raise fault) (.broken fault)
  | offer (value : Value) :
      Translates grammar stage received (.offer value) (.broken (.grammar (.notParser value)))
  | run (parser : Parser ν) {next : Value → Parser ν} :
      (∀ value, StandsFor grammar (next value) (stage (value :: received))) →
      Translates grammar stage received (.run parser) (.chain parser next)

/-- Every stage is the translation of its step. -/
def Stages (grammar : Grammar ν) (steps : List Value → Step ν)
    (stage : List Value → Parser ν) : Prop :=
  ∀ received, Translates grammar stage received (steps received) (stage received)

section Driving

variable [DecidableEq ν] {grammar : Grammar ν} {steps : List Value → Step ν}
  {stage : List Value → Parser ν} {received all : List Value} {state middle next : State}
  {fault : Fault}

/-- What a routine returns when it goes on with the results it has received. -/
inductive Resumes (grammar : Grammar ν) (steps : List Value → Step ν) (received : List Value)
    (state : State) : State → Prop
  | finish {all : List Value} {value : Value} {last : State} :
      Driven (Returns grammar) steps received state all last → steps all = .finish value →
      Resumes grammar steps received state (last.withResult value)
  | stop {all : List Value} {parser : Parser ν} {middle next : State} :
      Driven (Returns grammar) steps received state all middle → steps all = .run parser →
      Returns grammar parser middle next → next.failed = true →
      Resumes grammar steps received state next

/-- The fault that ends a routine when it goes on with the results it has received. -/
def Throws (grammar : Grammar ν) (steps : List Value → Step ν) (received : List Value)
    (state : State) (fault : Fault) : Prop :=
  ∃ all middle, Driven (Returns grammar) steps received state all middle ∧
    StepFaults (Raises grammar) middle fault (steps all)

theorem returns_routine_iff {name : Text} (hstate : state.failed = false) :
    Returns grammar (.routine name steps) state next ↔ Resumes grammar steps [] state next := by
  constructor
  · intro h
    cases h.acts hstate with
    | routine _ hdriven hend => exact .finish hdriven hend
    | routine_stop _ hdriven hstep hparser hfailed => exact .stop hdriven hstep hparser hfailed
  · intro h
    cases h with
    | finish hdriven hend => exact Returns.routine hstate hdriven hend
    | stop hdriven hstep hparser hfailed =>
        exact Returns.routine_stop hstate hdriven hstep hparser hfailed

theorem raises_routine_iff {name : Text} (hstate : state.failed = false) :
    Raises grammar (.routine name steps) state fault ↔ Throws grammar steps [] state fault := by
  constructor
  · intro h
    rcases raises_iff_call.mp h with hself | ⟨part, middle, hcall, hraises⟩
    · cases hself with
      | raise _ hdriven hstep => exact ⟨_, _, hdriven, by rw [hstep]; rfl⟩
      | offer _ hdriven hstep => exact ⟨_, _, hdriven, by rw [hstep]; rfl⟩
    · cases hcall with
      | routine _ hdriven hstep => exact ⟨_, _, hdriven, by rw [hstep]; exact hraises⟩
  · rintro ⟨all, middle, hdriven, hfaults⟩
    cases hstep : steps all with
    | finish value =>
        rw [hstep] at hfaults
        exact hfaults.elim
    | raise raised =>
        rw [hstep] at hfaults
        obtain rfl : fault = raised := hfaults
        exact (Faults.raise hstate hdriven hstep).raises
    | offer value =>
        rw [hstep] at hfaults
        obtain rfl : fault = .grammar (.notParser value) := hfaults
        exact (Faults.offer hstate hdriven hstep).raises
    | run parser =>
        rw [hstep] at hfaults
        exact (Calls.routine hstate hdriven hstep).raises hfaults

/-- A step that has succeeded comes before what follows it. -/
theorem Resumes.cons {parser : Parser ν} (hstep : steps received = .run parser)
    (hparser : Returns grammar parser state middle) (hmiddle : middle.failed = false)
    (h : Resumes grammar steps (middle.result :: received) middle next) :
    Resumes grammar steps received state next := by
  cases h with
  | finish hdriven hend => exact .finish (.cons hstep hparser hmiddle hdriven) hend
  | stop hdriven hend hlast hfailed =>
      exact .stop (.cons hstep hparser hmiddle hdriven) hend hlast hfailed

theorem Throws.cons {parser : Parser ν} (hstep : steps received = .run parser)
    (hparser : Returns grammar parser state middle) (hmiddle : middle.failed = false)
    (h : Throws grammar steps (middle.result :: received) middle fault) :
    Throws grammar steps received state fault := by
  obtain ⟨all, last, hdriven, hfaults⟩ := h
  exact ⟨all, last, .cons hstep hparser hmiddle hdriven, hfaults⟩

theorem StandsFor.returns {parser body : Parser ν} (h : StandsFor grammar parser body)
    (hbody : Returns grammar body state next) : Returns grammar parser state next := by
  rcases h with rfl | ⟨name, rfl, hname⟩
  · exact hbody
  · exact Returns.ref hname hbody

theorem StandsFor.raises {parser body : Parser ν} (h : StandsFor grammar parser body)
    (hbody : Raises grammar body state fault) : Raises grammar parser state fault := by
  rcases h with rfl | ⟨name, rfl, hname⟩
  · exact hbody
  · exact (Calls.ref hname).raises hbody

/-- A stage returns what the routine does when it goes on from there. The induction is on the run:
each step of it is one chain. -/
theorem Stages.resumes (h : Stages grammar steps stage)
    (hstate : state.failed = false) (hnext : Returns grammar (stage received) state next) :
    Resumes grammar steps received state next := by
  refine Returns.induction (motive := fun parser state next => ∀ received,
    StandsFor grammar parser (stage received) → state.failed = false →
      Resumes grammar steps received state next) ?_ hnext received (Or.inl rfl) hstate
  rintro parser state next hlayer received (rfl | ⟨name, rfl, hname⟩) hstate
  · have htranslates := h received
    generalize hstep : steps received = step, stage received = parser at htranslates hlayer
    cases htranslates with
    | finish value =>
        cases hlayer.of_succeeded hstate with
        | succeed _ => exact .finish (.nil received state) hstep
    | raise fault => cases hlayer.of_passing rfl
    | offer value => cases hlayer.of_passing rfl
    | run part hrest =>
        cases hlayer.of_passing rfl with
        | chain hpart hmiddle hlast =>
            exact .cons hstep hpart.1 hmiddle (hlast.2 _ (hrest _) hmiddle)
        | chain_failed hpart hfailed => exact .stop (.nil received state) hstep hpart.1 hfailed
  -- A name answers to no step by itself; the stage that it stands for does.
  · cases hlayer.of_passing rfl with
    | ref hbody hreturns =>
        obtain rfl := Except.ok.inj (hname.symm.trans hbody)
        exact hreturns.2 received (Or.inl rfl) hstate

/-- What the routine has driven, its stages have chained. -/
theorem Stages.returns_of_driven (h : Stages grammar steps stage)
    (hdriven : Driven (Returns grammar) steps received state all middle)
    (hstage : Returns grammar (stage all) middle next) :
    Returns grammar (stage received) state next := by
  induction hdriven with
  | nil received state => exact hstage
  | @cons received all parser state middle _ hstep hpart hmiddle _ ih =>
      have htranslates := h received
      rw [hstep] at htranslates
      generalize stage received = whole at htranslates
      cases htranslates with
      | run _ hrest => exact Returns.chain hpart hmiddle ((hrest _).returns (ih hstage))

theorem Stages.raises_of_driven (h : Stages grammar steps stage)
    (hdriven : Driven (Returns grammar) steps received state all middle)
    (hstage : Raises grammar (stage all) middle fault) :
    Raises grammar (stage received) state fault := by
  induction hdriven with
  | nil received state => exact hstage
  | @cons received all parser state middle _ hstep hpart hmiddle _ ih =>
      have htranslates := h received
      rw [hstep] at htranslates
      generalize stage received = whole at htranslates
      cases htranslates with
      | run _ hrest => exact (Calls.chain_next hpart hmiddle).raises ((hrest _).raises (ih hstage))

theorem Stages.returns_iff (h : Stages grammar steps stage) (hstate : state.failed = false) :
    Returns grammar (stage received) state next ↔ Resumes grammar steps received state next := by
  constructor
  · exact h.resumes hstate
  · intro hresumes
    cases hresumes with
    | @finish all value last hdriven hend =>
        have hlast : last.failed = false := hdriven.preserves (fun _ _ _ _ hnext _ => hnext) hstate
        refine h.returns_of_driven hdriven ?_
        have htranslates := h all
        rw [hend] at htranslates
        generalize stage all = whole at htranslates
        cases htranslates with
        | finish _ => exact Returns.succeed hlast
    | @stop all parser middle _ hdriven hstep hparser hfailed =>
        refine h.returns_of_driven hdriven ?_
        have htranslates := h all
        rw [hstep] at htranslates
        generalize stage all = whole at htranslates
        cases htranslates with
        | run _ _ => exact Returns.chain_failed hparser hfailed

theorem Stages.throws (h : Stages grammar steps stage)
    (hraises : Raises grammar (stage received) state fault) :
    Throws grammar steps received state fault := by
  refine Raises.induction (motive := fun parser state => ∀ received,
    StandsFor grammar parser (stage received) → Throws grammar steps received state fault)
    ?_ ?_ hraises received (Or.inl rfl)
  · rintro parser state hself received (rfl | ⟨name, rfl, hname⟩)
    · have htranslates := h received
      generalize hstep : steps received = step, stage received = parser at htranslates hself
      cases htranslates with
      | finish value => cases hself
      | raise raised =>
          cases hself
          exact ⟨received, state, .nil received state, by rw [hstep]; rfl⟩
      | offer value =>
          cases hself
          exact ⟨received, state, .nil received state, by rw [hstep]; rfl⟩
      | run _ _ => cases hself
    · cases hself with
      | ref hfault => simp [hname] at hfault
  · rintro parser state part middle hcall hraises ih received (rfl | ⟨name, rfl, hname⟩)
    · have htranslates := h received
      generalize hstep : steps received = step, stage received = parser at htranslates hcall
      cases htranslates with
      | finish value => cases hcall
      | raise raised => cases hcall
      | offer value => cases hcall
      | run _ hrest =>
          cases hcall with
          | chain_source =>
              exact ⟨received, state, .nil received state, by rw [hstep]; exact hraises⟩
          | chain_next hpart hmiddle => exact .cons hstep hpart hmiddle (ih _ (hrest _))
    · cases hcall with
      | ref hbody =>
          obtain rfl := Except.ok.inj (hname.symm.trans hbody)
          exact ih received (Or.inl rfl)

theorem Stages.raises_iff (h : Stages grammar steps stage) :
    Raises grammar (stage received) state fault ↔ Throws grammar steps received state fault := by
  constructor
  · exact h.throws
  · rintro ⟨all, middle, hdriven, hfaults⟩
    refine h.raises_of_driven hdriven ?_
    have htranslates := h all
    generalize steps all = step, stage all = whole at htranslates hfaults
    cases htranslates with
    | finish value => exact hfaults.elim
    | raise raised => exact raises_broken_iff.mpr hfaults
    | offer value => exact raises_broken_iff.mpr hfaults
    | run parser _ => exact (Calls.chain_source parser _ middle).raises hfaults

/-- A routine agrees with its translation in the same grammar. -/
theorem Stages.agree (h : Stages grammar steps stage) (name : Text) (hstate : state.failed = false)
    {session session' : Session ν} (hsession : session.Coherent grammar)
    (hsession' : session'.Coherent grammar) :
    Agree Eq (outcome grammar (.routine name steps) state session)
      (outcome grammar (stage []) state session') := by
  refine agree_eq_of_iff hsession hsession' (fun next => ?_) fun fault => ?_
  · rw [returns_routine_iff hstate, h.returns_iff hstate]
  · rw [raises_routine_iff hstate, h.raises_iff]

end Driving

section Names

/-- The translation of a step, over names for the stages of a routine beside those of the grammar. A
stage is named by the results received before it, the latest first. -/
def namedStep (received : List Value) : Step ν → Parser (ν ⊕ List Value)
  | .finish value => .succeed value
  | .raise fault => .broken fault
  | .offer value => .broken (.grammar (.notParser value))
  | .run parser => .chain (parser.rename .inl) fun value => .ref (.inr (value :: received))

def namedStage (steps : List Value → Step ν) (received : List Value) : Parser (ν ⊕ List Value) :=
  namedStep received (steps received)

/-- The grammar with a definition for every stage of the routine. -/
def withStages (grammar : Grammar ν) (steps : List Value → Step ν) : Grammar (ν ⊕ List Value)
  | .inl name => (grammar name).map (rename .inl)
  | .inr received => .ok (namedStage steps received)

theorem translates_namedStep (grammar : Grammar ν) (steps : List Value → Step ν)
    (received : List Value) (step : Step ν) :
    Translates (withStages grammar steps) (namedStage steps) received (renameStep .inl step)
      (namedStep received step) := by
  cases step with
  | finish value => exact .finish value
  | raise fault => exact .raise fault
  | offer value => exact .offer value
  | run parser => exact .run _ fun value => Or.inr ⟨.inr (value :: received), rfl, rfl⟩

/-- The named stages translate the routine over the new names. -/
theorem stages_withStages (grammar : Grammar ν) (steps : List Value → Step ν) :
    Stages (withStages grammar steps) (fun received => renameStep .inl (steps received))
      (namedStage steps) :=
  fun received => translates_namedStep grammar steps received (steps received)

variable [DecidableEq ν] [DecidableEq Value] {grammar : Grammar ν} {state : State}

/-- A routine agrees with its translation over the names of its stages. -/
theorem agree_namedStage (name : Text) (steps : List Value → Step ν)
    (hstate : state.failed = false) {session : Session ν} {session' : Session (ν ⊕ List Value)}
    (hsession : session.Coherent grammar)
    (hsession' : session'.Coherent (withStages grammar steps)) :
    Agree Eq (outcome grammar (.routine name steps) state session)
      (outcome (withStages grammar steps) (namedStage steps []) state session') := by
  have hrenames : Renames .inl grammar (withStages grammar steps) := fun _ => rfl
  have hrenamed := agree_rename hrenames (.routine name steps) hstate hsession hsession'
  exact hrenamed.trans_eq ((stages_withStages grammar steps).agree name hstate hsession' hsession')

/-- Routines, maps and sequences are chains. On every state that has not failed a routine agrees
with its translation, whether names are added for its stages or the grammar has them already; a map
agrees with a chain into what succeeds with the value; and a sequence agrees with the nested chain
of its parts. Agreement is in every field of the state, in the fault, and in whether there is an
end. -/
theorem chains_suffice (hstate : state.failed = false) {session : Session ν}
    (hsession : session.Coherent grammar) :
    (∀ (name : Text) (steps : List Value → Step ν) (session' : Session (ν ⊕ List Value)),
      session'.Coherent (withStages grammar steps) →
      Agree Eq (outcome grammar (.routine name steps) state session)
        (outcome (withStages grammar steps) (namedStage steps []) state session')) ∧
    (∀ (name : Text) (steps : List Value → Step ν) (stage : List Value → Parser ν),
      Stages grammar steps stage →
      Agree Eq (outcome grammar (.routine name steps) state session)
        (outcome grammar (stage []) state session)) ∧
    (∀ (source : Parser ν) (f : Value → Except Fault Value),
      Agree Eq (outcome grammar (.map source f) state session)
        (outcome grammar (.chain source (yielding f)) state session)) ∧
    ∀ parts : List (Parser ν),
      Agree Eq (outcome grammar (.sequence parts) state session)
        (outcome grammar (chained parts []) state session) := by
  refine ⟨?_, ?_, ?_, ?_⟩
  · intro name steps session' hsession'
    exact agree_namedStage name steps hstate hsession hsession'
  · intro name steps stage hstages
    exact hstages.agree name hstate hsession hsession
  · intro source f
    exact agree_eq_of_iff hsession hsession (fun _ => returns_map_iff_chain)
      fun _ => raises_map_iff_chain
  · intro parts
    exact agree_eq_of_iff hsession hsession (fun _ => returns_sequence_iff_chained hstate)
      fun _ => raises_sequence_iff_chained hstate

end Names

/-- The letter `a` or nothing. -/
def letterA : Grammar Unit := fun _ => .ok (optional (literal [97] true))

/-- Counts letters, for as long as there are any. -/
def counting : List Value → Step Unit
  | .null :: letters => .finish (.int letters.length)
  | _ => .run (ref ())

open Classical in
/-- On `aab` the chain of stages counts two letters, for the routine does. -/
theorem counting_chains : ∃ fuel next,
    outcome (withStages letterA counting) (namedStage counting [])
      (State.start [97, 97, 98] true) .empty fuel = .done next ∧
    next.pos = 2 ∧ next.result = .int 2 := by
  have hstart : (State.start [97, 97, 98] true).failed = false := rfl
  have hsession : Session.Coherent .empty letterA := Session.empty_coherent
  have hagree := (chains_suffice hstart hsession).1 [99] counting .empty Session.empty_coherent
  obtain ⟨next, hnext, hpos, hresult⟩ : ∃ next,
      outcome letterA (.routine [99] counting) (State.start [97, 97, 98] true) .empty 9 =
        .done next ∧ next.pos = 2 ∧ next.result = .int 2 := ⟨_, rfl, rfl, rfl⟩
  obtain ⟨fuel, _, hlast, rfl⟩ := hagree.returned 9 next hnext
  exact ⟨fuel, next, hlast, hpos, hresult⟩

end ParserCombinators.Parser
