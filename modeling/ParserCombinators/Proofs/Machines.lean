import ParserCombinators.Parser.Machine
import ParserCombinators.Proofs.OrderedChoice.Completeness
import ParserCombinators.Proofs.StepDriver

/-!
What a routine written as a machine does, told of its stages. A stage answers a verdict at a
position by way of the step it takes: it ends, or runs a parser and leaves the rest to the next
stage. So a run of the machine is followed from stage to stage, and a loop among the stages by
induction on what it reads.
-/

namespace ParserCombinators

variable {ν σ : Type} [DecidableEq ν] {grammar : Grammar ν}

namespace Parser

variable {t : Text} {i : Nat} {v : Verdict}

/-- Another message changes no verdict. -/
theorem Answers.mapError {source : Parser ν} (h : Answers grammar t source i v)
    (f : Option Text → Nat → Text) : Answers grammar t (.mapError source f) i v := by
  intro state hstate hinput hpos
  obtain ⟨next, hnext, hnextInput, rfl⟩ := h state hstate hinput hpos
  cases hfailed : next.failed with
  | false => exact ⟨next, Returns.mapError hnext hfailed, hnextInput, rfl⟩
  | true =>
      refine ⟨_, Returns.mapError_failed hnext hfailed, hnextInput, ?_⟩
      rw [verdict_of_failed hfailed]
      exact verdict_of_failed hfailed

end Parser

namespace Machine

open ParserCombinators.Parser

variable {machine : Machine ν σ} {t : Text} {stage : σ} {i j : Nat} {v : Verdict} {value : Value}

/-- The steps that a machine takes by the results it has received. -/
def steps (machine : Machine ν σ) (received : List Value) : Step ν :=
  machine.step (machine.stage received)

/-- From the stage on, the machine returns a state with the property. -/
def Reaches (grammar : Grammar ν) (machine : Machine ν σ) (t : Text) (stage : σ) (i : Nat)
    (post : State → Prop) : Prop :=
  ∀ received, machine.stage received = stage → ∀ state : State, state.failed = false →
    state.input = t → state.pos = i →
    ∃ next, Resumes grammar machine.steps received state next ∧ post next

/-- A machine goes on after a parser that succeeds. -/
theorem Reaches.run {post : State → Prop} {parser : Parser ν}
    (hstep : machine.step stage = .run parser)
    (hparser : Parser.Answers grammar t parser i (.yields j value))
    (hrest : machine.Reaches grammar t (machine.resume stage value) j post) :
    machine.Reaches grammar t stage i post := by
  rintro received rfl state hstate hinput hpos
  obtain ⟨middle, hmiddle, hmiddleInput, hsuccess, hmiddlePos, rfl⟩ :=
    hparser.yields state hstate hinput hpos
  obtain ⟨next, hnext, hends⟩ :=
    hrest (middle.result :: received) rfl middle hsuccess hmiddleInput hmiddlePos
  exact ⟨next, .cons hstep hmiddle hsuccess hnext, hends⟩

/-- From the stage on, the machine answers the verdict at the position of the text. -/
def Answers (grammar : Grammar ν) (machine : Machine ν σ) (t : Text) (stage : σ) (i : Nat)
    (v : Verdict) : Prop :=
  ∀ received, machine.stage received = stage → ∀ state : State, state.failed = false →
    state.input = t → state.pos = i →
    ∃ next, Resumes grammar machine.steps received state next ∧ next.input = t ∧ verdict next = v

theorem Answers.finish (hstep : machine.step stage = .finish value) :
    machine.Answers grammar t stage i (.yields i value) := by
  rintro received rfl state hstate hinput rfl
  exact ⟨_, .finish (.nil received state) hstep, hinput, verdict_withResult hstate value⟩

theorem Answers.run {parser : Parser ν} (hstep : machine.step stage = .run parser)
    (hparser : Parser.Answers grammar t parser i (.yields j value))
    (hrest : machine.Answers grammar t (machine.resume stage value) j v) :
    machine.Answers grammar t stage i v := Reaches.run hstep hparser hrest

/-- A machine answers as its first stage does. -/
theorem Answers.of_start (h : machine.Answers grammar t machine.start i v) (name : String) :
    Parser.Answers grammar t (machine.parser name) i v := by
  intro state hstate hinput hpos
  obtain ⟨next, hnext, hends⟩ := h [] rfl state hstate hinput hpos
  exact ⟨next, (returns_routine_iff hstate).mpr hnext, hends⟩

/-- What holds at the start, and after each parser that succeeds, holds of the stage where a machine
finishes. -/
theorem exists_finish {name : String} {good : σ → Prop} {state next : State}
    (hstart : good machine.start)
    (hrun : ∀ stage parser, good stage → machine.step stage = .run parser → ∀ before after : State,
      before.failed = false → Parser.Returns grammar parser before after → after.failed = false →
      good (machine.resume stage after.result))
    (h : Parser.Returns grammar (machine.parser name) state next) (hstate : state.failed = false)
    (hnext : next.failed = false) :
    ∃ stage, good stage ∧ machine.step stage = .finish next.result := by
  have hdriven {received all : List Value} {before last : State}
      (hdriven : Driven (Parser.Returns grammar) machine.steps received before all last)
      (hbefore : before.failed = false) (hgood : good (machine.stage received)) :
      good (machine.stage all) := by
    induction hdriven with
    | nil => exact hgood
    | cons hstep hparser hafter _ ih =>
        exact ih hafter (hrun _ _ hgood hstep _ _ hbefore hparser hafter)
  cases (returns_routine_iff hstate).mp h with
  | finish hsteps hfinish => exact ⟨_, hdriven hsteps hstate hstart, hfinish⟩
  | stop _ _ _ hfailed => simp [hnext] at hfailed

/-- From the stage on, the machine ends with the fault at the position of the text. -/
def Raises (grammar : Grammar ν) (machine : Machine ν σ) (t : Text) (stage : σ) (i : Nat)
    (fault : Fault) : Prop :=
  ∀ received, machine.stage received = stage → ∀ state : State, state.failed = false →
    state.input = t → state.pos = i → Throws grammar machine.steps received state fault

variable {fault : Fault}

theorem Raises.raise (hstep : machine.step stage = .raise fault) :
    machine.Raises grammar t stage i fault := by
  rintro received rfl state _ _ _
  refine ⟨received, state, .nil received state, ?_⟩
  rw [steps, hstep]
  rfl

theorem Raises.run {parser : Parser ν} (hstep : machine.step stage = .run parser)
    (hparser : Parser.Answers grammar t parser i (.yields j value))
    (hrest : machine.Raises grammar t (machine.resume stage value) j fault) :
    machine.Raises grammar t stage i fault := by
  rintro received rfl state hstate hinput hpos
  obtain ⟨middle, hmiddle, hmiddleInput, hsuccess, hmiddlePos, rfl⟩ :=
    hparser.yields state hstate hinput hpos
  exact .cons hstep hmiddle hsuccess
    (hrest (middle.result :: received) rfl middle hsuccess hmiddleInput hmiddlePos)

theorem Raises.of_start (h : machine.Raises grammar t machine.start i fault) (name : String)
    {state : State} (hstate : state.failed = false) (hinput : state.input = t)
    (hpos : state.pos = i) : Parser.Raises grammar (machine.parser name) state fault :=
  (raises_routine_iff hstate).mpr (h [] rfl state hstate hinput hpos)

end Machine

end ParserCombinators
