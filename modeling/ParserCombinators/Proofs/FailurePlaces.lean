import ParserCombinators.Proofs.ClassRuns
import ParserCombinators.Proofs.Machines

/-!
Where parsers fail. A verdict says no more of a failure than that it is one; here its place and its
kind are told as well, for the forms that the supplied parsers are made of. A failure that passes
through another form keeps both, a choice fails where it began, and a machine fails where the parser
of its last stage does.
-/

namespace ParserCombinators

variable {ν σ : Type} [DecidableEq ν] {grammar : Grammar ν} {t : Text} {i j : Nat}
  {kind : FailureKind}

namespace Parser

/-- The state has failed at the position of the text, with this kind. -/
structure FailedAt (t : Text) (j : Nat) (kind : FailureKind) (state : State) : Prop where
  input : state.input = t
  failed : state.failed = true
  pos : state.pos = j
  kind : state.kind = some kind

/-- From a position of the text on, the parser fails at another one, with this kind. -/
def Stops (grammar : Grammar ν) (t : Text) (parser : Parser ν) (i j : Nat) (kind : FailureKind) :
    Prop :=
  ∀ state : State, state.failed = false → state.input = t → state.pos = i →
    ∃ next, Returns grammar parser state next ∧ FailedAt t j kind next

section Stops

variable {source : Parser ν}

theorem Stops.answers (h : Stops grammar t source i j kind) :
    Answers grammar t source i .fails := by
  intro state hstate hinput hpos
  obtain ⟨next, hnext, hfailed⟩ := h state hstate hinput hpos
  exact ⟨next, hnext, hfailed.input, verdict_of_failed hfailed.failed⟩

theorem Stops.literal_at_end {text : Text} {caseSensitive : Bool} (hend : t.length ≤ i) :
    Stops grammar t (.literal text caseSensitive) i i .endOfInput := by
  rintro state hstate rfl rfl
  refine ⟨_, Returns.literal hstate, ?_⟩
  rw [matchLiteral_at_end hend]
  exact ⟨rfl, rfl, rfl, rfl⟩

/-- A literal that is not ahead fails where it is, and at the end for want of input. -/
theorem Stops.literal_absent {text : Text} (habsent : ¬ text <+: t.drop i) :
    Stops grammar t (.literal text true) i i
      (if t.drop i = [] then .endOfInput else .noMatch) := by
  split
  next hend => exact .literal_at_end (List.drop_eq_nil_iff.mp hend)
  next hleft =>
    rintro state hstate rfl rfl
    have hinside : state.pos < state.input.length := by simpa using hleft
    refine ⟨_, Returns.literal hstate, ?_⟩
    rw [matchLiteral_of_differs hinside fun hreads => habsent (reads_ahead_iff.mp hreads)]
    exact ⟨rfl, rfl, rfl, rfl⟩

theorem Stops.pattern_at_end {name expected : Text} {compiled : Regex.Pattern}
    (hend : t.length ≤ i) : Stops grammar t (.pattern name compiled expected) i i .endOfInput := by
  rintro state hstate rfl rfl
  refine ⟨_, Returns.pattern hstate, ?_⟩
  rw [matchPattern_at_end hend]
  exact ⟨rfl, rfl, rfl, rfl⟩

theorem Stops.pattern_differs {name expected : Text} {compiled : Regex.Pattern}
    (hleft : i < t.length) (hnone : compiled.matchAt? t i = none) :
    Stops grammar t (.pattern name compiled expected) i i .noMatch := by
  rintro state hstate rfl rfl
  refine ⟨_, Returns.pattern hstate, ?_⟩
  rw [matchPattern_of_none hleft hnone]
  exact ⟨rfl, rfl, rfl, rfl⟩

/-- A pattern that matches nothing fails where it is, and at the end for want of input. -/
theorem Stops.pattern_none {name expected : Text} {compiled : Regex.Pattern}
    (hnone : compiled.matchAt? t i = none) :
    Stops grammar t (.pattern name compiled expected) i i
      (if t.drop i = [] then .endOfInput else .noMatch) := by
  split
  next hend => exact .pattern_at_end (List.drop_eq_nil_iff.mp hend)
  next hleft => exact .pattern_differs (by simpa using hleft) hnone

/-- Another message changes neither the place nor the kind. -/
theorem Stops.mapError (h : Stops grammar t source i j kind) (f : Option Text → Nat → Text) :
    Stops grammar t (.mapError source f) i j kind := by
  intro state hstate hinput hpos
  obtain ⟨next, hnext, hfailed⟩ := h state hstate hinput hpos
  exact ⟨_, Returns.mapError_failed hnext hfailed.failed, hfailed.input, hfailed.failed,
    hfailed.pos, hfailed.kind⟩

theorem Stops.map (h : Stops grammar t source i j kind) (f : Value → Except Fault Value) :
    Stops grammar t (.map source f) i j kind := by
  intro state hstate hinput hpos
  obtain ⟨next, hnext, hfailed⟩ := h state hstate hinput hpos
  exact ⟨next, Returns.map_failed hnext hfailed.failed, hfailed⟩

/-- A choice without an alternative that succeeds fails where it began. -/
theorem Stops.choice {alternatives : List (Parser ν)}
    (h : ∀ alternative ∈ alternatives, Answers grammar t alternative i .fails) :
    Stops grammar t (.choice alternatives) i i .noMatch := by
  rintro state hstate rfl rfl
  have hrefuses (others : List (Parser ν))
      (hothers : ∀ other ∈ others, Answers grammar state.input other state.pos .fails) :
      Refuses (Returns grammar) state others := by
    -- Every alternative is tried from the state that the choice began with.
    induction others with
    | nil => exact .nil
    | cons other others ih =>
        obtain ⟨next, hnext, -, hfailed⟩ :=
          (hothers other List.mem_cons_self).fails state hstate rfl rfl
        exact .cons hnext hfailed (ih fun later hlater =>
          hothers later (List.mem_cons_of_mem other hlater))
  exact ⟨_, Returns.choice_none hstate (hrefuses alternatives h), rfl, rfl, rfl, rfl⟩

end Stops

end Parser

namespace Machine

open ParserCombinators.Parser

variable {machine : Machine ν σ} {stage : σ}

/-- A machine fails where the parser that it runs fails. -/
theorem Reaches.stop {parser : Parser ν} (hstep : machine.step stage = .run parser)
    (hparser : Parser.Stops grammar t parser i j kind) :
    machine.Reaches grammar t stage i (FailedAt t j kind) := by
  rintro received rfl state hstate hinput hpos
  obtain ⟨next, hnext, hfailed⟩ := hparser state hstate hinput hpos
  exact ⟨next, .stop (.nil received state) hstep hnext hfailed.failed, hfailed⟩

theorem Reaches.stops (h : machine.Reaches grammar t machine.start i (FailedAt t j kind))
    (name : String) : Parser.Stops grammar t (machine.parser name) i j kind := by
  intro state hstate hinput hpos
  obtain ⟨next, hnext, hfailed⟩ := h [] rfl state hstate hinput hpos
  exact ⟨next, (returns_routine_iff hstate).mpr hnext, hfailed⟩

end Machine

end ParserCombinators
