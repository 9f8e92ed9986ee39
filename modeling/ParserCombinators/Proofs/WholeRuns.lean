import ParserCombinators.Proofs.OrderedChoice.Completeness
import ParserCombinators.Proofs.Raises

/-!
How runs on whole inputs end. A run that ends in one way from one session, with some amount of fuel,
ends so from every session of the grammar and with every larger amount; that is how its end is
stated here. The debug flag adds records to the log and changes nothing else.
-/

namespace ParserCombinators.Parser

open Filter

variable {ν : Type} [DecidableEq ν] {grammar : Grammar ν} {parser : Parser ν} {input : Text}
  {debug : Bool} {final : State} {fault : Fault} {pos : Nat} {value : Value}

/-- A run on the input ends with the state, with every amount of fuel that is large enough. -/
def RunsTo (grammar : Grammar ν) (parser : Parser ν) (input : Text) (debug : Bool)
    (final : State) : Prop :=
  ∀ᶠ fuel in atTop, Run.Delivers grammar (run grammar fuel parser input debug) final

/-- A run on the input ends with the fault, with every amount of fuel that is large enough. -/
def RunsInto (grammar : Grammar ν) (parser : Parser ν) (input : Text) (debug : Bool)
    (fault : Fault) : Prop :=
  ∀ᶠ fuel in atTop, Run.Aborts grammar (run grammar fuel parser input debug) fault

/-- Runs on the input succeed with the value, and stop at the position. -/
def Parses (grammar : Grammar ν) (parser : Parser ν) (input : Text) (pos : Nat)
    (value : Value) : Prop :=
  ∀ debug, ∃ final, RunsTo grammar parser input debug final ∧ final.failed = false ∧
    final.pos = pos ∧ final.result = value

/-- Runs on the input end with a failure. -/
def Rejects (grammar : Grammar ν) (parser : Parser ν) (input : Text) : Prop :=
  ∀ debug, ∃ final, RunsTo grammar parser input debug final ∧ final.failed = true

theorem Returns.runsTo (h : Returns grammar parser (State.start input debug) final) :
    RunsTo grammar parser input debug final := by
  filter_upwards [h] with fuel hfuel
  cases debug with
  | false => exact hfuel.bind (.pure _)
  | true => exact (Run.Delivers.log _ _ _ _).bind (hfuel.bind ((Run.Delivers.log _ _ _ _).bind
      (.pure _)))

theorem Raises.runsInto (h : Raises grammar parser (State.start input debug) fault) :
    RunsInto grammar parser input debug fault := by
  filter_upwards [h] with fuel hfuel
  cases debug with
  | false => exact hfuel.bind _
  | true => exact ((Run.Delivers.log _ _ _ _).leads _).trans (hfuel.bind _)

/-- A run ends in one way only. -/
theorem RunsTo.unique {other : State} (h : RunsTo grammar parser input debug final)
    (hother : RunsTo grammar parser input debug other) : final = other := by
  obtain ⟨fuel, hfirst, hsecond⟩ := (h.and hother).exists
  obtain ⟨_, hdone, -⟩ := hfirst .empty Session.empty_coherent
  obtain ⟨_, hagain, -⟩ := hsecond .empty Session.empty_coherent
  rw [hdone] at hagain
  cases hagain
  rfl

theorem RunsInto.not_runsTo (h : RunsInto grammar parser input debug fault) :
    ¬ RunsTo grammar parser input debug final := by
  intro hdone
  obtain ⟨fuel, habort, hdeliver⟩ := (h.and hdone).exists
  obtain ⟨_, hraised, -⟩ := habort .empty Session.empty_coherent
  obtain ⟨_, hend, -⟩ := hdeliver .empty Session.empty_coherent
  rw [hend] at hraised
  cases hraised

theorem Answers.parses (h : Answers grammar input parser 0 (.yields pos value)) :
    Parses grammar parser input pos value := by
  intro debug
  obtain ⟨final, hfinal, -, hends⟩ := h.yields (State.start input debug) rfl rfl rfl
  exact ⟨final, hfinal.runsTo, hends⟩

theorem Answers.rejects (h : Answers grammar input parser 0 .fails) :
    Rejects grammar parser input := by
  intro debug
  obtain ⟨final, hfinal, -, hfailed⟩ := h.fails (State.start input debug) rfl rfl rfl
  exact ⟨final, hfinal.runsTo, hfailed⟩

/-- A run succeeds in one way only. -/
theorem Parses.unique {pos' : Nat} {value' : Value} (h : Parses grammar parser input pos value)
    (hother : Parses grammar parser input pos' value') : pos = pos' ∧ value = value' := by
  obtain ⟨final, hfinal, -, rfl, rfl⟩ := h false
  obtain ⟨other, hagain, -, rfl, rfl⟩ := hother false
  rw [hfinal.unique hagain]
  exact ⟨rfl, rfl⟩

theorem Rejects.not_parses (h : Rejects grammar parser input) :
    ¬ Parses grammar parser input pos value := by
  intro hparses
  obtain ⟨final, hfinal, hfailed⟩ := h false
  obtain ⟨other, hother, hsuccess, -⟩ := hparses false
  rw [hfinal.unique hother, hsuccess] at hfailed
  cases hfailed

end ParserCombinators.Parser
