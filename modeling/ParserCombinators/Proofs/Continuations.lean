import ParserCombinators.Proofs.Calls
import ParserCombinators.Proofs.Lockstep

/-!
An application goes on as a call of it does, whatever the session and with enough fuel, and then in
some other way that only adds to the log. So what a call writes is written by the application, a
fault of the call is the fault of the application, and an application that returns has waited for
each of its calls to return.
-/

namespace ParserCombinators

open Filter

variable {ν α β γ : Type}

namespace Run

/-- Two sessions are the same, and their log goes on from the records. -/
def GrowsFrom (base : List Record) (session session' : Session ν) : Prop :=
  session = session' ∧ base <:+ session.records

/-- Whatever the log was, the run only adds to it. -/
def Grows (run : Run ν α) : Prop :=
  ∀ base, InStep (GrowsFrom base) (fun _ _ _ _ => False) run run

theorem Grows.suffix {run : Run ν α} (h : Grows run) (session : Session ν) :
    session.records <:+ (run session).2.records := by
  have hends := h session.records session session ⟨rfl, List.suffix_rfl⟩
  generalize run session = first at hends
  cases hends with
  | same hafter => exact hafter.2
  | parted hparted => exact hparted.elim

theorem Grows.pure (value : α) : Grows (Pure.pure value : Run ν α) := fun _ => .pure value

theorem Grows.bind {run : Run ν α} {next : α → Run ν β} (hrun : Grows run)
    (hnext : ∀ value, Grows (next value)) : Grows (run >>= next) :=
  fun base => .bind (hrun base) fun value => hnext value base

theorem Grows.ite {condition : Prop} [Decidable condition] {first second : Run ν α}
    (hfirst : Grows first) (hsecond : Grows second) :
    Grows (if condition then first else second) := fun base => .ite (hfirst base) (hsecond base)

variable [DecidableEq ν] {grammar : Grammar ν}

/-- The run goes on as the part does, and then in a way that only adds to the log. -/
def Visits (grammar : Grammar ν) (run : Run ν α) (part : Run ν β) : Prop :=
  ∃ next : β → Run ν α, (∀ value, Grows (next value)) ∧ Leads grammar run (part >>= next)

namespace Visits

variable {run rest : Run ν α} {part : Run ν β}

theorem self (run : Run ν α) : Visits grammar run run :=
  ⟨Pure.pure, fun value => .pure value, by rw [bind_pure]; exact .refl run⟩

theorem of_leads (hleads : Leads grammar run rest) (h : Visits grammar rest part) :
    Visits grammar run part := by
  obtain ⟨next, hnext, hrest⟩ := h
  exact ⟨next, hnext, hleads.trans hrest⟩

theorem bind (h : Visits grammar run part) {next : α → Run ν γ}
    (hnext : ∀ value, Grows (next value)) : Visits grammar (run >>= next) part := by
  obtain ⟨between, hbetween, hrun⟩ := h
  refine ⟨fun value => between value >>= next, fun value => (hbetween value).bind hnext, ?_⟩
  rw [← bind_assoc]
  exact hrun.bind next

theorem aborts (h : Visits grammar run part) {fault : Fault} (hpart : Aborts grammar part fault) :
    Aborts grammar run fault := by
  obtain ⟨next, -, hrun⟩ := h
  exact hrun.trans (hpart.bind next)

/-- A run that ends with a value has its part end with one. -/
theorem exists_done (h : Visits grammar run part) {session after : Session ν} {value : α}
    (hsession : session.Coherent grammar) (hrun : run session = (.done value, after)) :
    ∃ between found last, between.Coherent grammar ∧ part between = (.done found, last) := by
  obtain ⟨next, -, hleads⟩ := h
  obtain ⟨between, heq, hbetween⟩ := hleads session hsession
  rw [heq] at hrun
  obtain ⟨found, last, hpart, -⟩ := bind_eq_done_iff.mp hrun
  exact ⟨between, found, last, hbetween, hpart⟩

/-- What the part writes stays in the log. -/
theorem mem_records (h : Visits grammar run part) {record : Record}
    (hpart : ∀ session, session.Coherent grammar → record ∈ (part session).2.records)
    {session : Session ν} (hsession : session.Coherent grammar) :
    record ∈ (run session).2.records := by
  obtain ⟨next, hnext, hrun⟩ := h
  obtain ⟨between, heq, hbetween⟩ := hrun session hsession
  have hmem := hpart between hbetween
  rw [heq, bind_apply]
  rcases hends : part between with ⟨value | fault | _, after⟩ <;> rw [hends] at hmem
  · exact ((hnext value).suffix after).mem hmem
  · exact hmem
  · exact hmem

end Visits

end Run

open Run

variable [DecidableEq ν] {grammar : Grammar ν}

namespace Parser

theorem lockstep_grows (base : List Record) :
    Lockstep grammar grammar (GrowsFrom base) fun _ _ _ _ => False where
  record := by
    rintro session _ record ⟨rfl, hbase⟩
    exact ⟨rfl, hbase.trans (List.suffix_cons _ _)⟩
  resolve := by
    rintro name session _ ⟨rfl, hbase⟩
    unfold Run.resolve
    cases session.definitions.lookup name with
    | some parser => exact .same ⟨rfl, hbase⟩
    | none => cases grammar name <;> exact .same ⟨rfl, hbase⟩

theorem grows_apply (fuel : Nat) (parser : Parser ν) (state : State) :
    Grows (apply grammar fuel parser state) :=
  fun base => (lockstep_grows base).apply fuel parser state

omit [DecidableEq ν] in
theorem grows_log (level : Level) (moment : Moment) (subject : Text) (state : State) :
    Grows (Run.log level moment subject state : Run ν Unit) := by
  rintro base session _ ⟨rfl, hbase⟩
  exact .same ⟨rfl, hbase.trans (List.suffix_cons _ _)⟩

section Calls

variable {parser part item separator : Parser ν} {state middle last : State}
  {values : List Value}

theorem visits_onSuccess {run : Run ν State} {part : Run ν State} (h : state.failed = false)
    (hbody : Visits grammar run part) : Visits grammar (state.onSuccess run) part := by
  simpa [State.onSuccess, h] using hbody

/-- A repetition applies its item after some rounds. -/
theorem visits_iterate (h : Rounds (Round (Returns grammar item)) state values last) :
    ∀ᶠ fuel in atTop, Visits grammar (iterate (apply grammar fuel item) fuel [] state)
      (apply grammar fuel item last) := by
  filter_upwards [eventually_iterate h, eventually_gt_atTop values.length] with fuel hrounds hfuel
  obtain ⟨rounds, hfuel⟩ := exists_rounds hfuel
  have hloop := hrounds (rounds + 1) []
  rw [← hfuel] at hloop
  refine .of_leads hloop (.bind (.self _) fun next => .ite (.pure _) (.ite (.pure _) ?_))
  exact fun base => inStep_iterate ((lockstep_grows base).apply fuel item) rounds _ next

theorem visits_alternate_item
    (h : Rounds (Turn (Returns grammar separator) (Returns grammar item)) state values last) :
    ∀ᶠ fuel in atTop, Visits grammar
      (alternate (apply grammar fuel separator) (apply grammar fuel item) fuel [] state)
      (apply grammar fuel item last) := by
  filter_upwards [eventually_alternate h, eventually_gt_atTop values.length] with fuel hturns hfuel
  obtain ⟨rounds, hfuel⟩ := exists_rounds hfuel
  have hloop := hturns (rounds + 1) []
  rw [← hfuel] at hloop
  refine .of_leads hloop (.bind (.self _) fun next => .ite (.pure _) ?_)
  refine .bind (grows_apply fuel separator next) fun between => .ite (.pure _) fun base => ?_
  exact inStep_alternate ((lockstep_grows base).apply fuel separator)
    ((lockstep_grows base).apply fuel item) rounds _ between

theorem visits_alternate_separator
    (h : Rounds (Turn (Returns grammar separator) (Returns grammar item)) state values middle)
    (hitem : Returns grammar item middle last) (hlast : last.failed = false) :
    ∀ᶠ fuel in atTop, Visits grammar
      (alternate (apply grammar fuel separator) (apply grammar fuel item) fuel [] state)
      (apply grammar fuel separator last) := by
  filter_upwards [eventually_alternate h, hitem, eventually_gt_atTop values.length]
    with fuel hturns hitem hfuel
  obtain ⟨rounds, hfuel⟩ := exists_rounds hfuel
  have hloop := hturns (rounds + 1) []
  rw [← hfuel] at hloop
  refine .of_leads ((hloop.trans (hitem.leads _)).trans (.of_false hlast)) ?_
  refine .bind (.self _) fun between => .ite (.pure _) fun base => ?_
  exact inStep_alternate ((lockstep_grows base).apply fuel separator)
    ((lockstep_grows base).apply fuel item) rounds _ between

/-- A routine applies the parser that its results have led to. -/
theorem visits_drive {steps : List Value → Step ν} {all : List Value}
    (h : Driven (Returns grammar) steps [] state all last) (hstep : steps all = .run part) :
    ∀ᶠ fuel in atTop, Visits grammar (drive (apply grammar fuel) steps fuel [] state)
      (apply grammar fuel part last) := by
  obtain ⟨count, hdriven⟩ := eventually_drive h
  filter_upwards [hdriven, eventually_gt_atTop count] with fuel hdriven hfuel
  obtain ⟨rounds, hfuel⟩ := exists_rounds hfuel
  have hloop := hdriven (rounds + 1)
  rw [← hfuel] at hloop
  refine .of_leads hloop ?_
  simp only [drive, hstep]
  refine .bind (.self _) fun next => .ite (.pure _) fun base => ?_
  exact inStep_drive ((lockstep_grows base).apply fuel) steps rounds _ next

/-- An application goes on as each of its calls does, which has one unit of fuel less. -/
theorem Calls.visits (h : Calls grammar parser state part middle) :
    ∀ᶠ fuel in atTop, Visits grammar (apply grammar (fuel + 1) parser state)
      (apply grammar fuel part middle) := by
  cases h with
  | sequence hstate hbefore =>
      filter_upwards [eventually_inOrder hbefore] with fuel hbefore
      refine visits_onSuccess hstate (.of_leads (hbefore _ []) ?_)
      refine .bind (.self _) fun next => .ite (.pure _) fun base => ?_
      exact inStep_inOrder ((lockstep_grows base).apply fuel) _ _ next
  | choice hstate hbefore =>
      filter_upwards [eventually_firstSuccess hbefore] with fuel hbefore
      refine visits_onSuccess hstate (.bind (.of_leads (hbefore (_ :: _)) ?_) ?_)
      · refine .bind (.self _) fun next => .ite (fun base => ?_) (.pure _)
        exact inStep_firstSuccess ((lockstep_grows base).apply fuel) state _
      · rintro (_ | next)
        · exact .pure _
        · exact .pure next
  | many hstate hrounds =>
      filter_upwards [visits_iterate hrounds] with fuel hloop
      exact visits_onSuccess hstate (hloop.bind fun _ => .pure _)
  | many1 hstate hrounds =>
      filter_upwards [visits_iterate hrounds] with fuel hloop
      exact visits_onSuccess hstate (hloop.bind fun _ => .pure _)
  | separated_item hstate hturns =>
      filter_upwards [visits_alternate_item hturns] with fuel hloop
      exact visits_onSuccess hstate (hloop.bind fun _ => .pure _)
  | separated_separator hstate hturns hitem hnext =>
      filter_upwards [visits_alternate_separator hturns hitem hnext] with fuel hloop
      exact visits_onSuccess hstate (hloop.bind fun _ => .pure _)
  | separated1_item hstate hturns =>
      filter_upwards [visits_alternate_item hturns] with fuel hloop
      exact visits_onSuccess hstate (hloop.bind fun _ => .pure _)
  | separated1_separator hstate hturns hitem hnext =>
      filter_upwards [visits_alternate_separator hturns hitem hnext] with fuel hloop
      exact visits_onSuccess hstate (hloop.bind fun _ => .pure _)
  | optional hstate =>
      refine Eventually.of_forall fun fuel => visits_onSuccess hstate ?_
      exact .bind (.self _) fun _ => .pure _
  | lazy => exact Eventually.of_forall fun fuel => .self _
  | ref hname =>
      refine Eventually.of_forall fun fuel => ?_
      exact .of_leads ((Run.Delivers.resolve hname).leads _) (.self _)
  | map source f =>
      refine Eventually.of_forall fun fuel => .bind (.self _) fun next => .ite (.pure _) ?_
      exact fun base => .bind (.ofExcept (f next.result)) fun _ => .pure _
  | chain_source source f =>
      refine Eventually.of_forall fun fuel => .bind (.self _) fun next => .ite (.pure _) ?_
      exact grows_apply fuel (f next.result) next
  | chain_next hsource hmiddle =>
      filter_upwards [hsource] with fuel hsource
      exact .of_leads ((hsource.leads _).trans (.of_false hmiddle)) (.self _)
  | mapError =>
      exact Eventually.of_forall fun fuel => .bind (.self _) fun _ => .pure _
  | routine hstate hdriven hstep =>
      filter_upwards [visits_drive hdriven hstep] with fuel hloop
      exact visits_onSuccess hstate hloop
  | trace =>
      refine Eventually.of_forall fun fuel => ?_
      refine .of_leads ((Run.Delivers.log _ _ _ _).leads _) (.bind (.self _) fun next => ?_)
      exact .bind (grows_log _ _ _ _) fun _ => .pure next

/-- An application that returns has every call it makes return. -/
theorem Calls.ends (h : Calls grammar parser state part middle)
    (hends : Ends grammar parser state) : Ends grammar part middle := by
  obtain ⟨next, hnext⟩ := hends
  obtain ⟨fuel, hvisits, hdelivers⟩ :=
    (h.visits.and ((tendsto_add_atTop_nat 1).eventually hnext)).exists
  obtain ⟨after, hrun, -⟩ := hdelivers .empty Session.empty_coherent
  obtain ⟨between, found, last, hbetween, hpart⟩ :=
    hvisits.exists_done Session.empty_coherent hrun
  exact ⟨found, (returns_iff_apply hbetween).mpr ⟨fuel, last, hpart⟩⟩

/-- What a call writes, whatever the session and with enough fuel, the application writes. -/
theorem Calls.writes {record : Record} (h : Calls grammar parser state part middle)
    (hpart : ∀ᶠ fuel in atTop, ∀ session, session.Coherent grammar →
      record ∈ (apply grammar fuel part middle session).2.records) :
    ∀ᶠ fuel in atTop, ∀ session, session.Coherent grammar →
      record ∈ (apply grammar fuel parser state session).2.records := by
  apply eventually_of_succ
  filter_upwards [h.visits, hpart] with fuel hvisits hpart session
  exact hvisits.mem_records hpart

end Calls

end Parser

end ParserCombinators
