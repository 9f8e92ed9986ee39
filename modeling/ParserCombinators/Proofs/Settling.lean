import ParserCombinators.Proofs.Machines
import ParserCombinators.Proofs.Repetition
import ParserCombinators.Proofs.WholeRuns

/-!
Applications that settle: they return a state, or end with a fault that is accepted. An application
settles if its calls do and if it raises no other fault by itself. The loops cannot go on for ever,
as what is left of the input bounds them; only a routine has to come to its end by itself, which is
shown of its stages.
-/

namespace ParserCombinators.Parser

variable {ν : Type} [DecidableEq ν] {grammar : Grammar ν}

def isRoutine : Parser ν → Bool
  | routine _ _ => true
  | _ => false

/-- Only these raise faults by themselves. -/
def mayRaise : Parser ν → Bool
  | broken _ | ref _ | map _ _ | routine _ _ => true
  | _ => false

/-- No part is a function of states that the grammar wrote itself. -/
abbrev Own (grammar : Grammar ν) (parser : Parser ν) : Prop :=
  Everywhere grammar (fun part => part.isHandWritten = false) parser

omit [DecidableEq ν] in
theorem isRoutine_eq_false {parser : Parser ν} (h : parser.mayRaise = false) :
    parser.isRoutine = false := by
  cases parser with
  | routine name steps => cases h
  | _ => rfl

theorem Faults.mayRaise_eq {parser : Parser ν} {state : State} {fault : Fault}
    (h : Faults grammar parser state fault) : parser.mayRaise = true := by
  cases h <;> rfl

section Ends

variable {parser part : Parser ν} {parts : List (Parser ν)} {state middle : State}

theorem Ends.sequence_cons (hstate : state.failed = false)
    (hpart : Returns grammar part state middle) (hmiddle : middle.failed = false)
    (h : Ends grammar (.sequence parts) middle) :
    Ends grammar (.sequence (part :: parts)) state := by
  obtain ⟨last, hlast⟩ := h
  cases hfailed : last.failed with
  | false =>
      obtain ⟨values, stop, hthrough, rfl⟩ := hlast.sequence_through hmiddle hfailed
      exact ⟨_, Returns.sequence hstate (.cons hpart hmiddle hthrough)⟩
  | true =>
      obtain ⟨before, stop, after, values, between, rfl, hthrough, hstop⟩ :=
        hlast.sequence_stopped hmiddle hfailed
      have hbefore : Through (Returns grammar) (part :: before) state _ between :=
        .cons hpart hmiddle hthrough
      exact ⟨last, Returns.sequence_stop hstate hbefore hstop hfailed⟩

/-- What is left of a sequence calls what the sequence calls. -/
theorem ends_sequence (hstate : state.failed = false)
    (hcalls : ∀ part middle, Calls grammar (.sequence parts) state part middle →
      Ends grammar part middle) : Ends grammar (.sequence parts) state := by
  induction parts generalizing state with
  | nil => exact ⟨_, Returns.sequence hstate (.nil state)⟩
  | cons part parts ih =>
      have hfirst : Calls grammar (.sequence ([] ++ part :: parts)) state part state :=
        .sequence hstate (.nil state)
      obtain ⟨next, hpart⟩ := hcalls part state hfirst
      cases hnext : next.failed with
      | true =>
          have hstops : Returns grammar (.sequence ([] ++ part :: parts)) state next :=
            .sequence_stop hstate (.nil state) hpart hnext
          exact ⟨next, hstops⟩
      | false =>
          refine .sequence_cons hstate hpart hnext (ih hnext fun other middle hcall => ?_)
          cases hcall with
          | sequence _ hbefore =>
              exact hcalls other middle (.sequence hstate (.cons hpart hnext hbefore))

theorem ends_choice (hstate : state.failed = false)
    (hcalls : ∀ part middle, Calls grammar (.choice parts) state part middle →
      Ends grammar part middle) : Ends grammar (.choice parts) state := by
  induction parts with
  | nil => exact ⟨_, Returns.choice_none hstate .nil⟩
  | cons part parts ih =>
      have hfirst : Calls grammar (.choice ([] ++ part :: parts)) state part state :=
        .choice hstate .nil
      obtain ⟨next, hpart⟩ := hcalls part state hfirst
      cases hnext : next.failed with
      | false =>
          have hchosen : Returns grammar (.choice ([] ++ part :: parts)) state next :=
            .choice hstate .nil hpart hnext
          exact ⟨next, hchosen⟩
      | true =>
          obtain ⟨last, hlast⟩ := ih fun other middle hcall => by
            cases hcall with
            | choice _ hbefore => exact hcalls other _ (.choice hstate (.cons hpart hnext hbefore))
          exact ⟨last, hlast.choice_cons hpart hnext hstate⟩

/-- An application returns if its calls do and it raises no fault by itself. -/
theorem ends_of_calls (hown : Own grammar parser) (hform : parser.isRoutine = false)
    (hcalls : ∀ part middle, Calls grammar parser state part middle → Ends grammar part middle)
    (hself : ∀ fault, ¬ Faults grammar parser state fault) : Ends grammar parser state := by
  have hforward (part : Parser ν) (hpart : Part grammar parser part) (middle next : State)
      (h : Returns grammar part middle next) : Forward middle next :=
    h.forward (hown.of_part hpart)
  by_cases habsorb : parser.leavesFailure = true ∧ state.failed = true
  · exact ⟨state, Returns.absorb habsorb.1 habsorb.2⟩
  have hsuccess (hleaves : parser.leavesFailure = true) : state.failed = false :=
    Bool.eq_false_iff.mpr fun hfailed => habsorb ⟨hleaves, hfailed⟩
  cases parser with
  | literal text caseSensitive => exact ⟨_, Returns.literal (hsuccess rfl)⟩
  | pattern name compiled expected => exact ⟨_, Returns.pattern (hsuccess rfl)⟩
  | endOfInput => exact ⟨_, Returns.endOfInput (hsuccess rfl)⟩
  | fail message => exact ⟨_, Returns.fail (hsuccess rfl)⟩
  | succeed value => exact ⟨_, Returns.succeed (hsuccess rfl)⟩
  | transform name f => exact ⟨_, Returns.transform⟩
  | broken fault => exact absurd (.broken fault state) (hself fault)
  | routine name steps => cases hform
  | sequence parts => exact ends_sequence (hsuccess rfl) hcalls
  | choice alternatives => exact ends_choice (hsuccess rfl) hcalls
  | many item =>
      obtain ⟨values, last, hcollects⟩ := exists_collects (hforward item (.many item))
        fun _ middle hrounds => hcalls item middle (.many (hsuccess rfl) hrounds)
      exact ⟨_, Returns.many (hsuccess rfl) hcollects⟩
  | many1 item =>
      obtain ⟨values, last, hcollects⟩ := exists_collects (hforward item (.many1 item))
        fun _ middle hrounds => hcalls item middle (.many1 (hsuccess rfl) hrounds)
      exact ⟨_, (returns_many1_iff_collects (hsuccess rfl)).mpr ⟨values, last, hcollects, rfl⟩⟩
  | separated separator item =>
      obtain ⟨values, last, hcollects⟩ := exists_collectsSeparated
        (hforward separator (.separated_separator separator item))
        (hforward item (.separated_item separator item))
        (fun _ middle hturns => hcalls item middle (.separated_item (hsuccess rfl) hturns))
        fun _ _ next hturns hnext hnextSuccess =>
          hcalls separator next (.separated_separator (hsuccess rfl) hturns hnext hnextSuccess)
      exact ⟨_, Returns.separated (hsuccess rfl) hcollects⟩
  | separated1 separator item =>
      obtain ⟨values, last, hcollects⟩ := exists_collectsSeparated
        (hforward separator (.separated1_separator separator item))
        (hforward item (.separated1_item separator item))
        (fun _ middle hturns => hcalls item middle (.separated1_item (hsuccess rfl) hturns))
        fun _ _ next hturns hnext hnextSuccess =>
          hcalls separator next (.separated1_separator (hsuccess rfl) hturns hnext hnextSuccess)
      exact ⟨_, (returns_separated1_iff_collects (hsuccess rfl)).mpr
        ⟨values, last, hcollects, rfl⟩⟩
  | optional item =>
      obtain ⟨next, hnext⟩ := hcalls item state (.optional (hsuccess rfl))
      cases hfailed : next.failed with
      | false => exact ⟨_, Returns.optional (hsuccess rfl) hnext hfailed⟩
      | true => exact ⟨_, Returns.optional_none (hsuccess rfl) hnext hfailed⟩
  | lazy body =>
      obtain ⟨next, hnext⟩ := hcalls body state (.lazy body state)
      exact ⟨next, Returns.lazy hnext⟩
  | ref name =>
      cases hname : grammar name with
      | error fault => exact absurd (.ref hname) (hself fault)
      | ok body =>
          obtain ⟨next, hnext⟩ := hcalls body state (.ref hname)
          exact ⟨next, Returns.ref hname hnext⟩
  | map source f =>
      obtain ⟨next, hnext⟩ := hcalls source state (.map source f state)
      cases hfailed : next.failed with
      | true => exact ⟨next, Returns.map_failed hnext hfailed⟩
      | false =>
          cases hvalue : f next.result with
          | error fault => exact absurd (.map hnext hfailed hvalue) (hself fault)
          | ok value => exact ⟨_, Returns.map hnext hfailed hvalue⟩
  | chain source f =>
      obtain ⟨middle, hmiddle⟩ := hcalls source state (.chain_source source f state)
      cases hfailed : middle.failed with
      | true => exact ⟨middle, Returns.chain_failed hmiddle hfailed⟩
      | false =>
          obtain ⟨next, hnext⟩ := hcalls _ middle (.chain_next hmiddle hfailed)
          exact ⟨next, Returns.chain hmiddle hfailed hnext⟩
  | mapError source f =>
      obtain ⟨next, hnext⟩ := hcalls source state (.mapError source f state)
      cases hfailed : next.failed with
      | true => exact ⟨_, Returns.mapError_failed hnext hfailed⟩
      | false => exact ⟨next, Returns.mapError hnext hfailed⟩
  | trace label body =>
      obtain ⟨next, hnext⟩ := hcalls body state (.trace label body state)
      exact ⟨next, Returns.trace hnext⟩

/-- Whatever is no routine returns just when its calls do and it raises no fault by itself. A
routine may also go on for ever over calls that all return. -/
theorem ends_iff_calls (hown : Own grammar parser) (hform : parser.isRoutine = false) :
    Ends grammar parser state ↔
      (∀ part middle, Calls grammar parser state part middle → Ends grammar part middle) ∧
      ∀ fault, ¬ Faults grammar parser state fault := by
  constructor
  · intro hends
    refine ⟨fun part middle hcall => hcall.ends hends, fun fault hself => ?_⟩
    obtain ⟨next, hnext⟩ := hends
    exact hself.raises.not_returns hnext
  · rintro ⟨hcalls, hself⟩
    exact ends_of_calls hown hform hcalls hself

end Ends

section Settles

variable {accepted : Fault → Prop} {parser part : Parser ν} {state middle : State} {t : Text}

/-- For the state the parser returns, or ends with a fault that is accepted. -/
def Settles (grammar : Grammar ν) (accepted : Fault → Prop) (parser : Parser ν) (state : State) :
    Prop :=
  Ends grammar parser state ∨ ∃ fault, accepted fault ∧ Raises grammar parser state fault

/-- Either some call ends with an accepted fault, or all of them return. -/
theorem settles_of_calls (hown : Own grammar parser) (hform : parser.isRoutine = false)
    (hcalls : ∀ part middle, Calls grammar parser state part middle →
      Settles grammar accepted part middle)
    (hself : ∀ fault, Faults grammar parser state fault → accepted fault) :
    Settles grammar accepted parser state := by
  by_cases hraises : ∃ fault, accepted fault ∧ Raises grammar parser state fault
  · exact Or.inr hraises
  · refine Or.inl ((ends_iff_calls hown hform).mpr
      ⟨fun part middle hcall => ?_, fun fault hfaults => ?_⟩)
    · refine (hcalls part middle hcall).resolve_right ?_
      rintro ⟨fault, haccepted, hpart⟩
      exact hraises ⟨fault, haccepted, hcall.raises hpart⟩
    · exact hraises ⟨fault, hself fault hfaults, hfaults.raises⟩

/-- The parser settles wherever it is applied to the text. -/
structure SettlesOn (grammar : Grammar ν) (accepted : Fault → Prop) (t : Text)
    (parser : Parser ν) : Prop where
  own : Own grammar parser
  settles : ∀ state, state.failed = false → state.input = t →
    Settles grammar accepted parser state

theorem SettlesOn.of_parts (hself : parser.isHandWritten = false)
    (hform : parser.isRoutine = false)
    (hparts : ∀ part, Part grammar parser part → SettlesOn grammar accepted t part)
    (hfaults : ∀ state fault, state.failed = false → state.input = t →
      Faults grammar parser state fault → accepted fault) :
    SettlesOn grammar accepted t parser := by
  have hown : Own grammar parser := .intro hself fun part hpart => (hparts part hpart).own
  refine ⟨hown, fun state hstate hinput => ?_⟩
  refine settles_of_calls hown hform (fun part middle hcall => ?_) fun fault =>
    hfaults state fault hstate hinput
  have hmiddle := hcall.failed_eq hstate
  exact (hparts part hcall.part).settles middle hmiddle ((hcall.frame hown).1.trans hinput)

theorem SettlesOn.of_silent_parts (hself : parser.isHandWritten = false)
    (hsilent : parser.mayRaise = false)
    (hparts : ∀ part, Part grammar parser part → SettlesOn grammar accepted t part) :
    SettlesOn grammar accepted t parser :=
  .of_parts hself (isRoutine_eq_false hsilent) hparts fun _ _ _ _ hfaults =>
    absurd hfaults.mayRaise_eq (by rw [hsilent]; exact Bool.false_ne_true)

/-- A run of a parser that settles ends, with a state or with an accepted fault. -/
theorem SettlesOn.run_ends (h : SettlesOn grammar accepted t parser) (debug : Bool) :
    (∃ final, RunsTo grammar parser t debug final) ∨
      ∃ fault, accepted fault ∧ RunsInto grammar parser t debug fault := by
  rcases h.settles (State.start t debug) rfl rfl with ⟨final, hfinal⟩ | ⟨fault, haccepted, hfault⟩
  · exact Or.inl ⟨final, hfinal.runsTo⟩
  · exact Or.inr ⟨fault, haccepted, hfault.runsInto⟩

end Settles

section Forms

variable {accepted : Fault → Prop} {t : Text} {item separator source : Parser ν}
  {parts : List (Parser ν)}

theorem settlesOn_literal (text : Text) (caseSensitive : Bool) :
    SettlesOn grammar accepted t (.literal text caseSensitive) :=
  .of_silent_parts rfl rfl nofun

theorem settlesOn_pattern (name : Text) (compiled : Regex.Pattern) (expected : Text) :
    SettlesOn grammar accepted t (.pattern name compiled expected) :=
  .of_silent_parts rfl rfl nofun

theorem SettlesOn.optional (h : SettlesOn grammar accepted t item) :
    SettlesOn grammar accepted t (.optional item) :=
  .of_silent_parts rfl rfl fun _ hpart => by cases hpart; exact h

theorem SettlesOn.many (h : SettlesOn grammar accepted t item) :
    SettlesOn grammar accepted t (.many item) :=
  .of_silent_parts rfl rfl fun _ hpart => by cases hpart; exact h

theorem SettlesOn.many1 (h : SettlesOn grammar accepted t item) :
    SettlesOn grammar accepted t (.many1 item) :=
  .of_silent_parts rfl rfl fun _ hpart => by cases hpart; exact h

theorem SettlesOn.separated (hseparator : SettlesOn grammar accepted t separator)
    (hitem : SettlesOn grammar accepted t item) :
    SettlesOn grammar accepted t (.separated separator item) := by
  refine .of_silent_parts rfl rfl fun _ hpart => ?_
  cases hpart with
  | separated_item => exact hitem
  | separated_separator => exact hseparator

theorem SettlesOn.separated1 (hseparator : SettlesOn grammar accepted t separator)
    (hitem : SettlesOn grammar accepted t item) :
    SettlesOn grammar accepted t (.separated1 separator item) := by
  refine .of_silent_parts rfl rfl fun _ hpart => ?_
  cases hpart with
  | separated1_item => exact hitem
  | separated1_separator => exact hseparator

theorem settlesOn_sequence (h : ∀ part ∈ parts, SettlesOn grammar accepted t part) :
    SettlesOn grammar accepted t (.sequence parts) := by
  refine .of_silent_parts rfl rfl fun _ hpart => ?_
  cases hpart with
  | sequence hmem => exact h _ hmem

theorem settlesOn_choice (h : ∀ part ∈ parts, SettlesOn grammar accepted t part) :
    SettlesOn grammar accepted t (.choice parts) := by
  refine .of_silent_parts rfl rfl fun _ hpart => ?_
  cases hpart with
  | choice hmem => exact h _ hmem

theorem SettlesOn.mapError (h : SettlesOn grammar accepted t source)
    (f : Option Text → Nat → Text) : SettlesOn grammar accepted t (.mapError source f) :=
  .of_silent_parts rfl rfl fun _ hpart => by cases hpart; exact h

/-- The function has to be defined on the results of its source, up to accepted faults. -/
theorem SettlesOn.map (h : SettlesOn grammar accepted t source)
    {f : Value → Except Fault Value}
    (hf : ∀ state next fault, state.failed = false → state.input = t →
      Returns grammar source state next → next.failed = false →
      f next.result = .error fault → accepted fault) :
    SettlesOn grammar accepted t (.map source f) := by
  refine .of_parts rfl rfl (fun _ hpart => ?_) fun state fault hstate hinput hfaults => ?_
  · cases hpart with
    | map => exact h
  · cases hfaults with
    | map hsource hnext hvalue => exact hf state _ fault hstate hinput hsource hnext hvalue

/-- A function that raises nothing is defined on all results. -/
theorem SettlesOn.map_ok (h : SettlesOn grammar accepted t source) (f : Value → Value) :
    SettlesOn grammar accepted t (.map source fun value => .ok (f value)) := by
  refine h.map fun _ _ _ _ _ _ _ hfault => ?_
  cases hfault

end Forms

end ParserCombinators.Parser

namespace ParserCombinators.Machine

open ParserCombinators.Parser

variable {ν σ : Type} [DecidableEq ν] {grammar : Grammar ν} {accepted : Fault → Prop} {t : Text}
  {machine : Machine ν σ} {good : σ → Prop} {rank : σ → Nat → Nat}

/-- What is left of the input. -/
def left (state : State) : Nat := state.input.length - state.pos

/-- What is asked of the step of a stage. The parser that it runs settles, and a success of it leads
to a good stage of a lower rank. The rank may count what is left of the input. -/
inductive Descends (grammar : Grammar ν) (accepted : Fault → Prop) (t : Text)
    (machine : Machine ν σ) (good : σ → Prop) (rank : σ → Nat → Nat) (stage : σ) : Prop
  | finish {value : Value} : machine.step stage = .finish value →
      Descends grammar accepted t machine good rank stage
  | raise {fault : Fault} : machine.step stage = .raise fault → accepted fault →
      Descends grammar accepted t machine good rank stage
  | run {parser : Parser ν} : machine.step stage = .run parser →
      SettlesOn grammar accepted t parser →
      (∀ state next, state.failed = false → state.input = t → Returns grammar parser state next →
        next.failed = false → left next ≤ left state → good (machine.resume stage next.result) ∧
          rank (machine.resume stage next.result) (left next) < rank stage (left state)) →
      Descends grammar accepted t machine good rank stage

/-- A machine settles if it goes down from every good stage. The induction is on the rank. -/
theorem settlesOn (name : String) (hown : Own grammar (machine.parser name))
    (hstart : good machine.start)
    (hstages : ∀ stage, good stage → machine.Descends grammar accepted t good rank stage) :
    SettlesOn grammar accepted t (machine.parser name) := by
  have hends (received : List Value) (state : State) (hgood : good (machine.stage received))
      (hstate : state.failed = false) (hinput : state.input = t) :
      (∃ next, Resumes grammar machine.steps received state next) ∨
        ∃ fault, accepted fault ∧ Throws grammar machine.steps received state fault := by
    induction hrank : rank (machine.stage received) (left state)
      using Nat.strong_induction_on generalizing received state with
    | _ measure ih =>
    subst hrank
    cases hstages _ hgood with
    | finish hstep => exact Or.inl ⟨_, .finish (.nil received state) hstep⟩
    | raise hstep haccepted =>
        refine Or.inr ⟨_, haccepted, received, state, .nil received state, ?_⟩
        rw [steps, hstep]
        rfl
    | @run parser hstep hparser hnext =>
        rcases hparser.settles state hstate hinput with
          ⟨next, hreturns⟩ | ⟨fault, haccepted, hraises⟩
        · cases hfailed : next.failed with
          | true => exact Or.inl ⟨next, .stop (.nil received state) hstep hreturns hfailed⟩
          | false =>
              have hforward := hreturns.forward hparser.own
              have hinputNext := hforward.input.trans hinput
              have hleft : left next ≤ left state := by
                rw [left, left, hforward.input]
                exact Nat.sub_le_sub_left hforward.pos _
              obtain ⟨hgoodNext, hless⟩ :=
                hnext state next hstate hinput hreturns hfailed hleft
              rcases ih _ hless (next.result :: received) next hgoodNext hfailed hinputNext rfl with
                ⟨last, hlast⟩ | ⟨fault, haccepted, hthrows⟩
              · exact Or.inl ⟨last, .cons hstep hreturns hfailed hlast⟩
              · exact Or.inr ⟨fault, haccepted, .cons hstep hreturns hfailed hthrows⟩
        · refine Or.inr ⟨fault, haccepted, received, state, .nil received state, ?_⟩
          rw [steps, hstep]
          exact hraises
  refine ⟨hown, fun state hstate hinput => ?_⟩
  rcases hends [] state hstart hstate hinput with ⟨next, hnext⟩ | ⟨fault, haccepted, hthrows⟩
  · exact Or.inl ⟨next, (returns_routine_iff hstate).mpr hnext⟩
  · exact Or.inr ⟨fault, haccepted, (raises_routine_iff hstate).mpr hthrows⟩

end ParserCombinators.Machine
