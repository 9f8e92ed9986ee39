import ParserCombinators.Proofs.Passages

/-!
Where a fault comes from. An application raises a fault by itself if a definition cannot be built,
a function of the grammar raises it, or a routine offers what is no parser. Otherwise it ends with
a fault only where a call that it makes does. So what holds of the calls of an application, and
where it raises a fault by itself, holds of the whole of it.
-/

namespace ParserCombinators.Parser

variable {ν : Type} [DecidableEq ν] {grammar : Grammar ν}

/-- The application itself raises the fault, and no call that it makes. -/
inductive Faults (grammar : Grammar ν) : Parser ν → State → Fault → Prop
  | broken (fault : Fault) (state : State) : Faults grammar (.broken fault) state fault
  | ref {name : ν} {fault : Fault} {state : State} :
      grammar name = .error fault → Faults grammar (.ref name) state fault
  | map {source : Parser ν} {f : Value → Except Fault Value} {fault : Fault}
      {state next : State} :
      Returns grammar source state next → next.failed = false → f next.result = .error fault →
      Faults grammar (.map source f) state fault
  | raise {name : Text} {steps : List Value → Step ν} {received : List Value} {fault : Fault}
      {state middle : State} :
      state.failed = false → Driven (Returns grammar) steps [] state received middle →
      steps received = .raise fault → Faults grammar (.routine name steps) state fault
  | offer {name : Text} {steps : List Value → Step ν} {received : List Value} {value : Value}
      {state middle : State} :
      state.failed = false → Driven (Returns grammar) steps [] state received middle →
      steps received = .offer value →
      Faults grammar (.routine name steps) state (.grammar (.notParser value))

/-- What ends a routine with a fault: a step that raises it, or a parser that a step runs. -/
def StepFaults (F : Parser ν → State → Fault → Prop) (state : State) (fault : Fault) :
    Step ν → Prop
  | .finish _ => False
  | .raise raised => fault = raised
  | .offer value => fault = .grammar (.notParser value)
  | .run parser => F parser state fault

section Layers

variable {link : Session ν → Session ν → Prop}
  {halts : Option Fault → Session ν → Session ν → Prop} {fuel : Nat}

/-- An application does to its session what its calls do, one after the other, and what it does by
itself: it raises a fault, or it is a trace and writes to the log. -/
theorem passes_layer (passage : Passage link halts) {parser : Parser ν} {state : State}
    (hself : ∀ fault, Faults grammar parser state fault →
      ∀ session, halts (some fault) session session)
    (hcalls : ∀ part middle, Calls grammar parser state part middle →
      Run.Passes grammar link halts (apply grammar fuel part middle))
    (htrace : ∀ label body, parser = .trace label body →
      Run.Passes grammar link halts (apply grammar (fuel + 1) parser state)) :
    Run.Passes grammar link halts (apply grammar (fuel + 1) parser state) := by
  have hgives (part : Parser ν) (middle : State) :
      Run.Gives grammar (apply grammar fuel part middle) (Returns grammar part middle) :=
    gives_returns fuel part middle
  cases parser with
  | literal text caseSensitive => exact passes_onSuccess passage fun _ => .pure passage _
  | pattern name compiled expected => exact passes_onSuccess passage fun _ => .pure passage _
  | endOfInput => exact passes_onSuccess passage fun _ => .pure passage _
  | fail message => exact passes_onSuccess passage fun _ => .pure passage _
  | succeed value => exact passes_onSuccess passage fun _ => .pure passage _
  | transform name f => exact .pure passage (f state)
  | broken fault => exact .raise (hself fault (.broken fault state))
  | sequence parts =>
      refine passes_onSuccess passage fun hstate => ?_
      refine passes_inOrder passage hgives parts [] state ?_
      rintro before part after values middle rfl hbefore
      exact hcalls part middle (.sequence hstate hbefore)
  | choice alternatives =>
      refine passes_onSuccess passage fun hstate => ?_
      refine .bind passage (passes_firstSuccess passage hgives state alternatives ?_)
        (gives_firstSuccess hgives state alternatives) ?_
      · rintro before alternative after rfl hbefore
        exact hcalls alternative state (.choice hstate hbefore)
      · rintro (_ | next) _
        · exact .pure passage _
        · exact .pure passage next
  | many item =>
      refine passes_onSuccess passage fun hstate => .andReturn ?_ _
      exact passes_iterate passage (hgives item) fuel [] state fun values middle hrounds =>
        hcalls item middle (.many hstate hrounds)
  | many1 item =>
      refine passes_onSuccess passage fun hstate => .andReturn ?_ _
      exact passes_iterate passage (hgives item) fuel [] state fun values middle hrounds =>
        hcalls item middle (.many1 hstate hrounds)
  | separated separator item =>
      refine passes_onSuccess passage fun hstate => .andReturn ?_ _
      exact passes_alternate passage (hgives separator) (hgives item) fuel [] state
        (fun values middle hturns => hcalls item middle (.separated_item hstate hturns))
        fun values middle next hturns hnext hsuccess =>
          hcalls separator next (.separated_separator hstate hturns hnext hsuccess)
  | separated1 separator item =>
      refine passes_onSuccess passage fun hstate => .andReturn ?_ _
      exact passes_alternate passage (hgives separator) (hgives item) fuel [] state
        (fun values middle hturns => hcalls item middle (.separated1_item hstate hturns))
        fun values middle next hturns hnext hsuccess =>
          hcalls separator next (.separated1_separator hstate hturns hnext hsuccess)
  | optional item =>
      exact passes_onSuccess passage fun hstate =>
        .andReturn (hcalls item state (.optional hstate)) _
  | lazy body => exact hcalls body state (.lazy body state)
  | ref name =>
      exact .bind passage (.resolve passage fun fault hname => hself fault (.ref hname))
        (Run.Gives.resolve name) fun body hbody => hcalls body state (.ref hbody)
  | map source f =>
      refine .bind passage (hcalls source state (.map source f state)) (hgives source state) ?_
      intro next hnext
      refine .ite (fun _ => .pure passage next) fun hfailed => .andReturn ?_ _
      refine .ofExcept passage fun fault hvalue => hself fault ?_
      exact .map hnext (Bool.eq_false_iff.mpr hfailed) hvalue
  | chain source f =>
      refine .bind passage (hcalls source state (.chain_source source f state))
        (hgives source state) fun next hnext => ?_
      refine .ite (fun _ => .pure passage next) fun hfailed => ?_
      exact hcalls (f next.result) next (.chain_next hnext (Bool.eq_false_iff.mpr hfailed))
  | mapError source f => exact .andReturn (hcalls source state (.mapError source f state)) _
  | routine name steps =>
      refine passes_onSuccess passage fun hstate => ?_
      exact passes_drive passage hgives steps fuel [] state
        (fun all middle part hdriven hstep => hcalls part middle (.routine hstate hdriven hstep))
        (fun all middle fault hdriven hstep => hself fault (.raise hstate hdriven hstep))
        fun all middle value hdriven hstep => hself _ (.offer hstate hdriven hstep)
  | trace label body => exact htrace label body rfl

omit [DecidableEq ν] in
theorem passage_blames (post : Fault → Prop) :
    Passage (fun _ _ : Session ν => True)
      fun reason _ _ => ∀ fault ∈ reason, post fault where
  silent _ := trivial
  trans _ _ := trivial
  halt _ h := h
  starved _ := by simp

theorem blames_iff_passes {post : Fault → Prop} {run : Run ν State} :
    Run.Blames grammar run post ↔ Run.Passes grammar (fun _ _ => True)
      (fun reason _ _ => ∀ fault ∈ reason, post fault) run := by
  constructor
  · intro h session hsession
    rcases hrun : run session with ⟨value | fault | _, after⟩
    · trivial
    · rintro _ ⟨⟩
      exact h session fault after hsession hrun
    · simp
  · intro h session fault after hsession hrun
    have hends := h session hsession
    rw [hrun] at hends
    exact hends fault rfl

/-- An application that ends with a fault raises it or makes a call that does, where the parts have
one unit of fuel less. -/
theorem blames_layer {F : Parser ν → State → Fault → Prop}
    (hparts : ∀ part state, Run.Blames grammar (apply grammar fuel part state) (F part state))
    (parser : Parser ν) (state : State) :
    Run.Blames grammar (apply grammar (fuel + 1) parser state) fun fault =>
      Faults grammar parser state fault ∨
        ∃ part middle, Calls grammar parser state part middle ∧ F part middle fault := by
  have hcall (part : Parser ν) (middle : State) (h : Calls grammar parser state part middle) :
      Run.Blames grammar (apply grammar fuel part middle) fun fault =>
        Faults grammar parser state fault ∨
          ∃ part middle, Calls grammar parser state part middle ∧ F part middle fault :=
    (hparts part middle).mono fun fault hraised => Or.inr ⟨part, middle, h, hraised⟩
  have passage := passage_blames (ν := ν) fun fault => Faults grammar parser state fault ∨
    ∃ part middle, Calls grammar parser state part middle ∧ F part middle fault
  refine blames_iff_passes.mpr (passes_layer passage ?_ ?_ ?_)
  · rintro fault hself _ _ ⟨⟩
    exact Or.inl hself
  · exact fun part middle h => blames_iff_passes.mp (hcall part middle h)
  · rintro label body rfl
    have hbody := blames_iff_passes.mp (hcall body state (.trace label body state))
    refine .bind passage (.log fun _ => trivial) (Run.Gives.log _ _ _ _) fun _ _ => ?_
    refine .bind passage hbody (gives_returns fuel body state) fun next _ => ?_
    refine .bind passage (.log fun _ => trivial) (Run.Gives.log _ _ _ _) fun _ _ => ?_
    exact .pure passage next

end Layers

end ParserCombinators.Parser
