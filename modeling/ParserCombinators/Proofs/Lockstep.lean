import ParserCombinators.Parser.Apply

/-!
Two runs in lockstep. Applications touch a session in two ways: they add to its log, and they
resolve names. So a relation between sessions that these two keep is kept by every application of
a parser, and the two runs end in the same way. The grammars may differ; where a name cannot be
resolved, the two runs may both end with faults of their own.

One induction on the fuel, over all forms of parsers, serves every such relation: that a session
has only definitions of the grammar, that it has tried to build none of them twice, or that it is
the session of a run over another grammar.
-/

namespace ParserCombinators

variable {ν α β : Type} {sync : Session ν → Session ν → Prop}
  {parted : Fault → Session ν → Fault → Session ν → Prop}

namespace Run

/-- The same end with sessions in sync, or two faults that part the runs. -/
inductive EndsAlike (sync : Session ν → Session ν → Prop)
    (parted : Fault → Session ν → Fault → Session ν → Prop) :
    Outcome α × Session ν → Outcome α × Session ν → Prop
  | same {outcome : Outcome α} {after after' : Session ν} :
      sync after after' → EndsAlike sync parted (outcome, after) (outcome, after')
  | parted {fault fault' : Fault} {after after' : Session ν} :
      parted fault after fault' after' →
      EndsAlike sync parted (.raised fault, after) (.raised fault', after')

/-- From sessions in sync the runs end alike. -/
def InStep (sync : Session ν → Session ν → Prop)
    (parted : Fault → Session ν → Fault → Session ν → Prop) (run run' : Run ν α) : Prop :=
  ∀ session session', sync session session' → EndsAlike sync parted (run session) (run' session')

namespace InStep

/-- A run that ends at once leaves the session as it is. -/
theorem ending (outcome : Outcome α) :
    InStep sync parted (fun session => (outcome, session)) fun session => (outcome, session) :=
  fun _ _ h => .same h

theorem pure (value : α) : InStep sync parted (Pure.pure value : Run ν α) (Pure.pure value) :=
  ending (.done value)

theorem raise (fault : Fault) : InStep sync parted (Run.raise fault : Run ν α) (Run.raise fault) :=
  ending (.raised fault)

theorem outOfFuel : InStep sync parted (Run.outOfFuel : Run ν α) Run.outOfFuel :=
  ending .outOfFuel

theorem ofExcept (result : Except Fault α) :
    InStep sync parted (Run.ofExcept result : Run ν α) (Run.ofExcept result) := by
  cases result with
  | ok value => exact pure value
  | error fault => exact raise fault

theorem bind {run run' : Run ν α} {next next' : α → Run ν β} (hrun : InStep sync parted run run')
    (hnext : ∀ value, InStep sync parted (next value) (next' value)) :
    InStep sync parted (run >>= next) (run' >>= next') := by
  intro session session' hsync
  have hends := hrun session session' hsync
  rw [bind_apply, bind_apply]
  generalize run session = first, run' session' = second at hends
  cases hends with
  | @same outcome after after' hafter =>
      cases outcome with
      | done value => exact hnext value after after' hafter
      | raised fault => exact .same hafter
      | outOfFuel => exact .same hafter
  | parted hparted => exact .parted hparted

theorem ite {condition : Prop} [Decidable condition] {first first' second second' : Run ν α}
    (hfirst : InStep sync parted first first') (hsecond : InStep sync parted second second') :
    InStep sync parted (if condition then first else second)
      (if condition then first' else second') := by
  split
  · exact hfirst
  · exact hsecond

end InStep

end Run

open Run

namespace Parser

section Loops

variable {step step' : Parser ν → State → Run ν State}

theorem inStep_onSuccess {state : State} {body body' : Run ν State}
    (h : InStep sync parted body body') :
    InStep sync parted (state.onSuccess body) (state.onSuccess body') := by
  unfold State.onSuccess
  exact .ite (.pure state) h

theorem inStep_inOrder
    (hstep : ∀ part state, InStep sync parted (step part state) (step' part state))
    (parts : List (Parser ν)) (found : List Value) (state : State) :
    InStep sync parted (inOrder step parts found state) (inOrder step' parts found state) := by
  induction parts generalizing found state with
  | nil => exact .pure _
  | cons part parts ih => exact .bind (hstep part state) fun next => .ite (.pure next) (ih _ next)

theorem inStep_firstSuccess
    (hstep : ∀ part state, InStep sync parted (step part state) (step' part state)) (state : State)
    (alternatives : List (Parser ν)) :
    InStep sync parted (firstSuccess step state alternatives)
      (firstSuccess step' state alternatives) := by
  induction alternatives with
  | nil => exact .pure none
  | cons alternative alternatives ih =>
      exact .bind (hstep alternative state) fun next => .ite ih (.pure (some next))

theorem inStep_iterate {item item' : State → Run ν State}
    (hitem : ∀ state, InStep sync parted (item state) (item' state)) (fuel : Nat)
    (found : List Value) (state : State) :
    InStep sync parted (iterate item fuel found state) (iterate item' fuel found state) := by
  induction fuel generalizing found state with
  | zero => exact .outOfFuel
  | succ fuel ih =>
      refine .bind (hitem state) fun next => .ite (.pure _) ?_
      exact .ite (.pure _) (ih _ next)

theorem inStep_alternate {separator separator' item item' : State → Run ν State}
    (hseparator : ∀ state, InStep sync parted (separator state) (separator' state))
    (hitem : ∀ state, InStep sync parted (item state) (item' state)) (fuel : Nat)
    (found : List Value) (state : State) :
    InStep sync parted (alternate separator item fuel found state)
      (alternate separator' item' fuel found state) := by
  induction fuel generalizing found state with
  | zero => exact .outOfFuel
  | succ fuel ih =>
      refine .bind (hitem state) fun next => .ite (.pure _) ?_
      exact .bind (hseparator next) fun between => .ite (.pure _) (ih _ between)

theorem inStep_drive
    (hstep : ∀ part state, InStep sync parted (step part state) (step' part state))
    (steps : List Value → Step ν) (fuel : Nat) (received : List Value) (state : State) :
    InStep sync parted (drive step steps fuel received state)
      (drive step' steps fuel received state) := by
  induction fuel generalizing received state with
  | zero => exact .outOfFuel
  | succ fuel ih =>
      unfold drive
      cases steps received with
      | finish value => exact .pure _
      | raise fault => exact .raise fault
      | offer value => exact .raise _
      | run parser =>
          exact .bind (hstep parser state) fun next => .ite (.pure next) (ih _ next)

end Loops

variable [DecidableEq ν] {grammar grammar' : Grammar ν}

/-- What a relation of sessions has to be kept by: a record in both logs, and a name that both
grammars resolve. -/
structure Lockstep (grammar grammar' : Grammar ν) (sync : Session ν → Session ν → Prop)
    (parted : Fault → Session ν → Fault → Session ν → Prop) : Prop where
  record : ∀ session session' record, sync session session' →
    sync { session with records := record :: session.records }
      { session' with records := record :: session'.records }
  resolve : ∀ name, InStep sync parted (resolve grammar name) (resolve grammar' name)

namespace Lockstep

theorem log (h : Lockstep grammar grammar' sync parted) (level : Level) (moment : Moment)
    (subject : Text) (state : State) :
    InStep sync parted (Run.log level moment subject state) (Run.log level moment subject state) :=
  fun session session' hsync => .same (h.record session session' _ hsync)

/-- Every application keeps the step. -/
theorem apply (h : Lockstep grammar grammar' sync parted) (fuel : Nat) (parser : Parser ν)
    (state : State) :
    InStep sync parted (apply grammar fuel parser state) (apply grammar' fuel parser state) := by
  induction fuel generalizing parser state with
  | zero => exact .outOfFuel
  | succ fuel ih =>
      cases parser with
      | literal text caseSensitive => exact inStep_onSuccess (.pure _)
      | pattern name compiled expected => exact inStep_onSuccess (.pure _)
      | endOfInput => exact inStep_onSuccess (.pure _)
      | fail message => exact inStep_onSuccess (.pure _)
      | succeed value => exact inStep_onSuccess (.pure _)
      | transform name f => exact .pure _
      | broken fault => exact .raise fault
      | sequence parts => exact inStep_onSuccess (inStep_inOrder ih parts [] state)
      | choice alternatives =>
          refine inStep_onSuccess (.bind (inStep_firstSuccess ih state alternatives) ?_)
          rintro (_ | next)
          · exact .pure _
          · exact .pure next
      | many item =>
          exact inStep_onSuccess (.bind (inStep_iterate (ih item) fuel [] state) fun _ => .pure _)
      | many1 item =>
          exact inStep_onSuccess (.bind (inStep_iterate (ih item) fuel [] state) fun _ => .pure _)
      | separated separator item =>
          have hloop := inStep_alternate (ih separator) (ih item) fuel [] state
          exact inStep_onSuccess (.bind hloop fun _ => .pure _)
      | separated1 separator item =>
          have hloop := inStep_alternate (ih separator) (ih item) fuel [] state
          exact inStep_onSuccess (.bind hloop fun _ => .pure _)
      | optional item => exact inStep_onSuccess (.bind (ih item state) fun _ => .pure _)
      | lazy body => exact ih body state
      | ref name => exact .bind (h.resolve name) fun body => ih body state
      | map source f =>
          refine .bind (ih source state) fun next => .ite (.pure next) ?_
          exact .bind (.ofExcept (f next.result)) fun _ => .pure _
      | chain source f =>
          exact .bind (ih source state) fun next => .ite (.pure next) (ih (f next.result) next)
      | mapError source f => exact .bind (ih source state) fun _ => .pure _
      | routine name steps => exact inStep_onSuccess (inStep_drive ih steps fuel [] state)
      | trace label body =>
          refine .bind (h.log _ _ _ _) fun _ => .bind (ih body state) fun next => ?_
          exact .bind (h.log _ _ _ _) fun _ => .pure next

theorem run (h : Lockstep grammar grammar' sync parted) (fuel : Nat) (parser : Parser ν)
    (input : Text) (debug : Bool) :
    InStep sync parted (run grammar fuel parser input debug)
      (run grammar' fuel parser input debug) := by
  have hrest : InStep sync parted
      (do
        let final ← Parser.apply grammar fuel parser (State.start input debug)
        if debug then Run.log .info .finish parser.name final
        return final)
      (do
        let final ← Parser.apply grammar' fuel parser (State.start input debug)
        if debug then Run.log .info .finish parser.name final
        return final) :=
    .bind (h.apply fuel parser _) fun final =>
      .ite (.bind (h.log _ _ _ _) fun _ => .pure final) (.pure final)
  exact .ite (.bind (h.log _ _ _ _) fun _ => hrest) hrest

end Lockstep

end Parser

end ParserCombinators
