import ParserCombinators.Proofs.Calls

/-!
What a run does to its session, put together from what its calls do. Sessions are linked by the
parts that end with a value, one after the other; the part that ends with a fault or for want of
fuel halts the run. So a relation of sessions that composes, and that resolving a name cannot break,
holds of a run if it holds of each call that the run makes. The loops are followed call by call:
what came before a call is told by the states that the parts before it have returned.
-/

namespace ParserCombinators

variable {ν α β : Type}

/-- Relations of the session before a run to the session after it: `link` if the run ends with a
value, and `halts` if it ends with a fault or, where there is none, for want of fuel. -/
structure Passage (link : Session ν → Session ν → Prop)
    (halts : Option Fault → Session ν → Session ν → Prop) : Prop where
  silent : ∀ {session after}, after.records = session.records → link session after
  trans : ∀ {session middle after}, link session middle → link middle after → link session after
  halt : ∀ {reason session middle after}, link session middle → halts reason middle after →
    halts reason session after
  starved : ∀ session, halts none session session

variable [DecidableEq ν] {grammar : Grammar ν} {link : Session ν → Session ν → Prop}
  {halts : Option Fault → Session ν → Session ν → Prop}

namespace Run

/-- From every coherent session the run leaves a session in the relation that goes with its end. -/
def Passes (grammar : Grammar ν) (link : Session ν → Session ν → Prop)
    (halts : Option Fault → Session ν → Session ν → Prop) (run : Run ν α) : Prop :=
  ∀ session, session.Coherent grammar →
    match run session with
    | (.done _, after) => link session after
    | (.raised fault, after) => halts (some fault) session after
    | (.outOfFuel, after) => halts none session after

namespace Passes

variable (passage : Passage link halts)

include passage

theorem pure (value : α) : Passes grammar link halts (Pure.pure value : Run ν α) :=
  fun _ _ => passage.silent rfl

theorem outOfFuel : Passes grammar link halts (Run.outOfFuel : Run ν α) :=
  fun session _ => passage.starved session

omit passage in
theorem raise {fault : Fault} (h : ∀ session, halts (some fault) session session) :
    Passes grammar link halts (Run.raise fault : Run ν α) := fun session _ => h session

theorem ofExcept {result : Except Fault α}
    (h : ∀ fault, result = .error fault → ∀ session, halts (some fault) session session) :
    Passes grammar link halts (Run.ofExcept result) := by
  cases result with
  | ok value => exact pure passage value
  | error fault => exact raise (h fault rfl)

theorem bind {run : Run ν α} {next : α → Run ν β} {middle : α → Prop}
    (hrun : Passes grammar link halts run) (hgives : Gives grammar run middle)
    (hnext : ∀ value, middle value → Passes grammar link halts (next value)) :
    Passes grammar link halts (run >>= next) := by
  intro session hsession
  have hfirst := hrun session hsession
  rw [bind_apply]
  rcases hends : run session with ⟨value | fault | _, between⟩
  · rw [hends] at hfirst
    obtain ⟨hvalue, hbetween⟩ := hgives session value between hsession hends
    have hsecond := hnext value hvalue between hbetween
    rcases hlast : next value between with ⟨_ | fault | _, after⟩ <;>
      simp only [hlast] at hsecond ⊢
    · exact passage.trans hfirst hsecond
    · exact passage.halt hfirst hsecond
    · exact passage.halt hfirst hsecond
  · rwa [hends] at hfirst
  · rwa [hends] at hfirst

omit passage in
/-- What is made of a value leaves the session as it is. -/
theorem andReturn {run : Run ν α} (hrun : Passes grammar link halts run) (f : α → β) :
    Passes grammar link halts (run >>= fun value => Pure.pure (f value)) := by
  intro session hsession
  have hfirst := hrun session hsession
  rw [bind_apply]
  rcases hends : run session with ⟨value | fault | _, between⟩ <;> rwa [hends] at hfirst

omit passage in
theorem log {level : Level} {moment : Moment} {subject : Text} {state : State}
    (h : ∀ session : Session ν, link session
      { session with records := ⟨level, moment, subject, state⟩ :: session.records }) :
    Passes grammar link halts (Run.log level moment subject state) := fun session _ => h session

/-- A name that is resolved may be kept, and the attempt to build it noted; the log stays. -/
theorem resolve {name : ν} (h : ∀ fault, grammar name = .error fault →
      ∀ session, halts (some fault) session session) :
    Passes grammar link halts (Run.resolve grammar name) := by
  intro session _
  unfold Run.resolve
  cases hkept : session.definitions.lookup name with
  | some parser => exact passage.silent rfl
  | none =>
      cases hbody : grammar name with
      | ok parser => exact passage.silent rfl
      | error fault => exact passage.halt (passage.silent (by rfl)) (h fault hbody _)

omit passage in
theorem ite {condition : Prop} [Decidable condition] {first second : Run ν α}
    (hfirst : condition → Passes grammar link halts first)
    (hsecond : ¬ condition → Passes grammar link halts second) :
    Passes grammar link halts (if condition then first else second) := by
  split
  next h => exact hfirst h
  next h => exact hsecond h

end Passes

end Run

namespace Parser

section Loops

variable (passage : Passage link halts) {R : Parser ν → State → State → Prop}
  {step : Parser ν → State → Run ν State}

include passage

theorem passes_onSuccess {state : State} {body : Run ν State}
    (hbody : state.failed = false → Run.Passes grammar link halts body) :
    Run.Passes grammar link halts (state.onSuccess body) := by
  unfold State.onSuccess
  exact .ite (fun _ => .pure passage state) fun h => hbody (Bool.eq_false_iff.mpr h)

theorem passes_inOrder (hstep : ∀ part state, Run.Gives grammar (step part state) (R part state))
    (parts : List (Parser ν)) (found : List Value) (state : State)
    (hparts : ∀ before part after values middle, parts = before ++ part :: after →
      Through R before state values middle → Run.Passes grammar link halts (step part middle)) :
    Run.Passes grammar link halts (inOrder step parts found state) := by
  induction parts generalizing found state with
  | nil => exact .pure passage _
  | cons part parts ih =>
      have hfirst := hparts [] part parts [] state rfl (.nil state)
      refine .bind passage hfirst (hstep part state) fun next hnext => ?_
      refine .ite (fun _ => .pure passage next) fun hfailed => ih (next.result :: found) next ?_
      rintro before stop after values middle rfl hthrough
      exact hparts (part :: before) stop after (next.result :: values) middle rfl
        (.cons hnext (Bool.eq_false_iff.mpr hfailed) hthrough)

theorem passes_firstSuccess
    (hstep : ∀ part state, Run.Gives grammar (step part state) (R part state)) (state : State)
    (alternatives : List (Parser ν))
    (hparts : ∀ before alternative after, alternatives = before ++ alternative :: after →
      Refuses R state before → Run.Passes grammar link halts (step alternative state)) :
    Run.Passes grammar link halts (firstSuccess step state alternatives) := by
  induction alternatives with
  | nil => exact .pure passage none
  | cons alternative alternatives ih =>
      have hfirst := hparts [] alternative alternatives rfl .nil
      refine .bind passage hfirst (hstep alternative state) fun next hnext => ?_
      refine .ite (fun hfailed => ih ?_) fun _ => .pure passage (some next)
      rintro before chosen after rfl hbefore
      exact hparts (alternative :: before) chosen after rfl (.cons hnext hfailed hbefore)

theorem passes_iterate {R : State → State → Prop} {item : State → Run ν State}
    (hgives : ∀ state, Run.Gives grammar (item state) (R state)) (fuel : Nat)
    (found : List Value) (state : State)
    (hitem : ∀ values middle, Rounds (Round R) state values middle →
      Run.Passes grammar link halts (item middle)) :
    Run.Passes grammar link halts (iterate item fuel found state) := by
  induction fuel generalizing found state with
  | zero => exact .outOfFuel passage
  | succ fuel ih =>
      refine .bind passage (hitem [] state (.nil state)) (hgives state) fun next hnext => ?_
      refine .ite (fun _ => .pure passage _) fun hfailed => ?_
      refine .ite (fun _ => .pure passage _) fun hpos => ih (next.result :: found) next ?_
      intro values middle hrounds
      have hround : Round R state next.result next :=
        ⟨hnext, Bool.eq_false_iff.mpr hfailed, hpos, rfl⟩
      exact hitem (next.result :: values) middle (.cons hround hrounds)

theorem passes_alternate {S R : State → State → Prop} {separator item : State → Run ν State}
    (hbetween : ∀ state, Run.Gives grammar (separator state) (S state))
    (hgives : ∀ state, Run.Gives grammar (item state) (R state)) (fuel : Nat)
    (found : List Value) (state : State)
    (hitem : ∀ values middle, Rounds (Turn S R) state values middle →
      Run.Passes grammar link halts (item middle))
    (hseparator : ∀ values middle next, Rounds (Turn S R) state values middle → R middle next →
      next.failed = false → Run.Passes grammar link halts (separator next)) :
    Run.Passes grammar link halts (alternate separator item fuel found state) := by
  induction fuel generalizing found state with
  | zero => exact .outOfFuel passage
  | succ fuel ih =>
      refine .bind passage (hitem [] state (.nil state)) (hgives state) fun next hnext => ?_
      refine .ite (fun _ => .pure passage _) fun hfailed => ?_
      rw [Bool.not_eq_true] at hfailed
      have hstart := hseparator [] state next (.nil state) hnext hfailed
      refine .bind passage hstart (hbetween next) fun between hafter => ?_
      refine .ite (fun _ => .pure passage _) fun hends => ?_
      rw [Bool.or_eq_true, beq_iff_eq, not_or, Bool.not_eq_true] at hends
      have hturn : Turn S R state next.result between :=
        ⟨next, hnext, hfailed, rfl, hafter, hends.1, hends.2⟩
      refine ih (next.result :: found) between ?_ ?_
      · intro values middle hturns
        exact hitem (next.result :: values) middle (.cons hturn hturns)
      · intro values middle last hturns
        exact hseparator (next.result :: values) middle last (.cons hturn hturns)

/-- A routine is halted by a step that raises a fault, too. -/
theorem passes_drive (hstep : ∀ part state, Run.Gives grammar (step part state) (R part state))
    (steps : List Value → Step ν) (fuel : Nat) (received : List Value) (state : State)
    (hparts : ∀ all middle parser, Driven R steps received state all middle →
      steps all = .run parser → Run.Passes grammar link halts (step parser middle))
    (hraise : ∀ all middle fault, Driven R steps received state all middle →
      steps all = .raise fault → ∀ session, halts (some fault) session session)
    (hoffer : ∀ all middle value, Driven R steps received state all middle →
      steps all = .offer value →
        ∀ session, halts (some (.grammar (.notParser value))) session session) :
    Run.Passes grammar link halts (drive step steps fuel received state) := by
  induction fuel generalizing received state with
  | zero => exact .outOfFuel passage
  | succ fuel ih =>
      have hhere : Driven R steps received state received state := .nil received state
      unfold drive
      cases hnow : steps received with
      | finish value => exact .pure passage _
      | raise fault => exact .raise (hraise received state fault hhere hnow)
      | offer value => exact .raise (hoffer received state value hhere hnow)
      | run parser =>
          have hfirst := hparts received state parser hhere hnow
          refine .bind passage hfirst (hstep parser state) fun next hnext => ?_
          refine .ite (fun _ => .pure passage next) fun hfailed => ?_
          have hlater {all : List Value} {middle : State}
              (h : Driven R steps (next.result :: received) next all middle) :
              Driven R steps received state all middle :=
            .cons hnow hnext (Bool.eq_false_iff.mpr hfailed) h
          exact ih (next.result :: received) next
            (fun all middle parser h => hparts all middle parser (hlater h))
            (fun all middle fault h => hraise all middle fault (hlater h))
            fun all middle value h => hoffer all middle value (hlater h)

end Loops

end Parser

end ParserCombinators
