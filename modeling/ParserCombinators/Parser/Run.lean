import ParserCombinators.Parser.Basic
import ParserCombinators.Parser.Log

/-!
Runs: computations that keep a session and end with a value, with a fault, or for want of fuel.
The session holds the definitions built so far, the attempts to build one, and the log. A run that
ends with a fault keeps what the session has gained until then.
-/

namespace ParserCombinators

/-- `built` names the definition of every attempt to build one, and `records` is the log, both
with the latest first. -/
structure Session (ν : Type) where
  definitions : List (ν × Parser ν)
  built : List ν
  records : List Record

namespace Session

variable {ν : Type}

def empty : Session ν := ⟨[], [], []⟩

/-- The records at a level or above, the earliest first. -/
def recordsFrom (session : Session ν) (level : Level) : List Record :=
  (session.records.filter fun record => level.rank ≤ record.level.rank).reverse

end Session

inductive Outcome (α : Type) where
  | done (value : α)
  | raised (fault : Fault)
  | outOfFuel

def Run (ν α : Type) := Session ν → Outcome α × Session ν

namespace Run

variable {ν α β : Type}

@[inline] protected def pure (value : α) : Run ν α := fun session => (.done value, session)

@[inline] protected def bind (run : Run ν α) (next : α → Run ν β) : Run ν β := fun session =>
  match run session with
  | (.done value, session) => next value session
  | (.raised fault, session) => (.raised fault, session)
  | (.outOfFuel, session) => (.outOfFuel, session)

@[inline] instance : Monad (Run ν) where
  pure := Run.pure
  bind := Run.bind

instance : LawfulMonad (Run ν) :=
  LawfulMonad.mk' (Run ν)
    (fun run => by
      funext session
      simp only [Functor.map, Run.bind]
      rcases run session with ⟨_ | _ | _, _⟩ <;> rfl)
    (fun _ _ => rfl)
    (fun run _ _ => by
      funext session
      simp only [Bind.bind, Run.bind]
      rcases run session with ⟨_ | _ | _, _⟩ <;> rfl)

theorem bind_apply (run : Run ν α) (next : α → Run ν β) (session : Session ν) :
    (run >>= next) session =
      match run session with
      | (.done value, session) => next value session
      | (.raised fault, session) => (.raised fault, session)
      | (.outOfFuel, session) => (.outOfFuel, session) := rfl

/-- A sequence of two runs ends with a value just when both do. -/
theorem bind_eq_done_iff {run : Run ν α} {next : α → Run ν β} {session last : Session ν}
    {value : β} :
    (run >>= next) session = (.done value, last) ↔
      ∃ middle between, run session = (.done middle, between) ∧
        next middle between = (.done value, last) := by
  rw [bind_apply]
  rcases run session with ⟨middle | fault | _, between⟩
  · constructor
    · intro h
      exact ⟨middle, between, rfl, h⟩
    · rintro ⟨_, _, hrun, hnext⟩
      cases hrun
      exact hnext
  · simp
  · simp

def raise (fault : Fault) : Run ν α := fun session => (.raised fault, session)

def outOfFuel : Run ν α := fun session => (.outOfFuel, session)

def ofExcept : Except Fault α → Run ν α
  | .ok value => pure value
  | .error fault => raise fault

def log (level : Level) (moment : Moment) (subject : Text) (state : State) : Run ν Unit :=
  fun session =>
    (.done (), { session with records := ⟨level, moment, subject, state⟩ :: session.records })

/-- The parser behind a name. It is built on first use and kept; building one that raises a fault
is tried again at the next use. -/
def resolve [DecidableEq ν] (grammar : Grammar ν) (name : ν) : Run ν (Parser ν) := fun session =>
  match session.definitions.lookup name with
  | some parser => (.done parser, session)
  | none =>
    let session := { session with built := name :: session.built }
    match grammar name with
    | .ok parser =>
      (.done parser, { session with definitions := (name, parser) :: session.definitions })
    | .error fault => (.raised fault, session)

end Run

end ParserCombinators
