import ParserCombinators.State.Basic

/-!
Records of a log. A run in debug mode leaves one record of its first and one of its last state, and
a traced parser one of the state before it and one of the state after it.
-/

namespace ParserCombinators

inductive Level where
  | debug
  | info
  | warning
  deriving DecidableEq, Repr

def Level.rank : Level → Nat
  | debug => 10
  | info => 20
  | warning => 30

inductive Moment where
  | start
  | finish
  | before
  | after
  deriving DecidableEq, Repr

structure Record where
  level : Level
  moment : Moment
  subject : Text
  state : State

def Moment.word : Moment → String
  | start => "start"
  | finish => "end"
  | before => "before"
  | after => "after"

def Record.message (record : Record) : Text :=
  record.subject ++ Text.ofString ": " ++ Text.ofString record.moment.word ++ Text.ofString " " ++
    record.state.display

end ParserCombinators
