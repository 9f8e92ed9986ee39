import ParserCombinators.Parser.Basic

/-!
Routines written as machines. A machine has a stage, which every result moves on, and takes the
step that its stage asks for; so what holds of a routine can be said of its stages alone.
-/

namespace ParserCombinators

structure Machine (ν σ : Type) where
  start : σ
  resume : σ → Value → σ
  step : σ → Step ν

namespace Machine

variable {ν σ : Type}

/-- The stage after the results received so far, the latest first. -/
def stage (machine : Machine ν σ) : List Value → σ
  | [] => machine.start
  | result :: received => machine.resume (machine.stage received) result

def parser (machine : Machine ν σ) (name : String) : Parser ν :=
  .routine (Text.ofString name) fun received => machine.step (machine.stage received)

end Machine

end ParserCombinators
