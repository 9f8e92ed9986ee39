import ParserCombinators.State.Basic

/-!
The error that a failed run gives to callers who want a result or nothing.
-/

namespace ParserCombinators

structure Rejection where
  source : Text
  pos : Nat
  message : Option Text
  kind : Option FailureKind

namespace Rejection

def note (error : Rejection) : Text := error.source.noteAt error.pos

/-- The text of the error, empty without a message. -/
def text (error : Rejection) : Text := error.message.getD []

end Rejection

/-- The state itself unless it failed. -/
def State.check (state : State) : Except Rejection State :=
  if state.failed then .error ⟨state.input, state.pos, state.error, state.kind⟩ else .ok state

end ParserCombinators
