import ParserCombinators.Text.Lines
import ParserCombinators.Value.Display

/-!
The state that parsers thread: the input, a position in it, the last result, and whether and why
the parsers have failed. A failure keeps the position and the result it was met with.
-/

namespace ParserCombinators

/-- Why a state failed: no input was left, something did not match, a repetition that needs one
item found none, or the grammar asked for the failure. -/
inductive FailureKind where
  | endOfInput
  | noMatch
  | exhausted
  | failed
  deriving DecidableEq, Repr

/-- A failed state usually has an error and a kind, but the fields are independent. -/
structure State where
  input : Text
  pos : Nat
  result : Value
  error : Option Text
  failed : Bool
  kind : Option FailureKind
  debug : Bool

namespace State

def start (input : Text) (debug : Bool) : State :=
  { input, pos := 0, result := .null, error := none, failed := false, kind := none, debug }

def rest (state : State) : Text := state.input.drop state.pos

def atEnd (state : State) : Bool := state.input.length ≤ state.pos

def position (state : State) : Position := state.input.coordinates state.pos

/-- The next code points of the input, as messages quote them. -/
def ahead (state : State) (count : Nat) : Text :=
  state.input.slice state.pos (state.pos + count)

def moveTo (state : State) (pos : Nat) (result : Value) : State := { state with pos, result }

def withResult (state : State) (result : Value) : State := { state with result }

/-- Marks the state as failed; position and result stay. -/
def fail (state : State) (kind : FailureKind) (message : Text) : State :=
  { state with error := some message, failed := true, kind := some kind }

end State

namespace FailureKind

def name : FailureKind → Text
  | endOfInput => Text.ofString "END_OF_INPUT"
  | noMatch => Text.ofString "NO_MATCH"
  | exhausted => Text.ofString "EXHAUSTED"
  | failed => Text.ofString "FAILED"

def number : FailureKind → Nat
  | endOfInput => 1
  | noMatch => 2
  | exhausted => 3
  | failed => 4

def display (kind : FailureKind) : Text :=
  Text.ofString "<ErrorKind." ++ kind.name ++ Text.ofString ": " ++ Text.ofNat kind.number ++
    Text.ofString ">"

end FailureKind

/-- The display form of a state, as logs show it. -/
def State.display (state : State) : Text :=
  Text.ofString "ParseState(target=" ++ state.input.quoted ++
    Text.ofString ", index=" ++ Text.ofNat state.pos ++
    Text.ofString ", result=" ++ state.result.display ++
    Text.ofString ", error=" ++ (state.error.elim .null Value.text).display ++
    Text.ofString ", is_error=" ++ (Value.bool state.failed).display ++
    Text.ofString ", error_kind=" ++ state.kind.elim Value.null.display FailureKind.display ++
    Text.ofString ", debug=" ++ (Value.bool state.debug).display ++ Text.ofString ")"

end ParserCombinators
