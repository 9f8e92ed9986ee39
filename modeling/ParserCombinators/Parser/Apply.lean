import ParserCombinators.Parser.Run
import ParserCombinators.Parser.Wording
import ParserCombinators.Unicode.Lowercase

/-!
What parsers do to states. Every loop is a function of the step that it repeats, so its laws can be
stated for any step. Most parsers leave a failed state as it is; those that compute from the state
of an inner parser, and those that the grammar wrote itself, are given it all the same.

Fuel bounds the depth of parsers inside one another, and the rounds of each loop.
-/

namespace ParserCombinators

variable {ν : Type}

/-- What is done to a state that has not failed. -/
@[inline] def State.onSuccess (state : State) (body : Run ν State) : Run ν State :=
  if state.failed then pure state else body

namespace Parser

/-- Compares the next characters with the text, their lower cases if case does not count. The
result is the text of the parser, not that of the input. -/
def matchLiteral (text : Text) (caseSensitive : Bool) (state : State) : State :=
  if state.atEnd then state.fail .endOfInput (Wording.literalAtEnd text)
  else
    let actual := state.ahead text.length
    let equal := if caseSensitive then actual == text else actual.lower == text.lower
    if equal then state.moveTo (state.pos + text.length) (.text text)
    else state.fail .noMatch (Wording.literalMismatch text state)

/-- No pattern matches at the end of the input, not even one that matches the empty text. -/
def matchPattern (name : Text) (compiled : Regex.Pattern) (expected : Text) (state : State) :
    State :=
  if state.atEnd then state.fail .endOfInput (Wording.patternAtEnd name)
  else
    match compiled.matchAt? state.input state.pos with
    | some found => state.moveTo (state.pos + found.length) (.text found)
    | none => state.fail .noMatch (Wording.patternMismatch name expected state)

def matchEnd (state : State) : State :=
  if state.atEnd then state.withResult .null
  else state.fail .noMatch (Wording.inputLeft state)

/-- Runs the parts one after the other up to the first that fails. `found` holds the results so
far, the latest first. -/
def inOrder (apply : Parser ν → State → Run ν State) :
    List (Parser ν) → List Value → State → Run ν State
  | [], found, state => pure (state.withResult (.list found.reverse))
  | part :: parts, found, state => do
    let next ← apply part state
    if next.failed then pure next else inOrder apply parts (next.result :: found) next

/-- The state of the first alternative that succeeds, none if all fail. -/
def firstSuccess (apply : Parser ν → State → Run ν State) (state : State) :
    List (Parser ν) → Run ν (Option State)
  | [] => pure none
  | alternative :: alternatives => do
    let next ← apply alternative state
    if next.failed then firstSuccess apply state alternatives else pure (some next)

/-- Repeats an item until it fails or succeeds without moving, and gives the last state that
succeeded with the results, the latest first. -/
def iterate (item : State → Run ν State) :
    Nat → List Value → State → Run ν (State × List Value)
  | 0, _, _ => Run.outOfFuel
  | fuel + 1, found, state => do
    let next ← item state
    if next.failed then pure (state, found)
    else if next.pos = state.pos then pure (next, next.result :: found)
    else iterate item fuel (next.result :: found) next

/-- Repeats an item and a separator in turn. A separator counts only if it ends at another place
than where the item before it began; one after the last item is consumed. -/
def alternate (separator item : State → Run ν State) :
    Nat → List Value → State → Run ν (State × List Value)
  | 0, _, _ => Run.outOfFuel
  | fuel + 1, found, state => do
    let next ← item state
    if next.failed then pure (state, found)
    else
      let between ← separator next
      if between.failed || between.pos == state.pos then pure (next, next.result :: found)
      else alternate separator item fuel (next.result :: found) between

/-- Runs the steps of a routine, each given the results so far, the latest first. -/
def drive (apply : Parser ν → State → Run ν State) (steps : List Value → Step ν) :
    Nat → List Value → State → Run ν State
  | 0, _, _ => Run.outOfFuel
  | fuel + 1, received, state =>
    match steps received with
    | .finish value => pure (state.withResult value)
    | .raise fault => Run.raise fault
    | .offer value => Run.raise (.grammar (.notParser value))
    | .run parser => do
      let next ← apply parser state
      if next.failed then pure next else drive apply steps fuel (next.result :: received) next

/-- The state with the collected results as its result. -/
def gather (collected : State × List Value) : State :=
  collected.1.withResult (.list collected.2.reverse)

/-- The collected results, or a failure at the state `start` if there are none. -/
def gatherSome (start : State) (message : Text) (collected : State × List Value) : State :=
  if collected.2.isEmpty then start.fail .exhausted message else gather collected

/-- The level of a trace: a run in debug mode lifts it. -/
def traceLevel (state : State) : Level := if state.debug then .info else .debug

variable [DecidableEq ν]

def apply (grammar : Grammar ν) : Nat → Parser ν → State → Run ν State
  | 0, _, _ => Run.outOfFuel
  | fuel + 1, parser, state =>
    match parser with
    | literal text caseSensitive =>
      state.onSuccess (pure (matchLiteral text caseSensitive state))
    | pattern name compiled expected =>
      state.onSuccess (pure (matchPattern name compiled expected state))
    | endOfInput => state.onSuccess (pure (matchEnd state))
    | sequence parts => state.onSuccess (inOrder (apply grammar fuel) parts [] state)
    | choice alternatives => state.onSuccess do
      match ← firstSuccess (apply grammar fuel) state alternatives with
      | some next => pure next
      | none => pure (state.fail .noMatch (Wording.noAlternative state))
    | many item => state.onSuccess do
      return gather (← iterate (apply grammar fuel item) fuel [] state)
    | many1 item => state.onSuccess do
      return gatherSome state (Wording.noItem state)
        (← iterate (apply grammar fuel item) fuel [] state)
    | separated separator item => state.onSuccess do
      return gather (← alternate (apply grammar fuel separator) (apply grammar fuel item)
        fuel [] state)
    | separated1 separator item => state.onSuccess do
      return gatherSome state (Wording.noSeparatedItem state)
        (← alternate (apply grammar fuel separator) (apply grammar fuel item)
          fuel [] state)
    | optional item => state.onSuccess do
      let next ← apply grammar fuel item state
      pure (if next.failed then state.withResult .null else next)
    | lazy body => apply grammar fuel body state
    | ref name => do
      let body ← Run.resolve grammar name
      apply grammar fuel body state
    | fail message => state.onSuccess (pure (state.fail .failed message))
    | succeed value => state.onSuccess (pure (state.withResult value))
    | map source f => do
      let next ← apply grammar fuel source state
      if next.failed then pure next
      else do
        let value ← Run.ofExcept (f next.result)
        pure (next.withResult value)
    | chain source f => do
      let next ← apply grammar fuel source state
      if next.failed then pure next else apply grammar fuel (f next.result) next
    | mapError source f => do
      let next ← apply grammar fuel source state
      pure (if next.failed then { next with error := some (f next.error next.pos) } else next)
    | routine _ steps => state.onSuccess (drive (apply grammar fuel) steps fuel [] state)
    | trace label body => do
      Run.log (traceLevel state) .before label state
      let next ← apply grammar fuel body state
      Run.log (traceLevel state) .after label next
      pure next
    | transform _ f => pure (f state)
    | broken fault => Run.raise fault

/-- Runs a parser on an input from its start. In debug mode the first and the last state are
logged, and traces are logged at a higher level. -/
def run (grammar : Grammar ν) (fuel : Nat) (parser : Parser ν) (input : Text) (debug : Bool) :
    Run ν State := do
  let start := State.start input debug
  if debug then Run.log .info .start parser.name start
  let final ← apply grammar fuel parser start
  if debug then Run.log .info .finish parser.name final
  return final

end Parser

end ParserCombinators
