import ParserCombinators.State.Basic

/-!
The messages of failures. The texts are part of what the parsers promise, so each stands here once.
-/

namespace ParserCombinators.Wording

/-- How many characters of the input a mismatch shows. -/
def shownLength : Nat := 10

def literalAtEnd (text : Text) : Text :=
  Text.ofString "literal: Tried to match " ++ text.quoted ++
    Text.ofString ", but got unexpected end of input."

def literalMismatch (text : Text) (state : State) : Text :=
  Text.ofString "literal: Tried to match " ++ text.quoted ++ Text.ofString ", but got " ++
    (state.ahead shownLength).quoted

def patternAtEnd (name : Text) : Text :=
  name ++ Text.ofString ": Got unexpected end of input."

def patternMismatch (name expected : Text) (state : State) : Text :=
  name ++ Text.ofString ": Could not match " ++ expected ++ Text.ofString " at index " ++
    Text.ofNat state.pos

def inputLeft (state : State) : Text :=
  Text.ofString "end_of_input: Expected end of input, but got " ++
    (state.ahead shownLength).quoted

def noAlternative (state : State) : Text :=
  Text.ofString "choice: Unable to match with any parser at index " ++ Text.ofNat state.pos

def noItem (state : State) : Text :=
  Text.ofString "many1: Unable to match any input using parser @ index " ++ Text.ofNat state.pos

def noSeparatedItem (state : State) : Text :=
  Text.ofString "sep_by1: Unable to capture any results at index " ++ Text.ofNat state.pos

end ParserCombinators.Wording
