import ParserCombinators.Number.Numeral
import ParserCombinators.Regex.Pattern
import ParserCombinators.Value.Display

/-!
Faults: what ends a run without any state. A fault is a mistake in the grammar, a numeral that is
refused, or an error that a function of the grammar raised, and no parser recovers from it.
-/

namespace ParserCombinators

inductive GrammarError where
  | emptyLiteral
  | noAlternatives
  /-- A routine was asked of something that gives no steps, shown by its display form. -/
  | notSteps (shown : Text)
  | notParser (offered : Value)

inductive Fault where
  | grammar (error : GrammarError)
  | pattern (error : Regex.PatternError)
  | numeral (error : NumeralError)
  | user (message : Text)

/-- A function that reads a text was given a value of another kind. -/
def Fault.notText : Fault := .user (Text.ofString "a text is wanted")

def GrammarError.message : GrammarError → Text
  | emptyLiteral => Text.ofString "literal: At least one character required."
  | noAlternatives => Text.ofString "choice: At least one parser required."
  | notSteps shown =>
    Text.ofString "contextual: " ++ shown ++ Text.ofString " must be a generator function."
  | notParser offered =>
    Text.ofString "contextual: Yielded values must always be parsers, got " ++ offered.display

end ParserCombinators
