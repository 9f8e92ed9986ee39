import ParserCombinators.Lexical.Classes
import ParserCombinators.Lexical.Float
import ParserCombinators.Lexical.Integer
import ParserCombinators.Lexical.QuotedString
import ParserCombinators.Parser.Apply
import ParserCombinators.Proofs.CursorBounds
import ParserCombinators.Proofs.FailedStates
import ParserCombinators.Proofs.FailureKinds
import ParserCombinators.Proofs.LexicalBounds
import ParserCombinators.Proofs.OrderedChoice.Adequacy
import ParserCombinators.State.Rejection
import ParserCombinators.Value.Operations
import ParserCombinators.Proofs.Faults
import ParserCombinators.Proofs.Raises
import ParserCombinators.Proofs.Agreement
import ParserCombinators.Proofs.Alike
import ParserCombinators.Proofs.Coupling
import ParserCombinators.Proofs.Correspondence
import ParserCombinators.Proofs.MatchLocality
import ParserCombinators.Proofs.RemainingInput
import ParserCombinators.Proofs.Diagnostics
import ParserCombinators.Proofs.Consumption
import ParserCombinators.Proofs.ChainLaws
import ParserCombinators.Proofs.Renaming
import ParserCombinators.Proofs.StepDriver
import ParserCombinators.Proofs.ChainMonad
import ParserCombinators.Proofs.Repetition
import ParserCombinators.Proofs.Backtracking
import ParserCombinators.Proofs.Lockstep
import ParserCombinators.Proofs.Histories
import ParserCombinators.Proofs.ClassRuns
import ParserCombinators.Proofs.ClassSources
import ParserCombinators.Proofs.Machines
import ParserCombinators.Proofs.WholeRuns
import ParserCombinators.Proofs.Numerals
import ParserCombinators.Proofs.QuotedStrings
import ParserCombinators.Proofs.ListGrammar
import ParserCombinators.Proofs.MatchedTexts
import ParserCombinators.Proofs.Parentheses
import ParserCombinators.Proofs.Settling
import ParserCombinators.Proofs.Decimals
import ParserCombinators.Proofs.FloatTexts
import ParserCombinators.Proofs.SuppliedParsers
import ParserCombinators.Proofs.CaselessLiterals
import ParserCombinators.Proofs.AnchorScans
import ParserCombinators.Proofs.PatternReading
import ParserCombinators.Proofs.StartAnchors
import ParserCombinators.Proofs.FailurePlaces
import ParserCombinators.Proofs.StandardStrings
import ParserCombinators.Proofs.Integers
import ParserCombinators.Proofs.LongestMatches
import ParserCombinators.Proofs.FloatNumbers
import ParserCombinators.Proofs.SourceLines
import ParserCombinators.Proofs.PositionNotes
import ParserCombinators.Proofs.SeparatedExpansion
import ParserCombinators.Proofs.Continuations
import ParserCombinators.Proofs.GreedyRepetition
import ParserCombinators.Proofs.LongQuotes
import ParserCombinators.Proofs.LoweredInputs
import ParserCombinators.Proofs.LoweredTexts
import ParserCombinators.Proofs.Passages
import ParserCombinators.Proofs.Traces
import ParserCombinators.Proofs.Coordinates
import ParserCombinators.Proofs.Lexemes
import ParserCombinators.Proofs.ChoiceLaws
import ParserCombinators.Proofs.MaximalMunch
