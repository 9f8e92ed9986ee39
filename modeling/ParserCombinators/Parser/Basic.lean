import ParserCombinators.Fault
import ParserCombinators.State.Basic

/-!
Parsers as data. A parser is a tree over the primitives and combinators; the functions that a
grammar supplies stand in it as functions of values, and recursion goes through names that a
grammar defines. What a parser does to a state is defined elsewhere, once for all of them.
-/

namespace ParserCombinators

mutual

/-- A parser over definitions named by `ν`. `broken` stands where a parser should have been built
and was not: applying it raises the fault. -/
inductive Parser (ν : Type) where
  | literal (text : Text) (caseSensitive : Bool)
  | pattern (name : Text) (compiled : Regex.Pattern) (expected : Text)
  | endOfInput
  | sequence (parts : List (Parser ν))
  | choice (alternatives : List (Parser ν))
  | many (item : Parser ν)
  | many1 (item : Parser ν)
  | separated (separator item : Parser ν)
  | separated1 (separator item : Parser ν)
  | optional (item : Parser ν)
  | lazy (body : Parser ν)
  | ref (name : ν)
  | fail (message : Text)
  | succeed (value : Value)
  | map (source : Parser ν) (f : Value → Except Fault Value)
  | chain (source : Parser ν) (next : Value → Parser ν)
  | mapError (source : Parser ν) (f : Option Text → Nat → Text)
  | routine (name : Text) (steps : List Value → Step ν)
  | trace (label : Text) (body : Parser ν)
  | transform (name : Text) (f : State → State)
  | broken (fault : Fault)

/-- What a routine does after the results it has received: it ends with a value, raises a fault,
runs a parser, or offers a value where a parser is wanted. -/
inductive Step (ν : Type) where
  | finish (value : Value)
  | raise (fault : Fault)
  | run (parser : Parser ν)
  | offer (value : Value)

end

instance {ν : Type} : Inhabited (Parser ν) := ⟨.endOfInput⟩

instance {ν : Type} : Inhabited (Step ν) := ⟨.finish .null⟩

/-- The definitions behind the names. Building one may raise a fault. -/
abbrev Grammar (ν : Type) := ν → Except Fault (Parser ν)

namespace Parser

variable {ν : Type}

def call (function : String) (argument : Text) : Text :=
  Text.ofString function ++ Text.ofString "(" ++ argument ++ Text.ofString ")"

/-- The name in displays and logs. -/
def name : Parser ν → Text
  | literal text _ => call "literal" text.quoted
  | pattern name _ _ => name
  | endOfInput => Text.ofString "end_of_input"
  | sequence _ => Text.ofString "sequence"
  | choice _ => Text.ofString "choice"
  | many item => call "many" item.name
  | many1 item => call "many1" item.name
  | separated _ item => call "sep_by" item.name
  | separated1 _ item => call "sep_by1" item.name
  | optional item => call "optional" item.name
  | lazy _ => Text.ofString "lazy"
  | ref _ => Text.ofString "lazy"
  | fail _ => Text.ofString "fail"
  | succeed _ => Text.ofString "succeed"
  | map source _ => source.name ++ Text.ofString ".map"
  | chain source _ => source.name ++ Text.ofString ".chain"
  | mapError source _ => source.name ++ Text.ofString ".error_map"
  | routine name _ => name
  | trace label _ => call "debug" label
  | transform name _ => name
  | broken _ => Text.ofString "parser"

def display (parser : Parser ν) : Text :=
  Text.ofString "<Parser " ++ parser.name ++ Text.ofString ">"

/-- A parser that could not be built raises its fault when it is applied. -/
def ofExcept : Except Fault (Parser ν) → Parser ν
  | .ok parser => parser
  | .error fault => broken fault

/-- A literal text of at least one character. -/
def literalOf (text : Text) (caseSensitive : Bool) : Except Fault (Parser ν) :=
  if text.isEmpty then .error (.grammar .emptyLiteral) else .ok (literal text caseSensitive)

/-- A choice among at least one parser. -/
def choiceOf (alternatives : List (Parser ν)) : Except Fault (Parser ν) :=
  if alternatives.isEmpty then .error (.grammar .noAlternatives)
  else .ok (choice alternatives)

def ofPattern (compiled : Regex.Pattern) : Parser ν :=
  pattern (Text.ofString "regex") compiled
    (Text.ofString "/" ++ compiled.source ++ Text.ofString "/")

/-- The parser of a pattern given by its text. -/
def regex (source : Text) (flags : Regex.Flags) : Except Fault (Parser ν) :=
  match Regex.Pattern.compile source flags with
  | .ok compiled => .ok (ofPattern compiled)
  | .error error => .error (.pattern error)

/-- The result of the content alone. -/
def between (left right content : Parser ν) : Parser ν :=
  map (sequence [left, content, right]) fun results => .ok (results.item 1)

/-- The texts of a list one after the other. -/
def joinTexts (value : Value) : Except Fault Value :=
  match value.join? [] with
  | some joined => .ok joined
  | none => .error .notText

/-- Traces a parser under a label, its own name if none is given. -/
def traced (body : Parser ν) (label : Option Text) : Parser ν :=
  trace (label.getD body.name) body

/-- Something that gives no steps in the place of a routine. -/
def withoutSteps (shown : Text) : Parser ν :=
  routine (Text.ofString "contextual") fun _ => .raise (.grammar (.notSteps shown))

end Parser

end ParserCombinators
