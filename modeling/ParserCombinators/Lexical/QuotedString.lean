import ParserCombinators.Number.Numeral
import ParserCombinators.Parser.Machine

/-!
Strings in quotes. A string ends at the quote it began with; an escape stands before a character
that is to be replaced, that begins a longer sequence, or that stands for itself. Between escapes
the text is taken in runs of characters that occur in neither the quote nor the escape.
-/

namespace ParserCombinators.Lexical

variable {ν : Type}

/-- How strings are written. `replacements` maps the character after an escape to what it stands
for, and `sequences` to the parser of the rest of its sequence; the first of the two wins. -/
structure Quoting (ν : Type) where
  quotes : List Text
  escape : Text
  replacements : List (Text × Text)
  sequences : List (Text × Parser ν)

/-- The character whose code point a hexadecimal numeral writes. -/
def characterOf : Value → Except Fault Value
  | .text digits =>
    match Numeral.read 16 digits with
    | .ok code =>
      if 0 ≤ code ∧ code ≤ 0x10FFFF then .ok (.text [code.toNat])
      else .error (.numeral (.notCodePoint code))
    | .error error => .error (.numeral error)
  | _ => .error .notText

private def expectedDigits (index : Nat) : Text :=
  Text.ofString "Expected 4 hexadecimal characters after unicode escape sequence at index " ++
    Text.ofNat index ++ Text.ofString "."

/-- The part of a Unicode escape after its letter. The result is the character. -/
def codeUnit : Parser ν :=
  .map (.mapError (.ofExcept (Parser.regex (Text.ofString "[0-9a-fA-F]\x7b4\x7d") .none))
    fun _ index => expectedDigits index) characterOf

def codeUnitEscape : Parser ν :=
  .map (.sequence [.literal (Text.ofString "u") true, codeUnit])
    fun results => .ok (results.item 1)

/-- The usual escapes of control characters. -/
def controlEscapes : List (Text × Text) :=
  [('b', 8), ('f', 12), ('n', 10), ('r', 13), ('t', 9)].map fun (letter, c) =>
    ([Char.toNat letter], [c])

/-- Either quote, a backslash, the usual control characters, and Unicode escapes. -/
def Quoting.standard : Quoting ν where
  quotes := [[CodePoint.doubleQuote], [CodePoint.apostrophe]]
  escape := [CodePoint.backslash]
  replacements := controlEscapes
  sequences := [(Text.ofString "u", codeUnit)]

namespace Quoting

/-- What follows an escape: nothing is read yet, the character is, or its sequence is. -/
inductive EscapeStage where
  | character
  | selected (c : Text)
  | decoded (result : Value)

def resumeEscape : EscapeStage → Value → EscapeStage
  | .character, .text c => .selected c
  | .character, result => .decoded result
  | .selected _, result => .decoded result
  | .decoded result, _ => .decoded result

def anyCharacter (quoting : Quoting ν) : Parser ν :=
  .mapError (.ofExcept (Parser.regex (Text.ofString ".") { dotAll := true })) fun _ index =>
    Text.ofString "Expected a character to escape after `" ++ quoting.escape ++
      Text.ofString "` at index " ++ Text.ofNat index ++ Text.ofString "."

def stepEscape (quoting : Quoting ν) : EscapeStage → Step ν
  | .character => .run quoting.anyCharacter
  | .selected c =>
    match quoting.replacements.lookup c with
    | some replacement => .finish (.text replacement)
    | none =>
      match quoting.sequences.lookup c with
      | some parser => .run parser
      | none => .finish (.text c)
  | .decoded result => .finish result

/-- What follows an escape, up to its end. -/
def escaped (quoting : Quoting ν) : Parser ν :=
  Machine.parser ⟨.character, resumeEscape, quoting.stepEscape⟩ "escaped"

/-- Where in a string the parser is. The chunks read so far are kept with the latest first. Each is
meant to be a text, but what the parser of a sequence gives is seen only when they are joined. -/
inductive Stage where
  | opening
  /-- The quote is no text, and nothing can be said of what stands between two of it. -/
  | unreadable
  | plain (quote : Text) (chunks : List Value)
  | escape (quote : Text) (chunks : List Value)
  | escaped (quote : Text) (chunks : List Value)
  | closing (quote : Text) (chunks : List Value)
  | closed (chunks : List Value)

def resume : Stage → Value → Stage
  | .opening, .text quote => .plain quote []
  | .opening, _ => .unreadable
  | .unreadable, _ => .unreadable
  | .plain quote chunks, .null => .escape quote chunks
  | .plain quote chunks, result => .escape quote (result :: chunks)
  | .escape quote chunks, .null => .closing quote chunks
  | .escape quote chunks, _ => .escaped quote chunks
  | .escaped quote chunks, result => .plain quote (result :: chunks)
  | .closing _ chunks, _ => .closed chunks
  | .closed chunks, _ => .closed chunks

def anyQuote (quoting : Quoting ν) : Parser ν :=
  .ofExcept do Parser.choiceOf (← quoting.quotes.mapM fun quote => Parser.literalOf quote true)

/-- The pattern of the characters that occur in neither the quote nor the escape. -/
def plainSource (quoting : Quoting ν) (quote : Text) : Text :=
  Text.ofString "[^" ++ Regex.escape quote ++ Regex.escape quoting.escape ++ Text.ofString "]+"

/-- The longest run of such characters, at least one. -/
def plainText (quoting : Quoting ν) (quote : Text) : Parser ν :=
  .ofExcept (Parser.regex (quoting.plainSource quote) .none)

def plainRun (quoting : Quoting ν) (quote : Text) : Parser ν := .optional (quoting.plainText quote)

def closingQuote (quote : Text) : Parser ν :=
  .mapError (.ofExcept (Parser.literalOf quote true)) fun _ index =>
    Text.ofString "Expected closing quote `" ++ quote ++ Text.ofString "` at index " ++
      Text.ofNat index ++ Text.ofString "."

def step (quoting : Quoting ν) : Stage → Step ν
  | .opening => .run quoting.anyQuote
  | .unreadable => .raise .notText
  | .plain quote _ => .run (quoting.plainRun quote)
  | .escape _ _ => .run (.optional (.ofExcept (Parser.literalOf quoting.escape true)))
  | .escaped _ _ => .run quoting.escaped
  | .closing quote _ => .run (closingQuote quote)
  | .closed chunks =>
    match Parser.joinTexts (.list chunks.reverse) with
    | .ok text => .finish text
    | .error fault => .raise fault

end Quoting

/-- A string in quotes. The result is the text that it stands for. -/
def quotedString (quoting : Quoting ν) : Parser ν :=
  Machine.parser ⟨.opening, Quoting.resume, quoting.step⟩ "quoted"

end ParserCombinators.Lexical
