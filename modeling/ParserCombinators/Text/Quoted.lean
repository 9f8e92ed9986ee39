import ParserCombinators.Unicode.Printable

/-!
The display form of a text: in quotes, on one line, with what is not printable written as an
escape. The quote is an apostrophe unless the text holds an apostrophe and no double quote.
-/

namespace ParserCombinators.Text

def hexDigit (d : Nat) : Nat := if d < 10 then 48 + d else 87 + d

/-- The last `width` hexadecimal digits of `n`, the most significant first. -/
def hexDigits : Nat → Nat → Text
  | 0, _ => []
  | width + 1, n => hexDigits width (n / 16) ++ [hexDigit (n % 16)]

def quoteMark (text : Text) : Nat :=
  if text.contains CodePoint.apostrophe && !text.contains CodePoint.doubleQuote then
    CodePoint.doubleQuote
  else CodePoint.apostrophe

/-- How `c` is written between two marks. -/
def displayIn (mark c : Nat) : Text :=
  if c = mark || c = CodePoint.backslash then [CodePoint.backslash, c]
  else if c = CodePoint.tab then ofString "\\t"
  else if c = CodePoint.newline then ofString "\\n"
  else if c = CodePoint.carriageReturn then ofString "\\r"
  else if Unicode.isPrintable c then [c]
  else if c < 0x100 then ofString "\\x" ++ hexDigits 2 c
  else if c < 0x10000 then ofString "\\u" ++ hexDigits 4 c
  else ofString "\\U" ++ hexDigits 8 c

def quoted (text : Text) : Text :=
  let mark := text.quoteMark
  [mark] ++ text.flatMap (displayIn mark) ++ [mark]

end ParserCombinators.Text
