/-!
Text as a list of code points. Every position, length and column counts code points, and a code
point may be a surrogate, which an escape such as `\ud83d` can produce; so text is not `String`.
Conversions go from `String` only. Writing text out is left to the caller.
-/

namespace ParserCombinators

/-- A code point is a natural number. -/
abbrev Text := List Nat

namespace CodePoint

abbrev tab : Nat := 9

abbrev newline : Nat := 10

abbrev carriageReturn : Nat := 13

abbrev space : Nat := 32

abbrev doubleQuote : Nat := 34

abbrev apostrophe : Nat := 39

abbrev backslash : Nat := 92

abbrev underscore : Nat := 95

end CodePoint

namespace Text

def ofString (s : String) : Text := s.toList.map Char.toNat

/-- The decimal digits of `n`, without leading zeros. -/
def ofNat (n : Nat) : Text := (Nat.toDigits 10 n).map Char.toNat

def ofInt : Int → Text
  | .ofNat n => ofNat n
  | .negSucc n => ofString "-" ++ ofNat (n + 1)

/-- The part of `text` from `start` up to `stop`, cut at the end of the text. -/
def slice (text : Text) (start stop : Nat) : Text := (text.drop start).take (stop - start)

/-- The texts one after the other with `separator` between them. -/
def join (separator : Text) (texts : List Text) : Text := separator.intercalate texts

end Text

end ParserCombinators
