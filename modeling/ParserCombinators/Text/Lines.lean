import ParserCombinators.Text.Basic

/-!
Lines of a source text, and the note that shows a position in it. A position has its line and
column by newlines alone, while the lines that a note quotes are split at every line break of
Unicode, and a carriage return with the newline after it is one break.
-/

namespace ParserCombinators

/-- A line and a column, both counted from one. -/
structure Position where
  line : Nat
  column : Nat
  deriving DecidableEq, Repr

namespace Text

/-- A position past the end has the coordinates of the end. -/
def coordinates (source : Text) (pos : Nat) : Position :=
  let before := source.take pos
  { line := before.count CodePoint.newline + 1
    column := (before.reverse.takeWhile (· != CodePoint.newline)).length + 1 }

def isLineBreak (c : Nat) : Bool :=
  (10 ≤ c && c ≤ 13) || (0x1C ≤ c && c ≤ 0x1E) || c == 0x85 || c == 0x2028 || c == 0x2029

/-- The lines without their breaks. A break at the very end opens no further line. -/
def splitLines : Text → List Text
  | [] => []
  | 13 :: 10 :: rest => [] :: splitLines rest
  | c :: rest =>
    if isLineBreak c then [] :: splitLines rest
    else
      match splitLines rest with
      | [] => [[c]]
      | line :: lines => (c :: line) :: lines

/-- A window of the line around the column, with a caret on a line of its own. -/
def excerpt (line : Text) (column : Nat) : Text :=
  let window := if column ≤ 20 then line.take 40 else line.slice (column - 20) (column + 20)
  let indent := if column ≤ 20 then column - 1 else 20
  window ++ [CodePoint.newline] ++ List.replicate indent CodePoint.space ++ ofString "^"

/-- The note has no excerpt when the position lies on no character of a quoted line. -/
def noteAt (source : Text) (pos : Nat) : Text :=
  let place := source.coordinates pos
  let header := ofString "At position " ++ ofNat (min pos source.length) ++ ofString " (line " ++
    ofNat place.line ++ ofString ", column " ++ ofNat place.column ++ ofString ")"
  match source.splitLines[place.line - 1]? with
  | some line =>
    if place.column ≤ line.length then header ++ [CodePoint.newline] ++ line.excerpt place.column
    else header
  | none => header

end Text

end ParserCombinators
