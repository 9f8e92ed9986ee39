import ParserCombinators.Regex.Syntax

/-!
A place in the input during a match, with the text on either side of it.
-/

namespace ParserCombinators.Regex

structure Cursor where
  pos : Nat
  /-- The text before the cursor, nearest first. -/
  before : Text
  after : Text
  deriving DecidableEq, Repr

namespace Cursor

/-- A cursor that sees what stands before it. -/
def within (input : Text) (pos : Nat) : Cursor :=
  ⟨pos, (input.take pos).reverse, input.drop pos⟩

/-- A cursor for which the input begins at the position. -/
def startingAt (input : Text) (pos : Nat) : Cursor :=
  ⟨pos, [], input.drop pos⟩

def back? (cursor : Cursor) (width : Nat) : Option Cursor :=
  if cursor.before.length < width then none
  else some
    { pos := cursor.pos - width
      before := cursor.before.drop width
      after := (cursor.before.take width).reverse ++ cursor.after }

/-- Steps over the given text if it comes next, where letters compare by the fold. -/
def skip? (fold : Fold) : Text → Cursor → Option Cursor
  | [], cursor => some cursor
  | c :: text, cursor =>
    match cursor.after with
    | [] => none
    | next :: rest =>
      if fold.lower c = fold.lower next then
        skip? fold text ⟨cursor.pos + 1, next :: cursor.before, rest⟩
      else none

def step? (set : CharSet) (cursor : Cursor) : Option Cursor :=
  match cursor.after with
  | [] => none
  | next :: rest =>
    if set.has next then some ⟨cursor.pos + 1, next :: cursor.before, rest⟩ else none

/-- The text from `start` up to the later cursor `stop`. -/
def textTo (start stop : Cursor) : Text := start.after.take (stop.pos - start.pos)

private def isWordAt (ascii : Bool) (text : Text) : Bool :=
  match text with
  | [] => false
  | c :: _ => Category.word.has ascii c

/-- Whether an anchor holds. In an empty input there is neither a boundary nor its absence. -/
def satisfies (cursor : Cursor) : Anchor → Bool
  | .inputStart => cursor.before.isEmpty
  | .lineStart => cursor.before.isEmpty || cursor.before.head? == some CodePoint.newline
  | .inputEnd => cursor.after.isEmpty
  | .lastLineEnd => cursor.after.isEmpty || cursor.after == [CodePoint.newline]
  | .lineEnd => cursor.after.isEmpty || cursor.after.head? == some CodePoint.newline
  | .boundary negated ascii =>
    !(cursor.before.isEmpty && cursor.after.isEmpty) &&
      (isWordAt ascii cursor.before != isWordAt ascii cursor.after) != negated

end Cursor

end ParserCombinators.Regex
