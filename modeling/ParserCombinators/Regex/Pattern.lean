import ParserCombinators.Regex.AnchorScan
import ParserCombinators.Regex.Match
import ParserCombinators.Regex.Reader

/-!
Compiled patterns. A pattern is matched at a position of a text. If its text shows an anchor for
the start of the input, the input begins for it at that position; otherwise it sees what stands
before the position.
-/

namespace ParserCombinators.Regex

inductive PatternError where
  | malformed (error : SyntaxError)
  | incompatibleFlags
  deriving DecidableEq, Repr

structure Pattern where
  source : Text
  flags : Flags
  root : Node
  deriving DecidableEq, Repr

namespace Pattern

/-- The flags of a pattern end with one alphabet, and Unicode unless ASCII is asked for. -/
def compile (source : Text) (flags : Flags) : Except PatternError Pattern := do
  let some tokens := Token.ofText? source
    | throw (.malformed .trailingBackslash)
  match Reader.whole.run (.start tokens flags) with
  | .error error => throw (.malformed error)
  | .ok (root, reader) =>
    if reader.flags.ascii && reader.flags.unicode then throw .incompatibleFlags
    unless reader.tokens.isEmpty do throw (.malformed .unbalancedParenthesis)
    if reader.conditions.any (reader.groups.length < ·) then throw (.malformed .unknownGroup)
    if reader.hasVariableBehind then throw (.malformed .variableWidthLookbehind)
    let flags := if reader.flags.ascii then reader.flags else reader.flags.union { unicode := true }
    return { source, flags, root }

/-- Compiles the text of a pattern again with more flags; without any it stays as it is. -/
def withFlags (pattern : Pattern) (flags : Flags) : Except PatternError Pattern :=
  if flags = .none then .ok pattern else compile pattern.source (flags.union pattern.flags)

/-- Whether the input begins at the position of the match. -/
def startsAtCursor (pattern : Pattern) : Bool := showsStartAnchor pattern.source

def cursorAt (pattern : Pattern) (input : Text) (pos : Nat) : Cursor :=
  if pattern.startsAtCursor then .startingAt input pos else .within input pos

/-- The text that the pattern matches at the position. -/
def matchAt? (pattern : Pattern) (input : Text) (pos : Nat) : Option Text :=
  let start := pattern.cursorAt input pos
  (pattern.root.run false start Attempt.succeed .none).1.map start.textTo

end Pattern

/-- The code points that a backslash must precede to stand for themselves. -/
def specials : Text :=
  [40, 41, 91, 93, 123, 125, 63, 42, 43, 45, 124, 94, 36, 92, 46, 38, 126, 35, 32, 9, 10, 13, 11,
    12]

/-- The pattern that matches exactly this text. -/
def escape (text : Text) : Text :=
  text.flatMap fun c => if specials.contains c then [CodePoint.backslash, c] else [c]

end ParserCombinators.Regex
