import ParserCombinators.Regex.CharSet

/-!
The syntax tree of a pattern. The flags in force are resolved at the leaves, so a tree has a
meaning without any flags beside it.
-/

namespace ParserCombinators.Regex

inductive Anchor where
  | inputStart
  | lineStart
  | inputEnd
  | lastLineEnd
  | lineEnd
  | boundary (negated ascii : Bool)
  deriving DecidableEq, Repr

/-- Which number of rounds a loop tries first, and whether it comes back to the others. -/
inductive Greed where
  | greedy
  | lazy
  | possessive
  deriving DecidableEq, Repr

inductive Node where
  | empty
  | one (set : CharSet)
  | seq (first second : Node)
  | alt (first second : Node)
  | group (index : Nat) (body : Node)
  | backref (index : Nat) (fold : Fold)
  | conditional (index : Nat) (yes no : Node)
  | loop (least : Nat) (most : Option Nat) (greed : Greed) (body : Node)
  | atomic (body : Node)
  | ahead (negated : Bool) (body : Node)
  | behind (width : Nat) (negated : Bool) (body : Node)
  | anchor (kind : Anchor)
  deriving DecidableEq, Repr

namespace Node

/-- Whether the tree is a single class of code points. -/
def isSingle : Node → Bool
  | one _ => true
  | _ => false

/-- A choice between two trees. Two classes that are not negated make up one class. -/
def either : Node → Node → Node
  | one a, one b =>
    if a.negated || b.negated || a.fold != b.fold then alt (one a) (one b)
    else one { a with items := a.items ++ b.items }
  | first, second => alt first second

/-- Whether the tree asks for the start of the input or of a line. -/
def hasStartAnchor : Node → Bool
  | anchor .inputStart => true
  | anchor .lineStart => true
  | anchor _ => false
  | empty => false
  | one _ => false
  | backref _ _ => false
  | seq first second => first.hasStartAnchor || second.hasStartAnchor
  | alt first second => first.hasStartAnchor || second.hasStartAnchor
  | conditional _ yes no => yes.hasStartAnchor || no.hasStartAnchor
  | group _ body => body.hasStartAnchor
  | loop _ _ _ body => body.hasStartAnchor
  | atomic body => body.hasStartAnchor
  | ahead _ body => body.hasStartAnchor
  | behind _ _ body => body.hasStartAnchor

end Node

/-- The least and the greatest number of code points that a match has; none is unbounded. -/
structure Width where
  least : Nat
  most : Option Nat
  deriving DecidableEq, Repr

namespace Width

def fixed (n : Nat) : Width := ⟨n, some n⟩

def add (a b : Width) : Width :=
  ⟨a.least + b.least, do return (← a.most) + (← b.most)⟩

def either (a b : Width) : Width :=
  ⟨min a.least b.least, do return max (← a.most) (← b.most)⟩

/-- A loop of an empty body has no width however often it runs. -/
def repeated (body : Width) (least : Nat) (most : Option Nat) : Width :=
  ⟨body.least * least,
    if body.most = some 0 || most = some 0 then some 0 else do return (← body.most) * (← most)⟩

def isFixed (width : Width) : Bool := width.most == some width.least

end Width

/-- The width of a tree whose groups have the given widths. Look-around takes no room. -/
def Node.width (groups : Nat → Width) : Node → Width
  | empty => .fixed 0
  | one _ => .fixed 1
  | seq first second => (first.width groups).add (second.width groups)
  | alt first second => (first.width groups).either (second.width groups)
  | group _ body => body.width groups
  | backref index _ => groups index
  | conditional _ yes no => (yes.width groups).either (no.width groups)
  | loop least most _ body => (body.width groups).repeated least most
  | atomic body => body.width groups
  | ahead _ _ => .fixed 0
  | behind _ _ _ => .fixed 0
  | anchor _ => .fixed 0

end ParserCombinators.Regex
