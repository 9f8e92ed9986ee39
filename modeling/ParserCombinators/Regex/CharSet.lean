import ParserCombinators.Regex.Flags
import ParserCombinators.Unicode.Classes
import ParserCombinators.Unicode.Lowercase

/-!
Sets of code points, as classes and single literals of a pattern denote them. A set that ignores
case holds every code point with the same lower case as a member, and two lower case letters with
the same upper case count as one letter.
-/

namespace ParserCombinators.Regex

inductive Category where
  | digit
  | space
  | word
  deriving DecidableEq, Repr

namespace Category

def hasAscii : Category → Nat → Bool
  | digit, c => 48 ≤ c && c ≤ 57
  | space, c => (9 ≤ c && c ≤ 13) || c == 32
  | word, c =>
    (48 ≤ c && c ≤ 57) || (65 ≤ c && c ≤ 90) || c == 95 || (97 ≤ c && c ≤ 122)

def hasUnicode : Category → Nat → Bool
  | digit, c => Unicode.isDigit c
  | space, c => Unicode.isSpace c
  | word, c => Unicode.isWord c

def has (category : Category) (ascii : Bool) (c : Nat) : Bool :=
  if ascii then category.hasAscii c else category.hasUnicode c

end Category

/-- How the letters of a pattern compare with those of the input. -/
inductive Fold where
  | exact
  | ascii
  | unicode
  deriving DecidableEq, Repr

namespace Fold

def lower : Fold → Nat → Nat
  | exact, c => c
  | ascii, c => if 65 ≤ c && c ≤ 90 then c + 32 else c
  | unicode, c => Unicode.lowerSimple c

/-- The lower case letters that share their upper case with another one. -/
def classes : List (List Nat) :=
  [[0x69, 0x131], [0x73, 0x17F], [0xB5, 0x3BC], [0x345, 0x3B9, 0x1FBE], [0x390, 0x1FD3],
   [0x3B0, 0x1FE3], [0x3B2, 0x3D0], [0x3B5, 0x3F5], [0x3B8, 0x3D1], [0x3BA, 0x3F0],
   [0x3C0, 0x3D6], [0x3C1, 0x3F1], [0x3C2, 0x3C3], [0x3C6, 0x3D5], [0x432, 0x1C80],
   [0x434, 0x1C81], [0x43E, 0x1C82], [0x441, 0x1C83], [0x442, 0x1C84, 0x1C85],
   [0x44A, 0x1C86], [0x463, 0x1C87], [0x1C88, 0xA64B], [0x1E61, 0x1E9B], [0xFB05, 0xFB06]]

/-- The code points that a pattern's `c` stands for when it is compared with this fold. -/
def variants : Fold → Nat → List Nat
  | exact, c => [c]
  | ascii, c =>
    let small := ascii.lower c
    if 97 ≤ small && small ≤ 122 then [small, small - 32] else [small]
  | unicode, c =>
    let small := unicode.lower c
    let alike := (classes.find? (·.contains small)).getD [small]
    alike.flatMap fun letter => letter :: Unicode.lowerSources letter

end Fold

inductive SetItem where
  | range (first last : Nat)
  | category (kind : Category) (negated ascii : Bool)
  deriving DecidableEq, Repr

def SetItem.has (fold : Fold) : SetItem → Nat → Bool
  | range first last, c => (fold.variants c).any fun v => first ≤ v && v ≤ last
  | category kind negated ascii, c => kind.has ascii (fold.lower c) != negated

structure CharSet where
  items : List SetItem
  negated : Bool
  fold : Fold
  deriving DecidableEq, Repr

namespace CharSet

def has (set : CharSet) (c : Nat) : Bool :=
  (set.items.any fun item => item.has set.fold c) != set.negated

def single (c : Nat) (fold : Fold) : CharSet := ⟨[.range c c], false, fold⟩

/-- What a dot stands for: everything, or everything but a newline. -/
def dot (newlines : Bool) : CharSet :=
  if newlines then ⟨[], true, .exact⟩
  else ⟨[.range CodePoint.newline CodePoint.newline], true, .exact⟩

end CharSet

end ParserCombinators.Regex
