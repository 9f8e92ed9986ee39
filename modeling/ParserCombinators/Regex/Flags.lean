/-!
Flags of a pattern. They are given beside the pattern, at its start, or for a group.
-/

namespace ParserCombinators.Regex

structure Flags where
  ignoreCase : Bool := false
  multiline : Bool := false
  dotAll : Bool := false
  verbose : Bool := false
  ascii : Bool := false
  unicode : Bool := false
  deriving DecidableEq, Repr

namespace Flags

def none : Flags := {}

def union (a b : Flags) : Flags where
  ignoreCase := a.ignoreCase || b.ignoreCase
  multiline := a.multiline || b.multiline
  dotAll := a.dotAll || b.dotAll
  verbose := a.verbose || b.verbose
  ascii := a.ascii || b.ascii
  unicode := a.unicode || b.unicode

def remove (a b : Flags) : Flags where
  ignoreCase := a.ignoreCase && !b.ignoreCase
  multiline := a.multiline && !b.multiline
  dotAll := a.dotAll && !b.dotAll
  verbose := a.verbose && !b.verbose
  ascii := a.ascii && !b.ascii
  unicode := a.unicode && !b.unicode

def inter (a b : Flags) : Flags := a.remove (a.remove b)

/-- The flags that choose the alphabet. At most one of them holds in a pattern. -/
def alphabet (flags : Flags) : Flags := { ascii := flags.ascii, unicode := flags.unicode }

/-- The flags inside a group that adds some and removes others. A new alphabet replaces the old
one. -/
def within (outer added removed : Flags) : Flags :=
  let kept := if added.alphabet = none then outer else outer.remove outer.alphabet
  (kept.union added).remove removed

def ofLetter? (c : Nat) : Option Flags :=
  if c = 'i'.toNat then some { ignoreCase := true }
  else if c = 'm'.toNat then some { multiline := true }
  else if c = 's'.toNat then some { dotAll := true }
  else if c = 'x'.toNat then some { verbose := true }
  else if c = 'a'.toNat then some { ascii := true }
  else if c = 'u'.toNat then some { unicode := true }
  else Option.none

end Flags

end ParserCombinators.Regex
