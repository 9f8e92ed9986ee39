import ParserCombinators.Text.Basic

/-!
Whether the text of a pattern shows an anchor for the start of the input outside a class. The scan
knows brackets and backslashes only, so it takes a comment for a part of the pattern.
-/

namespace ParserCombinators.Regex

/-- Where in a pattern the scan is. A closing bracket right after the opening one, or after the
circumflex that negates the class, does not close it. -/
inductive Scan where
  | outside
  | escaped
  | opened
  | negated
  | inside
  | insideEscaped
  deriving DecidableEq, Repr

namespace Scan

def ofMember (c : Nat) : Scan :=
  if c = CodePoint.backslash then insideEscaped else inside

/-- The place after one more code point, none if it is an anchor. -/
def step? : Scan → Nat → Option Scan
  | outside, c =>
    if c = CodePoint.backslash then some escaped
    else if c = '['.toNat then some opened
    else if c = '^'.toNat then none
    else some outside
  | escaped, c => if c = 'A'.toNat then none else some outside
  | opened, c => some (if c = '^'.toNat then negated else ofMember c)
  | negated, c => some (ofMember c)
  | inside, c => some (if c = ']'.toNat then outside else ofMember c)
  | insideEscaped, _ => some inside

def findsAnchor : Scan → Text → Bool
  | _, [] => false
  | scan, c :: rest =>
    match scan.step? c with
    | some scan => scan.findsAnchor rest
    | none => true

end Scan

/-- Whether the pattern has a circumflex or an escaped A outside its classes. -/
def showsStartAnchor (source : Text) : Bool := Scan.outside.findsAnchor source

end ParserCombinators.Regex
