import ParserCombinators.Text.Basic

/-!
ASCII digits of the usual bases, and the numbers that runs of them write.
-/

namespace ParserCombinators

namespace Digit

def isDecimal (c : Nat) : Bool := 48 ≤ c && c ≤ 57

def isOctal (c : Nat) : Bool := 48 ≤ c && c ≤ 55

def isHexadecimal (c : Nat) : Bool :=
  isDecimal c || (65 ≤ c && c ≤ 70) || (97 ≤ c && c ≤ 102)

def isAsciiLetter (c : Nat) : Bool := (65 ≤ c && c ≤ 90) || (97 ≤ c && c ≤ 122)

def value (c : Nat) : Nat := if c ≤ 57 then c - 48 else if c ≤ 70 then c - 55 else c - 87

/-- The number that a run of digits of the base writes. -/
def number (base : Nat) (digits : Text) : Nat :=
  digits.foldl (fun found c => found * base + value c) 0

end Digit

end ParserCombinators
