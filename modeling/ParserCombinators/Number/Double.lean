/-!
Doubles in exact arithmetic on natural numbers. A double is its sign and the other 63 bits read
as a number, which order the absolute values: the bits of a value are its position on the grid
of doubles. Rounding is to the nearest, a tie going to the even neighbour, and what is at least
half a step beyond the largest finite double is infinite.
-/

namespace ParserCombinators

structure Double where
  negative : Bool
  magnitude : Nat
  deriving DecidableEq, Repr

namespace Double

def twoTo (n : Nat) : Nat := Nat.pow 2 n

/-- The magnitude of infinity: every exponent bit set and no other. -/
def infinity : Nat := 0x7FF * twoTo 52

/-- The quotient rounded to the nearest integer, a tie to the even one. -/
def roundDiv (numerator denominator : Nat) : Nat :=
  let quotient := numerator / denominator
  let rest := numerator % denominator
  if 2 * rest < denominator then quotient
  else if 2 * rest = denominator then quotient + quotient % 2
  else quotient + 1

/-- The magnitude of the double nearest to a quotient. A double is a multiple of the least one,
which is two to the power of -1074, with at most 53 bits after `shift` zeros; a carry out of the
rounding moves on to the next exponent by itself. -/
def magnitudeOfRatio (numerator denominator : Nat) : Nat :=
  let scaled := numerator * twoTo 1074
  let shift := Nat.log2 (scaled / denominator) - 52
  min infinity (shift * twoTo 52 + roundDiv scaled (denominator * twoTo shift))

/-- The absolute value of a finite double as a multiple of the least one. -/
def multiple (x : Double) : Nat :=
  let exponent := x.magnitude / twoTo 52
  let fraction := x.magnitude % twoTo 52
  if exponent = 0 then fraction else (fraction + twoTo 52) * twoTo (exponent - 1)

def isFinite (x : Double) : Bool := x.magnitude < infinity

/-- Equality of values: the two zeros are equal, and there is no other case of two doubles. -/
def same (x y : Double) : Bool :=
  x.magnitude == y.magnitude && (x.magnitude == 0 || x.negative == y.negative)

def equalsInt (x : Double) (n : Int) : Bool :=
  x.isFinite && x.multiple == n.natAbs * twoTo 1074 && (n == 0 || x.negative == (n < 0))

/-- The 64 bits as a number. -/
def bits (x : Double) : Nat := (if x.negative then twoTo 63 else 0) + x.magnitude

end Double

end ParserCombinators
