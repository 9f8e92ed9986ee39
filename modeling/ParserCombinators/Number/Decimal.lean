import ParserCombinators.Number.Digit
import ParserCombinators.Number.Double
import ParserCombinators.Number.Numeral

/-!
Decimal numbers with a fraction and an exponent: read from text, rounded to a double, and written
with the fewest digits that read back as the same double.
-/

namespace ParserCombinators

/-- The number `digits * 10 ^ exponent`, with a sign that zero has too. -/
structure Decimal where
  negative : Bool
  digits : Nat
  exponent : Int
  deriving DecidableEq, Repr

namespace Decimal

def tenTo (n : Nat) : Nat := Nat.pow 10 n

/-- A run of digits with an optional sign, zero without digits. -/
def readExponent : Text → Int
  | 45 :: digits => -Digit.number 10 digits
  | 43 :: digits => Digit.number 10 digits
  | digits => Digit.number 10 digits

/-- The parts of a decimal: a minus in front of it, the digits before a point and after it, and
what follows them. -/
structure Parts where
  negative : Bool
  whole : Text
  fraction : Text
  rest : Text

def split (text : Text) : Parts :=
  let negative := text.head? == some 45
  let unsigned := if negative then text.drop 1 else text
  let whole := unsigned.takeWhile Digit.isDecimal
  let after := unsigned.dropWhile Digit.isDecimal
  if after.head? == some 46 then
    ⟨negative, whole, (after.drop 1).takeWhile Digit.isDecimal,
      (after.drop 1).dropWhile Digit.isDecimal⟩
  else ⟨negative, whole, [], after⟩

/-- A letter, an optional sign and at least one digit. -/
def isExponent : Text → Bool
  | [] => false
  | letter :: text =>
    let digits := match text with
      | 45 :: digits => digits
      | 43 :: digits => digits
      | digits => digits
    (letter == 'e'.toNat || letter == 'E'.toNat) && !digits.isEmpty && digits.all Digit.isDecimal

/-- Reads an optional minus, digits with an optional point, and an optional exponent. A text of any
other form is refused, also the names of infinities, and signs, blanks and underscores that some
decimals have elsewhere. -/
def read (text : Text) : Except NumeralError Decimal :=
  let parts := split text
  let digits := parts.whole ++ parts.fraction
  if digits.isEmpty || !(parts.rest.isEmpty || isExponent parts.rest) then
    .error (.notDecimal text)
  else
    .ok
      { negative := parts.negative
        digits := Digit.number 10 digits
        exponent := readExponent (parts.rest.drop 1) - parts.fraction.length }

/-- Beyond these bounds a decimal is past every finite double, or nearest to zero. They keep the
powers of ten small. -/
def toDouble (d : Decimal) : Double :=
  let size : Int := (Nat.toDigits 10 d.digits).length + d.exponent
  let magnitude :=
    if d.digits = 0 || size < -400 then 0
    else if 400 < size then Double.infinity
    else if d.exponent < 0 then Double.magnitudeOfRatio d.digits (tenTo d.exponent.natAbs)
    else Double.magnitudeOfRatio (d.digits * tenTo d.exponent.natAbs) 1
  ⟨d.negative, magnitude⟩

/-- The numerator and denominator of the absolute value of a double over a power of ten. -/
private def overPower (x : Double) (exponent : Int) : Nat × Nat :=
  if exponent < 0 then (x.multiple * tenTo exponent.natAbs, Double.twoTo 1074)
  else (x.multiple, Double.twoTo 1074 * tenTo exponent.natAbs)

/-- The decimal with unit `10 ^ exponent` that reads back as `x`, the nearer one if two do. -/
def onGrid? (x : Double) (exponent : Int) : Option Decimal :=
  let (numerator, denominator) := overPower x exponent
  let below : Decimal := ⟨x.negative, numerator / denominator, exponent⟩
  let above : Decimal := { below with digits := below.digits + 1 }
  let nearer :=
    if 2 * (numerator % denominator) ≤ denominator then [below, above] else [above, below]
  nearer.find? fun d => d.toDouble == x

/-- The exponent of the first digit of a positive double: the decimals of `x` start at
`10 ^ leading`. -/
def leading (x : Double) : Int :=
  let whole := x.multiple / Double.twoTo 1074
  if whole ≠ 0 then (Nat.toDigits 10 whole).length - 1
  else
    (Nat.toDigits 10 (x.multiple * tenTo 400 / Double.twoTo 1074)).length - 401

/-- The fewest digits that read back, at most 17. -/
def shortest (x : Double) : Decimal :=
  if x.magnitude = 0 then ⟨x.negative, 0, 0⟩
  else
    let found := (List.range 17).findSome? fun (count : Nat) => onGrid? x (leading x - count)
    found.getD ⟨x.negative, 0, 0⟩

/-- Positional from 0.0001 up to below ten to the power of 16, with at least one digit on both
sides of the point, and scientific with an exponent of at least two digits beyond. -/
def display (x : Double) : Text :=
  let sign := if x.negative then Text.ofString "-" else []
  if !x.isFinite then sign ++ Text.ofString "inf"
  else
    let d := shortest x
    let digits := Text.ofNat d.digits
    let point := digits.length + d.exponent
    let trimmed := (digits.reverse.dropWhile (· == 48)).reverse
    sign ++
      if d.digits = 0 then Text.ofString "0.0"
      else if -4 < point && point ≤ 16 then
        let padded := List.replicate (1 - point).toNat 48 ++ trimmed
        let split := max point 1
        let whole := padded.take split.toNat
        let fraction := padded.drop split.toNat
        whole ++ List.replicate (split.toNat - whole.length) 48 ++ Text.ofString "." ++
          (if fraction.isEmpty then Text.ofString "0" else fraction)
      else
        let exponent := point - 1
        let fraction := trimmed.drop 1
        trimmed.take 1 ++ (if fraction.isEmpty then [] else Text.ofString "." ++ fraction) ++
          Text.ofString (if exponent < 0 then "e-" else "e+") ++
          (if exponent.natAbs < 10 then Text.ofString "0" else []) ++ Text.ofNat exponent.natAbs

end Decimal

end ParserCombinators
