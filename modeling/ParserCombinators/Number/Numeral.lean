import ParserCombinators.Text.Quoted
import ParserCombinators.Unicode.Classes

/-!
Integers written as numerals in a base up to 36. Decimal digits of every script count, letters
stand for the digits from ten on in either case, and one sign may come first. In a base that is
no power of two a numeral of too many digits is refused, because its value takes quadratic time.
A grouped numeral may also stand between blanks and have underscores between its digits.
-/

namespace ParserCombinators

/-- Why a text gives no number, or a number no character. -/
inductive NumeralError where
  | malformed (base : Nat) (text : Text)
  | tooManyDigits (count : Nat)
  | notDecimal (text : Text)
  | notCodePoint (code : Int)

namespace Numeral

/-- The greatest number of digits, leading zeros included, that a limited base reads. -/
def digitLimit : Nat := 4300

/-- In a base that is a power of two each digit is a group of bits. -/
def isLimited (base : Nat) : Bool := !([2, 4, 8, 16, 32].contains base)

def digitValue? (c : Nat) : Option Nat :=
  if 97 ≤ c ∧ c ≤ 122 then some (c - 87)
  else if 65 ≤ c ∧ c ≤ 90 then some (c - 55)
  else Unicode.digitValue? c

/-- The value of `digits` read after a number `value`, none when one is not a digit of the base. -/
def extend? (base value : Nat) : Text → Option Nat
  | [] => some value
  | c :: rest =>
    match digitValue? c with
    | some digit => if digit < base then extend? base (value * base + digit) rest else none
    | none => none

def natural? (base : Nat) (digits : Text) : Option Nat :=
  if digits.isEmpty then none else extend? base 0 digits

/-- The sign, true for a minus, and the digits after it. -/
def splitSign : Text → Bool × Text
  | 45 :: digits => (true, digits)
  | 43 :: digits => (false, digits)
  | digits => (false, digits)

/-- The number of a sign and digits; `text` is the numeral that they are taken from. -/
def ofDigits (base : Nat) (text : Text) (negative : Bool) (digits : Text) :
    Except NumeralError Int :=
  match natural? base digits with
  | none => .error (.malformed base text)
  | some value =>
    if isLimited base && digitLimit < digits.length then .error (.tooManyDigits digits.length)
    else .ok (if negative then -value else value)

def read (base : Nat) (text : Text) : Except NumeralError Int :=
  let (negative, digits) := splitSign text
  ofDigits base text negative digits

/-- White space, without the separators U+001C to U+001F. -/
def isBlank (c : Nat) : Bool := Unicode.isSpace c && !(28 ≤ c && c ≤ 31)

def trim (text : Text) : Text :=
  ((text.dropWhile isBlank).reverse.dropWhile isBlank).reverse

/-- The text without its underscores, none if one of them does not stand between two others.
`afterDigit` says whether something other than an underscore stands right before the text. -/
def ungroup? (afterDigit : Bool) : Text → Option Text
  | [] => if afterDigit then some [] else none
  | c :: rest =>
    if c = CodePoint.underscore then if afterDigit then ungroup? false rest else none
    else (ungroup? true rest).map (c :: ·)

/-- Reads a grouped numeral. The sign stands right before the first digit. -/
def readGrouped (base : Nat) (text : Text) : Except NumeralError Int :=
  let (negative, grouped) := splitSign (trim text)
  match ungroup? false grouped with
  | some digits => ofDigits base text negative digits
  | none => .error (.malformed base text)

end Numeral

def NumeralError.message : NumeralError → Text
  | .malformed base text =>
    Text.ofString "invalid literal for int() with base " ++ Text.ofNat base ++
      Text.ofString ": " ++ text.quoted
  | .tooManyDigits count =>
    Text.ofString "Exceeds the limit (" ++ Text.ofNat Numeral.digitLimit ++
      Text.ofString " digits) for integer string conversion: value has " ++ Text.ofNat count ++
      Text.ofString " digits; use sys.set_int_max_str_digits() to increase the limit"
  | .notDecimal text => Text.ofString "could not convert string to float: " ++ text.quoted
  | .notCodePoint _ => Text.ofString "chr() arg not in range(0x110000)"

end ParserCombinators
