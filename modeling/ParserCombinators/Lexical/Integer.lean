import ParserCombinators.Lexical.Classes
import ParserCombinators.Parser.Machine

/-!
Integers in four bases. A minus may come first, then a mark for the base, then the longest run of
its digits. Once a mark is seen its digits must follow: the zero of the mark is no number of its
own.
-/

namespace ParserCombinators.Lexical

variable {ν : Type}

/-- The pattern of a run of the given characters. They are put in the order of their code points. -/
def digitRunSource (chars : Text) : Text :=
  Text.ofString "[" ++ chars.mergeSort ++ Text.ofString "]+"

/-- The longest run of the given characters, at least one. -/
def digitRun (chars : Text) : Parser ν :=
  .ofExcept (Parser.regex (digitRunSource chars) .none)

inductive Radix where
  | binary
  | octal
  | decimal
  | hexadecimal
  deriving DecidableEq, Repr

namespace Radix

def base : Radix → Nat
  | binary => 2
  | octal => 8
  | decimal => 10
  | hexadecimal => 16

/-- The digits in the order of their code points. -/
def digits : Radix → String
  | binary => "01"
  | octal => "01234567"
  | decimal => "0123456789"
  | hexadecimal => "0123456789ABCDEFabcdef"

/-- The radix that a mark stands for, decimal without a mark. -/
def ofMark : Value → Radix
  | .text mark =>
    if mark = Text.ofString "0b" then binary
    else if mark = Text.ofString "0o" then octal
    else if mark = Text.ofString "0x" then hexadecimal
    else decimal
  | _ => decimal

/-- What is missing when no digit follows the mark; a decimal number needs no mark. -/
def missing? : Radix → Option String
  | binary => some "Expected a binary digit after 0b."
  | octal => some "Expected an octal digit after 0o."
  | hexadecimal => some "Expected a hexadecimal digit after 0x."
  | decimal => none

/-- The longest run of digits. -/
def run (radix : Radix) : Parser ν := digitRun (Text.ofString radix.digits)

def body (radix : Radix) : Parser ν :=
  match radix.missing? with
  | some message => .mapError radix.run fun _ _ => Text.ofString message
  | none => radix.run

end Radix

namespace Integer

inductive Stage where
  | sign
  | mark (negative : Bool)
  | digits (negative : Bool) (radix : Radix)
  | read (negative : Bool) (radix : Radix) (digits : Value)

def resume : Stage → Value → Stage
  | .sign, result => .mark (!result.isNull)
  | .mark negative, result => .digits negative (.ofMark result)
  | .digits negative radix, result => .read negative radix result
  | .read negative radix digits, _ => .read negative radix digits

def sign : Parser ν := .optional (.literal (Text.ofString "-") true)

/-- The letter of a hexadecimal mark may be of either case, and the result has the small one. -/
def mark : Parser ν :=
  .optional (.choice [.literal (Text.ofString "0b") true, .literal (Text.ofString "0o") true,
    .literal (Text.ofString "0x") false])

def value (negative : Bool) (radix : Radix) (digits : Value) : Except NumeralError Int :=
  let text := match digits with
    | .text text => text
    | _ => []
  (Numeral.read radix.base text).map fun n => if negative then -n else n

def step : Stage → Step ν
  | .sign => .run sign
  | .mark _ => .run mark
  | .digits _ radix => .run radix.body
  | .read negative radix digits =>
    match value negative radix digits with
    | .ok n => .finish (.int n)
    | .error error => .raise (.numeral error)

end Integer

def integer : Parser ν :=
  Machine.parser ⟨.sign, Integer.resume, Integer.step⟩ "integer_number"

end ParserCombinators.Lexical
