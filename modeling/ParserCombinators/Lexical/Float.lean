import ParserCombinators.Number.Decimal
import ParserCombinators.Parser.Basic

/-!
Numbers with a fraction or an exponent, at least one of the two. A point needs digits after it,
unless an exponent follows.
-/

namespace ParserCombinators.Lexical

variable {ν : Type}

def floatSource : String :=
  "-?(?:[0-9]+(?:\\.[0-9]+(?:[eE][-+]?[0-9]+)?|\\.?[eE][-+]?[0-9]+)|\\.[0-9]+(?:[eE][-+]?[0-9]+)?)"

/-- The double nearest to the decimal that a text writes. -/
def floatOf : Value → Except Fault Value
  | .text text =>
    match Decimal.read text with
    | .ok decimal => .ok (.float decimal.toDouble)
    | .error error => .error (.numeral error)
  | _ => .error .notText

def float : Parser ν := .map (.ofExcept (Parser.regex (Text.ofString floatSource) .none)) floatOf

end ParserCombinators.Lexical
