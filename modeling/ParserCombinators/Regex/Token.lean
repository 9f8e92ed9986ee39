import ParserCombinators.Text.Basic

/-!
Tokens of a pattern: a code point, or a backslash with the code point after it. Look-ahead over
digits is by token, so an escaped digit is never taken for a plain one.
-/

namespace ParserCombinators.Regex

inductive Token where
  | plain (c : Nat)
  | escaped (c : Nat)
  deriving DecidableEq, Repr

namespace Token

/-- None if the pattern ends in a backslash. -/
def ofText? : Text → Option (List Token)
  | [] => some []
  | 92 :: rest =>
    match rest with
    | [] => none
    | c :: rest => (ofText? rest).map (escaped c :: ·)
  | c :: rest => (ofText? rest).map (plain c :: ·)

def plain? : Token → Option Nat
  | plain c => some c
  | escaped _ => none

/-- The longest run of plain code points of a kind at the start, at most `limit` of them. -/
def takeRun (kind : Nat → Bool) : Nat → List Token → Text × List Token
  | 0, tokens => ([], tokens)
  | _, [] => ([], [])
  | limit + 1, token :: rest =>
    match token with
    | plain c =>
      if kind c then
        let (run, rest) := takeRun kind limit rest
        (c :: run, rest)
      else ([], token :: rest)
    | escaped _ => ([], token :: rest)

/-- The tokens up to the first plain `stop`, and those after it. -/
def splitAt? (stop : Nat) : List Token → Option (List Token × List Token)
  | [] => none
  | token :: rest =>
    if token = plain stop then some ([], rest)
    else (splitAt? stop rest).map fun (before, after) => (token :: before, after)

end Token

end ParserCombinators.Regex
