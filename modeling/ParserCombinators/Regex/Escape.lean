import ParserCombinators.Number.Digit
import ParserCombinators.Regex.Syntax
import ParserCombinators.Regex.Token

/-!
What a pattern writes with a backslash, and the classes in brackets. Everything here is a function
from the tokens that remain to what they denote and the tokens after it.
-/

namespace ParserCombinators.Regex

inductive SyntaxError where
  | trailingBackslash
  | badEscape
  | badRange
  | unterminatedClass
  | nothingToRepeat
  | multipleRepeat
  | repeatBounds
  | tooManyRounds
  | tooManyDigits
  | unterminatedGroup
  | unbalancedParenthesis
  | unknownExtension
  | badGroupName
  | duplicateGroupName
  | unknownGroup
  | openGroup
  | groupInSameLookbehind
  | badFlags
  | misplacedFlags
  | tooManyBranches
  | variableWidthLookbehind
  deriving DecidableEq, Repr

def Flags.fold (modes : Flags) : Fold :=
  if !modes.ignoreCase then .exact else if modes.ascii then .ascii else .unicode

/-- The escapes that name a control character everywhere. -/
def controlEscape? (c : Nat) : Option Nat :=
  if c = 'a'.toNat then some 7
  else if c = 'f'.toNat then some 12
  else if c = 'n'.toNat then some 10
  else if c = 'r'.toNat then some 13
  else if c = 't'.toNat then some 9
  else if c = 'v'.toNat then some 11
  else none

/-- The escapes that name a category; a capital letter negates it. -/
def categoryEscape? (modes : Flags) (c : Nat) : Option SetItem :=
  if c = 'd'.toNat then some (.category .digit false modes.ascii)
  else if c = 'D'.toNat then some (.category .digit true modes.ascii)
  else if c = 's'.toNat then some (.category .space false modes.ascii)
  else if c = 'S'.toNat then some (.category .space true modes.ascii)
  else if c = 'w'.toNat then some (.category .word false modes.ascii)
  else if c = 'W'.toNat then some (.category .word true modes.ascii)
  else none

/-- How many hexadecimal digits follow the letter of an escape. -/
def hexadecimalEscape? (c : Nat) : Option Nat :=
  if c = 'x'.toNat then some 2
  else if c = 'u'.toNat then some 4
  else if c = 'U'.toNat then some 8
  else none

def readHexadecimal (count : Nat) (tokens : List Token) :
    Except SyntaxError (Nat × List Token) :=
  let (digits, rest) := Token.takeRun Digit.isHexadecimal count tokens
  let value := Digit.number 16 digits
  if digits.length < count || 0x10FFFF < value then .error .badEscape else .ok (value, rest)

/-- The escapes that mean the same inside and outside a class: a control character, a number, or
a character that is no letter and no digit. -/
def readCodePoint (c : Nat) (tokens : List Token) : Except SyntaxError (Nat × List Token) :=
  match controlEscape? c, hexadecimalEscape? c with
  | some code, _ => .ok (code, tokens)
  | none, some count => readHexadecimal count tokens
  | none, none =>
    if Digit.isAsciiLetter c || Digit.isDecimal c then .error .badEscape else .ok (c, tokens)

/-- A member of a class before it is known whether a range begins with it. -/
inductive Member where
  | literal (c : Nat)
  | category (item : SetItem)

def Member.item : Member → SetItem
  | literal c => .range c c
  | category item => item

def readMember (modes : Flags) (token : Token) (tokens : List Token) :
    Except SyntaxError (Member × List Token) :=
  match token with
  | .plain c => .ok (.literal c, tokens)
  | .escaped c =>
    match categoryEscape? modes c with
    | some item => .ok (.category item, tokens)
    | none =>
      if c = 'b'.toNat then .ok (.literal 8, tokens)
      else if Digit.isOctal c then
        let (digits, rest) := Token.takeRun Digit.isOctal 2 tokens
        let value := Digit.number 8 (c :: digits)
        if 0o377 < value then .error .badEscape else .ok (.literal value, rest)
      else (readCodePoint c tokens).map fun (value, rest) => (.literal value, rest)

/-- The members up to the closing bracket, where `found` holds those before, the last one first.
A bracket in the first place is a member. -/
def readMembers (modes : Flags) :
    Nat → List SetItem → List Token → Except SyntaxError (List SetItem × List Token)
  | 0, _, _ => .error .unterminatedClass
  | _, _, [] => .error .unterminatedClass
  | fuel + 1, found, token :: tokens => do
    if token = .plain ']'.toNat && !found.isEmpty then return (found.reverse, tokens)
    let (member, tokens) ← readMember modes token tokens
    match tokens with
    | .plain 45 :: tokens =>
      match tokens with
      | [] => throw .unterminatedClass
      | token :: tokens =>
        if token = .plain ']'.toNat then
          return ((.range 45 45 :: member.item :: found).reverse, tokens)
        let (last, tokens) ← readMember modes token tokens
        match member, last with
        | .literal first, .literal last =>
          if last < first then throw .badRange
          readMembers modes fuel (.range first last :: found) tokens
        | _, _ => throw .badRange
    | tokens => readMembers modes fuel (member.item :: found) tokens

/-- The class after its opening bracket. -/
def readClass (modes : Flags) (tokens : List Token) :
    Except SyntaxError (CharSet × List Token) := do
  let negated := tokens.head? = some (.plain '^'.toNat)
  let tokens := if negated then tokens.drop 1 else tokens
  let (items, rest) ← readMembers modes tokens.length [] tokens
  return (⟨items, negated, modes.fold⟩, rest)

end ParserCombinators.Regex
