import ParserCombinators.Parser.Basic

/-!
Runs of characters of a class, which are the words of most grammars, and the skipping of white
space around other parsers. A class is a pattern of its own; its text is part of what is promised.
-/

namespace ParserCombinators.Lexical

open Regex

variable {ν : Type}

/-- The pattern of a greatest run of members, at least one. -/
def runOf (source : String) (items : List SetItem) : Pattern where
  source := Text.ofString source
  flags := { unicode := true }
  root := .loop 1 none .greedy (.one ⟨items, false, .exact⟩)

private def range (first last : Char) : SetItem := .range first.toNat last.toNat

private def single (c : Nat) : SetItem := .range c c

def lettersPattern : Pattern := runOf "[A-Za-z]+" [range 'A' 'Z', range 'a' 'z']

def digitsPattern : Pattern := runOf "[0-9]+" [range '0' '9']

def whitespacePattern : Pattern :=
  runOf "[ \\t\\f\\v]+" [single CodePoint.space, single CodePoint.tab, single 12, single 11]

def slugPattern : Pattern :=
  runOf "[A-Za-z0-9_-]+"
    [range 'A' 'Z', range 'a' 'z', range '0' '9', single 95, single 45]

theorem eq_ok_of_toOption {ε α : Type} {x : Except ε α} {a : α}
    (h : x.toOption = some a) : x = .ok a := by
  cases x with
  | ok value => exact congrArg Except.ok (Option.some.inj h)
  | error error => cases h

/-- The patterns of the classes are what their texts compile to. -/
theorem compile_classPatterns :
    ∀ pattern ∈ [lettersPattern, digitsPattern, whitespacePattern, slugPattern],
      Pattern.compile pattern.source .none = .ok pattern := by
  have hcompiles : ∀ pattern ∈ [lettersPattern, digitsPattern, whitespacePattern, slugPattern],
      (Pattern.compile pattern.source .none).toOption = some pattern := by decide +kernel
  exact fun pattern hpattern => eq_ok_of_toOption (hcompiles pattern hpattern)

/-- ASCII letters. -/
def letters : Parser ν :=
  .pattern (Text.ofString "letters") lettersPattern (Text.ofString "letters")

/-- ASCII digits. -/
def digits : Parser ν :=
  .pattern (Text.ofString "digits") digitsPattern (Text.ofString "digits")

/-- White space within a line. -/
def whitespace : Parser ν :=
  .pattern (Text.ofString "whitespace") whitespacePattern (Text.ofString "whitespace")

/-- ASCII letters, digits, underscores and hyphens. -/
def slug : Parser ν :=
  .pattern (Text.ofString "safeword") slugPattern (Text.ofString "a safe word")

/-- A parser with white space, but no line breaks, skipped on both sides. -/
def lexeme (parser : Parser ν) : Parser ν :=
  .between (.optional whitespace) (.optional whitespace) parser

end ParserCombinators.Lexical
