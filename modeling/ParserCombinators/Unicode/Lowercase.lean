import ParserCombinators.Unicode.CaseTables

/-!
Lower case of a text, and of a single code point. The mapping of a text is the full one: U+0130 is
the only code point with a lower case of two, and a capital sigma becomes a final sigma at the end
of a word. The simple mapping of one code point to one serves the patterns, which fold by it.
-/

namespace ParserCombinators

namespace Unicode

def CaseRun.has (run : CaseRun) (c : Nat) : Bool :=
  run.first ≤ c && c ≤ run.last && (c - run.first) % run.step == 0

/-- The simple lower case, the code point itself where the tables have none. -/
def lowerSimple (c : Nat) : Nat :=
  if c < 128 then
    if 65 ≤ c && c ≤ 90 then c + 32 else c
  else
    match lowerRuns.find? (·.has c) with
    | some run => run.lower + (c - run.first)
    | none => c

/-- The code points other than `c` whose simple lower case is `c`. -/
def lowerSources (c : Nat) : List Nat :=
  lowerRuns.filterMap fun run =>
    let source := run.first + (c - run.lower)
    if run.lower ≤ c && run.has source then some source else none

def capitalSigma : Nat := 0x3A3

def smallSigma : Nat := 0x3C3

def finalSigma : Nat := 0x3C2

/-- Whether the nearest code point that is not ignorable is a cased letter. -/
def meetsCased (text : Text) : Bool :=
  match text.dropWhile caseIgnorable.has with
  | [] => false
  | c :: _ => cased.has c

/-- The lower case of `c` between `before`, nearest first, and `after`. -/
def lowerIn (before : Text) (c : Nat) (after : Text) : Text :=
  if c = capitalSigma then
    [if meetsCased before && !meetsCased after then finalSigma else smallSigma]
  else if c = 0x130 then [0x69, 0x307]
  else [lowerSimple c]

/-- Lower case of a text that follows `before`, nearest first. -/
def lowerAfter : Text → Text → Text
  | _, [] => []
  | before, c :: after => lowerIn before c after ++ lowerAfter (c :: before) after

end Unicode

/-- The lower case of the whole text. -/
def Text.lower (text : Text) : Text := Unicode.lowerAfter [] text

end ParserCombinators
