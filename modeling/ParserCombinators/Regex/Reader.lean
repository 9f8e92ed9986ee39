import ParserCombinators.Number.Numeral
import ParserCombinators.Regex.Escape
import ParserCombinators.Unicode.Identifier

/-!
Reading the tokens of a pattern into its syntax tree. A quantifier belongs to the item before it,
and in verbose mode blanks and comments between the two are skipped. Groups are numbered in the
order of their opening parentheses; a reference may name a group that is closed already.
-/

namespace ParserCombinators.Regex

/-- What is known at a point of the pattern. `groups` holds the widths of the groups opened so
far, none while one is open. `groupsBeforeBehind` is the number of groups that were open or closed
where the outermost look-behind in force begins. -/
structure Reader where
  tokens : List Token
  flags : Flags
  groups : List (Option Width)
  names : List (Text × Nat)
  conditions : List Nat
  groupsBeforeBehind : Option Nat
  hasVariableBehind : Bool

abbrev Read := StateT Reader (Except SyntaxError)

/-- Whether a quantifier may follow an item. -/
inductive Shape where
  | plain
  | anchor
  | repeated
  deriving DecidableEq, Repr

structure Item where
  node : Node
  shape : Shape

namespace Item

def plain (node : Node) : Item := ⟨node, .plain⟩

/-- The items in reading order as one tree. -/
def toNode : List Item → Node
  | [] => .empty
  | [item] => item.node
  | item :: next :: items => .seq item.node (toNode (next :: items))

/-- Repeats the last item; `items` begins with it. -/
def quantify (least : Nat) (most : Option Nat) (greed : Greed) :
    List Item → Except SyntaxError (List Item)
  | [] => .error .nothingToRepeat
  | ⟨_, .anchor⟩ :: _ => .error .nothingToRepeat
  | ⟨_, .repeated⟩ :: _ => .error .multipleRepeat
  | ⟨node, .plain⟩ :: items => .ok (⟨.loop least most greed node, .repeated⟩ :: items)

end Item

namespace Reader

def start (tokens : List Token) (flags : Flags) : Reader :=
  ⟨tokens, flags, [], [], [], none, false⟩

def width (reader : Reader) (index : Nat) : Width :=
  ((reader.groups[index - 1]?).join).getD (.fixed 0)

/-- Applies a function of the remaining tokens, and goes on after what it has read. -/
def reading {α : Type} (read : List Token → Except SyntaxError (α × List Token)) : Read α := do
  let reader ← get
  match read reader.tokens with
  | .ok (result, rest) =>
    set { reader with tokens := rest }
    return result
  | .error error => throw error

/-- Skips the next token if it is this plain code point. -/
def accept (c : Char) : Read Bool := do
  let reader ← get
  match reader.tokens with
  | .plain next :: rest =>
    if next = c.toNat then
      set { reader with tokens := rest }
      return true
    return false
  | _ => return false

def expect (c : Char) (error : SyntaxError) : Read Unit := do
  unless ← accept c do throw error

/-- Refuses a group that is not yet closed, or that the look-behind in force holds itself. -/
def requireClosed (index : Nat) : Read Unit := do
  let reader ← get
  match reader.groups[index - 1]? with
  | some (some _) =>
    if reader.groupsBeforeBehind.any (· < index) then throw .groupInSameLookbehind
  | _ => throw .openGroup

def backref (modes : Flags) (index : Nat) : Read Item := do
  requireClosed index
  return .plain (.backref index modes.fold)

/-- A number after a backslash: three octal digits are a code point, and another number of one or
two digits is a group. -/
def numericEscape (modes : Flags) (c : Nat) : Read Item := do
  let reader ← get
  let octal := Token.takeRun Digit.isOctal 2 reader.tokens
  if Digit.isOctal c && octal.1.length = 2 then
    let value := Digit.number 8 (c :: octal.1)
    if 0o377 < value then throw .badEscape
    set { reader with tokens := octal.2 }
    return .plain (.one (.single value modes.fold))
  let (digits, rest) := Token.takeRun Digit.isDecimal 1 reader.tokens
  let index := Digit.number 10 (c :: digits)
  set { reader with tokens := rest }
  if reader.groups.length < index then throw .unknownGroup
  backref modes index

def escape (modes : Flags) (c : Nat) : Read Item := do
  match categoryEscape? modes c with
  | some item => return .plain (.one ⟨[item], false, modes.fold⟩)
  | none =>
    if c = 'A'.toNat then return ⟨.anchor .inputStart, .anchor⟩
    if c = 'Z'.toNat then return ⟨.anchor .inputEnd, .anchor⟩
    if c = 'b'.toNat then return ⟨.anchor (.boundary false modes.ascii), .anchor⟩
    if c = 'B'.toNat then return ⟨.anchor (.boundary true modes.ascii), .anchor⟩
    if c = '0'.toNat then
      let digits ← reading fun tokens => .ok (Token.takeRun Digit.isOctal 2 tokens)
      return .plain (.one (.single (Digit.number 8 digits) modes.fold))
    if Digit.isDecimal c then return ← numericEscape modes c
    let value ← reading (readCodePoint c)
    return .plain (.one (.single value modes.fold))

/-- The digits of the two bounds in braces after the opening one; none if this is no quantifier, and
the brace then stands for itself. -/
def braces? (tokens : List Token) : Option (Text × Text × List Token) := do
  if tokens.head? = some (.plain '\x7d'.toNat) then none
  let (low, rest) := Token.takeRun Digit.isDecimal tokens.length tokens
  match rest with
  | .plain 125 :: rest => if low.isEmpty then none else some (low, low, rest)
  | .plain 44 :: rest =>
    let (high, rest) := Token.takeRun Digit.isDecimal rest.length rest
    match rest with
    | .plain 125 :: rest => some (low, high, rest)
    | _ => none
  | _ => none

/-- The least number of rounds that a quantifier may not name. -/
def roundLimit : Nat := 0xffffffff

/-- A bound in braces, none if it is left out. -/
def bound (digits : Text) : Read (Option Nat) := do
  if digits.isEmpty then return none
  if Numeral.digitLimit < digits.length then throw .tooManyDigits
  let rounds := Digit.number 10 digits
  if roundLimit ≤ rounds then throw .tooManyRounds
  return some rounds

/-- The mark after a quantifier, one at most. -/
def greed : Read Greed := do
  if ← accept '?' then return .lazy
  if ← accept '+' then return .possessive
  return .greedy

def quantified (least : Nat) (most : Option Nat) (items : List Item) : Read (List Item) := do
  if most.any (· < least) then throw .repeatBounds
  match Item.quantify least most (← greed) items with
  | .ok items => return items
  | .error error => throw error

/-- A name up to the given closing mark. -/
def name (stop : Char) : Read Text := do
  let tokens ← reading fun tokens =>
    match Token.splitAt? stop.toNat tokens with
    | some found => .ok found
    | none => .error .badGroupName
  match tokens.mapM Token.plain? with
  | some name => return name
  | none => throw .badGroupName

def identifier (stop : Char) : Read Text := do
  let name ← name stop
  unless Unicode.isIdentifier name do throw .badGroupName
  return name

def openGroup (name : Option Text) : Read Nat := do
  let reader ← get
  let index := reader.groups.length + 1
  let names ← match name with
    | none => pure reader.names
    | some name =>
      if (reader.names.lookup name).isSome then throw .duplicateGroupName
      pure ((name, index) :: reader.names)
  set { reader with groups := reader.groups ++ [none], names }
  return index

def closeGroup (index : Nat) (body : Node) : Read Unit :=
  modify fun reader =>
    { reader with groups := reader.groups.set (index - 1) (some (body.width reader.width)) }

/-- The group that a conditional asks about, by name or by a grouped numeral. A number may belong
to a group that comes later, unless a look-behind is in force. -/
def condition : Read Nat := do
  let name ← name ')'
  let index ←
    if Unicode.isIdentifier name then
      match (← get).names.lookup name with
      | some index => pure index
      | none => throw .unknownGroup
    else
      match Numeral.readGrouped 10 name with
      | .ok (.ofNat 0) => throw .unknownGroup
      | .ok (.ofNat index) =>
        modify fun reader => { reader with conditions := index :: reader.conditions }
        pure index
      | _ => throw .badGroupName
  if (← get).groupsBeforeBehind.isSome then requireClosed index
  return index

/-- Flag letters up to a closing mark, the flags and the mark. -/
def flagLetters (stops : List Nat) :
    Flags → List Token → Except SyntaxError ((Flags × Nat) × List Token)
  | _, [] => .error .badFlags
  | _, .escaped _ :: _ => .error .badFlags
  | found, .plain c :: rest =>
    if stops.contains c then .ok ((found, c), rest)
    else
      match Flags.ofLetter? c with
      | none => .error .badFlags
      | some flag =>
        let found := found.union flag
        if found.ascii && found.unicode then .error .badFlags else flagLetters stops found rest

/-- The flags that a group adds, and those it removes unless they are for the whole pattern. -/
def flagGroup : Read (Flags × Option Flags) := do
  let (added, stop) ← reading (flagLetters [')'.toNat, '-'.toNat, ':'.toNat] .none)
  if stop = ')'.toNat then return (added, none)
  if stop = ':'.toNat then return (added, some .none)
  let (removed, _) ← reading (flagLetters [':'.toNat] .none)
  if removed = .none || removed.alphabet ≠ .none || added.inter removed ≠ .none then
    throw .badFlags
  return (added, some removed)

/-- The kinds of groups that have a body. -/
inductive GroupKind where
  | capture (name : Option Text)
  | plain (added removed : Flags)
  | atomic
  | ahead (negated : Bool)
  | behind (negated : Bool)
  | conditional (index : Nat)

/-- What an opening parenthesis begins. -/
inductive Opening where
  | comment
  | flags (added : Flags)
  | backref (index : Nat)
  | group (kind : GroupKind)

/-- Reads what distinguishes the kinds of groups, up to where the body begins. A comment and a
reference are read to their end. -/
def opening : Read Opening := do
  unless ← accept '?' do return .group (.capture none)
  if ← accept ':' then return .group (.plain .none .none)
  if ← accept '>' then return .group .atomic
  if ← accept '=' then return .group (.ahead false)
  if ← accept '!' then return .group (.ahead true)
  if ← accept '<' then
    if ← accept '=' then return .group (.behind false)
    if ← accept '!' then return .group (.behind true)
    throw .unknownExtension
  if ← accept '#' then
    let _ ← reading fun tokens =>
      match Token.splitAt? ')'.toNat tokens with
      | some found => .ok found
      | none => .error .unterminatedGroup
    return .comment
  if ← accept 'P' then
    if ← accept '<' then return .group (.capture (some (← identifier '>')))
    if ← accept '=' then
      match (← get).names.lookup (← identifier ')') with
      | some index => return .backref index
      | none => throw .unknownGroup
    throw .unknownExtension
  if ← accept '(' then return .group (.conditional (← condition))
  match (← get).tokens with
  | .plain c :: _ =>
    unless (Flags.ofLetter? c).isSome || c = '-'.toNat do throw .unknownExtension
    match ← flagGroup with
    | (added, none) => return .flags added
    | (added, some removed) => return .group (.plain added removed)
  | _ => throw .unknownExtension

def isBlank (c : Nat) : Bool := (9 ≤ c && c ≤ 13) || c == 32

/-- Skips a comment of verbose mode, with the newline that ends it. -/
def skipLine : Read Unit :=
  modify fun reader =>
    { reader with tokens := (reader.tokens.dropWhile (· != .plain CodePoint.newline)).drop 1 }

/-- A single plain code point as an item, none for one that has a meaning beyond an item. -/
def single? (modes : Flags) (c : Nat) : Option Item :=
  if c = '.'.toNat then some (.plain (.one (.dot modes.dotAll)))
  else if c = '^'.toNat then
    some ⟨.anchor (if modes.multiline then .lineStart else .inputStart), .anchor⟩
  else if c = '$'.toNat then
    some ⟨.anchor (if modes.multiline then .lineEnd else .lastLineEnd), .anchor⟩
  else if ['*', '+', '?', '\x7b', '(', '['].any (·.toNat = c) then none
  else some (.plain (.one (.single c modes.fold)))

/-- What comes next in an alternative: its end, more items before the cursor and the flags from
there on, or a group to be entered. -/
inductive Next where
  | finish
  | more (modes : Flags) (found : List Item)
  | enter (kind : GroupKind)

/-- Goes on from a quantifier or an opening mark, which has been read. -/
def special (modes : Flags) (first : Bool) (found : List Item) (c : Nat) : Read Next := do
  if c = '['.toNat then
    let set ← reading (readClass modes)
    return .more modes (.plain (.one set) :: found)
  if c = '*'.toNat then return .more modes (← quantified 0 none found)
  if c = '+'.toNat then return .more modes (← quantified 1 none found)
  if c = '?'.toNat then return .more modes (← quantified 0 (some 1) found)
  if c = '('.toNat then
    match ← opening with
    | .comment => return .more modes found
    | .flags added =>
      unless first && found.isEmpty do throw .misplacedFlags
      modify fun reader => { reader with flags := reader.flags.union added }
      return .more (← get).flags found
    | .backref index => return .more modes ((← backref modes index) :: found)
    | .group kind => return .enter kind
  match braces? (← get).tokens with
  | some (low, high, rest) =>
    modify fun reader => { reader with tokens := rest }
    let least ← bound low
    let most ← bound high
    return .more modes (← quantified (least.getD 0) most found)
  | none => return .more modes (.plain (.one (.single c modes.fold)) :: found)

/-- Reads the next item of an alternative, or a quantifier for the last of `found`. -/
def next (modes : Flags) (first : Bool) (found : List Item) : Read Next := do
  let reader ← get
  match reader.tokens with
  | [] => return .finish
  | .escaped c :: rest =>
    set { reader with tokens := rest }
    return .more modes ((← escape modes c) :: found)
  | .plain c :: rest =>
    if c = '|'.toNat || c = ')'.toNat then return .finish
    set { reader with tokens := rest }
    if modes.verbose && isBlank c then return .more modes found
    if modes.verbose && c = '#'.toNat then
      skipLine
      return .more modes found
    match single? modes c with
    | some item => return .more modes (item :: found)
    | none => special modes first found c

mutual

/-- Alternatives up to a closing parenthesis or the end. Flags for the whole pattern may stand at
its very start, and in the outermost alternatives they stay in force. -/
def alternatives : Nat → Flags → Bool → Bool → Read Node
  | 0, _, _, _ => throw .unterminatedGroup
  | fuel + 1, modes, outermost, first => do
    let branch ← items fuel modes first []
    unless ← accept '|' do return branch
    let whole := (← get).flags
    let modes := if outermost then whole else modes
    return .either branch (← alternatives fuel modes outermost false)

/-- The items of one alternative; `found` holds those before, the last one first. -/
def items : Nat → Flags → Bool → List Item → Read Node
  | 0, _, _, _ => throw .unterminatedGroup
  | fuel + 1, modes, first, found => do
    match ← next modes first found with
    | .finish => return Item.toNode found.reverse
    | .more modes found => items fuel modes first found
    | .enter kind =>
      let node ← body fuel modes kind
      items fuel modes first (.plain node :: found)

/-- The body of a group, up to and with its closing parenthesis. -/
def body : Nat → Flags → GroupKind → Read Node
  | 0, _, _ => throw .unterminatedGroup
  | fuel + 1, modes, kind =>
    match kind with
    | .capture name => do
      let index ← openGroup name
      let node ← alternatives fuel modes false false
      expect ')' .unterminatedGroup
      closeGroup index node
      return .group index node
    | .plain added removed => do
      let node ← alternatives fuel (modes.within added removed) false false
      expect ')' .unterminatedGroup
      return node
    | .atomic => do
      let node ← alternatives fuel modes false false
      expect ')' .unterminatedGroup
      return .atomic node
    | .ahead negated => do
      let node ← alternatives fuel modes false false
      expect ')' .unterminatedGroup
      return .ahead negated node
    | .behind negated => do
      let outer := (← get).groupsBeforeBehind
      modify fun reader =>
        { reader with groupsBeforeBehind := some (outer.getD reader.groups.length) }
      let node ← alternatives fuel modes false false
      let reader ← get
      let width := node.width reader.width
      set { reader with
        groupsBeforeBehind := outer
        hasVariableBehind := reader.hasVariableBehind || !width.isFixed }
      expect ')' .unterminatedGroup
      return .behind width.least negated node
    | .conditional index => do
      let yes ← items fuel modes false []
      let no ← if ← accept '|' then items fuel modes false [] else pure .empty
      if (← get).tokens.head? = some (.plain '|'.toNat) then throw .tooManyBranches
      expect ')' .unterminatedGroup
      return .conditional index yes no

end

/-- Reads a whole pattern, and leaves what follows an unmatched closing parenthesis. Every call
reads a token, apart from the two calls that lead from a group to its first item. -/
def whole : Read Node := do
  let reader ← get
  alternatives (3 * reader.tokens.length + 3) reader.flags true true

end Reader

end ParserCombinators.Regex
