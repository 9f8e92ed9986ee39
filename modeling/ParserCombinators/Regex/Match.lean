import ParserCombinators.Regex.Captures

/-!
Matching by backtracking. A tree is matched together with what has to match after it, and the first
way to match both, in the order of preference that the tree gives, is the result. A loop never runs
a further round from the place where its last one began, so that a body without width stops it.

An attempt that fails hands on the captures as it leaves them. A choice takes them back before it
goes on: inside a loop all of them, elsewhere the marks that the attempt has added. Elsewhere a mark
that the attempt has moved stays where it is. Such a mark belongs to a group around the choice,
where only a condition within that group sees it, or to a group in a possessive loop.
-/

namespace ParserCombinators.Regex

/-- An attempt to match, with the captures before it and after it. -/
abbrev Attempt := Captures → Option Cursor × Captures

/-- What has to match after a cursor has been reached. -/
abbrev Continuation := Cursor → Attempt

abbrev Matcher := Cursor → Continuation → Attempt

namespace Attempt

def fail : Attempt := fun captures => (none, captures)

def succeed (cursor : Cursor) : Attempt := fun captures => (some cursor, captures)

/-- Takes captures back if the attempt fails. -/
def undoing (inLoop : Bool) (attempt : Attempt) : Attempt := fun before =>
  match attempt before with
  | (none, after) => (none, before.recover inLoop after)
  | done => done

def orElse (first second : Attempt) : Attempt := fun captures =>
  match first captures with
  | (none, after) => second after
  | done => done

/-- Goes on from where the first attempt ended, without coming back to its other ways to match. -/
def andThen (first : Attempt) (next : Continuation) : Attempt := fun captures =>
  match first captures with
  | (none, after) => (none, after)
  | (some reached, after) => next reached after

/-- Fails if the attempt succeeds. -/
def refute (inLoop : Bool) (attempt next : Attempt) : Attempt := fun captures =>
  match undoing inLoop attempt captures with
  | (none, after) => next after
  | (some _, after) => (none, after)

/-- Goes on from a cursor if there is one. -/
def from? (cursor : Option Cursor) (next : Continuation) : Attempt :=
  match cursor with
  | some reached => next reached
  | none => fail

end Attempt

namespace Loop

/-- How often a loop may run. -/
structure Bounds where
  least : Nat
  most : Option Nat

/-- Whether a further round is optional and allowed at `pos`, where `last` is the position at
which the previous optional round began. -/
def mayRepeat (bounds : Bounds) (count : Nat) (last : Option Nat) (pos : Nat) : Bool :=
  bounds.most.all (count < ·) && last != some pos

/-- Enough rounds for the obligatory ones and for one optional round at every position. -/
def rounds (bounds : Bounds) (cursor : Cursor) : Nat := bounds.least + cursor.after.length + 2

/-- The functions `round` and `rest` say what an optional round and what follows the loop take
back when they fail. -/
def greedy (body : Matcher) (bounds : Bounds) (round rest : Attempt → Attempt) :
    Nat → Nat → Option Nat → Matcher
  | 0, _, _, _, _ => Attempt.fail
  | fuel + 1, count, last, cursor, next =>
    if count < bounds.least then
      body cursor fun reached => greedy body bounds round rest fuel (count + 1) last reached next
    else if mayRepeat bounds count last cursor.pos then
      Attempt.orElse
        (round (body cursor fun reached =>
          greedy body bounds round rest fuel (count + 1) (some cursor.pos) reached next))
        (rest (next cursor))
    else rest (next cursor)

def lazy (body : Matcher) (bounds : Bounds) (inLoop : Bool) : Nat → Nat → Option Nat → Matcher
  | 0, _, _, _, _ => Attempt.fail
  | fuel + 1, count, last, cursor, next =>
    if count < bounds.least then
      body cursor fun reached => lazy body bounds inLoop fuel (count + 1) last reached next
    else
      Attempt.orElse (Attempt.undoing inLoop (next cursor))
        (if mayRepeat bounds count last cursor.pos then
          body cursor fun reached =>
            lazy body bounds inLoop fuel (count + 1) (some cursor.pos) reached next
        else Attempt.fail)

/-- Each round keeps the first way in which the body matches. -/
def possessive (body : Matcher) (bounds : Bounds) : Nat → Nat → Option Nat → Continuation
  | 0, _, _, _ => Attempt.fail
  | fuel + 1, count, last, cursor =>
    if count < bounds.least then
      Attempt.andThen (body cursor Attempt.succeed) fun reached =>
        possessive body bounds fuel (count + 1) last reached
    else if mayRepeat bounds count last cursor.pos then
      Attempt.orElse
        (Attempt.undoing true (Attempt.andThen (body cursor Attempt.succeed) fun reached =>
          possessive body bounds fuel (count + 1) (some cursor.pos) reached))
        (Attempt.succeed cursor)
    else Attempt.succeed cursor

end Loop

/-- Goes on from the cursor itself after a look around it. -/
def look (inLoop negated : Bool) (sight next : Attempt) : Attempt :=
  if negated then Attempt.refute inLoop sight next else Attempt.andThen sight fun _ => next

/-- Matches a tree that stands in a loop or not. A loop around single code points is none in this
sense. -/
def Node.run : Node → Bool → Matcher
  | empty, _, cursor, next => next cursor
  | one set, _, cursor, next => Attempt.from? (cursor.step? set) next
  | seq first second, inLoop, cursor, next =>
    first.run inLoop cursor fun reached => second.run inLoop reached next
  | alt first second, inLoop, cursor, next =>
    Attempt.orElse (Attempt.undoing inLoop (first.run inLoop cursor next))
      (Attempt.undoing inLoop (second.run inLoop cursor next))
  | group index body, inLoop, cursor, next => fun captures =>
    body.run inLoop cursor (fun reached inner => next reached (inner.leave index reached))
      (captures.enter index cursor)
  | backref index fold, _, cursor, next => fun captures =>
    Attempt.from? ((captures.text? index).bind fun text => cursor.skip? fold text) next captures
  | conditional index yes no, inLoop, cursor, next => fun captures =>
    if (captures.text? index).isSome then yes.run inLoop cursor next captures
    else no.run inLoop cursor next captures
  | loop least most greed body, inLoop, cursor, next =>
    let bounds : Loop.Bounds := ⟨least, most⟩
    let fuel := Loop.rounds bounds cursor
    match greed with
    | .greedy =>
      if body.isSingle then
        let undoing := Attempt.undoing inLoop
        Loop.greedy (body.run inLoop) bounds undoing undoing fuel 0 none cursor next
      else Loop.greedy (body.run true) bounds (Attempt.undoing true) id fuel 0 none cursor next
    | .lazy => Loop.lazy (body.run true) bounds inLoop fuel 0 none cursor next
    | .possessive =>
      Attempt.andThen (Loop.possessive (body.run inLoop) bounds fuel 0 none cursor) next
  | atomic body, inLoop, cursor, next =>
    Attempt.andThen (body.run inLoop cursor Attempt.succeed) next
  | ahead negated body, inLoop, cursor, next =>
    look inLoop negated (body.run inLoop cursor Attempt.succeed) (next cursor)
  | behind width negated body, inLoop, cursor, next =>
    look inLoop negated
      (Attempt.from? (cursor.back? width) fun start => body.run inLoop start Attempt.succeed)
      (next cursor)
  | anchor kind, _, cursor, next => if cursor.satisfies kind then next cursor else Attempt.fail

end ParserCombinators.Regex
