import ParserCombinators.Value.Basic

/-!
Equality of values as grammars compare them: numbers compare by value whatever their kind, with
true as one and false as zero, and dictionaries compare without regard to order. A grammar that a
user of the library writes may compare results; none of its own parsers does, so no theorem is
about equality.
-/

namespace ParserCombinators.Value

/-- The integer that a boolean or an integer stands for. -/
def integer? : Value → Option Int
  | bool value => some (if value then 1 else 0)
  | int value => some value
  | _ => none

def sameNumber (a b : Value) : Bool :=
  match a.integer?, b.integer?, a, b with
  | some m, some n, _, _ => m == n
  | some m, none, _, float y => y.equalsInt m
  | none, some n, float x, _ => x.equalsInt n
  | none, none, float x, float y => x.same y
  | _, _, _, _ => false

mutual

def same : Value → Value → Bool
  | null, null => true
  | text a, text b => a == b
  | list as, list bs => sameItems as bs
  | tuple as, tuple bs => sameItems as bs
  | dict as, dict bs => as.length == bs.length && sameEntries as bs
  | a, b => sameNumber a b
termination_by structural a => a

def sameItems : List Value → List Value → Bool
  | [], [] => true
  | a :: as, b :: bs => same a b && sameItems as bs
  | _, _ => false
termination_by structural as => as

/-- Every entry of the first list occurs in the second. -/
def sameEntries : List (Value × Value) → List (Value × Value) → Bool
  | [], _ => true
  | entry :: rest, bs => bs.any (fun other => sameEntry entry other) && sameEntries rest bs
termination_by structural as => as

def sameEntry : Value × Value → Value × Value → Bool
  | (key, value), (key', value') => same key key' && same value value'
termination_by structural a => a

end

end ParserCombinators.Value
