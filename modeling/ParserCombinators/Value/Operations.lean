import ParserCombinators.Value.Equality

/-!
Functions on values that a grammar may apply to results. Each is partial: it gives none for a value
that it is not meant for. They stand here for the grammars that a user of the library writes; none
of its own parsers applies one, so no theorem is about them.
-/

namespace ParserCombinators.Value

def length? : Value → Option Nat
  | text value => some value.length
  | list items => some items.length
  | tuple items => some items.length
  | dict entries => some entries.length
  | _ => none

def neg? (value : Value) : Option Value := value.integer?.map fun n => int (-n)

def sum? (value : Value) : Option Value := do
  let numbers ← (← value.items?).mapM integer?
  return int (numbers.foldl (· + ·) 0)

/-- ASCII letters alone change. -/
def upper? : Value → Option Value
  | text value => some (text (value.map fun c => if 97 ≤ c && c ≤ 122 then c - 32 else c))
  | _ => none

/-- The item at a position, counted from the end when negative. -/
def index? (position : Int) (value : Value) : Option Value := do
  let items ← value.items?
  let place := if position < 0 then items.length + position else position
  if place < 0 then none else items[place.toNat]?

def pair (value : Value) : Value := list [value, value]

def reverse? : Value → Option Value
  | text value => some (text value.reverse)
  | list items => some (list items.reverse)
  | tuple items => some (tuple items.reverse)
  | _ => none

def tuple? (value : Value) : Option Value := value.items?.map tuple

/-- An entry whose key is there already keeps the place and the first key, and takes the new
value. -/
def insert (entries : List (Value × Value)) (key value : Value) : List (Value × Value) :=
  if entries.any (fun entry => same entry.1 key) then
    entries.map fun entry => if same entry.1 key then (entry.1, value) else entry
  else entries ++ [(key, value)]

def ofEntries (entries : List (Value × Value)) : Value :=
  dict (entries.foldl (fun found entry => insert found entry.1 entry.2) [])

def pair? (value : Value) : Option (Value × Value) := do
  match ← value.items? with
  | [first, second] => some (first, second)
  | _ => none

def dict? (value : Value) : Option Value := do
  let entries ← (← value.items?).mapM pair?
  return ofEntries entries

end ParserCombinators.Value
