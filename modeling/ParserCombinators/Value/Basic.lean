import ParserCombinators.Number.Double
import ParserCombinators.Text.Basic

/-!
The values that parsers produce. A parser's result is fed to functions that the grammar supplies,
so results of every shape share one type.
-/

namespace ParserCombinators

inductive Value where
  | null
  | bool (value : Bool)
  | int (value : Int)
  | float (value : Double)
  | text (value : Text)
  | list (items : List Value)
  | tuple (items : List Value)
  | dict (entries : List (Value × Value))

namespace Value

instance : Inhabited Value := ⟨null⟩

def isNull : Value → Bool
  | null => true
  | _ => false

/-- An item of a list by its position, null without one. -/
def item (value : Value) (index : Nat) : Value :=
  match value with
  | list items => items.getD index null
  | _ => null

/-- The items of a list or tuple, the characters of a text and the keys of a dictionary. -/
def items? : Value → Option (List Value)
  | list items => some items
  | tuple items => some items
  | text value => some (value.map fun c => text [c])
  | dict entries => some (entries.map (·.1))
  | _ => none

def text? : Value → Option Text
  | text value => some value
  | _ => none

/-- The texts among the items of a value as one, none if an item is of another kind. -/
def join? (separator : Text) (value : Value) : Option Value := do
  let texts ← (← value.items?).mapM text?
  return text (Text.join separator texts)

mutual

/-- The texts inside a value from left to right, one after the other. Lists and tuples are
flattened, and a value of another kind holds no text. -/
def flatten : Value → Text
  | text value => value
  | list items => flattenAll items
  | tuple items => flattenAll items
  | _ => []

def flattenAll : List Value → Text
  | [] => []
  | value :: rest => flatten value ++ flattenAll rest

end

end Value

end ParserCombinators
