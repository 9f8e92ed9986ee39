import ParserCombinators.Number.Decimal
import ParserCombinators.Text.Quoted
import ParserCombinators.Value.Basic

/-!
The display form of a value, as messages and logs show it.
-/

namespace ParserCombinators.Value

private def commaSpace : Text := Text.ofString ", "

mutual

def display : Value → Text
  | null => Text.ofString "None"
  | bool value => Text.ofString (if value then "True" else "False")
  | int value => Text.ofInt value
  | float value => Decimal.display value
  | text value => value.quoted
  | list items => Text.ofString "[" ++ displayItems items ++ Text.ofString "]"
  | tuple [] => Text.ofString "()"
  | tuple [item] => Text.ofString "(" ++ display item ++ Text.ofString ",)"
  | tuple (item :: next :: items) =>
    Text.ofString "(" ++ display item ++ commaSpace ++ displayItems (next :: items) ++
      Text.ofString ")"
  | dict entries => Text.ofString "\x7b" ++ displayEntries entries ++ Text.ofString "\x7d"

def displayItems : List Value → Text
  | [] => []
  | [item] => display item
  | item :: next :: items => display item ++ commaSpace ++ displayItems (next :: items)

def displayEntries : List (Value × Value) → Text
  | [] => []
  | [entry] => displayEntry entry
  | entry :: next :: entries => displayEntry entry ++ commaSpace ++ displayEntries (next :: entries)

def displayEntry : Value × Value → Text
  | (key, value) => display key ++ Text.ofString ": " ++ display value

end

end ParserCombinators.Value
