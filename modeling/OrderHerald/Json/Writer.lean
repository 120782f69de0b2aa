import OrderHerald.Json.Basic
import OrderHerald.Json.Literal
import OrderHerald.Text.Shortest

/-!
# Writing JSON

The compact text of a value: no blanks, members in the order of the value, integers in decimal,
doubles by their shortest decimal.

* `Json.chars` — the text as characters.
* `Json.text` — the text as a string.
-/

namespace OrderHerald

namespace Json

/-- A text in quotes. -/
def quoted (text : String) : List Char :=
  '"' :: Escape.encode text.toList ++ ['"']

/-- The text of a number. -/
def numberChars : Number → List Char
  | .integer value => (toString value).toList
  | .double bits => (Shortest.text bits).toList

mutual

/-- **The compact text of a value.** -/
def chars : Json → List Char
  | .null => ['n', 'u', 'l', 'l']
  | .bool true => ['t', 'r', 'u', 'e']
  | .bool false => ['f', 'a', 'l', 's', 'e']
  | .number value => numberChars value
  | .string value => quoted value
  | .array items => '[' :: itemChars true items ++ [']']
  | .object members => '{' :: memberChars true members ++ ['}']
  | .defect => ['n', 'u', 'l', 'l']

/-- The items of an array; a comma stands in front of all but the first. -/
def itemChars : Bool → List Json → List Char
  | _, [] => []
  | first, item :: items => (if first then [] else [',']) ++ chars item ++ itemChars false items

/-- The members of an object; a comma stands in front of all but the first. -/
def memberChars : Bool → Members → List Char
  | _, [] => []
  | first, (key, value) :: members =>
    (if first then [] else [',']) ++ quoted key ++ ':' :: chars value ++ memberChars false members

end

/-- The compact text of a value, as a string. -/
def text (value : Json) : String :=
  String.ofList value.chars

end Json

end OrderHerald
