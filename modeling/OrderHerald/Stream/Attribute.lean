import OrderHerald.Json.Document

/-!
# Attribute values

An item of the order book is stored as a map from attribute names to typed values.  In JSON every
value stands in an object with one member, whose name is the value's type: `{"S": "open"}`,
`{"N": "137"}`.  Numbers are texts; their digits are judged when they are used.

* `AttributeValue` — the values; `Image` — the attributes of an item, in ascending order of their
  names.
* `AttributeValue.ofJson?`, `Image.ofJson?` — reading; of a name given twice the last counts.
* `AttributeValue.toJson`, `Image.toJson` — writing.
-/

namespace OrderHerald

/-- A typed value. -/
inductive AttributeValue where
  | string (value : String)
  | number (digits : String)
  | bool (value : Bool)
  | null (value : Bool)
  | map (entries : List (String × AttributeValue))
  | list (items : List AttributeValue)
  | stringSet (values : List String)
  | numberSet (values : List String)
  | binary (value : String)
  deriving BEq, Repr, Inhabited

/-- The attributes of an item by name. -/
abbrev Image := List (String × AttributeValue)

/-- A list of texts. -/
def Json.strings? (value : Json) : Option (List String) :=
  Json.list? Json.string? value

namespace AttributeValue

mutual

/-- **Reads a typed value**: an object with exactly one member. -/
def ofJson? : Json → Option AttributeValue
  | .object [("S", .string value)] => some (.string value)
  | .object [("N", .string digits)] => some (.number digits)
  | .object [("BOOL", .bool value)] => some (.bool value)
  | .object [("NULL", .bool value)] => some (.null value)
  | .object [("B", .string value)] => some (.binary value)
  | .object [("SS", .array items)] => (Json.strings? (.array items)).map .stringSet
  | .object [("NS", .array items)] => (Json.strings? (.array items)).map .numberSet
  | .object [("L", .array items)] => (itemsOfJson? items).map .list
  | .object [("M", .object members)] =>
    (membersOfJson? members).map fun entries => .map (Ascending.ofList entries)
  | _ => none

/-- Reads the items of a list. -/
def itemsOfJson? : List Json → Option (List AttributeValue)
  | [] => some []
  | item :: items =>
    match ofJson? item, itemsOfJson? items with
    | some item, some items => some (item :: items)
    | _, _ => none

/-- Reads the entries of a map, in the order of the text. -/
def membersOfJson? : Json.Members → Option (List (String × AttributeValue))
  | [] => some []
  | (name, value) :: members =>
    match ofJson? value, membersOfJson? members with
    | some value, some entries => some ((name, value) :: entries)
    | _, _ => none

end

mutual

/-- **Writes a typed value.** -/
def toJson : AttributeValue → Json
  | .string value => .object [("S", .string value)]
  | .number digits => .object [("N", .string digits)]
  | .bool value => .object [("BOOL", .bool value)]
  | .null value => .object [("NULL", .bool value)]
  | .binary value => .object [("B", .string value)]
  | .stringSet values => .object [("SS", .array (values.map .string))]
  | .numberSet values => .object [("NS", .array (values.map .string))]
  | .list items => .object [("L", .array (itemsToJson items))]
  | .map entries => .object [("M", .object (entriesToJson entries))]

/-- Writes the items of a list. -/
def itemsToJson : List AttributeValue → List Json
  | [] => []
  | item :: items => toJson item :: itemsToJson items

/-- Writes the entries of a map. -/
def entriesToJson : List (String × AttributeValue) → Json.Members
  | [] => []
  | (name, value) :: entries => (name, toJson value) :: entriesToJson entries

end

end AttributeValue

namespace Image

/-- **Reads the attributes of an item.** -/
def ofJson? : Json → Option Image
  | .object members => (AttributeValue.membersOfJson? members).map Ascending.ofList
  | _ => none

/-- Writes the attributes of an item. -/
def toJson (image : Image) : Json :=
  .object (AttributeValue.entriesToJson image)

end Image

end OrderHerald
