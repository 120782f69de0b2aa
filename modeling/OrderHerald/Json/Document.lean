import OrderHerald.Document.Content
import OrderHerald.Json.Reader

/-!
# JSON as a document format

Records are objects, or arrays of their fields.  Numbers are read as what they are: a text or a
number with a fraction is no integer.  A choice without further parts is its name, or an object
whose single member has that name and the value null.  A table with numbers for keys has them in
quotes, each a JSON integer of its own.
-/

namespace OrderHerald

namespace Json

/-- The parts of a record. -/
def parts? : Json → Option (Parts Json)
  | .object members => some (.named (members.map fun (key, value) => (.name key, value)))
  | .array items => some (.placed items)
  | _ => none

/-- A natural number below a bound. -/
def natural? (bound : Nat) : Json → Option Nat
  | .number (.integer value) =>
    if 0 ≤ value ∧ value.toNat < bound then some value.toNat else none
  | _ => none

/-- The value is null. -/
def isNull : Json → Bool
  | .null => true
  | _ => false

instance : Document Json where
  parts? := parts?
  text? := string?
  natural? := natural?
  isNull := isNull

/-- A double, out of any number. -/
def double? : Json → Option UInt64
  | .number value => some value.toDouble
  | _ => none

/-- A truth value. -/
def bool? : Json → Option Bool
  | .bool value => some value
  | _ => none

/-- A list whose items are all read. -/
def list? {α : Type} (read? : Json → Option α) (value : Json) : Option (List α) :=
  value.items?.bind (·.mapM read?)

/-- A dictionary whose values are all read; the last of each key counts. -/
def dict? {α : Type} (read? : Json → Option α) : Json → Option (Dict String α)
  | .object members =>
    (members.mapM fun member => (read? member.2).map (member.1, ·)).map Dict.ofList
  | _ => none

/-- The name of a choice that holds nothing further. -/
def variant? : Json → Option String
  | .string name => some name
  | .object [(name, .null)] => some name
  | _ => none

mutual

/-- The value set aside; every part of it must have a meaning. -/
def content? : Json → Option Content
  | .null => some .null
  | .bool value => some (.bool value)
  | .number (.integer value) => some (.integer value)
  | .number (.double bits) => some (.double bits)
  | .string value => some (.text value)
  | .array items => (contentItems? items).map .list
  | .object members => (contentMembers? members).map .map
  | .defect => none

/-- The items of an array, set aside. -/
def contentItems? : List Json → Option (List Content)
  | [] => some []
  | item :: items =>
    match content? item, contentItems? items with
    | some item, some items => some (item :: items)
    | _, _ => none

/-- The members of an object, set aside. -/
def contentMembers? : Members → Option (List (Content × Content))
  | [] => some []
  | (key, value) :: members =>
    match content? value, contentMembers? members with
    | some value, some members => some ((.text key, value) :: members)
    | _, _ => none

end

/-- An unsigned 64-bit integer written as a JSON number and nothing else. -/
def numberKey? (key : String) : Option UInt64 :=
  match Numeral.ofChars? key.toList with
  | some numeral => numeral.value?.bind Number.toUInt64?
  | none => none

/-- The bindings of a table whose keys are numbers in quotes. -/
def numbered? : Json → Option (List (UInt64 × Json))
  | .object members => members.mapM fun member => (numberKey? member.1).map (·, member.2)
  | _ => none

instance : SettingsDocument Json where
  variant? := variant?
  content? := content?
  numbered? := numbered?

end Json

end OrderHerald
