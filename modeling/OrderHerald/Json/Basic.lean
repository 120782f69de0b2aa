import OrderHerald.Dict

/-!
# JSON values

A `Json` is a document as it was written: members of an object stand in the order of the text, and
a key may stand there twice.  Whether that matters is for the reader of the value to say: a record
refuses a field given twice, a dictionary lets the last one count.

A text can be well formed and yet mean nothing: a number beyond every double, a string with half a
surrogate pair, arrays nested without end.  Such a place is a `Json.defect`.  It does no harm where
nobody looks, and no typed reader accepts it.

* `Number` — an integer of at most 64 bits, or a double given by its bits.
* `Json` — the values.
* `Json.bounded` — containers below a nesting depth count as defects.
* `Json.plain?` — the value with sorted members, the last of each key, if no part of it is a
  defect.
-/

namespace OrderHerald

/-- A JSON number.  Integers lie between `-2^63` and `2^64 - 1`; all other numbers are doubles,
kept as their IEEE 754 bits. -/
inductive Number where
  /-- A number written without fraction and exponent that fits 64 bits. -/
  | integer (value : Int)
  /-- Any other number: the bits of a finite double. -/
  | double (bits : UInt64)
  deriving DecidableEq, Repr, Inhabited

namespace Number

/-- The number as an unsigned 64-bit integer, if it is one. -/
def toUInt64? : Number → Option UInt64
  | .integer value => if 0 ≤ value ∧ value.toNat < UInt64.size then some (UInt64.ofNat value.toNat) else none
  | .double _ => none

/-- The double nearest to an integer of at most 64 bits. -/
def floatOfInt (value : Int) : Float :=
  if value < 0 then -(UInt64.ofNat value.natAbs).toFloat else (UInt64.ofNat value.toNat).toFloat

/-- The nearest double, as its bits. -/
def toDouble : Number → UInt64
  | .integer value => (floatOfInt value).toBits
  | .double bits => bits

end Number

/-- A JSON document. -/
inductive Json where
  | null
  | bool (value : Bool)
  | number (value : Number)
  | string (value : String)
  | array (items : List Json)
  /-- The members in the order of the text; a key may occur more than once. -/
  | object (members : List (String × Json))
  /-- A well-formed part of a text that denotes no value. -/
  | defect
  deriving BEq, Repr, Inhabited

namespace Json

/-- The members of an object by name. -/
abbrev Members := List (String × Json)

/-- A natural number below `2^64`. -/
def natural (n : UInt64) : Json :=
  .number (.integer n.toNat)

mutual

/-- **A nesting limit**: containers with `depth` containers around them are defects. -/
def bounded : Nat → Json → Json
  | 0, .array _ => .defect
  | 0, .object _ => .defect
  | depth + 1, .array items => .array (boundedItems depth items)
  | depth + 1, .object members => .object (boundedMembers depth members)
  | _, value => value

/-- The limit on the items of an array. -/
def boundedItems : Nat → List Json → List Json
  | _, [] => []
  | depth, item :: items => bounded depth item :: boundedItems depth items

/-- The limit on the members of an object. -/
def boundedMembers : Nat → Members → Members
  | _, [] => []
  | depth, (key, value) :: members => (key, bounded depth value) :: boundedMembers depth members

end

mutual

/-- **The plain value**: members ascend by key and the last of each key counts; `none` if any part
of the document is a defect, also one whose key occurs again. -/
def plain? : Json → Option Json
  | .array items => (plainItems? items).map .array
  | .object members => (plainMembers? members).map fun ms => .object (Ascending.ofList ms)
  | .defect => none
  | value => some value

/-- The plain items of an array. -/
def plainItems? : List Json → Option (List Json)
  | [] => some []
  | item :: items =>
    match plain? item, plainItems? items with
    | some item, some items => some (item :: items)
    | _, _ => none

/-- The plain members of an object, repeated keys included. -/
def plainMembers? : Members → Option Members
  | [] => some []
  | (key, value) :: members =>
    match plain? value, plainMembers? members with
    | some value, some members => some ((key, value) :: members)
    | _, _ => none

end

/-- The member of an object with this name; the first, if there are several. -/
def member? (name : String) : Json → Option Json
  | .object members => members.lookup name
  | _ => none

/-- The text of a string value. -/
def string? : Json → Option String
  | .string value => some value
  | _ => none

/-- The items of an array value. -/
def items? : Json → Option (List Json)
  | .array items => some items
  | _ => none

end Json

end OrderHerald
