/-!
# Documents with typed readers

The same record can be written in more than one format.  A format that holds records is a
`Document`: it can tell the parts of a record, a text, a number and the absence of a value apart.
The readers of this library are written once, against this interface.

A record is written with its fields by name, or as a plain list of its fields in their declared
order.  By name a field may be given at most once, under its name or an alias, and members that are
no field do not count.  In a list nothing may stand beyond the last field.

* `Document` — what a format must offer to records.
* `Record.of?` — the fields of a record.
* `Record.required?`, `Record.optional?`, `Record.withDefault?`, `Record.optionalWithDefault?` —
  the four ways in which a record reads a field.
-/

namespace OrderHerald

/-- How a member of a record names its field. -/
inductive FieldKey where
  /-- By name. -/
  | name (name : String)
  /-- By its place in the declared order. -/
  | place (index : Nat)
  deriving DecidableEq, Repr

/-- A value seen as a record. -/
inductive Parts (δ : Type) where
  /-- Members with their keys, in the order of the text. -/
  | named (members : List (FieldKey × δ))
  /-- Fields in their declared order. -/
  | placed (items : List δ)

/-- A format whose values can be read as records. -/
class Document (δ : Type) where
  /-- The parts of a record. -/
  parts? : δ → Option (Parts δ)
  /-- A text. -/
  text? : δ → Option String
  /-- A natural number below `bound`. -/
  natural? : (bound : Nat) → δ → Option Nat
  /-- The value stands for no value. -/
  isNull : δ → Bool

/-- A field of a record: its name and further names for it. -/
structure Field where
  name : String
  aliases : List String := []
  deriving DecidableEq, Repr

instance : Coe String Field := ⟨fun name => ⟨name, []⟩⟩

/-- What a record holds for a field. -/
inductive Slot (δ : Type) where
  /-- A value is given. -/
  | given (value : δ)
  /-- No member of a record by name names the field. -/
  | unnamed
  /-- The list of fields ends before the field. -/
  | unplaced

/-- The fields of a record with what is held for them. -/
abbrev Record (δ : Type) := List (String × Slot δ)

namespace Record

variable {δ α : Type}

/-- The member belongs to the field at `index`. -/
def names (field : Field) (index : Nat) : FieldKey → Bool
  | .name name => name = field.name || field.aliases.contains name
  | .place i => i = index

/-- The slots of fields given by name; none if a field is given twice. -/
def ofNamed? (members : List (FieldKey × δ)) : Nat → List Field → Option (Record δ)
  | _, [] => some []
  | index, field :: fields =>
    match members.filter (fun m => names field index m.1), ofNamed? members (index + 1) fields with
    | [], some record => some ((field.name, .unnamed) :: record)
    | [(_, value)], some record => some ((field.name, .given value) :: record)
    | _, _ => none

/-- The slots of fields given in order; none if there are more values than fields. -/
def ofPlaced? : List δ → List Field → Option (Record δ)
  | [], [] => some []
  | _ :: _, [] => none
  | [], field :: fields => (ofPlaced? [] fields).map ((field.name, .unplaced) :: ·)
  | value :: values, field :: fields =>
    (ofPlaced? values fields).map ((field.name, .given value) :: ·)

/-- The record with these fields that the parts make. -/
def ofParts? (fields : List Field) : Parts δ → Option (Record δ)
  | .named members => ofNamed? members 0 fields
  | .placed items => ofPlaced? items fields

/-- **The record a value is**, if it is one with these fields. -/
def of? [Document δ] (fields : List Field) (value : δ) : Option (Record δ) :=
  (Document.parts? value).bind (ofParts? fields)

/-- What the record holds for a field. -/
def slot (record : Record δ) (name : String) : Slot δ :=
  (record.lookup name).getD .unnamed

/-- A field that must be given. -/
def required? (record : Record δ) (name : String) (read? : δ → Option α) : Option α :=
  match record.slot name with
  | .given value => read? value
  | _ => none

/-- A value that may be null. -/
def nullable? [Document δ] (read? : δ → Option α) (value : δ) : Option (Option α) :=
  if Document.isNull value then some none else (read? value).map some

/-- A field that may be null, and missing where fields are given by name. -/
def optional? [Document δ] (record : Record δ) (name : String) (read? : δ → Option α) :
    Option (Option α) :=
  match record.slot name with
  | .given value => nullable? read? value
  | .unnamed => some none
  | .unplaced => none

/-- A field with a value of its own where it is missing; null is not missing. -/
def withDefault? (record : Record δ) (name : String) (default : α) (read? : δ → Option α) :
    Option α :=
  match record.slot name with
  | .given value => read? value
  | _ => some default

/-- A field that may be null and may be missing everywhere. -/
def optionalWithDefault? [Document δ] (record : Record δ) (name : String)
    (read? : δ → Option α) : Option (Option α) :=
  match record.slot name with
  | .given value => nullable? read? value
  | _ => some none

end Record

namespace Document

variable {δ : Type} [Document δ]

/-- An unsigned 64-bit integer. -/
def uint64? (value : δ) : Option UInt64 :=
  (natural? UInt64.size value).map UInt64.ofNat

/-- An unsigned 16-bit integer. -/
def uint16? (value : δ) : Option UInt16 :=
  (natural? UInt16.size value).map UInt16.ofNat

end Document

end OrderHerald
