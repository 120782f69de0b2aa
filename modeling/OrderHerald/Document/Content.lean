import OrderHerald.Document.Basic

/-!
# Content set aside

Some values cannot be read before another part of the document has been seen: the fields of a
tagged choice come before or after the tag.  `Content` is a value set aside as what it says by
itself, without a reader's expectation.  Members of a map keep their order and their repetitions,
and a key may be any value: a number names a field by its place.

* `Content` — the values, a `Document` of their own.
-/

namespace OrderHerald

/-- A value read without any expectation. -/
inductive Content where
  | null
  | bool (value : Bool)
  | integer (value : Int)
  | double (bits : UInt64)
  | text (value : String)
  | list (items : List Content)
  | map (entries : List (Content × Content))
  deriving Repr, Inhabited

namespace Content

/-- The text of a text. -/
def text? : Content → Option String
  | .text value => some value
  | _ => none

/-- A natural number below a bound. -/
def natural? (bound : Nat) : Content → Option Nat
  | .integer value => if 0 ≤ value ∧ value.toNat < bound then some value.toNat else none
  | _ => none

/-- The field a key names; keys that are neither text nor number name none. -/
def fieldKey? : Content → Option FieldKey
  | .text name => some (.name name)
  | .integer value => if 0 ≤ value then some (.place value.toNat) else none
  | _ => none

/-- The members of a map by the fields they name; none if a key cannot name a field. -/
def members? (entries : List (Content × Content)) : Option (List (FieldKey × Content)) :=
  entries.mapM fun entry => (fieldKey? entry.1).map (·, entry.2)

/-- The parts of a record. -/
def parts? : Content → Option (Parts Content)
  | .list items => some (.placed items)
  | .map entries => (members? entries).map .named
  | _ => none

/-- The content stands for no value. -/
def isNull : Content → Bool
  | .null => true
  | _ => false

instance : Document Content where
  parts? := parts?
  text? := text?
  natural? := natural?
  isNull := isNull

end Content

/-- A format in which whole configurations are written. -/
class SettingsDocument (δ : Type) extends Document δ where
  /-- The name of a choice that holds nothing further. -/
  variant? : δ → Option String
  /-- The value, set aside. -/
  content? : δ → Option Content
  /-- The bindings of a table whose keys are unsigned 64-bit integers, in the order of the text. -/
  numbered? : δ → Option (List (UInt64 × δ))

end OrderHerald
