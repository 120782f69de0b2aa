import OrderHerald.Order.Kind
import OrderHerald.Stream.Attribute
import OrderHerald.Text.Decimal

/-!
# Attributes of an expected type

What is asked of an image: a text, a number or a map under a name.  An attribute of the null type
counts as absent, whatever its value says.

* `ImageError` — why an image is no order.
* `Image.string`, `Image.optionalString`, `Image.number`, `Image.optionalNumber`, `Image.map` — the
  questions.
-/

namespace OrderHerald

/-- Why an image is no order. -/
inductive ImageError where
  /-- A needed attribute is absent. -/
  | missing (name : String)
  /-- An attribute is not of the type that its JSON name `expected` stands for. -/
  | wrongType (name expected : String)
  /-- The digits of a number are no integer in range. -/
  | invalidNumber (name digits : String)
  | unknownStatus (name : String)
  | unknownType (name : String)
  /-- A type that asks for several kinds of orders and is no order's own. -/
  | unsupportedType (type : OrderType)
  deriving DecidableEq, Repr

/-- The text of an error. -/
def ImageError.message : ImageError → String
  | .missing name => "missing attribute: " ++ name
  | .wrongType name expected => "attribute " ++ name ++ " is not of type " ++ expected
  | .invalidNumber name digits => "attribute " ++ name ++ " is not a valid number: " ++ digits
  | .unknownStatus name => "unknown order status: " ++ name
  | .unknownType name => "unknown order type: " ++ name
  | .unsupportedType type => "order type " ++ type.name ++ " cannot be stored"

namespace Image

/-- **The attribute under a name**, unless it is null. -/
def attribute? (image : Image) (name : String) : Option AttributeValue :=
  match image.lookup name with
  | some (.null _) => none
  | other => other

/-- A text that may be absent. -/
def optionalString (image : Image) (name : String) : Except ImageError (Option String) :=
  match image.attribute? name with
  | none => .ok none
  | some (.string value) => .ok (some value)
  | some _ => .error (.wrongType name "S")

/-- A number that may be absent, as `read?` reads its digits. -/
def optionalNumber {α : Type} (read? : String → Option α) (image : Image) (name : String) :
    Except ImageError (Option α) :=
  match image.attribute? name with
  | none => .ok none
  | some (.number digits) =>
    match read? digits with
    | some value => .ok (some value)
    | none => .error (.invalidNumber name digits)
  | some _ => .error (.wrongType name "N")

/-- What may be absent is needed. -/
def needed {α : Type} (name : String) : Except ImageError (Option α) → Except ImageError α
  | .ok (some value) => .ok value
  | .ok none => .error (.missing name)
  | .error e => .error e

/-- A text. -/
def string (image : Image) (name : String) : Except ImageError String :=
  needed name (image.optionalString name)

/-- A number, as `read?` reads its digits. -/
def number {α : Type} (read? : String → Option α) (image : Image) (name : String) :
    Except ImageError α :=
  needed name (optionalNumber read? image name)

/-- An unsigned 64-bit integer. -/
def uint64 (image : Image) (name : String) : Except ImageError UInt64 :=
  number Decimal.uint64? image name

/-- A map of attributes. -/
def map (image : Image) (name : String) : Except ImageError Image :=
  match image.attribute? name with
  | none => .error (.missing name)
  | some (.map entries) => .ok entries
  | some _ => .error (.wrongType name "M")

end Image

end OrderHerald
