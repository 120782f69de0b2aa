import OrderHerald.Document.Content

/-!
# Order types and order statuses

The two closed vocabularies of the order book, with the names under which documents know them.

* `OrderType`, `OrderStatus` — the types and the statuses.
* `OrderType.ofName?`, `OrderStatus.ofName?` — the type or status of a name, exactly as written.
* `hasExclusiveFiller` — an order is exclusive when it names a filler other than the zero address.

## Main statements

* `OrderType.ofName?_eq_some_iff`, `OrderStatus.ofName?_eq_some_iff` — a name is read as a value
  exactly if it is that value's name.
-/

namespace OrderHerald

/-- How an order is priced. -/
inductive OrderType where
  | dutch
  | dutchV2
  | dutchV3
  | priority
  | limit
  /-- Either of the first two Dutch types; used in questions, never stored. -/
  | dutchV1V2
  deriving DecidableEq, Repr, Inhabited

namespace OrderType

/-- All types. -/
def all : List OrderType := [dutch, dutchV2, dutchV3, priority, limit, dutchV1V2]

/-- The name of a type in documents and texts. -/
def name : OrderType → String
  | dutch => "Dutch"
  | dutchV2 => "Dutch_V2"
  | dutchV3 => "Dutch_V3"
  | priority => "Priority"
  | limit => "Limit"
  | dutchV1V2 => "Dutch_V1_V2"

/-- The type with a name. -/
def ofName? (name : String) : Option OrderType :=
  all.find? fun type => type.name = name

/-- Orders of these types go to the webhooks that take every order, and to no other. -/
def isCatchAllOnly : OrderType → Bool
  | limit => true
  | dutchV1V2 => true
  | _ => false

theorem ofName?_name (type : OrderType) : ofName? type.name = some type := by
  cases type <;> rfl

/-- **A type is read from its own name only.** -/
theorem ofName?_eq_some_iff {name : String} {type : OrderType} :
    ofName? name = some type ↔ type.name = name := by
  constructor
  · intro h
    simpa using List.find?_some h
  · rintro rfl
    exact ofName?_name type

/-- The type a document's choice names. -/
def read? {δ : Type} [SettingsDocument δ] (value : δ) : Option OrderType :=
  (SettingsDocument.variant? value).bind ofName?

end OrderType

/-- Where an order stands in its life. -/
inductive OrderStatus where
  | open
  | filled
  | cancelled
  | expired
  | error
  | insufficientFunds
  deriving DecidableEq, Repr, Inhabited

namespace OrderStatus

/-- All statuses. -/
def all : List OrderStatus := [.open, .filled, .cancelled, .expired, .error, .insufficientFunds]

/-- The name of a status in documents and texts. -/
def name : OrderStatus → String
  | .open => "open"
  | .filled => "filled"
  | .cancelled => "cancelled"
  | .expired => "expired"
  | .error => "error"
  | .insufficientFunds => "insufficient-funds"

/-- The status with a name. -/
def ofName? (name : String) : Option OrderStatus :=
  all.find? fun status => status.name = name

theorem ofName?_name (status : OrderStatus) : ofName? status.name = some status := by
  cases status <;> rfl

/-- **A status is read from its own name only.** -/
theorem ofName?_eq_some_iff {name : String} {status : OrderStatus} :
    ofName? name = some status ↔ status.name = name := by
  constructor
  · intro h
    simpa using List.find?_some h
  · rintro rfl
    exact ofName?_name status

/-- The status a document's choice names. -/
def read? {δ : Type} [SettingsDocument δ] (value : δ) : Option OrderStatus :=
  (SettingsDocument.variant? value).bind ofName?

end OrderStatus

/-- The address that stands for nobody. -/
def zeroAddress : String := "0x0000000000000000000000000000000000000000"

/-- The same text, letters `A` to `Z` and `a` to `z` taken as equal. -/
def equalIgnoringCase (a b : String) : Bool :=
  a.toList.map Char.toLower = b.toList.map Char.toLower

/-- **An exclusive filler** is any filler but the zero address. -/
def hasExclusiveFiller : Option String → Bool
  | none => false
  | some filler => !equalIgnoringCase filler zeroAddress

end OrderHerald
