import OrderHerald.Dict
import OrderHerald.Order.Kind

/-!
# Routing definitions

Which webhooks an order is sent to is written in one document, the routing definition.  It lists
webhooks that take every order, and for each of three dimensions of an order the webhooks that take
orders with a certain value there.

* `Endpoint` — a webhook: where to post, and which headers of its own it wants.
* `Dimension`, `Rules` — the dimensions, in the order in which they are asked, and their tables.
* `Definition` — the document.
* `Filter` — what is known of an order when its webhooks are looked up.
-/

namespace OrderHerald

/-- A webhook.  No headers and an empty table of headers are told apart. -/
structure Endpoint where
  /-- Where orders are posted. -/
  url : String
  /-- Headers added to every request to this webhook. -/
  headers : Option (Dict String String) := none
  deriving DecidableEq, Repr, Inhabited

/-- The webhooks per value of one dimension. -/
abbrev Table := Dict String (List Endpoint)

/-- What an order can be routed by. -/
inductive Dimension where
  | filler
  | orderStatus
  | offerer
  deriving DecidableEq, Repr

/-- The dimensions in the order in which they are asked. -/
def Dimension.all : List Dimension := [.filler, .orderStatus, .offerer]

/-- One table per dimension. -/
structure Rules where
  filler : Table := Dict.empty
  orderStatus : Table := Dict.empty
  offerer : Table := Dict.empty
  deriving DecidableEq, Repr, Inhabited

/-- The table of a dimension. -/
def Rules.table (rules : Rules) : Dimension → Table
  | .filler => rules.filler
  | .orderStatus => rules.orderStatus
  | .offerer => rules.offerer

/-- A routing definition. -/
structure Definition where
  /-- Webhooks that take every order. -/
  catchAll : List Endpoint := []
  /-- Webhooks that take orders with certain values. -/
  rules : Rules := {}
  deriving DecidableEq, Repr, Inhabited

/-- What is known of an order when its webhooks are looked up. -/
structure Filter where
  offerer : Option String := none
  orderStatus : Option String := none
  filler : Option String := none
  orderType : Option OrderType := none
  deriving DecidableEq, Repr, Inhabited

/-- The order's value in a dimension. -/
def Filter.value (filter : Filter) : Dimension → Option String
  | .filler => filter.filler
  | .orderStatus => filter.orderStatus
  | .offerer => filter.offerer

end OrderHerald
