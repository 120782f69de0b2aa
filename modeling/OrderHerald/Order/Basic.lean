import OrderHerald.Json.Writer
import OrderHerald.Json.Document
import OrderHerald.Routing.Definition

/-!
# Orders

An order as the order book knows it, and the document that webhooks receive about it.  Receivers
know the swapper as the offerer.

* `Order` — the order; `Order.ofJson?` reads its JSON form, `Order.toJson` writes it.
* `Order.filter` — what its webhooks are looked up by.
* `Payload` — what webhooks are told; `Order.payload`, `Payload.toJson`.
* `Notification` — the body of a request: a payload and the moment it was sent.
-/

namespace OrderHerald

/-- An order. -/
structure Order where
  orderHash : String
  /-- Epoch seconds. -/
  createdAt : UInt64
  signature : String
  swapper : String
  orderStatus : OrderStatus
  encodedOrder : String
  chainId : UInt64
  /-- Absent on orders from before orders had types. -/
  orderType : Option OrderType := none
  quoteId : Option String := none
  filler : Option String := none
  deriving DecidableEq, Repr, Inhabited

/-- What a webhook is told about an order. -/
structure Payload where
  orderHash : String
  createdAt : UInt64
  signature : String
  offerer : String
  orderStatus : OrderStatus
  encodedOrder : String
  chainId : UInt64
  orderType : Option OrderType := none
  quoteId : Option String := none
  filler : Option String := none
  deriving DecidableEq, Repr, Inhabited

namespace Order

/-- What the order's webhooks are looked up by. -/
def filter (order : Order) : Filter where
  offerer := some order.swapper
  orderStatus := some order.orderStatus.name
  filler := order.filler
  orderType := order.orderType

/-- What webhooks are told about the order. -/
def payload (order : Order) : Payload where
  orderHash := order.orderHash
  createdAt := order.createdAt
  signature := order.signature
  offerer := order.swapper
  orderStatus := order.orderStatus
  encodedOrder := order.encodedOrder
  chainId := order.chainId
  orderType := order.orderType
  quoteId := order.quoteId
  filler := order.filler

/-- The fields of an order, in their declared order. -/
def fields : List Field :=
  ["orderHash", "createdAt", "signature", "swapper", "orderStatus", "encodedOrder", "chainId",
    "type", "quoteId", "filler"]

/-- **Reads an order.** -/
def ofJson? (value : Json) : Option Order := do
  let record ← Record.of? fields value
  let orderHash ← record.required? "orderHash" Json.string?
  let createdAt ← record.required? "createdAt" Document.uint64?
  let signature ← record.required? "signature" Json.string?
  let swapper ← record.required? "swapper" Json.string?
  let orderStatus ← record.required? "orderStatus" OrderStatus.read?
  let encodedOrder ← record.required? "encodedOrder" Json.string?
  let chainId ← record.required? "chainId" Document.uint64?
  let orderType ← record.optionalWithDefault? "type" OrderType.read?
  let quoteId ← record.optionalWithDefault? "quoteId" Json.string?
  let filler ← record.optionalWithDefault? "filler" Json.string?
  some ⟨orderHash, createdAt, signature, swapper, orderStatus, encodedOrder, chainId, orderType,
    quoteId, filler⟩

end Order

/-- A member that is left out where its value is absent. -/
def Json.optionalMember (name : String) : Option String → Json.Members
  | none => []
  | some value => [(name, .string value)]

namespace Payload

/-- The members of a payload's document, in their order; absent values are left out. -/
def members (payload : Payload) : Json.Members :=
  [("orderHash", .string payload.orderHash), ("createdAt", Json.natural payload.createdAt),
    ("signature", .string payload.signature), ("offerer", .string payload.offerer),
    ("orderStatus", .string payload.orderStatus.name),
    ("encodedOrder", .string payload.encodedOrder), ("chainId", Json.natural payload.chainId)]
  ++ Json.optionalMember "type" (payload.orderType.map OrderType.name)
  ++ Json.optionalMember "quoteId" payload.quoteId
  ++ Json.optionalMember "filler" payload.filler

/-- **The document about an order.** -/
def toJson (payload : Payload) : Json := .object payload.members

end Payload

/-- The body of a request to a webhook. -/
structure Notification where
  payload : Payload
  /-- Epoch milliseconds at which the request left. -/
  notifiedAt : UInt64
  deriving DecidableEq, Repr

namespace Notification

/-- The payload's members and the moment of sending. -/
def toJson (notification : Notification) : Json :=
  .object (notification.payload.members ++ [("notifiedAt", Json.natural notification.notifiedAt)])

/-- The text of the body. -/
def body (notification : Notification) : String := notification.toJson.text

end Notification

end OrderHerald
