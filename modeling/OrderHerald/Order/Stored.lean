import OrderHerald.Order.Basic
import OrderHerald.Stream.Access

/-!
# Orders as stored

The change stream delivers an order as the image of its item.  The order's type decides which
further attributes the image must have: those of the clock on which the order's price decays.

* `Variant` — the type together with its clock.
* `StoredOrder.ofImage` — the order an image holds, or the first thing that is wrong with it.
-/

namespace OrderHerald

/-- The type of a stored order together with the clock its price decays on. -/
inductive Variant where
  | dutch
  /-- Decays between two moments, in epoch seconds. -/
  | dutchV2 (decayStartTime decayEndTime : UInt64)
  /-- Decays from a block on. -/
  | dutchV3 (decayStartBlock : UInt64)
  /-- Auctioned from a block on. -/
  | priority (auctionStartBlock : UInt64)
  | limit
  deriving DecidableEq, Repr, Inhabited

namespace Variant

/-- The type without its clock. -/
def orderType : Variant → OrderType
  | dutch => .dutch
  | dutchV2 _ _ => .dutchV2
  | dutchV3 _ => .dutchV3
  | priority _ => .priority
  | limit => .limit

/-- The clock that an image holds for an order of this type.  No attribute that the type does not
need is looked at. -/
def ofImage (type : OrderType) (image : Image) : Except ImageError Variant :=
  match type with
  | .dutch => .ok dutch
  | .dutchV2 => do
    let cosigner ← image.map "cosignerData"
    let start ← cosigner.uint64 "decayStartTime"
    let stop ← cosigner.uint64 "decayEndTime"
    .ok (dutchV2 start stop)
  | .dutchV3 => do
    let cosigner ← image.map "cosignerData"
    let start ← cosigner.uint64 "decayStartBlock"
    .ok (dutchV3 start)
  | .priority => do
    let start ← image.uint64 "auctionStartBlock"
    .ok (priority start)
  | .limit => .ok limit
  | .dutchV1V2 => .error (.unsupportedType type)

end Variant

/-- An order read from a stored item. -/
structure StoredOrder where
  order : Order
  variant : Variant
  deriving DecidableEq, Repr

namespace StoredOrder

/-- The type an image names, if it names one. -/
def typeOfImage (image : Image) : Except ImageError (Option OrderType) := do
  match ← image.optionalString "type" with
  | none => .ok none
  | some name =>
    match OrderType.ofName? name with
    | some type => .ok (some type)
    | none => .error (.unknownType name)

/-- The status an image names. -/
def statusOfImage (image : Image) : Except ImageError OrderStatus := do
  let name ← image.string "orderStatus"
  match OrderStatus.ofName? name with
  | some status => .ok status
  | none => .error (.unknownStatus name)

/-- **The order an image holds.**  The type comes first, then its clock, then the attributes that
every order has.  An image without a type is a Dutch order from before orders had types. -/
def ofImage (image : Image) : Except ImageError StoredOrder := do
  let orderType ← typeOfImage image
  let variant ← Variant.ofImage (orderType.getD .dutch) image
  let orderHash ← image.string "orderHash"
  let createdAt ← image.uint64 "createdAt"
  let signature ← image.string "signature"
  let swapper ← image.string "swapper"
  let orderStatus ← statusOfImage image
  let encodedOrder ← image.string "encodedOrder"
  let chainId ← image.uint64 "chainId"
  let quoteId ← image.optionalString "quoteId"
  let filler ← image.optionalString "filler"
  .ok ⟨⟨orderHash, createdAt, signature, swapper, orderStatus, encodedOrder, chainId, orderType,
    quoteId, filler⟩, variant⟩

end StoredOrder

end OrderHerald
