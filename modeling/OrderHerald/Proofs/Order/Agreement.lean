import OrderHerald.Proofs.Batch.Record
import OrderHerald.Proofs.Order.Told
import OrderHerald.Proofs.Text.Decimal
import OrderHerald.Service.Ingress

/-!
# Two ways in, one order

An order with an exclusive filler comes in twice: at once, as a document, and with the change
stream, as the image of its item.  Two readers and two payloads are at work, and webhooks on both
ways are told the same.

**Images that carry an order.**  `Image.Carries` says which attribute stands for which field: texts
as texts, numbers by their digits, and where a field has no value there is no attribute or a null.
Apart from the clock of its type, such an image is read as the order itself
(`StoredOrder.ofImage_of_carries`), so the clock alone decides whether it is read at all.

**What is told.**  On the first way the type asked for takes the place of the order's own, and the
two are the same.  So each delivery, on either way, has the payload of the order.

## Main statements

* `StoredOrder.ofImage_of_carries` — the order of an image that carries it.
* `Order.told_alike` — what webhooks are told on the two ways.
-/

namespace OrderHerald

/-! ### Images that carry an order -/

namespace Image

variable {image : Image} {name : String}

/-- A text stands under a name; where there is none, no attribute or a null. -/
def CarriesText (image : Image) (name : String) : Option String → Prop
  | some text => image.lookup name = some (.string text)
  | none => image.lookup name = none ∨ ∃ value, image.lookup name = some (.null value)

/-- **The image carries an order**: each of its fields stands there as an attribute. -/
structure Carries (image : Image) (order : Order) : Prop where
  orderHash : image.lookup "orderHash" = some (.string order.orderHash)
  createdAt : image.lookup "createdAt" = some (.number order.createdAt.toNat.repr)
  signature : image.lookup "signature" = some (.string order.signature)
  swapper : image.lookup "swapper" = some (.string order.swapper)
  orderStatus : image.lookup "orderStatus" = some (.string order.orderStatus.name)
  encodedOrder : image.lookup "encodedOrder" = some (.string order.encodedOrder)
  chainId : image.lookup "chainId" = some (.number order.chainId.toNat.repr)
  orderType : image.CarriesText "type" (order.orderType.map OrderType.name)
  quoteId : image.CarriesText "quoteId" order.quoteId
  filler : image.CarriesText "filler" order.filler

theorem optionalString_of_carries {value : Option String} (h : image.CarriesText name value) :
    image.optionalString name = .ok value := by
  unfold optionalString attribute?
  cases value with
  | some text =>
    have there : image.lookup name = some (.string text) := h
    rw [there]
  | none =>
    rcases h with absent | ⟨value, null⟩
    · rw [absent]
    · rw [null]

theorem string_of_lookup {text : String} (h : image.lookup name = some (.string text)) :
    image.string name = .ok text := by
  have carried : image.CarriesText name (some text) := h
  rw [string, optionalString_of_carries carried]
  rfl

/-- **A number is read from its digits.** -/
theorem uint64_of_lookup {n : UInt64} (h : image.lookup name = some (.number n.toNat.repr)) :
    image.uint64 name = .ok n := by
  unfold uint64 number optionalNumber attribute?
  rw [h]
  simp only [Decimal.uint64?_repr]
  rfl

end Image

namespace StoredOrder

variable {image : Image} {order : Order}

theorem typeOfImage_of_carries (h : image.Carries order) :
    typeOfImage image = .ok order.orderType := by
  unfold typeOfImage
  rw [Image.optionalString_of_carries h.orderType]
  cases order.orderType with
  | none => rfl
  | some type => simp only [Option.map_some, bind, Except.bind, OrderType.ofName?_name]

theorem statusOfImage_of_carries (h : image.Carries order) :
    statusOfImage image = .ok order.orderStatus := by
  unfold statusOfImage
  rw [Image.string_of_lookup h.orderStatus]
  simp only [bind, Except.bind, OrderStatus.ofName?_name]

/-- **The image is read as the order that it carries**, with the clock that its type asks for. -/
theorem ofImage_of_carries (h : image.Carries order) :
    ofImage image = (Variant.ofImage (order.orderType.getD .dutch) image).map (⟨order, ·⟩) := by
  rw [ofImage, typeOfImage_of_carries h]
  change (Variant.ofImage (order.orderType.getD .dutch) image >>= _) = _
  cases Variant.ofImage (order.orderType.getD .dutch) image with
  | error reason => rfl
  | ok variant =>
    change (image.string "orderHash" >>= _) = _
    rw [Image.string_of_lookup h.orderHash, Image.uint64_of_lookup h.createdAt,
      Image.string_of_lookup h.signature, Image.string_of_lookup h.swapper,
      statusOfImage_of_carries h, Image.string_of_lookup h.encodedOrder,
      Image.uint64_of_lookup h.chainId, Image.optionalString_of_carries h.quoteId,
      Image.optionalString_of_carries h.filler]
    rfl

theorem order_of_carries {stored : StoredOrder} (h : image.Carries order)
    (read : ofImage image = .ok stored) : stored.order = order := by
  rw [ofImage_of_carries h] at read
  cases clock : Variant.ofImage (order.orderType.getD .dutch) image with
  | error reason =>
    rw [clock] at read
    cases read
  | ok variant =>
    rw [clock] at read
    cases read
    rfl

end StoredOrder

/-! ### Orders that are accepted -/

namespace Order

variable {order : Order} {type : OrderType}

/-- The type asked for is the order's own. -/
theorem exclusivePayload_eq_payload (h : order.orderType = some type) :
    order.exclusivePayload type = order.payload := by
  unfold exclusivePayload payload
  rw [h]

theorem accept_of_body {body : List UInt8} (h : orderOfBody body = .ok (order, type)) :
    order.accept = .ok type :=
  (orderOfBody_eq_ok_iff.mp h).2

/-- **Every order that can be accepted is accepted** from its own document. -/
theorem orderOfBody_ownMembers (notifiedAt : UInt64) (h : order.accept = .ok type) :
    orderOfBody (Json.object (order.ownMembers notifiedAt)).text.toUTF8.toList
      = .ok (order, type) := by
  have told : Json.IsExact Json.nestingLimit (.object (order.ownMembers notifiedAt)) := by
    refine .object fun member mem => ?_
    obtain ⟨original, listed, rfl⟩ := List.mem_map.mp mem
    exact Notification.isExact_members _ original listed
  rw [orderOfBody, told.ofBytes?_text, Option.bind_some, ofJson?_ownMembers]
  simp only [h]

end Order

/-! ### Deliveries on the two ways -/

section Runs

variable {π ω : Type} [DomainNames] (notifier : Notifier π ω)

omit [DomainNames] in
/-- Asking begins no delivery, whatever the provider does to find the answer. -/
theorem Notifier.attempts_ask (question : Question) (world : π × ω) :
    (notifier.ask question world).journal.attempts = [] := by
  have aside : ∀ event ∈ (notifier.provider.answer question world.1).journal,
      event.attempt? = none := fun event mem =>
    (notifier.provider.writes_answer question world.1 event mem).isAside.attempt
  change Journal.attempts (.asked question :: ((notifier.provider.answer question world.1).journal
    ++ [.answered (notifier.provider.answer question world.1).value])) = []
  refine Journal.attempts_eq_nil fun event mem => ?_
  rcases List.mem_cons.mp mem with rfl | mem
  · rfl
  · rcases List.mem_append.mp mem with mem | mem
    · exact aside event mem
    · rw [List.mem_singleton.mp mem]
      rfl

/-- **The first way**: each webhook of the filler is told, with the type that was asked for. -/
theorem attempts_notifyExclusiveFiller {order : Order} {filler : String}
    (h : order.filler = some filler) (type : OrderType) (world : π × ω) :
    (notifyExclusiveFiller notifier order type world).journal.attempts.Perm
      (((notifier.provider.answer (.filler filler) world.1).value.toOption.getD []).map
        fun endpoint => (endpoint, order.exclusivePayload type)) := by
  have asked : (notifier.ask (.filler filler) world).value
      = (notifier.provider.answer (.filler filler) world.1).value := rfl
  simp only [notifyExclusiveFiller, h]
  rw [Run.journal_bind, Journal.attempts_append, notifier.attempts_ask, List.nil_append, asked]
  cases (notifier.provider.answer (.filler filler) world.1).value with
  | error reason => exact .refl _
  | ok endpoints =>
    cases endpoints with
    | nil => exact .refl _
    | cons endpoint endpoints =>
      -- Behind the deliveries stand two measurements and a note.
      rw [Run.journal_bind, Journal.attempts_append]
      have deliveries := attempts_dispatch notifier.surroundings notifier.timeout
        (endpoint :: endpoints) (order.exclusivePayload type)
        (notifier.ask (.filler filler) world).world.2
      exact (deliveries.append_right []).trans (by rw [List.append_nil]; exact .refl _)

/-- **The second way**: each webhook that a record's order has is told of it. -/
theorem attempts_handleRecord {document : Json} {stored : StoredOrder}
    (holds : orderOf? document = some stored) (world : π × ω) :
    (handleRecord notifier document world).journal.attempts.Perm
      (((notifier.provider.answer stored.question world.1).value.toOption.getD []).map
        fun endpoint => (endpoint, stored.order.payload)) := by
  obtain ⟨before, after, journal, telemetry, -, notified⟩ :=
    journal_handleRecord_of_order notifier holds world
  have silent : before.attempts = [] :=
    Journal.attempts_eq_nil fun event mem => (telemetry event mem).isAside.attempt
  rw [journal, Journal.attempts_append, silent]
  exact notified.attempts

end Runs

/-! ### Told the same -/

/-- A record that is no removal holds what its new image is read as. -/
theorem orderOf?_of_image {document : Json} {record : ChangeRecord} {image : Image}
    {stored : StoredOrder} (parsed : ChangeRecord.ofJson? document = some record)
    (kept : record.kind ≠ some .remove) (present : record.newImage? = some image)
    (read : StoredOrder.ofImage image = .ok stored) : orderOf? document = some stored := by
  rw [orderOf?, parsed, Option.bind_eq_bind, Option.bind_some, if_neg kept, present,
    Option.bind_eq_bind, Option.bind_some, read]
  rfl

/-- **Webhooks are told the same on both ways.**  Let an order be accepted as a document, and let a
record of the change stream have a new image that carries the order and is read.  Then what is read
is the order, the two payloads are one, and whoever is notified, at once or of the record, is told
with that payload: whom the provider names for the order's filler, and whom it names for the order. -/
theorem Order.told_alike [DomainNames] {body : List UInt8} {order : Order} {type : OrderType} {document : Json}
    {record : ChangeRecord} {image : Image} {stored : StoredOrder}
    (accepted : orderOfBody body = .ok (order, type))
    (parsed : ChangeRecord.ofJson? document = some record) (kept : record.kind ≠ some .remove)
    (present : record.newImage? = some image) (carried : image.Carries order)
    (read : StoredOrder.ofImage image = .ok stored) :
    stored.order = order ∧ order.exclusivePayload type = stored.order.payload ∧
      ∀ {π ω : Type} (notifier : Notifier π ω) (world later : π × ω), ∃ filler,
        order.filler = some filler ∧
        (notifier.answerFiller body world).journal.attempts.Perm
          (((notifier.provider.answer (.filler filler) world.1).value.toOption.getD []).map
            fun endpoint => (endpoint, order.payload)) ∧
        (handleRecord notifier document later).journal.attempts.Perm
          (((notifier.provider.answer (.order order.filter) later.1).value.toOption.getD []).map
            fun endpoint => (endpoint, order.payload)) := by
  obtain ⟨typed, exclusive⟩ := accept_eq_ok_iff.mp (accept_of_body accepted)
  obtain rfl : stored.order = order := StoredOrder.order_of_carries carried read
  have payloads := exclusivePayload_eq_payload typed
  refine ⟨rfl, payloads, fun notifier world later => ?_⟩
  obtain ⟨filler, named⟩ : ∃ filler, stored.order.filler = some filler := by
    cases named : stored.order.filler with
    | none =>
      rw [named] at exclusive
      cases exclusive
    | some filler => exact ⟨filler, rfl⟩
  refine ⟨filler, named, ?_, ?_⟩
  · have way : (notifier.answerFiller body world).journal
        = (notifyExclusiveFiller notifier stored.order type world).journal := by
      simp only [Notifier.answerFiller, accepted]
      rw [Run.journal_bind, Run.journal_pure, List.append_nil]
    rw [way, ← payloads]
    exact attempts_notifyExclusiveFiller notifier named type world
  · have holds := orderOf?_of_image parsed kept present read
    exact attempts_handleRecord notifier holds later

/-- The item of a Dutch order with a clock, a filler and a null for its quote. -/
def clockedImage : Image :=
  [("chainId", .number "1"),
    ("cosignerData", .map [("decayEndTime", .number "1700000070"),
      ("decayStartTime", .number "1700000010")]),
    ("createdAt", .number "1700000000"), ("encodedOrder", .string "0xencoded"),
    ("filler", .string "0xF"), ("orderHash", .string "0xhash"), ("orderStatus", .string "open"),
    ("quoteId", .null true), ("signature", .string "0xsig"), ("swapper", .string "0xZ"),
    ("type", .string "Dutch_V2")]

/-- The record of such an item. -/
def clockedRecord : ChangeRecord := ⟨none, some .insert, some ⟨some clockedImage, none, none⟩⟩

theorem clocked_order_told_alike :
    let order : Order := ⟨"0xhash", 1700000000, "0xsig", "0xZ", .open, "0xencoded", 1,
      some .dutchV2, none, some "0xF"⟩
    let body := (Json.object (order.ownMembers 0)).text.toUTF8.toList
    let document : Json := .object [("eventName", .string "INSERT"),
      ("dynamodb", .object [("NewImage", clockedImage.toJson)])]
    orderOfBody body = .ok (order, .dutchV2) ∧
      ChangeRecord.ofJson? document = some clockedRecord ∧ clockedImage.Carries order ∧
      ∃ stored, StoredOrder.ofImage clockedImage = .ok stored ∧ stored.order = order ∧
        order.exclusivePayload .dutchV2 = stored.order.payload := by
  intro order body document
  have accepted : orderOfBody body = .ok (order, .dutchV2) := order.orderOfBody_ownMembers 0 rfl
  have parsed : ChangeRecord.ofJson? document = some clockedRecord := by rfl
  have createdAt : order.createdAt.toNat.repr = "1700000000" := by decide
  have chainId : order.chainId.toNat.repr = "1" := by decide
  have carried : clockedImage.Carries order :=
    ⟨rfl, by rw [createdAt]; rfl, rfl, rfl, rfl, rfl, by rw [chainId]; rfl, rfl,
      .inr ⟨true, rfl⟩, rfl⟩
  have read : StoredOrder.ofImage clockedImage = .ok ⟨order, .dutchV2 1700000010 1700000070⟩ := by
    rfl
  have alike := Order.told_alike accepted parsed (by decide) rfl carried read
  exact ⟨accepted, parsed, carried, _, read, alike.1, alike.2.1⟩

end OrderHerald
