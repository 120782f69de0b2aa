import Mathlib.Data.List.Nodup
import OrderHerald.Order.Basic
import OrderHerald.Proofs.Document.Record
import OrderHerald.Proofs.Json.RoundTrip

/-!
# What webhooks are told

The body of a request tells all about its order: who reads it has the order in hand.

**Name by name.**  `Order.Tells` lists what a body says, each value under the name by which
receivers know it.  A body says that and nothing else, and no name twice.

**Two views of one order.**  Receivers know the swapper as the offerer.  Apart from this name and
the moment of sending, a body is a document of which the order book's own reader makes the order
(`Order.ofJson?_ownMembers`).  So nothing of an order is lost on the way, and texts that are equal
tell about equal orders.

## Main statements

* `Order.body_tells` — what a body is read as, that the order can be made of it, and that different
  orders have different texts.
-/

namespace OrderHerald

/-! ### Numbers and absent values in documents -/

namespace Json

/-- A natural number of 64 bits is told by its text. -/
theorem IsExact.natural {depth : Nat} (n : UInt64) : IsExact depth (Json.natural n) := by
  refine .integer ?_ (by exact_mod_cast n.toNat_lt)
  exact Int.le_trans (by decide) (Int.natCast_nonneg n.toNat)

theorem uint64?_natural (n : UInt64) : Document.uint64? (Json.natural n) = some n := by
  have small : n.toNat < UInt64.size := n.toNat_lt
  have read : Document.natural? UInt64.size (Json.natural n) = some n.toNat := by
    change (if (0 : Int) ≤ n.toNat ∧ Int.toNat n.toNat < UInt64.size then _ else none) = _
    rw [if_pos ⟨Int.natCast_nonneg _, small⟩, Int.toNat_natCast]
  rw [Document.uint64?, read, Option.map_some, UInt64.ofNat_toNat]

variable {name : String} {value : Option String}

theorem mem_optionalMember {member : String × Json} :
    member ∈ optionalMember name value
      ↔ ∃ text, value = some text ∧ member = (name, .string text) := by
  cases value <;> simp [optionalMember]

theorem names_optionalMember_sublist :
    ((optionalMember name value).map Prod.fst).Sublist [name] := by
  cases value <;> simp [optionalMember]

theorem given_optionalMember (field : Field) :
    field.given (optionalMember name value)
      = if field.isNamed name then (value.map Json.string).toList else [] := by
  have written : optionalMember name value = ((value.map Json.string).map (name, ·)).toList := by
    cases value <;> rfl
  rw [written, Field.given_toList]

end Json

/-! ### What a body says -/

/-- **What is told about an order**, name by name, at a moment. -/
inductive Order.Tells (order : Order) (notifiedAt : UInt64) : String → Json → Prop
  | orderHash : Tells order notifiedAt "orderHash" (.string order.orderHash)
  | createdAt :
    Tells order notifiedAt "createdAt" (.number (.integer order.createdAt.toNat))
  | signature : Tells order notifiedAt "signature" (.string order.signature)
  /-- Receivers know the swapper as the offerer. -/
  | offerer : Tells order notifiedAt "offerer" (.string order.swapper)
  | orderStatus : Tells order notifiedAt "orderStatus" (.string order.orderStatus.name)
  | encodedOrder : Tells order notifiedAt "encodedOrder" (.string order.encodedOrder)
  | chainId : Tells order notifiedAt "chainId" (.number (.integer order.chainId.toNat))
  | orderType {type : OrderType} (h : order.orderType = some type) :
    Tells order notifiedAt "type" (.string type.name)
  | quoteId {id : String} (h : order.quoteId = some id) :
    Tells order notifiedAt "quoteId" (.string id)
  | filler {filler : String} (h : order.filler = some filler) :
    Tells order notifiedAt "filler" (.string filler)
  | notifiedAt :
    Tells order notifiedAt "notifiedAt" (.number (.integer notifiedAt.toNat))

/-- The members of a body. -/
def Notification.members (notification : Notification) : Json.Members :=
  notification.payload.members ++ [("notifiedAt", Json.natural notification.notifiedAt)]

/-- Every value in a payload is told by its text. -/
theorem Payload.isExact_members {depth : Nat} (payload : Payload) :
    ∀ member ∈ payload.members, Json.IsExact depth member.2 := by
  intro member mem
  simp only [members, List.mem_append, List.mem_cons, List.not_mem_nil, or_false,
    Json.mem_optionalMember] at mem
  rcases mem with ((fixed | ⟨_, -, rfl⟩) | ⟨_, -, rfl⟩) | ⟨_, -, rfl⟩
  · rcases fixed with rfl | rfl | rfl | rfl | rfl | rfl | rfl
    all_goals first | exact .string _ | exact .natural _
  all_goals exact .string _

theorem Payload.isExact_toJson (payload : Payload) :
    Json.IsExact Json.nestingLimit payload.toJson :=
  .object payload.isExact_members

theorem Notification.isExact_members {depth : Nat} (notification : Notification) :
    ∀ member ∈ notification.members, Json.IsExact depth member.2 := by
  intro member mem
  rcases List.mem_append.mp mem with mem | mem
  · exact notification.payload.isExact_members member mem
  · rw [List.mem_singleton.mp mem]
    exact .natural _

theorem Notification.isExact_toJson (notification : Notification) :
    Json.IsExact Json.nestingLimit notification.toJson :=
  .object notification.isExact_members

namespace Order

section Body

variable (order : Order) (notifiedAt : UInt64)

/-- **The names of a body** are some of eleven. -/
theorem names_members_sublist :
    ((Notification.members ⟨order.payload, notifiedAt⟩).map Prod.fst).Sublist
      ["orderHash", "createdAt", "signature", "offerer", "orderStatus", "encodedOrder", "chainId",
        "type", "quoteId", "filler", "notifiedAt"] := by
  unfold Notification.members Payload.members
  rw [List.map_append, List.map_append, List.map_append, List.map_append]
  have fixed := List.Sublist.refl
    ["orderHash", "createdAt", "signature", "offerer", "orderStatus", "encodedOrder", "chainId"]
  exact (((fixed.append Json.names_optionalMember_sublist).append
    Json.names_optionalMember_sublist).append Json.names_optionalMember_sublist).append (.refl _)

theorem nodup_names_members :
    ((Notification.members ⟨order.payload, notifiedAt⟩).map Prod.fst).Nodup :=
  (order.names_members_sublist notifiedAt).nodup (by decide)

/-- **A body says what is told about its order**, and nothing else. -/
theorem mem_members_iff {name : String} {value : Json} :
    (name, value) ∈ Notification.members ⟨order.payload, notifiedAt⟩
      ↔ order.Tells notifiedAt name value := by
  constructor
  · intro mem
    simp only [Notification.members, Payload.members, payload, List.mem_append, List.mem_cons,
      List.not_mem_nil, Json.mem_optionalMember, Option.map_eq_some_iff, or_false] at mem
    rcases mem with (((fixed | ⟨_, ⟨type, h, rfl⟩, eq⟩) | ⟨id, h, eq⟩) | ⟨filler, h, eq⟩) | eq
    · rcases fixed with eq | eq | eq | eq | eq | eq | eq <;> cases eq
      exacts [.orderHash, .createdAt, .signature, .offerer, .orderStatus, .encodedOrder, .chainId]
    · cases eq
      exact .orderType h
    · cases eq
      exact .quoteId h
    · cases eq
      exact .filler h
    · cases eq
      exact .notifiedAt
  · intro told
    cases told with
    | orderType h | quoteId h | filler h =>
      simp [Notification.members, Payload.members, payload, Json.mem_optionalMember, h]
    | _ => simp [Notification.members, Payload.members, payload, Json.natural]

/-! ### The order of a body -/

/-- The name by which the order book knows what receivers know by `name`. -/
def ownName (name : String) : String :=
  if name = "offerer" then "swapper" else name

/-- The members of a body under the names of the order book. -/
def ownMembers : Json.Members :=
  (Notification.members ⟨order.payload, notifiedAt⟩).map fun member => (ownName member.1, member.2)

theorem map_ownName_optionalMember {name : String} (h : name ≠ "offerer") (value : Option String) :
    (Json.optionalMember name value).map (fun member => (ownName member.1, member.2))
      = Json.optionalMember name value := by
  cases value <;> simp [Json.optionalMember, ownName, h]

theorem ownMembers_eq : order.ownMembers notifiedAt =
    [("orderHash", .string order.orderHash), ("createdAt", Json.natural order.createdAt),
      ("signature", .string order.signature), ("swapper", .string order.swapper),
      ("orderStatus", .string order.orderStatus.name),
      ("encodedOrder", .string order.encodedOrder), ("chainId", Json.natural order.chainId)]
    ++ (Json.optionalMember "type" (order.orderType.map OrderType.name)
      ++ (Json.optionalMember "quoteId" order.quoteId
        ++ (Json.optionalMember "filler" order.filler
          ++ [("notifiedAt", Json.natural notifiedAt)]))) := by
  unfold ownMembers Notification.members Payload.members
  simp only [List.map_append, List.append_assoc]
  rw [map_ownName_optionalMember (by decide), map_ownName_optionalMember (by decide),
    map_ownName_optionalMember (by decide)]
  rfl

/-- What the record of an order holds. -/
def slots : Record Json :=
  [("orderHash", .given (.string order.orderHash)),
    ("createdAt", .given (Json.natural order.createdAt)),
    ("signature", .given (.string order.signature)),
    ("swapper", .given (.string order.swapper)),
    ("orderStatus", .given (.string order.orderStatus.name)),
    ("encodedOrder", .given (.string order.encodedOrder)),
    ("chainId", .given (Json.natural order.chainId)),
    ("type", Slot.ofOption (order.orderType.map fun type => .string type.name)),
    ("quoteId", Slot.ofOption (order.quoteId.map .string)),
    ("filler", Slot.ofOption (order.filler.map .string))]

/-- The moment of sending is no field of an order. -/
theorem record_ownMembers :
    Record.of? fields (Json.object (order.ownMembers notifiedAt)) = some order.slots := by
  rw [Record.of?_object, ownMembers_eq]
  simp [fields, Field.given_cons, Field.given_append, Json.given_optionalMember, Field.isNamed,
    Slot.ofGiven?_singleton, Slot.ofGiven?_toList, Option.map_map, Function.comp_def, slots]

/-- **The order book's own reader makes the order** of a body, once the names are its own. -/
theorem ofJson?_ownMembers :
    ofJson? (.object (order.ownMembers notifiedAt)) = some order := by
  have orderType : Record.optionalWithDefault? order.slots "type" OrderType.read?
      = some order.orderType :=
    Record.optionalWithDefault?_of_write (fun type => .string type.name) (fun _ => rfl)
      OrderType.ofName?_name (by simp [slots, Record.slot_cons])
  have quoteId : Record.optionalWithDefault? order.slots "quoteId" Json.string?
      = some order.quoteId :=
    Record.optionalWithDefault?_of_write .string (fun _ => rfl) (fun _ => rfl)
      (by simp [slots, Record.slot_cons])
  have filler : Record.optionalWithDefault? order.slots "filler" Json.string?
      = some order.filler :=
    Record.optionalWithDefault?_of_write .string (fun _ => rfl) (fun _ => rfl)
      (by simp [slots, Record.slot_cons])
  have orderStatus : OrderStatus.read? (Json.string order.orderStatus.name)
      = some order.orderStatus := OrderStatus.ofName?_name order.orderStatus
  unfold ofJson?
  rw [record_ownMembers]
  simp only [Option.bind_eq_bind, Option.bind_some, orderType, quoteId, filler]
  simp [Record.required?, slots, Record.slot_cons, Json.string?, Json.uint64?_natural, orderStatus]

end Body

/-- Payloads with the same members are about the same order. -/
theorem eq_of_members_eq {order other : Order}
    (h : order.payload.members = other.payload.members) : order = other := by
  have own : order.ownMembers 0 = other.ownMembers 0 := by
    unfold ownMembers Notification.members
    rw [h]
  have read : some order = some other := by
    rw [← order.ofJson?_ownMembers 0, ← other.ofJson?_ownMembers 0, own]
  exact Option.some.inj read

/-- The two parts of a body's members. -/
theorem members_inj {first second : Notification} (h : first.members = second.members) :
    first.payload.members = second.payload.members ∧ first.notifiedAt = second.notifiedAt := by
  have parts := List.append_inj' h rfl
  refine ⟨parts.1, ?_⟩
  have numbers : Json.natural first.notifiedAt = Json.natural second.notifiedAt := by
    simpa using parts.2
  have read : some first.notifiedAt = some second.notifiedAt := by
    rw [← Json.uint64?_natural, numbers, Json.uint64?_natural]
  exact Option.some.inj read

/-- **A body loses nothing of its order.**  Its bytes are read as an object without repeated names
that says what is told about the order and nothing else; under the order book's own names the
order's reader makes the order of it again.  Different orders have different payload texts, and
different bodies at whatever moments they are sent. -/
theorem body_tells :
    (∀ (order : Order) (notifiedAt : UInt64), ∃ members : Json.Members,
      Json.ofBytes? (Notification.body ⟨order.payload, notifiedAt⟩).toUTF8.toList
          = some (.object members)
        ∧ (members.map Prod.fst).Nodup
        ∧ (∀ name value, (name, value) ∈ members ↔ order.Tells notifiedAt name value)
        ∧ ofJson? (.object (members.map fun member => (ownName member.1, member.2)))
          = some order)
      ∧ Function.Injective (fun order : Order => order.payload.toJson.text)
      ∧ Function.Injective fun (entry : Order × UInt64) =>
          Notification.body ⟨entry.1.payload, entry.2⟩ := by
  refine ⟨fun order notifiedAt => ?_, fun order other same => ?_, fun entry other same => ?_⟩
  · exact ⟨_, (Notification.isExact_toJson ⟨order.payload, notifiedAt⟩).ofBytes?_text,
      order.nodup_names_members notifiedAt, fun _ _ => order.mem_members_iff notifiedAt,
      order.ofJson?_ownMembers notifiedAt⟩
  · have values : order.payload.toJson = other.payload.toJson :=
      order.payload.isExact_toJson.text_injective other.payload.isExact_toJson same
    exact eq_of_members_eq (Json.object.inj values)
  · obtain ⟨order, sentAt⟩ := entry
    obtain ⟨otherOrder, otherSentAt⟩ := other
    have values := (Notification.isExact_toJson _).text_injective (Notification.isExact_toJson _) same
    obtain ⟨payloads, moments⟩ := members_inj (Json.object.inj values)
    obtain rfl : order = otherOrder := eq_of_members_eq payloads
    obtain rfl : sentAt = otherSentAt := moments
    rfl

end Order

end OrderHerald
