import OrderHerald.Proofs.Routing.Addresses
import OrderHerald.Service.Ingress

/-!
# Told at once, and told by the stream

The filler of an order that is its alone is told of it twice: at once, when the order comes in, and
again when the change stream brings it.  The first time only the filler's own webhooks are looked up,
under the filler's name exactly as written; the second time the order is routed by all its values.

**Two guards that the first way lacks.**  Routing keeps an order of some types to the webhooks that
take every order, and it does not take the empty text for a value.  Neither is asked where the filler
is told at once.  So the first notification stays within the second one exactly where both guards let
the order pass.

## Main statements

* `Definition.mem_exclusiveFiller_iff` — the webhooks of a filler are those registered under it.
* `Order.exclusiveFiller_subset_matching_iff` — for which orders whoever is told at once is also told
  by the stream.
* `limit_order_told_at_once_only` — an order of which a webhook hears only at once.
-/

namespace OrderHerald

namespace Table

/-- Nobody is registered in the empty table. -/
theorem not_registers_empty (value url : String) : ¬ Table.Registers Dict.empty value url := by
  rintro ⟨endpoints, found, -⟩
  cases found

/-- Whoever is entered into a table under a value is registered under it. -/
theorem registers_insert_self (table : Table) (value : String) (endpoint : Endpoint) :
    Table.Registers (table.insert value [endpoint]) value endpoint.url := by
  refine ⟨[endpoint], ?_, by simp⟩
  rw [Dict.get?_insert, if_pos rfl]

end Table

/-- **The webhooks of a filler are those registered under it**, also where its name is empty. -/
theorem Definition.mem_exclusiveFiller_iff (definition : Definition) (filler url : String) :
    url ∈ (definition.exclusiveFiller filler).map Endpoint.url
      ↔ Table.Registers definition.rules.filler filler url := by
  rw [exclusiveFiller, ← EndpointSet.isSome_find?, EndpointSet.find?_addAll]
  change ((List.find? (fun endpoint => endpoint.url = url)
    ((definition.rules.filler.get? filler).getD [])).isSome = true ↔ _)
  rw [EndpointSet.isSome_find?, Table.Registers]
  cases definition.rules.filler.get? filler with
  | none => simp
  | some endpoints => simp

/-- A definition that lists one webhook, under one filler. -/
def Definition.ofFiller (filler : String) (endpoint : Endpoint) : Definition where
  rules := { filler := Dict.empty.insert filler [endpoint] }

/-- A definition with one webhook, under a filler, addresses to it only orders that name this filler,
unless the name is empty or the type keeps the order from it. -/
theorem Definition.addresses_ofFiller {filler : String} {endpoint : Endpoint} {order : Order}
    {url : String} (named : order.filler = some filler)
    (h : (Definition.ofFiller filler endpoint).Addresses order url) :
    (∀ type ∈ order.orderType, type.isCatchAllOnly = false) ∧ filler ≠ "" := by
  cases h with
  | everywhere listed => cases listed
  | filler routed named' nonempty registered =>
    obtain rfl : filler = _ := Option.some.inj (named.symm.trans named')
    exact ⟨routed, nonempty⟩
  | orderStatus routed registered => exact absurd registered (Table.not_registers_empty _ _)
  | swapper routed nonempty registered => exact absurd registered (Table.not_registers_empty _ _)

/-- **For which orders whoever is told at once is also told by the stream.**  For an order whose
exclusive filler is notified, this holds of every routing definition exactly if the order's type is
routed by its values and the filler's name is not empty. -/
theorem Order.exclusiveFiller_subset_matching_iff {order : Order} {type : OrderType}
    {filler : String} (accepted : order.accept = .ok type) (named : order.filler = some filler) :
    (∀ definition : Definition, ∀ url ∈ (definition.exclusiveFiller filler).map Endpoint.url,
        url ∈ (definition.matching order.filter).map Endpoint.url)
      ↔ type.isCatchAllOnly = false ∧ filler ≠ "" := by
  obtain ⟨typed, -⟩ := Order.accept_eq_ok_iff.mp accepted
  simp only [Definition.mem_exclusiveFiller_iff, Definition.mem_matching_iff,
    ← Definition.addresses_iff]
  constructor
  · -- One webhook that is registered under the filler and nowhere else tells the two ways apart.
    intro within
    have told : (Definition.ofFiller filler ⟨"", none⟩).Addresses order "" :=
      within _ _ (Table.registers_insert_self Dict.empty filler ⟨"", none⟩)
    obtain ⟨routed, nonempty⟩ := Definition.addresses_ofFiller named told
    exact ⟨routed type typed, nonempty⟩
  · rintro ⟨routed, nonempty⟩ definition url registered
    refine .filler ?_ named nonempty registered
    intro other mem
    rw [typed] at mem
    cases mem
    exact routed

/-- A Dutch order of which every webhook hears twice that hears of it at once. -/
theorem dutch_order_told_twice :
    let order : Order := ⟨"0xhash", 1700000000, "0xsig", "0xZ", .open, "0xencoded", 1,
      some .dutchV2, none, some "0xF"⟩
    order.accept = .ok .dutchV2 ∧ order.filler = some "0xF" ∧
      ∀ definition : Definition, ∀ url ∈ (definition.exclusiveFiller "0xF").map Endpoint.url,
        url ∈ (definition.matching order.filter).map Endpoint.url := by
  intro order
  have accepted : order.accept = .ok .dutchV2 := rfl
  have routed : OrderType.isCatchAllOnly .dutchV2 = false ∧ "0xF" ≠ "" := by decide
  exact ⟨accepted, rfl, (Order.exclusiveFiller_subset_matching_iff accepted rfl).mpr routed⟩

/-- **An order of which a webhook hears only at once.**  The filler of a limit order is notified, while
the stream sends such orders to nobody but the webhooks that take every order. -/
theorem limit_order_told_at_once_only :
    let order : Order := ⟨"0xhash", 1700000000, "0xsig", "0xZ", .open, "0xencoded", 1,
      some .limit, none, some "0xF"⟩
    let definition := Definition.ofFiller "0xF" ⟨"http://hook.test/filler", none⟩
    order.accept = .ok .limit ∧ order.filler = some "0xF" ∧
      "http://hook.test/filler" ∈ (definition.exclusiveFiller "0xF").map Endpoint.url ∧
      "http://hook.test/filler" ∉ (definition.matching order.filter).map Endpoint.url := by
  refine ⟨rfl, rfl, ?_, ?_⟩ <;> decide

end OrderHerald
