import OrderHerald.Routing.Definition

/-!
# Which webhooks take an order

A question about an order is answered from the routing definition: first the webhooks that take
every order, then, dimension by dimension, those registered under the order's value there.  A
webhook is known by its url and is named once, as it was first met.

Orders of some types go to the webhooks that take every order only.  An empty value matches
nothing, also where a table has an empty key.

* `EndpointSet` — webhooks with distinct urls, in the order in which they were first met.
* `Definition.matching` — the webhooks for an order of the change stream.
* `Definition.exclusiveFiller` — the webhooks of a filler, exactly as written.
-/

namespace OrderHerald

/-- Webhooks with distinct urls, first met first. -/
structure EndpointSet where
  endpoints : List Endpoint
  distinct : (endpoints.map Endpoint.url).Nodup

namespace EndpointSet

/-- No webhooks. -/
def empty : EndpointSet := ⟨[], List.nodup_nil⟩

/-- **The first webhook with a url stays**: a later one adds nothing. -/
def add (set : EndpointSet) (endpoint : Endpoint) : EndpointSet :=
  if h : endpoint.url ∈ set.endpoints.map Endpoint.url then set
  else
    ⟨set.endpoints ++ [endpoint], by
      rw [List.map_append, List.nodup_append]
      refine ⟨set.distinct, by simp, ?_⟩
      intro url hurl other hother
      simp only [List.map_cons, List.map_nil, List.mem_singleton] at hother
      subst hother
      exact fun heq => h (heq ▸ hurl)⟩

/-- Adds webhooks one after the other. -/
def addAll (set : EndpointSet) (endpoints : List Endpoint) : EndpointSet :=
  endpoints.foldl add set

end EndpointSet

/-- The webhooks that a dimension contributes to an order: none without a value, none for the empty
value, none for a value without an entry. -/
def Rules.contribution (rules : Rules) (filter : Filter) (dimension : Dimension) : List Endpoint :=
  match filter.value dimension with
  | none => []
  | some value => if value = "" then [] else ((rules.table dimension).get? value).getD []

/-- The order's type admits only webhooks that take every order. -/
def Filter.isCatchAllOnly (filter : Filter) : Bool :=
  match filter.orderType with
  | none => false
  | some type => type.isCatchAllOnly

theorem Filter.isCatchAllOnly_eq_false_iff {filter : Filter} :
    filter.isCatchAllOnly = false ↔ ∀ type ∈ filter.orderType, type.isCatchAllOnly = false := by
  unfold Filter.isCatchAllOnly
  cases filter.orderType with
  | none => simp
  | some type => simp

namespace Definition

/-- **The webhooks for an order.** -/
def matching (definition : Definition) (filter : Filter) : List Endpoint :=
  let everywhere := EndpointSet.empty.addAll definition.catchAll
  if filter.isCatchAllOnly then everywhere.endpoints
  else
    (Dimension.all.foldl
      (fun set dimension => set.addAll (definition.rules.contribution filter dimension))
      everywhere).endpoints

/-- **The webhooks of a filler**, for an order that is the filler's alone. -/
def exclusiveFiller (definition : Definition) (filler : String) : List Endpoint :=
  (EndpointSet.empty.addAll ((definition.rules.filler.get? filler).getD [])).endpoints

end Definition

end OrderHerald
