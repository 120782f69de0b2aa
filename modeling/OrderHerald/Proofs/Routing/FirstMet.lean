import Mathlib.Data.List.Basic
import Mathlib.Data.List.Induction
import OrderHerald.Proofs.Routing.Addresses

/-!
# First met, first kept

A routing definition holds lists of webhooks ready for an order: one for every order, and one for each
of the order's values.  They are read one after the other, and of all webhooks with one url the first is
kept.  Here this is said of the lists alone, without the set that the webhooks are gathered in.

**The order of a list is the order of its urls.**  Where a url occurs for the first time is the place of
the webhook that is kept for it; so the kept webhooks stand in the order of these places, and from that
follows that no two of them share a url.

* `firstMet` — the webhooks of a list whose url does not occur earlier in it.
* `KeepsFirst` — what it means that a list keeps the first webhook of every url of another.
* `Definition.Contributes`, `Definition.Lists` — the lists that a definition holds ready for an order.

## Main statements

* `mem_firstMet_iff` — the webhook that is kept for a url is the first one that has it.
* `EndpointSet.endpoints_addAll` — gathering webhooks keeps those that are met first.
* `Definition.matching_keepsFirst` — what matching comes to.
-/

namespace OrderHerald

/-! ### The first webhook of every url -/

/-- **The webhooks whose url does not occur earlier in the list**, in the order of the list. -/
def firstMet (listed : List Endpoint) : List Endpoint :=
  (listed.zipIdx.filter fun entry =>
    entry.1.url ∉ (listed.take entry.2).map Endpoint.url).map Prod.fst

/-- A webhook at the end of a list is kept if its url is new. -/
theorem firstMet_concat (listed : List Endpoint) (endpoint : Endpoint) :
    firstMet (listed ++ [endpoint])
      = firstMet listed ++ if endpoint.url ∈ listed.map Endpoint.url then [] else [endpoint] := by
  unfold firstMet
  rw [List.zipIdx_append, List.filter_append, List.map_append]
  congr 1
  · -- At the places before the last one the same urls occur earlier.
    apply congrArg (List.map Prod.fst)
    apply List.filter_congr
    intro entry mem
    have place : entry.2 ≤ listed.length := Nat.le_of_lt (List.snd_lt_of_mem_zipIdx mem)
    rw [List.take_append_of_le_length place]
  · rw [Nat.zero_add, List.zipIdx_singleton]
    by_cases known : endpoint.url ∈ listed.map Endpoint.url <;> simp [known]

/-- **The webhook that is kept for a url is the first one that has it.** -/
theorem mem_firstMet_iff {listed : List Endpoint} {endpoint : Endpoint} :
    endpoint ∈ firstMet listed
      ↔ (listed.find? fun other => other.url = endpoint.url) = some endpoint := by
  induction listed using List.reverseRecOn with
  | nil => exact ⟨nofun, nofun⟩
  | append_singleton listed last ih =>
    rw [firstMet_concat, List.mem_append, ih, List.find?_append]
    cases found : listed.find? fun other => other.url = endpoint.url with
    | some first =>
      -- The url occurs before the last place, so what stands there is not kept for it.
      have known : endpoint.url ∈ listed.map Endpoint.url :=
        EndpointSet.isSome_find?.mp (by rw [found]; rfl)
      rw [Option.some_or]
      constructor
      · rintro (same | mem)
        · exact same
        · split at mem
          · cases mem
          · rename_i new
            obtain rfl := List.mem_singleton.mp mem
            exact absurd known new
      · exact .inl
    | none =>
      have new : endpoint.url ∉ listed.map Endpoint.url := by
        rw [← EndpointSet.isSome_find?, found]
        exact Bool.false_ne_true
      rw [Option.none_or, List.find?_singleton]
      constructor
      · rintro (same | mem)
        · cases same
        · split at mem
          · cases mem
          · obtain rfl := List.mem_singleton.mp mem
            simp
      · intro same
        split at same
        · obtain rfl := Option.some.inj same
          rw [if_neg new]
          exact .inr List.mem_cons_self
        · cases same

/-- Whatever is kept stands in the list. -/
theorem mem_of_mem_firstMet {listed : List Endpoint} {endpoint : Endpoint}
    (h : endpoint ∈ firstMet listed) : endpoint ∈ listed :=
  List.mem_of_find?_eq_some (mem_firstMet_iff.mp h)

/-- **No url gets lost**: for every url of the list a webhook is kept. -/
theorem mem_map_firstMet_iff {listed : List Endpoint} {url : String} :
    url ∈ (firstMet listed).map Endpoint.url ↔ url ∈ listed.map Endpoint.url := by
  constructor
  · intro mem
    obtain ⟨endpoint, kept, rfl⟩ := List.mem_map.mp mem
    exact List.mem_map_of_mem (mem_of_mem_firstMet kept)
  · intro mem
    obtain ⟨first, found⟩ := Option.isSome_iff_exists.mp (EndpointSet.isSome_find?.mpr mem)
    obtain rfl : first.url = url := by simpa using List.find?_some found
    exact List.mem_map_of_mem (mem_firstMet_iff.mpr found)

/-- **The kept webhooks stand in the order in which their urls first occur.** -/
theorem pairwise_idxOf_firstMet (listed : List Endpoint) :
    (firstMet listed).Pairwise fun earlier later =>
      (listed.map Endpoint.url).idxOf earlier.url < (listed.map Endpoint.url).idxOf later.url := by
  induction listed using List.reverseRecOn with
  | nil => exact .nil
  | append_singleton listed last ih =>
    -- The url of a webhook that was kept before still occurs first where it did.
    have place : ∀ endpoint ∈ firstMet listed,
        ((listed ++ [last]).map Endpoint.url).idxOf endpoint.url
          = (listed.map Endpoint.url).idxOf endpoint.url := by
      intro endpoint kept
      rw [List.map_append]
      exact List.idxOf_append_of_mem (List.mem_map_of_mem (mem_of_mem_firstMet kept))
    rw [firstMet_concat, List.pairwise_append]
    refine ⟨?_, ?_, ?_⟩
    · apply ih.imp_of_mem
      intro earlier later kept kept' before
      rw [place earlier kept, place later kept']
      exact before
    · split
      · exact .nil
      · exact List.pairwise_singleton _ _
    · intro earlier kept later mem
      split at mem
      · cases mem
      · rename_i new
        obtain rfl := List.mem_singleton.mp mem
        have known : earlier.url ∈ listed.map Endpoint.url :=
          List.mem_map_of_mem (mem_of_mem_firstMet kept)
        rw [place earlier kept, List.map_append, List.idxOf_append_of_notMem new]
        exact Nat.lt_add_right _ (List.idxOf_lt_length_of_mem known)

/-- **A list keeps the first webhook of every url of another.** -/
structure KeepsFirst (listed kept : List Endpoint) : Prop where
  /-- Of the other list every webhook is left out whose url occurs earlier there. -/
  eq : kept = firstMet listed
  distinct : (kept.map Endpoint.url).Nodup
  mem_iff : ∀ url, url ∈ kept.map Endpoint.url ↔ url ∈ listed.map Endpoint.url
  /-- The order is that of the places where the urls first occur. -/
  ordered : kept.Pairwise fun earlier later =>
    (listed.map Endpoint.url).idxOf earlier.url < (listed.map Endpoint.url).idxOf later.url
  /-- A webhook is kept as it stands where its url first occurs, headers included. -/
  first : ∀ endpoint ∈ kept, (listed.find? fun other => other.url = endpoint.url) = some endpoint

theorem keepsFirst_firstMet (listed : List Endpoint) : KeepsFirst listed (firstMet listed) where
  eq := rfl
  distinct := by
    rw [List.Nodup, List.pairwise_map]
    apply (pairwise_idxOf_firstMet listed).imp
    intro earlier later before same
    rw [same] at before
    exact Nat.lt_irrefl _ before
  mem_iff _ := mem_map_firstMet_iff
  ordered := pairwise_idxOf_firstMet listed
  first _ kept := mem_firstMet_iff.mp kept

/-- **Gathering webhooks keeps those that are met first.** -/
theorem EndpointSet.endpoints_addAll (listed : List Endpoint) :
    (EndpointSet.empty.addAll listed).endpoints = firstMet listed := by
  induction listed using List.reverseRecOn with
  | nil => rfl
  | append_singleton listed last ih =>
    rw [addAll_append, firstMet_concat, ← ih]
    show ((EndpointSet.empty.addAll listed).add last).endpoints = _
    have known : last.url ∈ (EndpointSet.empty.addAll listed).endpoints.map Endpoint.url
        ↔ last.url ∈ listed.map Endpoint.url := by rw [ih, mem_map_firstMet_iff]
    unfold add
    split
    · rename_i old
      rw [if_pos (known.mp old), List.append_nil]
    · rename_i new
      rw [if_neg (mt known.mpr new)]

/-! ### The lists of a definition -/

/-- **The order is routed by its values**: it has no type, or one that is not kept to the webhooks that
take every order. -/
def Filter.IsRouted (filter : Filter) : Prop :=
  ∀ type ∈ filter.orderType, type.isCatchAllOnly = false

theorem Filter.isRouted_iff {filter : Filter} :
    filter.IsRouted ↔ filter.isCatchAllOnly = false := isCatchAllOnly_eq_false_iff.symm

namespace Definition

/-- **What a definition holds ready under one of the order's values**: the list that is stored under
exactly this value, if the order has the value, it is not empty and a list is stored under it; nothing
otherwise. -/
inductive Contributes (definition : Definition) (filter : Filter) (dimension : Dimension) :
    List Endpoint → Prop where
  | stored {value : String} {endpoints : List Endpoint}
      (valued : filter.value dimension = some value) (nonempty : value ≠ "")
      (found : (definition.rules.table dimension).get? value = some endpoints) :
      Contributes definition filter dimension endpoints
  | nothing (absent : ∀ value, filter.value dimension = some value → value ≠ "" →
      (definition.rules.table dimension).get? value = none) :
      Contributes definition filter dimension []

/-- **All webhooks that a definition holds ready for an order**, in the order in which they are read. -/
inductive Lists (definition : Definition) (filter : Filter) : List Endpoint → Prop where
  | everywhere (kept : ¬ filter.IsRouted) : Lists definition filter definition.catchAll
  | routed {filler orderStatus offerer : List Endpoint} (routed : filter.IsRouted)
      (first : definition.Contributes filter .filler filler)
      (second : definition.Contributes filter .orderStatus orderStatus)
      (third : definition.Contributes filter .offerer offerer) :
      Lists definition filter (definition.catchAll ++ filler ++ orderStatus ++ offerer)

variable {definition : Definition} {filter : Filter} {dimension : Dimension}

/-- A list is contributed, whatever the order's value is. -/
theorem contributes_contribution (definition : Definition) (filter : Filter) (dimension : Dimension) :
    definition.Contributes filter dimension (definition.rules.contribution filter dimension) := by
  unfold Rules.contribution
  cases valued : filter.value dimension with
  | none => exact .nothing fun value given => by rw [valued] at given; cases given
  | some value =>
    show definition.Contributes filter dimension
      (if value = "" then [] else ((definition.rules.table dimension).get? value).getD [])
    have only : ∀ other, filter.value dimension = some other → other = value := by
      intro other given
      rw [valued] at given
      exact (Option.some.inj given).symm
    by_cases empty : value = ""
    · rw [if_pos empty]
      exact .nothing fun other given nonempty => absurd (only other given ▸ empty) nonempty
    · rw [if_neg empty]
      cases found : (definition.rules.table dimension).get? value with
      | none => exact .nothing fun other given _ => only other given ▸ found
      | some endpoints => exact .stored valued empty found

/-- **One list is contributed by each dimension.** -/
theorem contributes_iff {endpoints : List Endpoint} :
    definition.Contributes filter dimension endpoints
      ↔ endpoints = definition.rules.contribution filter dimension := by
  constructor
  · unfold Rules.contribution
    rintro (⟨valued, nonempty, found⟩ | absent)
    · simp only [valued, if_neg nonempty, found, Option.getD_some]
    · cases valued : filter.value dimension with
      | none => rfl
      | some value =>
        show [] = if value = "" then [] else _
        split
        · rfl
        · rename_i nonempty
          rw [absent value valued nonempty, Option.getD_none]
  · rintro rfl
    exact contributes_contribution definition filter dimension

/-- **The listing of an order is what the definition holds ready for it.** -/
theorem lists_iff {listed : List Endpoint} :
    definition.Lists filter listed ↔ listed = definition.listing filter := by
  unfold listing
  by_cases routed : filter.IsRouted
  · have table : Dimension.all.flatMap (definition.rules.contribution filter)
        = definition.rules.contribution filter .filler
          ++ (definition.rules.contribution filter .orderStatus
          ++ (definition.rules.contribution filter .offerer ++ [])) := rfl
    rw [Filter.isRouted_iff.mp routed, if_neg Bool.false_ne_true, table, List.append_nil,
      ← List.append_assoc, ← List.append_assoc]
    constructor
    · rintro (kept | ⟨-, first, second, third⟩)
      · exact absurd routed kept
      · rw [contributes_iff.mp first, contributes_iff.mp second, contributes_iff.mp third]
    · rintro rfl
      exact .routed routed (contributes_iff.mpr rfl) (contributes_iff.mpr rfl) (contributes_iff.mpr rfl)
  · have kept : filter.isCatchAllOnly = true :=
      Bool.not_eq_false _ ▸ mt Filter.isRouted_iff.mpr routed
    rw [if_pos kept, List.append_nil]
    constructor
    · rintro (_ | ⟨values, -⟩)
      · rfl
      · exact absurd values routed
    · rintro rfl
      exact .everywhere routed

/-- **What matching comes to.**  For any routing definition and any order there is one list of all
webhooks that the definition holds ready for the order, and matching keeps of it the first webhook of
every url, in the order in which the urls first occur.  So each webhook that takes every order is matched
by its url, and a url is matched exactly if it is one of those or if the order is routed by its values and
one of the lists stored under them has the url.  The webhooks of a filler are kept in the same way of the
one list that is stored under its name. -/
theorem matching_keepsFirst (definition : Definition) (filter : Filter) :
    let matched := definition.matching filter
    (∃ listed, (∀ other, definition.Lists filter other ↔ other = listed) ∧ KeepsFirst listed matched)
    ∧ (∀ endpoint ∈ definition.catchAll, endpoint.url ∈ matched.map Endpoint.url)
    ∧ (∀ url, url ∈ matched.map Endpoint.url
        ↔ url ∈ definition.catchAll.map Endpoint.url ∨
          filter.IsRouted ∧ ∃ dimension endpoints,
            definition.Contributes filter dimension endpoints ∧ url ∈ endpoints.map Endpoint.url)
    ∧ ∀ filler, KeepsFirst ((definition.rules.filler.get? filler).getD [])
        (definition.exclusiveFiller filler) := by
  intro matched
  have mem_iff : ∀ url, url ∈ matched.map Endpoint.url
      ↔ url ∈ definition.catchAll.map Endpoint.url ∨
        filter.IsRouted ∧ ∃ dimension endpoints,
          definition.Contributes filter dimension endpoints ∧ url ∈ endpoints.map Endpoint.url := by
    intro url
    rw [mem_matching_iff, mem_listing_iff, ← Filter.isRouted_iff]
    simp only [contributes_iff, exists_eq_left]
  refine ⟨⟨definition.listing filter, fun other => lists_iff, ?_⟩, ?_, mem_iff, ?_⟩
  · show KeepsFirst _ (definition.matching filter)
    rw [matching_eq, EndpointSet.endpoints_addAll]
    exact keepsFirst_firstMet _
  · intro endpoint listed
    exact (mem_iff endpoint.url).mpr (.inl (List.mem_map_of_mem listed))
  · intro filler
    rw [exclusiveFiller, EndpointSet.endpoints_addAll]
    exact keepsFirst_firstMet _

/-- A webhook that takes every order keeps its own headers where a filler registers its url with others. -/
example :
    let shared (source : String) : Endpoint :=
      ⟨"https://shared", some (Dict.empty.insert "x-source" source)⟩
    let definition : Definition :=
      ⟨[shared "everywhere"], { filler := Dict.empty.insert "0xF" [⟨"https://f", none⟩, shared "filler"] }⟩
    definition.matching { filler := some "0xF" } = [shared "everywhere", ⟨"https://f", none⟩] := by
  decide

end Definition

end OrderHerald
