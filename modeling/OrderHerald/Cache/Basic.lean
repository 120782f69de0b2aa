import OrderHerald.Cache.Entry
import OrderHerald.Metrics.Catalog
import OrderHerald.Provider

/-!
# The cache of the routing definition

The routing definition is fetched when it is needed and there is none, or the one there is too old.
A fetch that fails is the answer to whoever needed the routing definition; it changes nothing.

Callers that come at the same time are served in turn: a caller that finds no fresh entry waits for
the one permit to fetch, and looks again when it has it, because a caller before it may have
fetched.  `Crowd` has the callers step by step, and `Cache.definitions` serves
many of them.

* `Origin` — where routing definitions come from, and the clock.
* `Cache.definition` — the routing definition, fetched if need be.
* `Cache.answer`, `Provider.cached` — answers from the cache; `Cache.warm`, `Cache.isReady`.

## Main statements

* `Cache.writes_answer` — what is written on the way to an answer is no notifying.
-/

namespace OrderHerald

/-- Where routing definitions come from, and the clock that ages them. -/
structure Origin (σ : Type) where
  now : σ → Instant × σ
  fetch : Run σ (Except FetchError Definition)
  writes_fetch : fetch.Writes Event.IsForeign

/-- The world with a cache in it. -/
abbrev Cached (σ : Type) := Option Entry × σ

namespace Cache

variable {σ : Type}

/-- Looks for an entry that may be served.  The clock is read only if there is an entry. -/
def look (period : Span) (origin : Origin σ) : Run (Cached σ) (Option Definition) := fun world =>
  match world.1 with
  | none => ⟨none, [], world⟩
  | some entry =>
    let (now, after) := origin.now world.2
    ⟨Entry.fresh? (some entry) period now, [], (some entry, after)⟩

/-- Keeps a routing definition under the moment the clock shows. -/
def store (origin : Origin σ) (definition : Definition) : Run (Cached σ) Unit := fun world =>
  let (now, after) := origin.now world.2
  ⟨(), [], (some ⟨definition, now⟩, after)⟩

/-- A fetch and what is written about it. -/
def fetch (origin : Origin σ) : Run σ (Except FetchError Definition) := do
  let outcome ← origin.fetch
  Run.record (.fetched outcome)
  match outcome with
  | .error _ => Run.count .definitionFetchFailure [] 1
  | .ok _ => Run.count .definitionFetch [] 1
  pure outcome

/-- **Fetches the routing definition.**  A success is kept; a failure leaves the cache as it is. -/
def refresh (origin : Origin σ) : Run (Cached σ) (Except FetchError Definition) := do
  match ← (fetch origin).onRight with
  | .error e => pure (.error e)
  | .ok definition => do
    store origin definition
    pure (.ok definition)

/-- **The routing definition**: the kept one if it may be served, else a new one.  Between the two
looks the caller waits for the permit to fetch. -/
def definition (period : Span) (origin : Origin σ) :
    Run (Cached σ) (Except FetchError Definition) := do
  match ← look period origin with
  | some found => pure (.ok found)
  | none =>
    match ← look period origin with
    | some found => pure (.ok found)
    | none => refresh origin

/-- A routing definition has been fetched. -/
def isReady (world : Cached σ) : Bool := world.1.isSome

/-- Fetches the routing definition once, so that there is one. -/
def warm (period : Span) (origin : Origin σ) : Run (Cached σ) (Except FetchError Unit) := do
  match ← definition period origin with
  | .ok _ => pure (.ok ())
  | .error e => pure (.error e)

/-- **The answer to a question**, out of the cache.  How long it takes to find the webhooks of an
order is measured, unless there is no routing definition. -/
def answer (period : Span) (origin : Origin σ) (question : Question) :
    Run (Cached σ) (Except FetchError (List Endpoint)) := do
  match ← definition period origin with
  | .error e => pure (.error e)
  | .ok definition =>
    match question with
    | .order filter => do
      Run.measure .endpointsDuration [] .elapsed
      pure (.ok (definition.matching filter))
    | .filler name => pure (.ok (definition.exclusiveFiller name))

/-! ### What is written on the way to an answer -/

theorem writes_look (period : Span) (origin : Origin σ) {kind : Event → Prop} :
    (look period origin).Writes kind := by
  intro world event mem
  unfold look at mem
  split at mem <;> simp at mem

theorem writes_fetch (origin : Origin σ) : (fetch origin).Writes Event.IsForeign := by
  refine origin.writes_fetch.bind fun outcome => (Run.writes_record trivial).bind fun _ => ?_
  cases outcome with
  | error e =>
    exact (Run.writes_record (by decide : Metric.definitionFetchFailure ∉ Metric.notification)).bind
      fun _ => Run.writes_pure _
  | ok definition =>
    exact (Run.writes_record (by decide : Metric.definitionFetch ∉ Metric.notification)).bind
      fun _ => Run.writes_pure _

theorem writes_refresh (origin : Origin σ) : (refresh origin).Writes Event.IsForeign := by
  refine (writes_fetch origin).onRight.bind fun outcome => ?_
  cases outcome with
  | error e => exact Run.writes_pure _
  | ok definition => exact Run.Writes.bind (fun _ _ mem => nomatch mem) fun _ => Run.writes_pure _

theorem writes_definition (period : Span) (origin : Origin σ) :
    (definition period origin).Writes Event.IsForeign := by
  refine (writes_look period origin).bind fun found => ?_
  cases found with
  | some found => exact Run.writes_pure _
  | none =>
    refine (writes_look period origin).bind fun again => ?_
    cases again with
    | some found => exact Run.writes_pure _
    | none => exact writes_refresh origin

theorem writes_answer (period : Span) (origin : Origin σ) (question : Question) :
    (answer period origin question).Writes Event.IsForeign := by
  refine (writes_definition period origin).bind fun outcome => ?_
  cases outcome with
  | error e => exact Run.writes_pure _
  | ok definition =>
    cases question with
    | order filter =>
      exact (Run.writes_record (by decide : Metric.endpointsDuration ∉ Metric.notification)).bind
        fun _ => Run.writes_pure _
    | filler name => exact Run.writes_pure _

end Cache

/-- **Answers from the cache.** -/
def Provider.cached {σ : Type} (period : Span) (origin : Origin σ) : Provider (Cached σ) :=
  ⟨Cache.answer period origin, Cache.writes_answer period origin⟩

end OrderHerald
