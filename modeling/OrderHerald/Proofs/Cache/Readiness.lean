import OrderHerald.Proofs.Cache.Records
import OrderHerald.Proofs.Cache.Refinement
import OrderHerald.Proofs.Http.Asking

/-!
# Readiness

Operators are told that the service is ready once its cache holds a routing definition.  Nothing but the
storing of what a fetch came to puts an entry there, and nothing takes one away: a fetch that fails leaves
it, an expired one is replaced when there is another, and a caller that leaves writes nothing.

This is said twice.  Callers that come together are the callers of a `Crowd`, whose steps mix in any order;
there readiness is told from the steps of the run.  A call touches the cache by getting the definition and
by nothing else (`Cache.reads_warm`, `Cache.reads_answer`), so a caller of the crowd stands for any call.
Calls one after the other are the uses of a cache; there readiness is told from the fetches of the journal.

* `Crowd.Stored` — a caller stored what its own fetch came to.
* `Service.Reports` — what the doors for operators say, if there is a definition and if there is none.

## Main statements

* `Crowd.mem_observed_iff` — what is observed along a run is seen at one of its moments.
* `Crowd.isSome_entry_iff` — there is an entry exactly if some caller has stored.
* `Service.ready_iff_stored` — what the doors for operators say, at every moment.
-/

namespace OrderHerald

namespace Crowd

variable {α : Type} {period : Span} {start : Crowd} {moves : List Move} {now : Instant} {caller : Nat}
  {definition : Definition}

/-- **What is observed along a run is seen at one of its moments.** -/
theorem mem_observed_iff {see : Crowd → Move → Option α} {seen : α} :
    seen ∈ observed see period start moves
      ↔ ∃ crowd step, Passed period start moves crowd step ∧ see crowd step = some seen := by
  induction moves generalizing start with
  | nil =>
    constructor
    · intro mem
      cases mem
    · rintro ⟨crowd, step, ⟨before, rest, eq, -⟩, -⟩
      exact absurd eq.symm (by simp)
  | cons first rest ih =>
    rw [observed, List.mem_append, ih, Option.mem_toList]
    constructor
    · rintro (here | ⟨crowd, step, ⟨before, later, rfl, rfl⟩, sight⟩)
      · exact ⟨start, first, ⟨[], rest, rfl, rfl⟩, here⟩
      · exact ⟨_, step, ⟨first :: before, later, rfl, rfl⟩, sight⟩
    · rintro ⟨crowd, step, ⟨before, later, eq, rfl⟩, sight⟩
      cases before with
      | nil =>
        obtain ⟨rfl, rfl⟩ := List.cons.inj eq
        exact .inl sight
      | cons head before =>
        obtain ⟨rfl, rfl⟩ := List.cons.inj eq
        exact .inr ⟨_, step, ⟨before, later, rfl, rfl⟩, sight⟩

/-- **A caller stored what its own fetch came to**, at a moment of the run. -/
def Stored (period : Span) (start : Crowd) (moves : List Move) (caller : Nat)
    (definition : Definition) : Prop :=
  ∃ before rest, moves = before ++ .store caller :: rest
    ∧ (start.after period before).standing caller = .storing definition
    ∧ Fetched period start before caller (.ok definition)

/-- What was stored was stored. -/
theorem Stored.append (h : Stored period start moves caller definition) (later : List Move) :
    Stored period start (moves ++ later) caller definition := by
  obtain ⟨before, rest, rfl, stood, fetched⟩ := h
  exact ⟨before, rest ++ later, by simp, stood, fetched⟩

/-- **There is an entry exactly if some caller has stored.** -/
theorem isSome_entry_iff (period : Span) (now : Instant) (moves : List Move) :
    ((empty now none).after period moves).entry.isSome = true
      ↔ ∃ caller definition, Stored period (empty now none) moves caller definition := by
  rw [entry_after, List.getLast?_isSome]
  constructor
  · intro some
    obtain ⟨kept, mem⟩ := List.exists_mem_of_ne_nil _ some
    obtain ⟨_, step, ⟨before, rest, rfl, rfl⟩, written⟩ := mem_observed_iff.mp mem
    obtain ⟨caller, rfl, storing, -⟩ := recordAt?_eq_some_iff.mp written
    -- What a caller is about to store is accounted for: its own fetch came to it.
    have fetched : Fetched period (empty now none) before caller (.ok kept.definition) :=
      (accounted_after now none before).carries storing
    exact ⟨caller, kept.definition, before, rest, rfl, storing, fetched⟩
  · rintro ⟨caller, definition, before, rest, rfl, storing, -⟩
    have written : recordAt? ((empty now none).after period before) (.store caller)
        = some ⟨definition, ((empty now none).after period before).now⟩ :=
      recordAt?_eq_some_iff.mpr ⟨caller, rfl, storing, rfl⟩
    exact List.ne_nil_of_mem (mem_observed_iff.mpr ⟨_, _, ⟨before, rest, rfl, rfl⟩, written⟩)

end Crowd

namespace Cache

variable {σ : Type} {origin : Origin σ} {world : Cached σ} {journal : Journal}

/-- In a cache that agrees with its fetches there is a definition exactly if one of them ended well. -/
theorem Agrees.isReady_iff (h : Agrees origin world journal) :
    isReady world = true ↔ ∃ definition, .ok definition ∈ journal.fetches := by
  rw [isReady, ← Option.isSome_map, h.entry]
  exact isSome_latestSuccess

end Cache

/-! ### The doors for operators -/

namespace Service

variable {σ ω : Type} {service : Service σ ω} {world : Cached σ × ω} {there : Prop}

/-- **What the doors for operators say** in a state of the world, where `there` says that a definition is
there. -/
structure Reports (service : Service σ ω) (world : Cached σ × ω) (there : Prop) : Prop where
  isReady : Cache.isReady world.1 = true ↔ there
  ready : there → ∀ visit : Visit, visit.path = "/ready" → (service.probe world visit).status = 200
  notReady :
    ¬ there → ∀ visit : Visit, visit.path = "/ready" → (service.probe world visit).status = 503
  health : ∀ visit : Visit, visit.path = "/health" → (service.probe world visit).status = 200
  unknown : ∀ visit : Visit, visit.path ≠ "/health" → visit.path ≠ "/ready" →
    (service.probe world visit).status = 404

/-- They say what the cache says. -/
theorem reports_of_isReady (h : Cache.isReady world.1 = true ↔ there) :
    service.Reports world there := by
  have atReady {visit : Visit} (asked : visit.path = "/ready") :
      service.probe world visit = if Cache.isReady world.1 then .text 200 "ok\n" else .error 503 := by
    rw [Service.probe, OrderHerald.probe, asked, if_neg (by decide), if_pos rfl]
  refine ⟨h, ?_, ?_, ?_, ?_⟩
  · intro holds visit asked
    rw [atReady asked, if_pos (h.mpr holds)]
    rfl
  · intro fails visit asked
    rw [atReady asked, if_neg (mt h.mp fails)]
    rfl
  · intro visit asked
    rw [Service.probe, OrderHerald.probe, if_pos asked]
    rfl
  · intro visit notHealth notReady
    rw [Service.probe, OrderHerald.probe, if_neg notHealth, if_neg notReady]
    rfl

/-- **Ready means that a definition is there, and once ready is always ready.**  For any service whose
cache is new, any outcome of every fetch and any movement of the clock:

* at every moment of any order of the steps of any number of callers it is ready, and says so, exactly if
  some caller has stored what its own fetch came to, and it stays ready whatever steps follow;
* if its origin leaves it to the cache to write down what a fetch came to, as the origin of every service
  that settings describe does, then after any calls one after the other it is ready, and says so, exactly if
  some fetch has ended well, and it stays ready whatever calls follow;
* all the time it says that it is alive, and knows no other path. -/
theorem ready_iff_stored (service : Service σ ω) (outside : σ) (elsewhere : ω) :
    (∀ (now : Instant) (moves : List Move),
      let start := Crowd.empty now none
      let crowd := start.after service.period moves
      service.Reports ((crowd.entry, outside), elsewhere)
        (∃ caller definition, Crowd.Stored service.period start moves caller definition)
      ∧ ∀ later, Cache.isReady (crowd.entry, outside) = true →
          Cache.isReady ((crowd.after service.period later).entry, outside) = true)
    ∧ (service.origin.IsPlain → ∀ uses : List (Cache.Use σ),
      let done := Cache.used service.period service.origin uses (none, outside)
      service.Reports (done.world, elsewhere) (∃ definition, .ok definition ∈ done.journal.fetches)
      ∧ ∀ later, Cache.isReady done.world = true →
          Cache.isReady (Cache.used service.period service.origin later done.world).world = true) := by
  refine ⟨?_, ?_⟩
  · intro now moves start crowd
    have stored := Crowd.isSome_entry_iff service.period now moves
    refine ⟨reports_of_isReady stored, ?_⟩
    intro later ready
    obtain ⟨caller, definition, before⟩ := stored.mp ready
    change ((start.after service.period moves).after service.period later).entry.isSome = true
    rw [← Crowd.after_append]
    exact (Crowd.isSome_entry_iff service.period now (moves ++ later)).mpr
      ⟨caller, definition, before.append later⟩
  · intro plain uses done
    have agrees : Cache.Agrees service.origin done.world done.journal :=
      Cache.agrees_used service.period plain outside uses
    refine ⟨reports_of_isReady agrees.isReady_iff, ?_⟩
    intro later ready
    obtain ⟨definition, mem⟩ := agrees.isReady_iff.mp ready
    refine (agrees.used plain later).isReady_iff.mpr ⟨definition, ?_⟩
    rw [Journal.fetches_append]
    exact List.mem_append_left _ mem

/-- The origin of a service that settings describe leaves it to the cache to write down what a fetch came
to. -/
theorem isPlain_ofSettings [DomainNames] (settings : Settings) (source : Source)
    (fetching : Surroundings σ) (s : Surroundings ω) :
    (ofSettings settings source fetching s).origin.IsPlain :=
  source.isPlain_origin fetching

/-- Settings of a service whose routing definition is in a file. -/
def filedSettings : Settings :=
  ⟨⟨"localhost", 3000⟩, ⟨"localhost", 3001⟩, .beta, .file "webhooks.json", 300, 200, {}, Dict.empty⟩

/-- Surroundings in which every file holds the two bytes of an empty object. -/
def emptyFiles : Surroundings Unit :=
  { Surroundings.still ⟨0⟩ with file := fun _ _ => (some [0x7b, 0x7d], ()) }

/-- A service is ready when its first call has read the file, and it says so. -/
theorem ready_iff_stored_emptyFile :
    let service := ofSettings filedSettings (.file "webhooks.json") emptyFiles (.still ⟨0⟩)
    let done := Cache.used service.period service.origin [.warm] (none, ())
    service.origin.IsPlain ∧ done.journal.fetches = [.ok {}] ∧
      Cache.isReady done.world = true ∧
      (service.probe (done.world, ()) ⟨"GET", "/ready", some []⟩).status = 200 := by
  intro service done
  have plain : service.origin.IsPlain := isPlain_ofSettings _ _ _ _
  have fetches : done.journal.fetches = [.ok {}] := by rfl
  obtain ⟨reports, -⟩ := (ready_iff_stored service () ()).2 plain [.warm]
  have there : ∃ definition, .ok definition ∈ done.journal.fetches := by
    rw [fetches]
    exact ⟨_, List.mem_singleton_self _⟩
  exact ⟨plain, fetches, reports.isReady.mpr there, reports.ready there _ rfl⟩

end Service

end OrderHerald
