import OrderHerald.Proofs.Cache.Course

/-!
# A cache and its history

One caller at a time uses a cache: it asks for the routing definition, asks whether there is one, and in
between the clock is moved forwards or set to any moment.  Where routing definitions come from is
scripted: the script says what each fetch comes to and how long it takes, and the fetches that were made
are written down with the moments at which they ended.

What the cache does at any moment follows from this history.  The entry is the latest fetch that ended
well, whatever failed after it and however the clock went; so the cache answers out of it exactly as long
as the clock is not past its period.

* `PastFetch`, `PastFetch.latest` — a fetch that was made; the latest that ended well.
* `Script`, `Bench` — what fetches come to; the clock and the fetches made so far.
* `Cache.Act`, `Cache.play` — the uses of a cache, one after the other.
* `Cache.Faithful` — the cache and the counters say what the history says.

## Main statements

* `Cache.faithful_play` — they do so after every run of a new cache.
* `Cache.definition_history` — what a use does, told from the history alone.
-/

namespace OrderHerald

/-- A fetch that was made, with the moment that the clock showed when it ended. -/
structure PastFetch where
  outcome : Except FetchError Definition
  ended : Instant

namespace PastFetch

/-- What is to be kept of a fetch: a definition and the moment at which its fetch ended. -/
def kept? (fetch : PastFetch) : Option Entry :=
  match fetch.outcome with
  | .ok definition => some ⟨definition, fetch.ended⟩
  | .error _ => none

/-- The fetch ended well. -/
def succeeded (fetch : PastFetch) : Bool := fetch.kept?.isSome

/-- **The latest fetch that ended well.** -/
def latest (past : List PastFetch) : Option Entry :=
  (past.filterMap kept?).getLast?

/-- A fetch that ends well becomes the latest one, and one that fails does not count. -/
theorem latest_concat (past : List PastFetch) (fetch : PastFetch) :
    latest (past ++ [fetch]) = fetch.kept?.or (latest past) := by
  rw [latest, List.filterMap_append, List.getLast?_append, latest]
  cases kept : fetch.kept? <;> simp [kept]

/-- There is a latest fetch that ended well exactly if one ended well. -/
theorem isSome_latest (past : List PastFetch) : (latest past).isSome = past.any succeeded := by
  rw [Bool.eq_iff_iff, latest, List.getLast?_isSome, List.any_eq_true]
  simp only [ne_eq, List.filterMap_eq_nil_iff, Classical.not_forall, succeeded,
    Option.isSome_iff_ne_none, exists_prop]

end PastFetch

/-- **What the fetches come to**, numbered from zero, and how long each of them takes. -/
structure Script where
  outcome : Nat → Except FetchError Definition
  takes : Nat → Span

/-- A clock that moves when told to, and the fetches made so far, oldest first. -/
structure Bench where
  now : Instant
  past : List PastFetch := []

/-- The clock goes on.  Where there is no such moment the program stops; so that there is a clock to
speak of, it stays here. -/
def Bench.advance (bench : Bench) (length : Span) : Bench :=
  { bench with now := (bench.now.advance? length).getD bench.now }

namespace Script

/-- The next fetch. -/
def next (script : Script) (bench : Bench) : PastFetch :=
  let number := bench.past.length
  ⟨script.outcome number, (bench.advance (script.takes number)).now⟩

/-- The next fetch has been made. -/
def after (script : Script) (bench : Bench) : Bench :=
  ⟨(script.next bench).ended, bench.past ++ [script.next bench]⟩

/-- **The scripted source** and its clock.  Reading the clock does not move it. -/
def origin (script : Script) : Origin Bench where
  now bench := (bench.now, bench)
  fetch := Run.of fun bench => ((script.next bench).outcome, script.after bench)
  writes_fetch := Run.writes_of _

end Script

namespace Cache

/-- A use of a cache, or a movement of the clock. -/
inductive Act where
  | get
  | advance (length : Span)
  /-- The clock is set to any moment, earlier ones included. -/
  | set (time : Instant)
  /-- Is there a routing definition? -/
  | ask

/-- What one gets. -/
inductive Reply where
  | definition (outcome : Except FetchError Definition)
  | ready (ready : Bool)
  | done

/-- **What a use does.** -/
def perform (period : Span) (script : Script) : Act → Run (Cached Bench) Reply
  | .get => Reply.definition <$> definition period script.origin
  | .advance length => Run.of fun world => (.done, (world.1, world.2.advance length))
  | .set time => Run.of fun world => (.done, (world.1, { world.2 with now := time }))
  | .ask => Run.of fun world => (.ready (isReady world), world)

/-- **Uses of a cache, one after the other.** -/
def play (period : Span) (script : Script) (acts : List Act) : Run (Cached Bench) (List Reply) :=
  Run.forEach acts (perform period script)

variable {period : Span} {script : Script} {world : Cached Bench} {journal : Journal}

/-! ### One get -/

theorem look_scripted (period : Span) (script : Script) (world : Cached Bench) :
    look period script.origin world
      = ⟨Entry.fresh? world.1 period world.2.now, [], world⟩ := by
  obtain ⟨entry, bench⟩ := world
  cases entry with
  | none => rfl
  | some kept => rfl

/-- **A fresh entry is the answer**, and nothing happens. -/
theorem definition_of_fresh {found : Definition}
    (fresh : Entry.fresh? world.1 period world.2.now = some found) :
    definition period script.origin world = ⟨.ok found, [], world⟩ := by
  have seen : look period script.origin world = ⟨some found, [], world⟩ := by
    rw [look_scripted, fresh]
  rw [definition_of_look (congrArg Outcome.value seen), seen]

/-- Without a fresh entry the definition is fetched. -/
theorem definition_of_stale (stale : Entry.fresh? world.1 period world.2.now = none) :
    definition period script.origin world = refresh script.origin world := by
  have seen : look period script.origin world = ⟨none, [], world⟩ := by
    rw [look_scripted, stale]
  rw [definition_of_lacks seen (congrArg Outcome.value seen), seen]

/-- What is written about a fetch. -/
def fetchJournal (outcome : Except FetchError Definition) : Journal :=
  let metric : Metric := match outcome with
    | .ok _ => .definitionFetch
    | .error _ => .definitionFetchFailure
  [.fetched outcome, .measured ⟨metric, [], .increment 1⟩]

theorem fetch_scripted (script : Script) (bench : Bench) :
    fetch script.origin bench
      = ⟨(script.next bench).outcome, fetchJournal (script.next bench).outcome,
          script.after bench⟩ := by
  simp only [fetch, bind, Script.origin, Run.of]
  cases (script.next bench).outcome with
  | ok definition => rfl
  | error reason => rfl

/-- **A refresh is one fetch**: its outcome is the answer, and what is to be kept of it is kept. -/
theorem refresh_scripted (script : Script) (world : Cached Bench) :
    refresh script.origin world
      = ⟨(script.next world.2).outcome, fetchJournal (script.next world.2).outcome,
          ((script.next world.2).kept?.or world.1, script.after world.2)⟩ := by
  simp only [refresh, bind, Run.onRight, fetch_scripted, PastFetch.kept?]
  cases (script.next world.2).outcome with
  | ok definition => rfl
  | error reason => rfl

/-- One fetch counts once, as what it came to. -/
theorem counted_fetchJournal (fetch : PastFetch) :
    counted .definitionFetch [] (fetchJournal fetch.outcome).samples
        = [fetch].countP PastFetch.succeeded
    ∧ counted .definitionFetchFailure [] (fetchJournal fetch.outcome).samples
        = [fetch].countP fun fetch => !fetch.succeeded := by
  obtain ⟨outcome, ended⟩ := fetch
  cases outcome with
  | ok definition => exact ⟨rfl, rfl⟩
  | error reason => exact ⟨rfl, rfl⟩

/-! ### The history -/

/-- **The cache and the counters say what the history says.** -/
structure Faithful (world : Cached Bench) (journal : Journal) : Prop where
  /-- The entry is the latest fetch that ended well. -/
  entry : world.1 = PastFetch.latest world.2.past
  succeeded : counted .definitionFetch [] journal.samples = world.2.past.countP PastFetch.succeeded
  failed : counted .definitionFetchFailure [] journal.samples
    = world.2.past.countP fun fetch => !fetch.succeeded

theorem faithful_new (now : Instant) : Faithful (none, ⟨now, []⟩) [] :=
  ⟨rfl, rfl, rfl⟩

/-- A refresh adds its fetch to the history. -/
theorem Faithful.refreshed (h : Faithful world journal) :
    Faithful (refresh script.origin world).world
      (journal ++ (refresh script.origin world).journal) := by
  obtain ⟨succeeded, failed⟩ := counted_fetchJournal (script.next world.2)
  rw [refresh_scripted]
  refine ⟨?_, ?_, ?_⟩
  · rw [h.entry]
    exact (PastFetch.latest_concat _ _).symm
  · rw [Journal.samples_append, counted_append, h.succeeded, succeeded, ← List.countP_append]
    rfl
  · rw [Journal.samples_append, counted_append, h.failed, failed, ← List.countP_append]
    rfl

/-- **No use of the cache breaks faith.** -/
theorem Faithful.performed (h : Faithful world journal) (act : Act) :
    Faithful (perform period script act world).world
      (journal ++ (perform period script act world).journal) := by
  have still {now : Instant} : Faithful (world.1, { world.2 with now }) (journal ++ []) := by
    rw [List.append_nil]
    exact ⟨h.entry, h.succeeded, h.failed⟩
  cases act with
  | advance length => exact still
  | set time => exact still
  | ask => exact still
  | get =>
    change Faithful (definition period script.origin world).world
      (journal ++ ((definition period script.origin world).journal ++ []))
    rw [List.append_nil]
    cases fresh : Entry.fresh? world.1 period world.2.now with
    | some found =>
      rw [definition_of_fresh fresh]
      exact still
    | none =>
      rw [definition_of_stale fresh]
      exact h.refreshed

/-- **The history of a run tells everything about the cache after it.** -/
theorem Faithful.played (h : Faithful world journal) (acts : List Act) :
    Faithful (play period script acts world).world
      (journal ++ (play period script acts world).journal) :=
  Run.forEach_keeps (fun act _ _ _ kept => kept.performed act) h

theorem faithful_play (period : Span) (script : Script) (now : Instant) (acts : List Act) :
    Faithful (play period script acts (none, ⟨now, []⟩)).world
      (play period script acts (none, ⟨now, []⟩)).journal :=
  (faithful_new now).played acts

/-! ### What a use does -/

/-- The latest fetch that ended well, if the clock is not past its period.  A clock that shows a moment
before it is not. -/
def Current (period : Span) (bench : Bench) (kept : Entry) : Prop :=
  PastFetch.latest bench.past = some kept
    ∧ bench.now.nanos ≤ kept.fetchedAt.nanos + period.nanos

/-- **A get that fetches**, from a cache in the world `world`. -/
structure Refetched (script : Script) (world : Cached Bench) (got : Outcome (Cached Bench) Reply) :
    Prop where
  /-- It is one fetch, and the clock shows the moment at which that ended. -/
  once : got.world.2 = ⟨(script.next world.2).ended, world.2.past ++ [script.next world.2]⟩
  /-- The answer is what the fetch came to, an error included. -/
  answer : got.value = .definition (script.next world.2).outcome
  /-- A success takes the place of the definition and of the moment, both at once. -/
  kept : ∀ definition, (script.next world.2).outcome = .ok definition →
    got.world.1 = some ⟨definition, got.world.2.now⟩
  /-- A failure leaves both, and whether there is a definition, as they were. -/
  untouched : ∀ reason, (script.next world.2).outcome = .error reason →
    got.world.1 = world.1 ∧ isReady got.world = isReady world

/-- A get that fetches shows in the history. -/
theorem Refetched.past_ne {got : Outcome (Cached Bench) Reply} (h : Refetched script world got) :
    got.world.2.past ≠ world.2.past := by
  intro same
  have longer := congrArg (fun bench => bench.past.length) h.once
  simp only [same, List.length_append, List.length_singleton] at longer
  omega

/-- In a faithful world a definition that is current is served. -/
theorem Faithful.fresh_of_current (h : Faithful world journal) {kept : Entry}
    (current : Current period world.2 kept) :
    Entry.fresh? world.1 period world.2.now = some kept.definition := by
  obtain ⟨latest, inTime⟩ := current
  exact Entry.fresh?_eq_some_iff.mpr ⟨kept, h.entry.trans latest, rfl, inTime⟩

/-- And nothing is served where none is current. -/
theorem Faithful.stale_of_not_current (h : Faithful world journal)
    (outdated : ¬ ∃ kept, Current period world.2 kept) :
    Entry.fresh? world.1 period world.2.now = none := by
  rw [Entry.fresh?_eq_none_iff, h.entry]
  intro kept latest
  have late : ¬ world.2.now.nanos ≤ kept.fetchedAt.nanos + period.nanos :=
    fun inTime => outdated ⟨kept, latest, inTime⟩
  omega

theorem perform_get (period : Span) (script : Script) (world : Cached Bench) :
    perform period script .get world
      = ⟨.definition (definition period script.origin world).value,
          (definition period script.origin world).journal,
          (definition period script.origin world).world⟩ := by
  change Outcome.mk _ ((definition period script.origin world).journal ++ []) _ = _
  rw [List.append_nil]
  rfl

theorem refetched_of_stale (stale : Entry.fresh? world.1 period world.2.now = none) :
    Refetched script world (perform period script .get world) := by
  rw [perform_get, definition_of_stale stale, refresh_scripted]
  refine ⟨rfl, rfl, ?_, ?_⟩
  · intro definition success
    simp only [PastFetch.kept?, success]
    rfl
  · intro reason failure
    simp only [PastFetch.kept?, failure]
    exact ⟨rfl, rfl⟩

/-- **What the cache does is told by its history.**  For any refresh period, any script, any moment of
the start and any uses of a new cache, with the fetches `past` made so far and the clock at `now`:

* the next get makes no fetch exactly if some fetch ended well and the clock is not more than the period
  past the moment at which the latest of these ended; then it answers what that fetch came to, and
  nothing changes;
* otherwise the next get is one fetch, as `Refetched` has it;
* there is a definition exactly if some fetch ended well;
* the counters are the numbers of fetches that ended well and that failed. -/
theorem definition_history (period : Span) (script : Script) (now : Instant) (acts : List Act) :
    let played := play period script acts (none, ⟨now, []⟩)
    let world := played.world
    let past := world.2.past
    let got := perform period script .get world
    (got.world.2.past = past ↔ ∃ kept, Current period world.2 kept)
    ∧ (∀ kept, Current period world.2 kept → got = ⟨.definition (.ok kept.definition), [], world⟩)
    ∧ ((¬ ∃ kept, Current period world.2 kept) → Refetched script world got)
    ∧ perform period script .ask world = ⟨.ready (past.any PastFetch.succeeded), [], world⟩
    ∧ counted .definitionFetch [] played.journal.samples = past.countP PastFetch.succeeded
    ∧ counted .definitionFetchFailure [] played.journal.samples
        = past.countP fun fetch => !fetch.succeeded := by
  intro played world past got
  have faithful : Faithful world played.journal := faithful_play period script now acts
  have served : ∀ kept, Current period world.2 kept →
      got = ⟨.definition (.ok kept.definition), [], world⟩ := by
    intro kept current
    change perform period script .get world = _
    rw [perform_get, definition_of_fresh (faithful.fresh_of_current current)]
  have refetched : (¬ ∃ kept, Current period world.2 kept) → Refetched script world got :=
    fun outdated => refetched_of_stale (faithful.stale_of_not_current outdated)
  refine ⟨?_, served, refetched, ?_, faithful.succeeded, faithful.failed⟩
  · constructor
    · intro same
      exact Classical.byContradiction fun outdated => (refetched outdated).past_ne same
    · rintro ⟨kept, current⟩
      rw [served kept current]
  · change Outcome.mk (Reply.ready (isReady world)) [] world = _
    rw [isReady, faithful.entry, PastFetch.isSome_latest]

/-- An entry whose period is over is not served while fetches fail, but it is again when the clock is set
back. -/
example :
    (play ⟨5⟩ ⟨fun number => if number = 0 then .ok {} else .error .io, fun _ => ⟨1⟩⟩
      [.get, .advance ⟨6⟩, .get, .set ⟨0⟩, .get] (none, ⟨⟨0⟩, []⟩)).value
      = [.definition (.ok {}), .done, .definition (.error .io), .done, .definition (.ok {})] := rfl

end Cache

end OrderHerald
