import OrderHerald.Proofs.Cache.Course
import OrderHerald.Proofs.Cache.History
import OrderHerald.Service.Start

/-!
# The cached provider and the fixed one

The cached provider has a state and may fail; the fixed one has no state and never fails.  What the cached
one answers is what the fixed one over some routing definition answers, and which one that is follows from
the fetches alone: the definition that the latest successful fetch came to.  Between two calls the clock
may be moved and the documents may change in any way, and during a call too.

* `latestSuccess` — the definition of the latest successful fetch.
* `Cache.Agrees` — the cache holds that definition.
* `Cache.Use`, `Cache.used` — calls and changes of the outside, one after the other.
* `Cache.Tells` — what a call answers, told from the fetches.

## Main statements

* `Cache.Agrees.course` — no call breaks the agreement.
* `Cache.agrees_used` — a new cache agrees with its fetches after any uses.
* `Provider.cached_refines_fixed` — so the cached provider answers what a fixed one answers.
-/

namespace OrderHerald

/-- The origins of the service leave it to the cache to write down what a fetch came to. -/
theorem Source.isPlain_origin [DomainNames] {σ : Type} (source : Source) (s : Surroundings σ) :
    (source.origin s).IsPlain := by
  refine Run.Writes.mono (source.writes_requests s) ?_
  rintro event ⟨request, rfl | rfl⟩
  · rfl
  · rfl

theorem Script.isPlain_origin (script : Script) : script.origin.IsPlain :=
  Run.writes_of _

/-- **The definition of the latest successful fetch.** -/
def latestSuccess (fetches : List (Except FetchError Definition)) : Option Definition :=
  (fetches.filterMap Except.toOption).getLast?

/-- Later successes count before earlier ones. -/
theorem latestSuccess_append (first second : List (Except FetchError Definition)) :
    latestSuccess (first ++ second) = (latestSuccess second).or (latestSuccess first) := by
  rw [latestSuccess, List.filterMap_append, List.getLast?_append]
  rfl

theorem mem_successes_iff {fetches : List (Except FetchError Definition)} {definition : Definition} :
    definition ∈ fetches.filterMap Except.toOption ↔ .ok definition ∈ fetches := by
  rw [List.mem_filterMap]
  constructor
  · rintro ⟨outcome, mem, success⟩
    cases outcome with
    | error reason => cases success
    | ok found =>
      obtain rfl : found = definition := Option.some.inj success
      exact mem
  · intro mem
    exact ⟨.ok definition, mem, rfl⟩

theorem mem_of_latestSuccess {fetches : List (Except FetchError Definition)} {definition : Definition}
    (h : latestSuccess fetches = some definition) : .ok definition ∈ fetches :=
  mem_successes_iff.mp (List.mem_of_getLast? h)

/-- There is a latest success exactly if some fetch ended well. -/
theorem isSome_latestSuccess {fetches : List (Except FetchError Definition)} :
    (latestSuccess fetches).isSome = true ↔ ∃ definition, .ok definition ∈ fetches := by
  rw [latestSuccess, List.getLast?_isSome]
  constructor
  · intro some
    obtain ⟨definition, mem⟩ := List.exists_mem_of_ne_nil _ some
    exact ⟨definition, mem_successes_iff.mp mem⟩
  · rintro ⟨definition, mem⟩
    exact List.ne_nil_of_mem (mem_successes_iff.mpr mem)

namespace Cache

variable {σ α : Type} {period : Span} {origin : Origin σ} {world : Cached σ} {journal : Journal}

/-! ### The cache and its fetches -/

/-- **The cache holds the definition of the latest successful fetch**, and the fetches are the origin's. -/
structure Agrees (origin : Origin σ) (world : Cached σ) (journal : Journal) : Prop where
  entry : world.1.map Entry.definition = latestSuccess journal.fetches
  sourced : ∀ outcome ∈ journal.fetches, ∃ outside, (origin.fetch outside).value = outcome

theorem agrees_new (origin : Origin σ) (outside : σ) : Agrees origin (none, outside) [] :=
  ⟨rfl, nofun⟩

/-- **No course breaks the agreement.** -/
theorem Agrees.course {view : Definition → α} {got : Outcome (Cached σ) (Except FetchError α)}
    (h : Agrees origin world journal) (course : Course period origin world view got) :
    Agrees origin got.world (journal ++ got.journal) := by
  have grown {outside : σ} {outcome : Except FetchError Definition}
      (came : (origin.fetch outside).value = outcome) :
      ∀ other ∈ journal.fetches ++ [outcome], ∃ outside, (origin.fetch outside).value = other := by
    intro other mem
    rcases List.mem_append.mp mem with old | new
    · exact h.sourced other old
    · exact ⟨outside, came.trans (List.mem_singleton.mp new).symm⟩
  cases course with
  | served found stands silent answer same =>
    refine ⟨?_, ?_⟩ <;> rw [Journal.fetches_append, silent, List.append_nil]
    · rw [same, h.entry]
    · exact h.sourced
  | renewed lacks success once answer stored =>
    refine ⟨?_, ?_⟩ <;> rw [Journal.fetches_append, once]
    · rw [stored, latestSuccess_append]
      rfl
    · exact grown success
  | failed lacks failure once answer same =>
    refine ⟨?_, ?_⟩ <;> rw [Journal.fetches_append, once]
    · rw [same, latestSuccess_append, h.entry]
      rfl
    · exact grown failure

/-! ### Runs -/

/-- A use of the cache, or a change of what lies outside: of the clock, of the documents. -/
inductive Use (σ : Type) where
  | warm
  | ask (question : Question)
  | change (become : σ → σ)

/-- What one gets. -/
inductive Use.Result where
  | warmed (outcome : Except FetchError Unit)
  | answered (answer : Except FetchError (List Endpoint))
  | changed

/-- **What a use does.** -/
def Use.perform (period : Span) (origin : Origin σ) : Use σ → Run (Cached σ) Use.Result
  | .warm => Use.Result.warmed <$> Cache.warm period origin
  | .ask question => Use.Result.answered <$> (Provider.cached period origin).answer question
  | .change become => Run.of fun world => (.changed, (world.1, become world.2))

/-- **Uses, one after the other.** -/
def used (period : Span) (origin : Origin σ) (uses : List (Use σ)) :
    Run (Cached σ) (List Use.Result) :=
  Run.forEach uses (Use.perform period origin)

/-- No use breaks the agreement. -/
theorem Agrees.performed (plain : origin.IsPlain) (h : Agrees origin world journal) (use : Use σ) :
    Agrees origin (use.perform period origin world).world
      (journal ++ (use.perform period origin world).journal) := by
  cases use with
  | warm =>
    change Agrees origin (warm period origin world).world
      (journal ++ ((warm period origin world).journal ++ []))
    rw [List.append_nil]
    exact h.course ((reads_warm period origin).course plain world)
  | ask question =>
    change Agrees origin (answer period origin question world).world
      (journal ++ ((answer period origin question world).journal ++ []))
    rw [List.append_nil]
    exact h.course ((reads_answer period origin question).course plain world)
  | change become =>
    change Agrees origin (world.1, become world.2) (journal ++ [])
    rw [List.append_nil]
    exact ⟨h.entry, h.sourced⟩

theorem Agrees.used (plain : origin.IsPlain) (h : Agrees origin world journal)
    (uses : List (Use σ)) :
    Agrees origin (used period origin uses world).world
      (journal ++ (used period origin uses world).journal) :=
  Run.forEach_keeps (fun use _ _ _ kept => kept.performed plain use) h

/-- **A new cache agrees with its fetches after any uses.** -/
theorem agrees_used (period : Span) (plain : origin.IsPlain) (outside : σ) (uses : List (Use σ)) :
    Agrees origin (used period origin uses (none, outside)).world
      (used period origin uses (none, outside)).journal :=
  (agrees_new origin outside).used plain uses

/-- **What a call answers, told from the fetches**: those of the journal before it and its own. -/
structure Tells (period : Span) (origin : Origin σ) (world : Cached σ) (journal : Journal)
    (view : Definition → α) (got : Outcome (Cached σ) (Except FetchError α)) : Prop where
  /-- It fetches exactly if it finds no definition that may be served. -/
  wanted : got.journal.fetches ≠ [] ↔ Lacks period origin world
  /-- It fails exactly if it fetches once and that fetch fails, and with the error of that fetch. -/
  failed : ∀ reason, got.value = .error reason ↔ got.journal.fetches = [.error reason]
  /-- Its answer is made of the definition of the latest successful fetch. -/
  answered : ∀ answer, got.value = .ok answer →
    ∃ definition, latestSuccess (journal ++ got.journal).fetches = some definition ∧
      answer = view definition

theorem Agrees.tells {view : Definition → α} {got : Outcome (Cached σ) (Except FetchError α)}
    (h : Agrees origin world journal) (course : Course period origin world view got) :
    Tells period origin world journal view got := by
  have latest := (h.course course).entry
  cases course with
  | served found stands silent answer same =>
    rw [same, stands] at latest
    refine ⟨?_, ?_, ?_⟩
    · simp [silent, found]
    · simp [silent, answer]
    · intro given eq
      rw [answer] at eq
      exact ⟨_, latest.symm, (Except.ok.inj eq).symm⟩
  | renewed lacks success once answer stored =>
    rw [stored] at latest
    refine ⟨?_, ?_, ?_⟩
    · simp [once, lacks]
    · simp [once, answer]
    · intro given eq
      rw [answer] at eq
      exact ⟨_, latest.symm, (Except.ok.inj eq).symm⟩
  | failed lacks failure once answer same =>
    refine ⟨?_, ?_, ?_⟩
    · simp [once, lacks]
    · simp [once, answer]
    · intro given eq
      rw [answer] at eq
      cases eq

end Cache

/-! ### The fixed provider -/

/-- **The cached provider refines the fixed one.**  For any refresh period, any origin, and any calls with
any changes of the clock and of the documents between them, a new cache then does this with the next call:

* it fetches exactly if it finds no definition that may be served, and fails exactly if that fetch fails,
  with the error of that fetch;
* otherwise it answers from the definition of the latest fetch that ended well up to the end of the call;
* so where every fetch failed or came to one definition, its answer is that of the fixed provider. -/
theorem Provider.cached_refines_fixed {σ : Type} (period : Span) (origin : Origin σ)
    (plain : origin.IsPlain) (outside : σ) (uses : List (Cache.Use σ)) :
    let before := Cache.used period origin uses (none, outside)
    let world := before.world
    Cache.Tells period origin world before.journal (fun _ => ()) (Cache.warm period origin world)
    ∧ ∀ question,
        let got := (Provider.cached period origin).answer question world
        let fetches := (before.journal ++ got.journal).fetches
        Cache.Tells period origin world before.journal (fun definition => definition.answer question)
          got
        ∧ (∀ outcome ∈ fetches, ∃ outside, (origin.fetch outside).value = outcome)
        ∧ ∀ definition,
            (∀ outcome ∈ fetches, outcome = .ok definition ∨ ∃ reason, outcome = .error reason) →
            ∀ endpoints, got.value = .ok endpoints →
              ((Provider.fixed definition).answer question ()).value = .ok endpoints := by
  intro before world
  have agrees : Cache.Agrees origin world before.journal :=
    Cache.agrees_used period plain outside uses
  refine ⟨agrees.tells ((Cache.reads_warm period origin).course plain world), ?_⟩
  intro question got fetches
  have course : Cache.Course period origin world (fun definition => definition.answer question) got :=
    (Cache.reads_answer period origin question).course plain world
  have tells := agrees.tells course
  refine ⟨tells, (agrees.course course).sourced, ?_⟩
  intro definition one endpoints answered
  obtain ⟨found, latest, rfl⟩ := tells.answered endpoints answered
  have same : found = definition := by
    rcases one _ (mem_of_latestSuccess latest) with eq | ⟨reason, eq⟩
    · exact Except.ok.inj eq
    · cases eq
  rw [same]
  rfl

namespace Cache

/-- Every order goes to one webhook. -/
def oneHook : Definition := { catchAll := [{ url := "http://hook.test/all" }] }

/-- The first fetch ends well, and no later one does. -/
def lostAfterFirst : Script :=
  ⟨fun number => if number = 0 then .ok oneHook else .error .io, fun _ => ⟨0⟩⟩

/-- The cache is filled, a call comes too late, and then the clock is set back. -/
def lateThenSetBack : List (Use Bench) :=
  [.warm, .change fun bench => { bench with now := ⟨6⟩ }, .ask (.order {}),
    .change fun bench => { bench with now := ⟨0⟩ }]

def afterSetBack : Outcome (Cached Bench) (List Use.Result) :=
  used ⟨5⟩ lostAfterFirst.origin lateThenSetBack (none, ⟨⟨0⟩, []⟩)

end Cache

/-- After a call that failed, the next one is answered as by the fixed provider. -/
theorem Provider.cached_refines_fixed_setBack :
    let before := Cache.afterSetBack
    let got := (Provider.cached ⟨5⟩ Cache.lostAfterFirst.origin).answer (.order {}) before.world
    Cache.lostAfterFirst.origin.IsPlain
    ∧ (before.journal ++ got.journal).fetches = [.ok Cache.oneHook, .error .io]
    ∧ got.value = .ok Cache.oneHook.catchAll
    ∧ ((Provider.fixed Cache.oneHook).answer (.order {}) ()).value = .ok Cache.oneHook.catchAll := by
  intro before got
  have plain := Cache.lostAfterFirst.isPlain_origin
  have fetches : (before.journal ++ got.journal).fetches = [.ok Cache.oneHook, .error .io] := rfl
  have answered : got.value = .ok (Cache.oneHook.answer (.order {})) := rfl
  have hooks : Cache.oneHook.answer (.order {}) = Cache.oneHook.catchAll := by decide
  rw [hooks] at answered
  obtain ⟨-, asked⟩ := Provider.cached_refines_fixed ⟨5⟩ Cache.lostAfterFirst.origin plain
    ⟨⟨0⟩, []⟩ Cache.lateThenSetBack
  obtain ⟨-, -, fixed⟩ := asked (.order {})
  refine ⟨plain, fetches, answered, fixed Cache.oneHook ?_ _ answered⟩
  intro outcome mem
  change outcome ∈ (before.journal ++ got.journal).fetches at mem
  rw [fetches] at mem
  rcases List.mem_cons.mp mem with eq | mem
  · exact .inl eq
  · exact .inr ⟨.io, List.mem_singleton.mp mem⟩

end OrderHerald
