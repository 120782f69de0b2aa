import OrderHerald.Cache.Basic
import OrderHerald.Proofs.Journal

/-!
# Getting the definition

All calls need the cache for one thing, and what that can come to is told here once: the kept definition is
served, or a new one is fetched and kept, or the fetch fails and nothing changes.  Nothing is known of the
origin: its clock may show anything each time it is read, and its fetches may come to anything.

* `Origin.IsPlain` — the origin leaves it to the cache to write down what a fetch came to.
* `Cache.Lacks` — neither look finds a definition that may be served.
* `Cache.Course` — what a call that gets the definition can come to.
* `Cache.Reads` — a call that gets the definition and makes its answer of it.

## Main statements

* `Cache.course_definition` — getting the definition comes to nothing else.
* `Cache.reads_warm`, `Cache.reads_answer` — the calls of the cache.
* `Cache.Reads.course` — so what is shown of getting the definition holds of every call.
-/

namespace OrderHerald

/-- **The origin leaves it to the cache to write down what a fetch came to.** -/
def Origin.IsPlain {σ : Type} (origin : Origin σ) : Prop :=
  origin.fetch.Writes fun event => event.fetch? = none

namespace Cache

variable {σ α : Type} {period : Span} {origin : Origin σ} {world : Cached σ}

/-! ### One look, one fetch -/

/-- **A look writes nothing.** -/
theorem look_eq {found : Option Definition} (seen : (look period origin world).value = found) :
    look period origin world = ⟨found, [], (look period origin world).world⟩ := by
  subst seen
  obtain ⟨entry, outside⟩ := world
  cases entry <;> rfl

/-- It finds what is fresh at the moment that the clock shows. -/
theorem value_look (period : Span) (origin : Origin σ) (world : Cached σ) :
    (look period origin world).value = Entry.fresh? world.1 period (origin.now world.2).1 := by
  obtain ⟨entry, outside⟩ := world
  cases entry <;> rfl

/-- It changes nothing but the outside. -/
theorem entry_look (period : Span) (origin : Origin σ) (world : Cached σ) :
    (look period origin world).world.1 = world.1 := by
  obtain ⟨entry, outside⟩ := world
  cases entry <;> rfl

/-- What a look finds stands in the entry. -/
theorem exists_of_look {found : Definition} (h : (look period origin world).value = some found) :
    ∃ kept, world.1 = some kept ∧ kept.definition = found := by
  rw [value_look] at h
  obtain ⟨kept, stands, holds, -⟩ := Entry.fresh?_eq_some_iff.mp h
  exact ⟨kept, stands, holds⟩

theorem value_fetch (origin : Origin σ) (outside : σ) :
    (fetch origin outside).value = (origin.fetch outside).value := by
  simp only [fetch, Run.value_bind]
  cases (origin.fetch outside).value <;> rfl

/-- **A fetch is written down once**, as what it came to. -/
theorem fetches_fetch (plain : origin.IsPlain) (outside : σ) :
    (fetch origin outside).journal.fetches = [(origin.fetch outside).value] := by
  have silent : (origin.fetch outside).journal.fetches = [] :=
    Journal.fetches_eq_nil (plain outside)
  simp only [fetch, Run.journal_bind, Journal.fetches_append, silent, List.nil_append]
  cases (origin.fetch outside).value <;> rfl

theorem value_refresh (origin : Origin σ) (world : Cached σ) :
    (refresh origin world).value = (origin.fetch world.2).value := by
  simp only [refresh, Run.value_bind, Run.onRight, value_fetch]
  cases (origin.fetch world.2).value <;> rfl

/-- A refresh is one fetch. -/
theorem fetches_refresh (plain : origin.IsPlain) (world : Cached σ) :
    (refresh origin world).journal.fetches = [(origin.fetch world.2).value] := by
  simp only [refresh, Run.journal_bind, Run.onRight, Journal.fetches_append, fetches_fetch plain,
    value_fetch]
  cases (origin.fetch world.2).value <;> rfl

/-- A success is kept, under the moment that the clock shows then. -/
theorem entry_refresh_of_ok {definition : Definition}
    (success : (origin.fetch world.2).value = .ok definition) :
    (refresh origin world).world.1
      = some ⟨definition, (origin.now (fetch origin world.2).world).1⟩ := by
  simp only [refresh, Run.world_bind, Run.onRight, value_fetch, success]
  rfl

/-- A failure leaves the entry as it is. -/
theorem entry_refresh_of_error {reason : FetchError}
    (failure : (origin.fetch world.2).value = .error reason) :
    (refresh origin world).world.1 = world.1 := by
  simp only [refresh, Run.world_bind, Run.onRight, value_fetch, failure]
  rfl

/-! ### Getting the definition -/

/-- **Neither look finds a definition that may be served**, so that it has to be fetched. -/
def Lacks (period : Span) (origin : Origin σ) (world : Cached σ) : Prop :=
  (look period origin world).value = none
    ∧ (look period origin (look period origin world).world).value = none

theorem definition_of_look {found : Definition}
    (seen : (look period origin world).value = some found) :
    definition period origin world = ⟨.ok found, [], (look period origin world).world⟩ := by
  -- The look stands in its own equation too; naming the world after it keeps it from being rewritten.
  have first := look_eq seen
  generalize (look period origin world).world = after at first ⊢
  simp only [definition, bind, first]
  rfl

theorem definition_of_lookAgain {after : Cached σ} {found : Definition}
    (first : look period origin world = ⟨none, [], after⟩)
    (seen : (look period origin after).value = some found) :
    definition period origin world = ⟨.ok found, [], (look period origin after).world⟩ := by
  have second := look_eq seen
  generalize (look period origin after).world = later at second ⊢
  simp only [definition, bind, first, second]
  rfl

theorem definition_of_lacks {after : Cached σ}
    (first : look period origin world = ⟨none, [], after⟩)
    (seen : (look period origin after).value = none) :
    definition period origin world = refresh origin (look period origin after).world := by
  have second := look_eq seen
  generalize (look period origin after).world = later at second ⊢
  simp only [definition, bind, first, second]
  rfl

/-- **What a call can come to** that gets the definition, in the world `world`, and answers what `view`
makes of it. -/
inductive Course (period : Span) (origin : Origin σ) (world : Cached σ) (view : Definition → α)
    (got : Outcome (Cached σ) (Except FetchError α)) : Prop where
  /-- The kept definition is served. -/
  | served {kept : Entry} (found : ¬ Lacks period origin world) (stands : world.1 = some kept)
      (silent : got.journal.fetches = []) (answer : got.value = .ok (view kept.definition))
      (same : got.world.1 = world.1)
  /-- A new one is fetched, served and kept. -/
  | renewed {outside : σ} {definition : Definition} {moment : Instant}
      (lacks : Lacks period origin world) (success : (origin.fetch outside).value = .ok definition)
      (once : got.journal.fetches = [.ok definition]) (answer : got.value = .ok (view definition))
      (stored : got.world.1 = some ⟨definition, moment⟩)
  /-- The fetch fails; its error is the answer, and the entry stays. -/
  | failed {outside : σ} {reason : FetchError}
      (lacks : Lacks period origin world) (failure : (origin.fetch outside).value = .error reason)
      (once : got.journal.fetches = [.error reason]) (answer : got.value = .error reason)
      (same : got.world.1 = world.1)

/-- A refresh is such a course, where there is nothing to serve. -/
theorem course_refresh (plain : origin.IsPlain) (lacks : Lacks period origin world)
    {later : Cached σ} (same : later.1 = world.1) :
    Course period origin world id (refresh origin later) := by
  have value := value_refresh origin later
  have once := fetches_refresh plain later
  cases came : (origin.fetch later.2).value with
  | ok definition =>
    rw [came] at value once
    exact .renewed lacks came once value (entry_refresh_of_ok came)
  | error reason =>
    rw [came] at value once
    exact .failed lacks came once value ((entry_refresh_of_error came).trans same)

/-- **There is no other course.** -/
theorem course_definition (plain : origin.IsPlain) (world : Cached σ) :
    Course period origin world id (definition period origin world) := by
  cases seen : (look period origin world).value with
  | some found =>
    obtain ⟨kept, stands, rfl⟩ := exists_of_look seen
    rw [definition_of_look seen]
    refine .served ?_ stands rfl rfl (entry_look ..)
    intro lacks
    exact absurd (seen.symm.trans lacks.1) nofun
  | none =>
    have first := look_eq seen
    have same := entry_look period origin world
    cases again : (look period origin (look period origin world).world).value with
    | some found =>
      obtain ⟨kept, stands, rfl⟩ := exists_of_look again
      rw [definition_of_lookAgain first again]
      refine .served ?_ (same.symm.trans stands) rfl rfl ((entry_look ..).trans same)
      intro lacks
      exact absurd (again.symm.trans lacks.2) nofun
    | none =>
      rw [definition_of_lacks first again]
      exact course_refresh plain ⟨seen, again⟩ ((entry_look ..).trans same)

/-! ### Calls -/

/-- **A call that gets the definition and makes its answer of it.** -/
structure Reads (period : Span) (origin : Origin σ) (view : Definition → α)
    (call : Run (Cached σ) (Except FetchError α)) : Prop where
  value : ∀ world, (call world).value = (definition period origin world).value.map view
  fetches : ∀ world,
    (call world).journal.fetches = (definition period origin world).journal.fetches
  world : ∀ world, (call world).world = (definition period origin world).world

theorem reads_warm (period : Span) (origin : Origin σ) :
    Reads period origin (fun _ => ()) (warm period origin) := by
  refine ⟨?_, ?_, ?_⟩
  · intro world
    simp only [warm, Run.value_bind]
    cases (definition period origin world).value <;> rfl
  · intro world
    simp only [warm, Run.journal_bind, Journal.fetches_append]
    cases (definition period origin world).value <;> exact List.append_nil _
  · intro world
    simp only [warm, Run.world_bind]
    cases (definition period origin world).value <;> rfl

theorem reads_answer (period : Span) (origin : Origin σ) (question : Question) :
    Reads period origin (fun definition => definition.answer question)
      (answer period origin question) := by
  refine ⟨?_, ?_, ?_⟩
  · intro world
    simp only [answer, Run.value_bind]
    cases (definition period origin world).value with
    | error reason => rfl
    | ok found => cases question <;> rfl
  · intro world
    simp only [answer, Run.journal_bind, Journal.fetches_append]
    cases (definition period origin world).value with
    | error reason => exact List.append_nil _
    | ok found => cases question <;> exact List.append_nil _
  · intro world
    simp only [answer, Run.world_bind]
    cases (definition period origin world).value with
    | error reason => rfl
    | ok found => cases question <;> rfl

/-- **A call goes the way of getting the definition.** -/
theorem Reads.course {view : Definition → α} {call : Run (Cached σ) (Except FetchError α)}
    (reads : Reads period origin view call) (plain : origin.IsPlain) (world : Cached σ) :
    Course period origin world view (call world) := by
  have value := reads.value world
  have fetches := reads.fetches world
  have after := congrArg Prod.fst (reads.world world)
  cases (course_definition plain world : Course period origin world id _) with
  | served found stands silent answer same =>
    exact .served found stands (fetches.trans silent) (value.trans (by rw [answer]; rfl))
      (after.trans same)
  | renewed lacks success once answer stored =>
    exact .renewed lacks success (fetches.trans once) (value.trans (by rw [answer]; rfl))
      (after.trans stored)
  | failed lacks failure once answer same =>
    exact .failed lacks failure (fetches.trans once) (value.trans (by rw [answer]; rfl))
      (after.trans same)

end Cache

end OrderHerald
