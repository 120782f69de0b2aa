import OrderHerald.Journal

/-!
# Runs

A run starts in a state of the world, gives a value, writes a journal and leaves the world in
another state.  Runs are put together one after the other; their journals are too.

The world is a parameter.  What a run can find out about it, and how it changes, is said where the
run is started; so a statement about a run holds in every world.

* `Outcome`, `Run` — what a run comes to, and runs.
* `Run.record`, `Run.of` — the runs that write one event, and that only look at the world.
* `Run.forEach` — a run for every item of a list.
* `Run.onLeft`, `Run.onRight` — a run in one of two worlds side by side.
* `Run.Writes` — every event that a run writes is of a kind.

## Main statements

* Runs form a lawful monad.
* `Run.journal_bind` — the journal of two runs is the one journal after the other.
* `Run.forEach_keeps` — what every step keeps, a run for every item keeps.
-/

namespace OrderHerald

/-- What a run comes to. -/
structure Outcome (σ α : Type) where
  value : α
  journal : Journal
  world : σ

/-- A run. -/
def Run (σ α : Type) := σ → Outcome σ α

namespace Run

variable {σ τ α β : Type}

instance : Monad (Run σ) where
  pure value := fun world => ⟨value, [], world⟩
  bind first next := fun world =>
    let before := first world
    let after := next before.value before.world
    ⟨after.value, before.journal ++ after.journal, after.world⟩

@[simp] theorem value_pure (value : α) (world : σ) :
    ((pure value : Run σ α) world).value = value := rfl

@[simp] theorem journal_pure (value : α) (world : σ) :
    ((pure value : Run σ α) world).journal = [] := rfl

@[simp] theorem world_pure (value : α) (world : σ) :
    ((pure value : Run σ α) world).world = world := rfl

theorem value_bind (first : Run σ α) (next : α → Run σ β) (world : σ) :
    ((first >>= next) world).value = (next (first world).value (first world).world).value := rfl

/-- **Journals are put one after the other.** -/
theorem journal_bind (first : Run σ α) (next : α → Run σ β) (world : σ) :
    ((first >>= next) world).journal
      = (first world).journal ++ (next (first world).value (first world).world).journal := rfl

theorem world_bind (first : Run σ α) (next : α → Run σ β) (world : σ) :
    ((first >>= next) world).world = (next (first world).value (first world).world).world := rfl

instance : LawfulMonad (Run σ) := LawfulMonad.mk' (Run σ)
  (by
    intro α run
    funext world
    change (⟨(run world).value, (run world).journal ++ [], (run world).world⟩ : Outcome σ α) = _
    rw [List.append_nil])
  (by
    intro α β value next
    rfl)
  (by
    intro α β γ first second third
    funext world
    simp [bind, List.append_assoc])

/-- Writes one event. -/
def record (event : Event) : Run σ Unit := fun world => ⟨(), [event], world⟩

/-- Looks at the world, which may change by that, and writes nothing. -/
def of (look : σ → α × σ) : Run σ α := fun world => ⟨(look world).1, [], (look world).2⟩

/-- Writes that a counter grows. -/
def count (metric : Metric) (labels : List Label) (amount : Nat) : Run σ Unit :=
  record (.measured ⟨metric, labels, .increment amount⟩)

/-- Writes that a histogram takes a value. -/
def measure (metric : Metric) (labels : List Label) (reading : Reading) : Run σ Unit :=
  record (.measured ⟨metric, labels, reading⟩)

/-- Writes into the log. -/
def note (note : Note) : Run σ Unit := record (.noted note)

/-- **A run for every item of a list**, one after the other. -/
def forEach (items : List α) (step : α → Run σ β) : Run σ (List β) :=
  match items with
  | [] => pure []
  | item :: rest => do
    let value ← step item
    let values ← forEach rest step
    pure (value :: values)

/-- A run in the left one of two worlds. -/
def onLeft (run : Run σ α) : Run (σ × τ) α := fun world =>
  let outcome := run world.1
  ⟨outcome.value, outcome.journal, (outcome.world, world.2)⟩

/-- A run in the right one of two worlds. -/
def onRight (run : Run τ α) : Run (σ × τ) α := fun world =>
  let outcome := run world.2
  ⟨outcome.value, outcome.journal, (world.1, outcome.world)⟩

/-- **What every step keeps, a run for every item keeps**, said of the world and of the journal up to
it. -/
theorem forEach_keeps {fact : σ → Journal → Prop} {items : List α} {step : α → Run σ β}
    (keeps : ∀ item ∈ items, ∀ world journal, fact world journal →
      fact (step item world).world (journal ++ (step item world).journal))
    {world : σ} {journal : Journal} (h : fact world journal) :
    fact (forEach items step world).world (journal ++ (forEach items step world).journal) := by
  induction items generalizing world journal with
  | nil =>
    change fact world (journal ++ [])
    rw [List.append_nil]
    exact h
  | cons item rest ih =>
    let next := step item world
    have later := ih (fun other mem => keeps other (List.mem_cons_of_mem item mem))
      (keeps item List.mem_cons_self world journal h)
    change fact (forEach rest step next.world).world
      (journal ++ (next.journal ++ ((forEach rest step next.world).journal ++ [])))
    rw [List.append_nil, ← List.append_assoc]
    exact later

/-! ### What a run writes -/

/-- **Every event that the run writes is of a kind**, in whatever world it starts. -/
def Writes (kind : Event → Prop) (run : Run σ α) : Prop :=
  ∀ world, ∀ event ∈ (run world).journal, kind event

variable {kind wider : Event → Prop}

theorem Writes.mono {run : Run σ α} (h : run.Writes kind) (le : ∀ event, kind event → wider event) :
    run.Writes wider :=
  fun world event mem => le event (h world event mem)

theorem writes_pure (value : α) : (pure value : Run σ α).Writes kind :=
  fun _ _ mem => nomatch mem

theorem writes_of (look : σ → α × σ) : (of look).Writes kind :=
  fun _ _ mem => nomatch mem

theorem writes_record {event : Event} (h : kind event) : (record event : Run σ Unit).Writes kind := by
  intro world other mem
  obtain rfl : other = event := by simpa [record] using mem
  exact h

/-- **What two runs write, each of them writes.** -/
theorem Writes.bind {first : Run σ α} {next : α → Run σ β} (h : first.Writes kind)
    (hnext : ∀ value, (next value).Writes kind) : (first >>= next).Writes kind := by
  intro world event mem
  rw [journal_bind, List.mem_append] at mem
  rcases mem with mem | mem
  · exact h world event mem
  · exact hnext _ _ event mem

theorem Writes.onRight {run : Run τ α} (h : run.Writes kind) :
    (run.onRight : Run (σ × τ) α).Writes kind :=
  fun world => h world.2

theorem writes_forEach {items : List α} {step : α → Run σ β}
    (h : ∀ item ∈ items, (step item).Writes kind) : (forEach items step).Writes kind := by
  induction items with
  | nil => exact writes_pure []
  | cons item rest ih =>
    refine (h item List.mem_cons_self).bind fun value => ?_
    exact (ih fun other mem => h other (List.mem_cons_of_mem item mem)).bind fun values =>
      writes_pure (value :: values)

end Run

end OrderHerald
