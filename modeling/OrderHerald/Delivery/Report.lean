/-!
# What became of deliveries

One notification goes to many webhooks at once.  Each delivery is a task with a number; the tasks
settle in any order, and a task that settles is known by its number.

* `DeliveryError` — why a delivery failed.
* `Task`, `Settlement` — a delivery under way, and what became of it.
* `Fanout` — the tasks that are still under way and the report so far; `Fanout.settle`.
* `DeliveryReport.ofSettled` — the report when all tasks have settled.

## Main statements

* `DeliveryReport.attempted_ofSettled` — the report counts the tasks, however they settle.
-/

namespace OrderHerald

/-- Why a delivery failed. -/
inductive DeliveryError where
  /-- There was no answer. -/
  | request
  /-- The answer was no consent. -/
  | status (code : Nat)
  deriving DecidableEq, Repr

/-- The text of an error. -/
def DeliveryError.message : DeliveryError → String
  | .request => "request failed"
  | .status code => "unexpected status " ++ toString code

/-- A delivery under way. -/
structure Task where
  number : Nat
  /-- Where the notification is sent. -/
  url : String
  deriving DecidableEq, Repr

/-- What became of a task. -/
structure Settlement where
  number : Nat
  /-- Why the delivery failed, if it did. -/
  error : Option DeliveryError
  deriving DecidableEq, Repr

/-- What became of the deliveries of one notification. -/
structure DeliveryReport where
  attempted : Nat := 0
  succeeded : Nat := 0
  /-- The urls of the webhooks that did not take it, in the order in which that was found out. -/
  failedUrls : List String := []
  deriving DecidableEq, Repr, Inhabited

/-- One more delivery has settled: `error` says why it failed, if it did. -/
def DeliveryReport.add (report : DeliveryReport) (url : String) :
    Option DeliveryError → DeliveryReport
  | none => { report with succeeded := report.succeeded + 1 }
  | some _ => { report with failedUrls := report.failedUrls ++ [url] }

/-- The tasks that are under way and what became of the others. -/
structure Fanout where
  pending : List Task
  report : DeliveryReport
  deriving DecidableEq, Repr

namespace Fanout

/-- All tasks are under way. -/
def start (tasks : List Task) : Fanout := ⟨tasks, { attempted := tasks.length }⟩

/-- The url of the task with a number. -/
def url (fanout : Fanout) (number : Nat) : String :=
  match fanout.pending.find? fun task => task.number = number with
  | some task => task.url
  | none => ""

/-- **A task settles** and is no longer under way. -/
def settle (fanout : Fanout) (settlement : Settlement) : Fanout where
  pending := fanout.pending.filter fun task => task.number ≠ settlement.number
  report := fanout.report.add (fanout.url settlement.number) settlement.error

end Fanout

/-- **What became of the deliveries**, in the order in which they settled. -/
def DeliveryReport.ofSettled (tasks : List Task) (settlements : List Settlement) : DeliveryReport :=
  (settlements.foldl Fanout.settle (Fanout.start tasks)).report

theorem DeliveryReport.attempted_ofSettled (tasks : List Task) (settlements : List Settlement) :
    (ofSettled tasks settlements).attempted = tasks.length := by
  suffices ∀ fanout : Fanout,
      (settlements.foldl Fanout.settle fanout).report.attempted = fanout.report.attempted from
    this (Fanout.start tasks)
  induction settlements with
  | nil => exact fun _ => rfl
  | cons settlement rest ih =>
    intro fanout
    rw [List.foldl_cons, ih]
    cases h : settlement.error <;> simp [Fanout.settle, DeliveryReport.add, h]

end OrderHerald
