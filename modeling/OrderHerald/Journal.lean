import OrderHerald.Batch.Response
import OrderHerald.Delivery.Report
import OrderHerald.Http.Message
import OrderHerald.Metrics.Catalog
import OrderHerald.Metrics.Totals
import OrderHerald.Order.Basic
import OrderHerald.Staleness.Report

/-!
# What the service does

Everything the service does beyond giving an answer is an event, and the events of a run are its
journal.

* `Question` — what is asked of those who know the webhooks.
* `Note` — what is written into the log.
* `Event`, `Journal` — what happened, in its order.
* `Event.IsForeign` — what is written by those whom the service asks.
* `Journal.samples`, `Journal.requests`, `Journal.notes`, `Journal.questions`, `Journal.attempts` —
  the events of one kind.
* `Journal.turns` — the journal cut where a question is asked.
-/

namespace OrderHerald

/-- What is asked of those who know the webhooks. -/
inductive Question where
  /-- Which webhooks take an order? -/
  | order (filter : Filter)
  /-- Which webhooks has a filler? -/
  | filler (name : String)
  deriving DecidableEq, Repr

/-- What is written into the log. -/
inductive Note where
  /-- A record failed and is reported under a name. -/
  | recordFailed (identifier : String) (error : RecordError)
  /-- The webhooks of an order were notified. -/
  | notified (orderHash : String) (status : OrderStatus) (report : DeliveryReport)
  | deliveryFailed (url : String) (error : DeliveryError)
  | stale (chainId : UInt64) (orderType : OrderType) (orderHash : String)
  | blockUnknown (chainId : UInt64) (error : BlockError)
  /-- The filler of an order was notified. -/
  | fillerNotified (orderHash filler : String) (report : DeliveryReport)
  /-- The webhooks of a filler could not be looked up. -/
  | fillerFailed (orderHash filler : String) (error : FetchError)
  /-- The first fetch of the routing definition failed. -/
  | notReady (error : FetchError)
  deriving DecidableEq, Repr

/-- One thing that happened. -/
inductive Event where
  | asked (question : Question)
  | answered (answer : Except FetchError (List Endpoint))
  /-- The routing definition was fetched, or could not be. -/
  | fetched (outcome : Except FetchError Definition)
  /-- A delivery to a webhook began. -/
  | attempted (endpoint : Endpoint) (payload : Payload)
  /-- A request left. -/
  | requested (request : Request)
  /-- A request left by which the client follows a redirect. -/
  | followed (request : Request)
  | measured (sample : Sample)
  | noted (note : Note)

/-- What happened, in its order. -/
abbrev Journal := List Event

namespace Event

/-- The measurement an event is. -/
def sample? : Event → Option Sample
  | measured sample => some sample
  | _ => none

/-- The request an event is. -/
def request? : Event → Option Request
  | requested request => some request
  | followed request => some request
  | _ => none

/-- The note an event is. -/
def note? : Event → Option Note
  | noted note => some note
  | _ => none

/-- The question an event is. -/
def question? : Event → Option Question
  | asked question => some question
  | _ => none

/-- The answer to a question an event is. -/
def answer? : Event → Option (Except FetchError (List Endpoint))
  | answered answer => some answer
  | _ => none

/-- The delivery an event begins. -/
def attempt? : Event → Option (Endpoint × Payload)
  | attempted endpoint payload => some (endpoint, payload)
  | _ => none

/-- The outcome of a fetch an event is. -/
def fetch? : Event → Option (Except FetchError Definition)
  | fetched outcome => some outcome
  | _ => none

/-- **What those may write whom the service asks**: requests, fetches and measurements, but none of
the measurements of notifying. -/
def IsForeign : Event → Prop
  | fetched _ => True
  | requested _ => True
  | followed _ => True
  | measured sample => sample.metric ∉ Metric.notification
  | _ => False

end Event

namespace Journal

/-- The measurements of a journal. -/
def samples (journal : Journal) : List Sample := journal.filterMap Event.sample?

/-- The requests of a journal. -/
def requests (journal : Journal) : List Request := journal.filterMap Event.request?

/-- The notes of a journal. -/
def notes (journal : Journal) : List Note := journal.filterMap Event.note?

/-- The questions of a journal. -/
def questions (journal : Journal) : List Question := journal.filterMap Event.question?

/-- The deliveries of a journal. -/
def attempts (journal : Journal) : List (Endpoint × Payload) := journal.filterMap Event.attempt?

/-- The fetches of a journal. -/
def fetches (journal : Journal) : List (Except FetchError Definition) :=
  journal.filterMap Event.fetch?

/-- **The journal cut at its questions**: what happened before the first one, and each question with
what happened until the next. -/
def turns : Journal → Journal × List (Question × Journal)
  | [] => ([], [])
  | .asked question :: rest => ([], (question, (turns rest).1) :: (turns rest).2)
  | event :: rest => (event :: (turns rest).1, (turns rest).2)

end Journal

end OrderHerald
