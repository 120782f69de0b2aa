import OrderHerald.Metrics.Catalog
import OrderHerald.Surroundings

/-!
# Notifying webhooks

Every webhook is sent one request.  The requests run at the same time, each with its own limit of
time, and none is repeated.  No webhook is always the first: the list is shuffled.

* `Endpoint.request?` — the request to a webhook, which depends on that webhook alone.
* `Exchange.deliveryError` — the answers that count as consent.
* `dispatch` — notifies webhooks and reports.
-/

namespace OrderHerald

/-- The labels of what is measured about the deliveries of a payload. -/
def Payload.labels (payload : Payload) : List Label :=
  orderLabels payload.chainId ((payload.orderType.map OrderType.name).getD "unknown")

/-- The header that says what the body is. -/
def jsonContent : String × String := ("content-type", "application/json")

/-- The headers a webhook wants. -/
def Endpoint.headerList (endpoint : Endpoint) : List (String × String) :=
  match endpoint.headers with
  | none => []
  | some headers => headers.entries

variable [DomainNames]

/-- **The request to a webhook**, if it can be made: its own headers stand beside the one that says
what the body is. -/
def Endpoint.request? (endpoint : Endpoint) (payload : Payload) (sentAt : UInt64) :
    Option Request :=
  Request.make? "POST" endpoint.url (jsonContent :: endpoint.headerList)
    (Notification.body ⟨payload, sentAt⟩)

/-- **A webhook consents** by a status from 200 to 202. -/
def Exchange.deliveryError : Exchange → Option DeliveryError
  | .answered response =>
    if 200 ≤ response.status ∧ response.status ≤ 202 then none
    else some (.status response.status)
  | _ => some .request

variable {ω : Type}

/-- Sends one webhook its request, if it can be made. -/
def post (s : Surroundings ω) (limit : Span) (payload : Payload) (endpoint : Endpoint) :
    Run ω (Option DeliveryError) := do
  let sentAt ← Run.of s.stamp
  match endpoint.request? payload sentAt with
  | none => pure (some .request)
  | some request => do
    let exchange ← s.ask request (some limit)
    pure exchange.deliveryError

/-- Notifies one webhook. -/
def deliver (s : Surroundings ω) (limit : Span) (payload : Payload) (endpoint : Endpoint) :
    Run ω (Option DeliveryError) := do
  Run.record (.attempted endpoint payload)
  post s limit payload endpoint

/-- Notifies webhooks; the deliveries are numbered in the order in which they begin. -/
def deliverAll (s : Surroundings ω) (limit : Span) (payload : Payload) (endpoints : List Endpoint) :
    Run ω (List Settlement) :=
  Run.forEach endpoints.zipIdx fun entry => do
    let error ← deliver s limit payload entry.1
    pure ⟨entry.2, error⟩

/-- What is written about a delivery that has settled. -/
def recordSettlement (payload : Payload) (url : String) (error : Option DeliveryError) :
    Run ω Unit := do
  Run.count .deliveryAttempt payload.labels 1
  match error with
  | none => Run.count .deliverySuccess payload.labels 1
  | some error => do
    Run.count .deliveryFailure payload.labels 1
    Run.note (.deliveryFailed url error)

/-- The tasks settle one after the other. -/
def settleAll (payload : Payload) : Fanout → List Settlement → Run ω DeliveryReport
  | fanout, [] => pure fanout.report
  | fanout, settlement :: rest => do
    recordSettlement payload (fanout.url settlement.number) settlement.error
    settleAll payload (fanout.settle settlement) rest

/-- The tasks that notify webhooks, numbered in the order in which they begin. -/
def tasks (endpoints : List Endpoint) : List Task :=
  endpoints.zipIdx.map fun entry => ⟨entry.2, entry.1.url⟩

/-- **Notifies webhooks**, all at the same time, and waits until every delivery has settled. -/
def dispatch (s : Surroundings ω) (limit : Span) (endpoints : List Endpoint) (payload : Payload) :
    Run ω DeliveryReport := do
  let shuffled ← s.arrange endpoints
  let settlements ← deliverAll s limit payload shuffled
  let settled ← s.arrange settlements
  settleAll payload (Fanout.start (tasks shuffled)) settled

omit [DomainNames] in
/-- What is reported is what became of the tasks in the order in which they settled. -/
theorem value_settleAll (payload : Payload) (fanout : Fanout) (settlements : List Settlement)
    (world : ω) :
    (settleAll payload fanout settlements world).value
      = (settlements.foldl Fanout.settle fanout).report := by
  induction settlements generalizing fanout world with
  | nil => rfl
  | cons settlement rest ih => exact ih _ _

end OrderHerald
