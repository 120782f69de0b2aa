import OrderHerald.Notifier

/-!
# Notifying an exclusive filler

The filler of an order that is its alone is notified at once, before the change stream tells of the
order.  Nobody waits for the outcome, so nothing here fails: errors are written down.

* `notifyExclusiveFiller` — notifies the webhooks of the order's filler.
-/

namespace OrderHerald

variable {π ω : Type}

/-- What the webhooks of an exclusive filler are told: the type is the one that was asked for. -/
def Order.exclusivePayload (order : Order) (type : OrderType) : Payload :=
  { order.payload with orderType := some type }

/-- **Notifies the webhooks of the order's filler**, if it has one. -/
def notifyExclusiveFiller [DomainNames] (notifier : Notifier π ω) (order : Order) (type : OrderType) :
    Run (π × ω) Unit := do
  match order.filler with
  | none => pure ()
  | some filler =>
    let labels := orderLabels order.chainId type.name
    match ← notifier.ask (.filler filler) with
    | .error reason => do
      Run.count .fillerError labels 1
      Run.note (.fillerFailed order.orderHash filler reason)
    | .ok [] => pure ()
    | .ok endpoints => do
      let report ← notifier.dispatch endpoints (order.exclusivePayload type)
      Run.measure .fillerDuration labels .elapsed
      Run.count .fillerAttempt labels report.attempted
      Run.note (.fillerNotified order.orderHash filler report)

end OrderHerald
