import OrderHerald.Delivery.Dispatch
import OrderHerald.Provider
import OrderHerald.Staleness.Observe

/-!
# What notifying needs

* `Notifier` — who knows the webhooks, what lies around, who tells blocks, and the limits.  The
  provider has a world of its own, so that what it answers can depend on the questions alone.
-/

namespace OrderHerald

/-- What notifying needs. -/
structure Notifier (π ω : Type) where
  provider : Provider π
  surroundings : Surroundings ω
  blocks : BlockSource ω := BlockSource.absent
  thresholds : Thresholds := {}
  /-- How long a webhook has to answer. -/
  timeout : Span

namespace Notifier

variable {π ω : Type}

/-- Asks which webhooks there are. -/
def ask (notifier : Notifier π ω) (question : Question) :
    Run (π × ω) (Except FetchError (List Endpoint)) :=
  (notifier.provider.ask question).onLeft

/-- Notifies webhooks. -/
def dispatch [DomainNames] (notifier : Notifier π ω) (endpoints : List Endpoint) (payload : Payload) :
    Run (π × ω) DeliveryReport :=
  (OrderHerald.dispatch notifier.surroundings notifier.timeout endpoints payload).onRight

/-- Measures how stale an order is. -/
def observe (notifier : Notifier π ω) (stored : StoredOrder) (writtenAt : Option UInt64) :
    Run (π × ω) StalenessReport :=
  (OrderHerald.observe notifier.surroundings notifier.blocks notifier.thresholds stored
    writtenAt).onRight

end Notifier

end OrderHerald
