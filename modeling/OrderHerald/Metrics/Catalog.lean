import OrderHerald.Metrics.Basic

/-!
# The metrics of the service

* `Metric.routing` — the metrics of the routing definition.
* `Metric.notification` — the metrics of notifying.
-/

namespace OrderHerald

namespace Metric

/-! ### The routing definition -/

/-- Routing definitions that were fetched. -/
def definitionFetch : Metric where
  name := "webhook.definition.fetch"
  kind := .counter
  description := "Number of successful webhook definition fetches"

/-- Routing definitions that could not be fetched. -/
def definitionFetchFailure : Metric where
  name := "webhook.definition.fetch.failure"
  kind := .counter
  description := "Number of failed webhook definition fetches"

/-- The time it takes to find the webhooks of an order. -/
def endpointsDuration : Metric where
  name := "webhook.get_endpoints.duration"
  kind := .histogram
  description := "Time to resolve the endpoints for an order in seconds"

/-- The metrics of the routing definition, in the order in which they are announced. -/
def routing : List Metric := [definitionFetch, definitionFetchFailure, endpointsDuration]

/-! ### Notifying -/

/-- Requests to webhooks. -/
def deliveryAttempt : Metric where
  name := "webhook.delivery.attempt"
  kind := .counter
  description := "Webhook POSTs attempted. Tagged with chain_id, order_type."

/-- Requests that a webhook took. -/
def deliverySuccess : Metric where
  name := "webhook.delivery.success"
  kind := .counter
  description := "Webhook POSTs answered with 200-202. Tagged with chain_id, order_type."

/-- Requests that no webhook took. -/
def deliveryFailure : Metric where
  name := "webhook.delivery.failure"
  kind := .counter
  description := "Webhook POSTs that failed or timed out. Tagged with chain_id, order_type."

/-- Change records that are reported as failed. -/
def recordFailure : Metric where
  name := "handler.failure"
  kind := .counter
  description := "Change records reported back to the stream as failed"

/-- The time it takes to notify a filler. -/
def fillerDuration : Metric where
  name := "exclusive_filler.notification.duration"
  kind := .histogram
  description := "Time to notify an exclusive filler in seconds. Tagged with chain_id, order_type."

/-- Requests to webhooks of a filler. -/
def fillerAttempt : Metric where
  name := "exclusive_filler.notification.attempt"
  kind := .counter
  description := "Exclusive filler webhooks attempted. Tagged with chain_id, order_type."

/-- Fillers that could not be notified. -/
def fillerError : Metric where
  name := "exclusive_filler.notification.error"
  kind := .counter
  description := "Exclusive filler notifications abandoned because of an error"

/-- How old changes are when they are looked at. -/
def insertionStaleness : Metric where
  name := "order.staleness.insertion"
  kind := .histogram
  description :=
    "Seconds between the change being written and being processed. Tagged with chain_id, order_type."

/-- How far orders are into their decay, in seconds. -/
def stalenessSeconds : Metric where
  name := "order.staleness.seconds"
  kind := .histogram
  description := "Seconds since a time decaying order started to decay. Tagged with chain_id, order_type."

/-- How far orders are into their decay, in blocks. -/
def stalenessBlocks : Metric where
  name := "order.staleness.blocks"
  kind := .histogram
  description :=
    "Blocks since a block decaying order started its auction. Tagged with chain_id, order_type."

/-- Orders that are stale. -/
def staleOrders : Metric where
  name := "order.stale"
  kind := .counter
  description := "Orders processed after their staleness threshold. Tagged with chain_id, order_type."

/-- The metrics of notifying, in the order in which they are announced. -/
def notification : List Metric :=
  [deliveryAttempt, deliverySuccess, deliveryFailure, recordFailure, fillerDuration, fillerAttempt,
    fillerError, insertionStaleness, stalenessSeconds, stalenessBlocks, staleOrders]

end Metric

end OrderHerald
