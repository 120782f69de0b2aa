import OrderHerald.Json.Writer
import OrderHerald.Store.Source
import OrderHerald.Stream.Access

/-!
# What the stream is told about a batch

A batch is answered with the names of the records that failed.  The stream delivers them again.

* `RecordError` — why a record failed; it concerns that record only.
* `BatchError` — why a whole batch is refused.
* `BatchResponse` — the names of the records that failed; `BatchResponse.text` is what is sent.
-/

namespace OrderHerald

/-- Why a record failed. -/
inductive RecordError where
  /-- It is no change record. -/
  | malformed
  | missingImage
  /-- The image holds no order. -/
  | image (reason : ImageError)
  /-- The webhooks of the order could not be looked up. -/
  | endpoints (reason : FetchError)
  deriving DecidableEq, Repr

/-- The text of an error. -/
def RecordError.message : RecordError → String
  | .malformed => "malformed stream record"
  | .missingImage => "stream record has no new image"
  | .image reason => reason.message
  | .endpoints reason => "failed to resolve webhook endpoints: " ++ reason.message

/-- Why a whole batch is refused. -/
inductive BatchError where
  /-- The event has no list of records. -/
  | noRecords
  deriving DecidableEq, Repr

/-- What is wrong with the event. -/
def BatchError.reason : BatchError → String
  | .noRecords => "event must have a Records array"

/-- The text of an error. -/
def BatchError.message (error : BatchError) : String := "invalid event: " ++ error.reason

/-- The names of the records that failed, in the order of the batch. -/
structure BatchResponse where
  failures : List String := []
  deriving DecidableEq, Repr, Inhabited

namespace BatchResponse

/-- The document that is sent. -/
def toJson (response : BatchResponse) : Json :=
  .object [("batchItemFailures",
    .array (response.failures.map fun name => .object [("itemIdentifier", .string name)]))]

/-- The text that is sent. -/
def text (response : BatchResponse) : String := response.toJson.text

end BatchResponse

end OrderHerald
