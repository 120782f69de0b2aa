import OrderHerald.Stream.Attribute

/-!
# Change records

One record of the change stream says that an item was inserted, modified or removed, and carries
the item as it is now.  Every part of a record is optional.

* `ChangeRecord` — a record; `ChangeRecord.ofJson?` reads it.
* `itemIdentifier` — the name under which a failed record is reported: its sequence number, or else
  the identifier of the event.  It is looked up in the document itself, so that records that cannot
  be read have one too.
-/

namespace OrderHerald

/-- What happened to the item. -/
inductive ChangeKind where
  | insert
  | modify
  | remove
  deriving DecidableEq, Repr, Inhabited

/-- The change that a document's choice names. -/
def ChangeKind.ofJson? (value : Json) : Option ChangeKind :=
  match Json.variant? value with
  | some "INSERT" => some .insert
  | some "MODIFY" => some .modify
  | some "REMOVE" => some .remove
  | _ => none

/-- What a record says about the item. -/
structure Change where
  /-- The item as it is now. -/
  newImage : Option Image
  /-- The epoch second at which the change was written, as the bits of a double. -/
  writtenAt : Option UInt64
  sequenceNumber : Option String
  deriving Repr, Inhabited

/-- A record of the change stream. -/
structure ChangeRecord where
  eventId : Option String
  kind : Option ChangeKind
  change : Option Change
  deriving Repr, Inhabited

namespace Change

/-- The fields of a change. -/
def fields : List Field := ["NewImage", "ApproximateCreationDateTime", "SequenceNumber"]

/-- Reads a change. -/
def ofJson? (value : Json) : Option Change := do
  let record ← Record.of? fields value
  let newImage ← record.optional? "NewImage" Image.ofJson?
  let writtenAt ← record.optional? "ApproximateCreationDateTime" Json.double?
  let sequenceNumber ← record.optional? "SequenceNumber" Json.string?
  some ⟨newImage, writtenAt, sequenceNumber⟩

end Change

namespace ChangeRecord

/-- The fields of a record. -/
def fields : List Field := ["eventID", "eventName", "dynamodb"]

/-- **Reads a change record.** -/
def ofJson? (value : Json) : Option ChangeRecord := do
  let record ← Record.of? fields value
  let eventId ← record.optional? "eventID" Json.string?
  let kind ← record.optional? "eventName" ChangeKind.ofJson?
  let change ← record.optional? "dynamodb" Change.ofJson?
  some ⟨eventId, kind, change⟩

end ChangeRecord

/-- **The name of a record in reports**, looked up by name in the document. -/
def itemIdentifier (record : Json) : Option String :=
  match ((record.member? "dynamodb").bind (Json.member? "SequenceNumber")).bind Json.string? with
  | some number => some number
  | none => (record.member? "eventID").bind Json.string?

end OrderHerald
