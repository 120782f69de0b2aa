import OrderHerald.Proofs.Batch.Turns
import OrderHerald.Proofs.Document.Record

/-!
# The name under which a record is reported

A change record bears a name: the sequence number of its change, or else the identifier of its event.
The name under which a failed record is reported is not taken from what was read, since a document that
is no record shall have one too.  It is looked up in the document, by the names of the members.

**Two ways to write a record, and one to look at it.**  A record may be written with its fields by name
or as the plain list of its fields, and so may the change in it; both are read.  In a list nothing stands
under a name.  So a record may be read, bear a name, and be reported without one, or under the lesser of
its two.  `ChangeRecord.ShowsName` says for which records this cannot happen.

* `ChangeRecord.identifier` — the name that a record bears.
* `ChangeRecord.ShowsName` — whoever looks for names sees it.

## Main statements

* `ChangeRecord.itemIdentifier_eq` — what the look-up finds in a document that is read.
* `ChangeRecord.reported_identifier` — for which records that is the name they bear.
* `listed_record_reported_nameless` — a record with a name that is reported without one.
-/

namespace OrderHerald

/-- The fields of a record are listed, without their names. -/
def Json.isListed : Json → Bool
  | .array _ => true
  | _ => false

/-- **A field that may be missing** is missing or null, or else it is read. -/
theorem Record.optional?_cases {α : Type} {record : Record Json} {name : String}
    {document : Option Json} {read? : Json → Option α} {value : Option α}
    (held : record.slot name = Slot.ofOption document)
    (read : record.optional? name read? = some value) :
    (value = none ∧ (document = none ∨ document = some .null)) ∨
      ∃ written a, document = some written ∧ read? written = some a ∧ value = some a := by
  have offers := (optional?_of_ofGiven? (Slot.ofGiven?_toList document) held).mp read
  cases document with
  | none =>
    cases offers
    exact .inl ⟨rfl, .inl rfl⟩
  | some written =>
    cases offers with
    | null => exact .inl ⟨rfl, .inr rfl⟩
    | given _ here => exact .inr ⟨written, _, rfl, here, rfl⟩

/-- A text that may be missing is the text that stands under its name. -/
theorem Record.eq_of_optional_string {record : Record Json} {name : String}
    {document : Option Json} {text : Option String}
    (held : record.slot name = Slot.ofOption document)
    (read : record.optional? name Json.string? = some text) :
    text = document.bind Json.string? := by
  rcases optional?_cases held read with ⟨rfl, rfl | rfl⟩ | ⟨written, a, rfl, eq, rfl⟩
  · rfl
  · rfl
  · exact eq.symm

/-- A change by name has the sequence number that stands under its name. -/
theorem Change.sequenceNumber_eq {members : Json.Members} {change : Change}
    (read : ofJson? (.object members) = some change) :
    change.sequenceNumber = (members.lookup "SequenceNumber").bind Json.string? := by
  obtain ⟨slots, written, read⟩ := Option.bind_eq_some_iff.mp read
  obtain ⟨newImage, -, read⟩ := Option.bind_eq_some_iff.mp read
  obtain ⟨writtenAt, -, read⟩ := Option.bind_eq_some_iff.mp read
  obtain ⟨sequenceNumber, number, read⟩ := Option.bind_eq_some_iff.mp read
  obtain rfl : (⟨newImage, writtenAt, sequenceNumber⟩ : Change) = change := Option.some.inj read
  exact Record.eq_of_optional_string (Record.slot_of?_object written (by decide) (by decide)) number

namespace ChangeRecord

variable {document : Json} {record : ChangeRecord}

/-- The sequence number of a record's change, if it has one. -/
def sequenceNumber? (record : ChangeRecord) : Option String :=
  record.change.bind Change.sequenceNumber

/-- **The name that a record bears**: the sequence number of its change, or else the identifier of its
event. -/
def identifier (record : ChangeRecord) : Option String :=
  record.sequenceNumber?.or record.eventId

/-- The parts of a record by name that bear names: the identifier of the event is what stands under its
name, and so is the change, unless it is missing or null. -/
theorem parts_of_object {members : Json.Members} (read : ofJson? (.object members) = some record) :
    record.eventId = (members.lookup "eventID").bind Json.string? ∧
      ((record.change = none ∧
          (members.lookup "dynamodb" = none ∨ members.lookup "dynamodb" = some .null)) ∨
        ∃ written change, members.lookup "dynamodb" = some written ∧
          Change.ofJson? written = some change ∧ record.change = some change) := by
  obtain ⟨slots, written, read⟩ := Option.bind_eq_some_iff.mp read
  obtain ⟨eventId, identifier, read⟩ := Option.bind_eq_some_iff.mp read
  obtain ⟨kind, -, read⟩ := Option.bind_eq_some_iff.mp read
  obtain ⟨change, changed, read⟩ := Option.bind_eq_some_iff.mp read
  obtain rfl : (⟨eventId, kind, change⟩ : ChangeRecord) = record := Option.some.inj read
  have held : ∀ name ∈ fields.map Field.name,
      slots.slot name = Slot.ofOption (members.lookup name) := fun name mem =>
    Record.slot_of?_object written (by decide) mem
  exact ⟨Record.eq_of_optional_string (held "eventID" (by decide)) identifier,
    Record.optional?_cases (held "dynamodb" (by decide)) changed⟩

/-- The look-up prefers the sequence number to the identifier of the event. -/
theorem itemIdentifier_object (members : Json.Members) :
    itemIdentifier (.object members)
      = (((members.lookup "dynamodb").bind (Json.member? "SequenceNumber")).bind Json.string?).or
          ((members.lookup "eventID").bind Json.string?) := by
  unfold itemIdentifier
  show _ = ((((Json.object members).member? "dynamodb").bind (Json.member? "SequenceNumber")).bind
    Json.string?).or (((Json.object members).member? "eventID").bind Json.string?)
  cases (((Json.object members).member? "dynamodb").bind (Json.member? "SequenceNumber")).bind
    Json.string? <;> rfl

/-- **What the look-up finds** in a document that is read: nothing in a list; the identifier of the event
beside a change that is a list; and otherwise the name that the record bears. -/
theorem itemIdentifier_eq (read : ofJson? document = some record) :
    itemIdentifier document
      = if document.isListed then none
        else if (document.member? "dynamodb").any Json.isListed then record.eventId
        else record.identifier := by
  cases document with
  | object members =>
    obtain ⟨eventId, changed⟩ := parts_of_object read
    show itemIdentifier (.object members)
      = if (members.lookup "dynamodb").any Json.isListed then record.eventId else record.identifier
    rw [itemIdentifier_object, ← eventId, identifier, sequenceNumber?]
    rcases changed with ⟨absent, missing | null⟩ | ⟨written, change, present, changeRead, same⟩
    · rw [absent, missing]
      rfl
    · rw [absent, null]
      rfl
    · rw [present, same]
      cases written with
      | object inner =>
        show ((inner.lookup "SequenceNumber").bind Json.string?).or record.eventId
          = change.sequenceNumber.or record.eventId
        rw [Change.sequenceNumber_eq changeRead]
      | array items => rfl
      | _ => cases changeRead
  | array items => rfl
  | _ => cases read

/-- **Whoever looks for names sees the name** of the record. -/
inductive ShowsName (record : ChangeRecord) (document : Json) : Prop where
  /-- There is none to see. -/
  | nameless (h : record.identifier = none)
  /-- All fields stand under their names. -/
  | named (byName : document.isListed = false)
      (changeByName : (document.member? "dynamodb").any Json.isListed = false)
  /-- The change may be a list, since the name is the identifier of the event. -/
  | event (byName : document.isListed = false) (h : record.identifier = record.eventId)

/-- **The look-up finds the name that a record bears** exactly if the document shows it. -/
theorem itemIdentifier_eq_iff (read : ofJson? document = some record) :
    itemIdentifier document = record.identifier ↔ record.ShowsName document := by
  rw [itemIdentifier_eq read]
  constructor
  · intro found
    split at found
    · exact .nameless found.symm
    · rename_i byName
      split at found
      · exact .event (Bool.not_eq_true _ ▸ byName) found.symm
      · rename_i changeByName
        exact .named (Bool.not_eq_true _ ▸ byName) (Bool.not_eq_true _ ▸ changeByName)
  · rintro (nameless | ⟨byName, changeByName⟩ | ⟨byName, event⟩)
    · -- Without a name the record has no identifier of its event either.
      have noEvent : record.eventId = none := (Option.or_eq_none_iff.mp nameless).2
      rw [nameless, noEvent, ite_self, ite_self]
    · rw [byName, changeByName]
      rfl
    · rw [byName, event, ite_self]
      rfl

/-- **A record that fails is reported under the name that was looked up**, wherever in a batch it stands,
and under no name if nothing was found. -/
theorem reported_at_turn [DomainNames] {π ω : Type} (notifier : Notifier π ω)
    (earlier later : List Json) (world : π × ω) {reason : RecordError}
    (failed : (handleRecord notifier document
      (handleRecords notifier earlier world).world).value = .error reason) :
    let outcome := handleRecords notifier (earlier ++ document :: later) world
    (∃ names, outcome.value
        = (handleRecords notifier earlier world).value ++ reportName document :: names) ∧
      .noted (.recordFailed (reportName document) reason) ∈ outcome.journal := by
  intro outcome
  let before := handleRecords notifier earlier world
  let after := handleRecords notifier later (handleRecord notifier document before.world).world
  have parted : outcome = ⟨before.value ++ (reportName document :: after.value),
      before.journal ++ ((handleRecord notifier document before.world).journal
        ++ (failureReport document (.error reason) ++ after.journal)), after.world⟩ := by
    show handleRecords notifier (earlier ++ document :: later) world = _
    rw [handleRecords_append, handleRecords_cons, failed]
    rfl
  rw [parted]
  refine ⟨⟨after.value, rfl⟩, ?_⟩
  simp [failureReport]

/-- **Whose name a failed record is reported under.**  Of a document that is read as a record, the name
that is looked up is the one that the record bears exactly if the document shows it: if the record bears
none; if its fields and those of its change stand under their names; or if only its own do, and its name
is the identifier of its event.  Such a record, when it fails in its turn, is reported and noted under its
own name, whatever the batch and the provider. -/
theorem reported_identifier [DomainNames] (read : ofJson? document = some record) :
    (itemIdentifier document = record.identifier ↔ record.ShowsName document) ∧
      (record.ShowsName document → ∀ {π ω : Type} (notifier : Notifier π ω)
        (earlier later : List Json) (world : π × ω) (reason : RecordError),
        (handleRecord notifier document
            (handleRecords notifier earlier world).world).value = .error reason →
          let outcome := handleRecords notifier (earlier ++ document :: later) world
          (∃ names, outcome.value = (handleRecords notifier earlier world).value
            ++ record.identifier.getD "" :: names) ∧
          .noted (.recordFailed (record.identifier.getD "") reason) ∈ outcome.journal) := by
  refine ⟨itemIdentifier_eq_iff read, ?_⟩
  intro shown π ω notifier earlier later world reason failed
  have own : reportName document = record.identifier.getD "" := by
    rw [reportName, (itemIdentifier_eq_iff read).mpr shown]
  rw [← own]
  exact reported_at_turn notifier earlier later world failed

/-- A record by name without an image, which bears two names and is reported under the greater. -/
theorem reported_identifier_byName :
    let document : Json := .object [("eventID", .string "ev-1"),
      ("dynamodb", .object [("SequenceNumber", .string "100")])]
    let record : ChangeRecord := ⟨some "ev-1", none, some ⟨none, none, some "100"⟩⟩
    ofJson? document = some record ∧ record.ShowsName document ∧
      itemIdentifier document = some "100" := by
  intro document record
  have read : ofJson? document = some record := by rfl
  have shown : record.ShowsName document := .named rfl rfl
  exact ⟨read, shown, (reported_identifier read).1.mpr shown⟩

/-- **Records that bear a name and are reported without one, or under another.**  A record that is written
as the list of its fields is read, and has no image; it is reported without its sequence number.  Where
only the change is a list, the record is reported under the identifier of its event. -/
theorem listed_record_reported_nameless :
    let change : Json := .array [.null, .null, .string "100"]
    let listed : Json := .array [.string "ev-1", .string "INSERT", change]
    let mixed : Json := .object [("eventID", .string "ev-1"), ("dynamodb", change)]
    let event : Json := .object [("Records", .array [listed, mixed])]
    ofJson? listed = some ⟨some "ev-1", some .insert, some ⟨none, none, some "100"⟩⟩ ∧
      ofJson? mixed = some ⟨some "ev-1", none, some ⟨none, none, some "100"⟩⟩ ∧
      itemIdentifier listed ≠ some "100" ∧ itemIdentifier mixed ≠ some "100" ∧
      ∀ {π ω : Type} (notifier : Notifier π ω) (world : π × ω),
        (handleBatch notifier event world).value = .ok ⟨["", "ev-1"]⟩ := by
  refine ⟨rfl, rfl, ?_, ?_, fun notifier world => rfl⟩
  · decide
  · decide

end ChangeRecord

end OrderHerald
