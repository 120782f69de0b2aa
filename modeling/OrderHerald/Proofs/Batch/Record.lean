import OrderHerald.Batch.Handle
import OrderHerald.Proofs.Delivery.Letters
import OrderHerald.Proofs.Staleness.Observe

/-!
# What becomes of one record

A record is about an order or about none.  About none it writes nothing.  About an order it writes
telemetry, then one question, and then what the answer makes of it: each webhook of the answer is
notified once, and all of that has settled when the record is done with.

**The verdict.**  Whether a record fails is decided by the record and by the provider, as it stands
when the record's turn comes.  Nothing that lies around the service has a part in it, nor has the
limit of time or a threshold: `verdict` does not even take them.

* `orderOf?` — the order that a record holds.
* `Fails` — the ways in which a record fails.
* `Notified` — what is done about an order after an answer: the letters that are posted.

## Main statements

* `value_handleRecord`, `fails_iff` — a record fails exactly in the ways of `Fails`.
* `world_handleRecord` — the provider is asked about the record's order and nothing else.
* `journal_handleRecord_of_order` — what is written about an order.
-/

namespace OrderHerald

variable {π ω : Type}

/-- The item as it is now, if the record has it. -/
def ChangeRecord.newImage? (record : ChangeRecord) : Option Image :=
  record.change.bind Change.newImage

/-- **The order that a record holds**: its new image, read as an order.  A removal holds none. -/
def orderOf? (document : Json) : Option StoredOrder := do
  let record ← ChangeRecord.ofJson? document
  if record.kind = some .remove then none
  else
    let image ← record.newImage?
    (StoredOrder.ofImage image).toOption

/-- The question about an order. -/
def StoredOrder.question (stored : StoredOrder) : Question := .order stored.order.filter

variable {document : Json} {record : ChangeRecord}

theorem ofJson_of_removed (h : ChangeRecord.ofJson? document = some record)
    (removed : record.kind = some .remove) : Notice.ofJson document = .ok .none := by
  rw [Notice.ofJson, h]
  exact if_pos removed

/-- What a record asks for that is no removal: its new image says. -/
theorem ofJson_of_kept (h : ChangeRecord.ofJson? document = some record)
    (kept : record.kind ≠ some .remove) :
    Notice.ofJson document
      = match record.newImage? with
        | none => .error .missingImage
        | some image =>
          match StoredOrder.ofImage image with
          | .error reason => .error (.image reason)
          | .ok stored => .ok (.order stored (record.change.bind Change.writtenAt)) := by
  rw [Notice.ofJson, h]
  change Notice.ofRecord record = _
  rw [Notice.ofRecord, if_neg kept, ChangeRecord.newImage?]
  cases record.change with
  | none => rfl
  | some change => rfl

/-- **A record is about the order that it holds.** -/
theorem orderOf?_eq_some_iff {stored : StoredOrder} :
    orderOf? document = some stored
      ↔ ∃ writtenAt, Notice.ofJson document = .ok (.order stored writtenAt) := by
  cases h : ChangeRecord.ofJson? document with
  | none => simp [orderOf?, Notice.ofJson, h]
  | some record =>
    rw [orderOf?, h, Option.bind_eq_bind, Option.bind_some]
    by_cases removed : record.kind = some .remove
    · simp [ofJson_of_removed h removed, removed]
    · rw [if_neg removed, ofJson_of_kept h removed]
      cases record.newImage? with
      | none => simp
      | some image =>
        rw [Option.bind_eq_bind, Option.bind_some]
        cases read : StoredOrder.ofImage image with
        | error reason => simp [Except.toOption, read]
        | ok order => simp [Except.toOption, read]

section Runs

variable [DomainNames]

/-- **What is done about an order after an answer**: to each webhook of the answer a letter is posted, with
the order's payload, and every delivery has settled. -/
structure Notified (s : Surroundings ω) (limit : Span) (stored : StoredOrder)
    (answer : Except FetchError (List Endpoint)) (journal : Journal) : Prop where
  /-- The deliveries are the letters, and the requests of each leave right behind its beginning. -/
  mailed : ∃ letters : List Letter, (letters.map Letter.endpoint).Perm (answer.toOption.getD []) ∧
    (∀ letter ∈ letters, letter.Posted s limit stored.order.payload) ∧
    journal.Holds stored.order.payload letters
  settlements : journal.settlements = journal.attempts.length

namespace Notified

variable {s : Surroundings ω} {limit : Span} {stored : StoredOrder}
variable {answer : Except FetchError (List Endpoint)} {journal quiet : Journal}

/-- **Each webhook of the answer is notified once**, with the order's payload. -/
theorem attempts (h : Notified s limit stored answer journal) :
    journal.attempts.Perm
      ((answer.toOption.getD []).map fun endpoint => (endpoint, stored.order.payload)) := by
  obtain ⟨letters, addressed, -, held⟩ := h.mailed
  rw [held.attempts]
  have told := addressed.map fun endpoint => (endpoint, stored.order.payload)
  rwa [List.map_map] at told

/-- What is quiet may stand before. -/
theorem quiet_append (h : Notified s limit stored answer journal) (still : quiet.IsQuiet) :
    Notified s limit stored answer (quiet ++ journal) where
  mailed := by
    obtain ⟨letters, addressed, posted, held⟩ := h.mailed
    exact ⟨letters, addressed, posted, held.quiet_append still.attempts⟩
  settlements := by
    rw [Journal.attempts_append, Journal.settlements_append, still.attempts, still.settlements,
      h.settlements, Nat.zero_add, List.nil_append]

/-- What is quiet may stand behind. -/
theorem append_quiet (h : Notified s limit stored answer journal) (still : quiet.IsQuiet) :
    Notified s limit stored answer (journal ++ quiet) where
  mailed := by
    obtain ⟨letters, addressed, posted, held⟩ := h.mailed
    exact ⟨letters, addressed, posted, held.append_quiet still.attempts⟩
  settlements := by
    rw [Journal.attempts_append, Journal.settlements_append, still.attempts, still.settlements,
      h.settlements, Nat.add_zero, List.append_nil]

end Notified

/-- What is done after an answer about an order. -/
def afterAnswer (notifier : Notifier π ω) (stored : StoredOrder) :
    Except FetchError (List Endpoint) → Run (π × ω) (Except RecordError Unit)
  | .error reason => pure (.error (.endpoints reason))
  | .ok endpoints => do
    let report ← notifier.dispatch endpoints stored.order.payload
    Run.note (.notified stored.order.orderHash stored.order.orderStatus report)
    pure (.ok ())

/-- A record about an order: observe, ask, and do what the answer says. -/
theorem handleRecord_of_order (notifier : Notifier π ω) {stored : StoredOrder}
    {writtenAt : Option UInt64} (read : Notice.ofJson document = .ok (.order stored writtenAt)) :
    handleRecord notifier document = (do
      let _ ← notifier.observe stored writtenAt
      let answer ← notifier.ask stored.question
      afterAnswer notifier stored answer) := by
  simp only [handleRecord, read]
  refine bind_congr fun _ => bind_congr fun answer => ?_
  cases answer with
  | error reason => rfl
  | ok endpoints => rfl

theorem notified_afterAnswer (notifier : Notifier π ω) (stored : StoredOrder)
    (answer : Except FetchError (List Endpoint)) (world : π × ω) :
    Notified notifier.surroundings notifier.timeout stored answer
      (afterAnswer notifier stored answer world).journal := by
  cases answer with
  | error reason => exact ⟨⟨[], .refl _, nofun, fun _ => rfl⟩, rfl⟩
  | ok endpoints =>
    let sent := dispatch notifier.surroundings notifier.timeout endpoints stored.order.payload
      world.2
    obtain ⟨letters, mail⟩ := exists_mail notifier.surroundings notifier.timeout
      stored.order.payload endpoints world.2
    have settlements : sent.journal.settlements = endpoints.length := settlements_dispatch _ _ _ _ _
    have begun : sent.journal.attempts.length = endpoints.length := by
      rw [mail.sent.attempts, List.length_map, ← mail.addressed.length_eq, List.length_map]
    have notified : Notified notifier.surroundings notifier.timeout stored (.ok endpoints)
        sent.journal :=
      ⟨⟨letters, mail.addressed, mail.posted, mail.sent⟩, settlements.trans begun.symm⟩
    -- Behind the deliveries stands one note, which the views do not show.
    have noted : Journal.IsQuiet [.noted
        (.notified stored.order.orderHash stored.order.orderStatus sent.value)] := ⟨rfl, rfl⟩
    exact notified.append_quiet noted

theorem writes_afterAnswer (notifier : Notifier π ω) (stored : StoredOrder)
    (answer : Except FetchError (List Endpoint)) :
    (afterAnswer notifier stored answer).Writes fun event =>
      event.metric? ≠ some .recordFailure ∧ event.question? = none := by
  cases answer with
  | error reason => exact Run.writes_pure _
  | ok endpoints =>
    refine (writes_dispatch _ _ endpoints _).onRight.bind fun report => ?_
    exact (Run.writes_record ⟨nofun, rfl⟩).bind fun _ => Run.writes_pure _

/-- **What is written about an order**: telemetry, the question, and what the answer makes of it. -/
theorem journal_handleRecord_of_order (notifier : Notifier π ω) {stored : StoredOrder}
    (holds : orderOf? document = some stored) (world : π × ω) :
    ∃ before after : Journal,
      (handleRecord notifier document world).journal = before ++ .asked stored.question :: after ∧
      (∀ event ∈ before, event.IsTelemetry) ∧
      (∀ event ∈ after, event.metric? ≠ some .recordFailure ∧ event.question? = none) ∧
      Notified notifier.surroundings notifier.timeout stored
        (notifier.provider.answer stored.question world.1).value after := by
  obtain ⟨writtenAt, read⟩ := orderOf?_eq_some_iff.mp holds
  let answered := notifier.provider.answer stored.question world.1
  let observed := notifier.observe stored writtenAt world
  let later := afterAnswer notifier stored answered.value (answered.world, observed.world.2)
  -- Between the question and the answer the provider writes what is its own.
  have foreign : ∀ event ∈ answered.journal ++ [.answered answered.value],
      event.IsForeign ∨ event = .answered answered.value := by
    intro event mem
    rcases List.mem_append.mp mem with mem | mem
    · exact .inl (notifier.provider.writes_answer _ _ event mem)
    · exact .inr (List.mem_singleton.mp mem)
  have aside : ∀ event ∈ answered.journal ++ [.answered answered.value], event.IsAside := by
    intro event mem
    rcases foreign event mem with h | rfl
    · exact h.isAside
    · exact ⟨rfl, rfl, rfl⟩
  refine ⟨observed.journal, answered.journal ++ [.answered answered.value] ++ later.journal,
    ?_, ?_, ?_, ?_⟩
  · rw [handleRecord_of_order notifier read, Run.journal_bind, Run.journal_bind]
    rfl
  · exact (writes_observe _ _ _ _ _).onRight world
  · intro event mem
    rcases List.mem_append.mp mem with mem | mem
    · refine ⟨?_, (aside event mem).question⟩
      rcases foreign event mem with h | rfl
      · exact h.metric_ne (by decide)
      · exact nofun
    · exact writes_afterAnswer notifier stored _ _ event mem
  · exact (notified_afterAnswer notifier stored _ _).quiet_append (Journal.isQuiet_of_aside aside)

end Runs

end OrderHerald
