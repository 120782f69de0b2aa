import OrderHerald.Proofs.Journal
import OrderHerald.Staleness.Observe

/-!
# Observing writes telemetry only

Whatever the clock shows, whoever tells blocks and wherever the thresholds lie, observing an order
measures and takes notes.  It asks no question about webhooks, begins no delivery and fails no
record.

## Main statements

* `writes_observe` — observing writes telemetry and nothing else.
-/

namespace OrderHerald

/-- The metrics of staleness. -/
def Metric.staleness : List Metric :=
  [insertionStaleness, stalenessSeconds, stalenessBlocks, staleOrders]

namespace Event

/-- **The event is telemetry**: a measurement of staleness, a note, or what those write who were asked
for a block. -/
inductive IsTelemetry : Event → Prop where
  | foreign {event : Event} (h : event.IsForeign) : IsTelemetry event
  | staleness {sample : Sample} (h : sample.metric ∈ Metric.staleness) :
      IsTelemetry (.measured sample)
  | noted (note : Note) : IsTelemetry (.noted note)

/-- Telemetry measures neither deliveries nor failed records. -/
theorem IsTelemetry.metric_ne {event : Event} (h : event.IsTelemetry) {metric : Metric}
    (notifying : metric ∈ Metric.notification) (other : metric ∉ Metric.staleness) :
    event.metric? ≠ some metric := by
  cases h with
  | foreign h => exact h.metric_ne notifying
  | staleness h => exact metric?_measured_ne fun eq => other (eq ▸ h)
  | noted note => exact nofun

theorem IsTelemetry.isAside {event : Event} (h : event.IsTelemetry) : event.IsAside := by
  have success : event.metric? ≠ some .deliverySuccess := h.metric_ne (by decide) (by decide)
  have failure : event.metric? ≠ some .deliveryFailure := h.metric_ne (by decide) (by decide)
  have settlement : event.isSettlement = false := by simp [isSettlement, success, failure]
  cases h with
  | foreign h => exact h.isAside
  | staleness h => exact ⟨rfl, rfl, settlement⟩
  | noted note => exact ⟨rfl, rfl, settlement⟩

end Event

variable {ω : Type}

theorem writes_blocksSince (blocks : BlockSource ω) (chainId start : UInt64) :
    (blocksSince blocks chainId start).Writes Event.IsTelemetry := by
  refine ((blocks.writes_latest chainId).mono fun _ => .foreign).bind fun answer => ?_
  split
  · exact Run.writes_pure _
  · exact Run.writes_pure _
  · exact (Run.writes_record (.noted _)).bind fun _ => Run.writes_pure _

theorem Variant.writes_distance (blocks : BlockSource ω) (chainId seconds : UInt64)
    (variant : Variant) :
    (variant.distance blocks chainId seconds).Writes Event.IsTelemetry := by
  cases variant with
  | dutch => exact Run.writes_pure _
  | dutchV2 start stop => exact Run.writes_pure _
  | dutchV3 start => exact writes_blocksSince blocks chainId start
  | priority start => exact writes_blocksSince blocks chainId start
  | limit => exact Run.writes_pure _

theorem writes_recordInsertion (labels : List Label) (insertion : Option UInt64) :
    (recordInsertion labels insertion : Run ω Unit).Writes Event.IsTelemetry := by
  cases insertion with
  | none => exact Run.writes_pure _
  | some bits =>
    exact Run.writes_record (.staleness (by decide : Metric.insertionStaleness ∈ Metric.staleness))

theorem writes_recordDistance (labels : List Label) (distance : Option Distance) :
    (recordDistance labels distance : Run ω Unit).Writes Event.IsTelemetry := by
  cases distance with
  | none => exact Run.writes_pure _
  | some distance =>
    cases distance with
    | seconds count =>
      exact Run.writes_record (.staleness (by decide : Metric.stalenessSeconds ∈ Metric.staleness))
    | blocks count =>
      exact Run.writes_record (.staleness (by decide : Metric.stalenessBlocks ∈ Metric.staleness))

/-- **Observing writes telemetry and nothing else.** -/
theorem writes_observe (s : Surroundings ω) (blocks : BlockSource ω) (thresholds : Thresholds)
    (stored : StoredOrder) (writtenAt : Option UInt64) :
    (observe s blocks thresholds stored writtenAt).Writes Event.IsTelemetry := by
  refine (Run.writes_of _).bind fun moment => ?_
  refine (writes_recordInsertion _ _).bind fun _ => ?_
  refine (Variant.writes_distance blocks _ _ _).bind fun distance => ?_
  refine (writes_recordDistance _ _).bind fun _ => ?_
  have stale : Metric.staleOrders ∈ Metric.staleness := by decide
  dsimp only
  split
  · refine (Run.writes_record (.staleness stale)).bind fun _ => ?_
    exact (Run.writes_record (.noted _)).bind fun _ => Run.writes_pure _
  · exact Run.writes_pure _

end OrderHerald
