import OrderHerald.Metrics.Catalog
import OrderHerald.Order.Stored
import OrderHerald.Settings.Basic
import OrderHerald.Staleness.Node

/-!
# Observing how stale orders are

Before an order is notified it is measured how old its change is and how far into its decay the
order is.  This is for the eyes of operators: nothing else depends on it.

* `Variant.distance` — how far past the start of its decay an order is.
* `Thresholds.exceededBy` — whether that makes it stale.
* `observe` — measures and reports.
-/

namespace OrderHerald

/-- **A distance makes an order stale** if it is above the threshold, taken as a signed number. -/
def Thresholds.exceededBy (thresholds : Thresholds) : Distance → Bool
  | .seconds count => signedThreshold thresholds.seconds < count
  | .blocks count => signedThreshold thresholds.blocks < count

/-- The measurement that a distance is. -/
def Distance.sample (distance : Distance) (labels : List Label) : Sample :=
  match distance with
  | .seconds count =>
    ⟨.stalenessSeconds, labels, .value (Number.floatOfInt count).toBits⟩
  | .blocks count =>
    ⟨.stalenessBlocks, labels, .value (Number.floatOfInt count).toBits⟩

/-- The labels of what is measured about a stored order. -/
def StoredOrder.labels (stored : StoredOrder) : List Label :=
  orderLabels stored.order.chainId stored.variant.orderType.name

variable {ω : Type}

/-- How many blocks have passed since a block, if the latest one is known. -/
def blocksSince (blocks : BlockSource ω) (chainId start : UInt64) : Run ω (Option Distance) := do
  match ← blocks.latest chainId with
  | .ok (some current) => pure ((distance? current start).map .blocks)
  | .ok none => pure none
  | .error e => do
    Run.note (.blockUnknown chainId e)
    pure none

/-- **How far past the start of its decay an order is**, by the clock that its type decays on.
The moment is given in whole seconds. -/
def Variant.distance (blocks : BlockSource ω) (chainId seconds : UInt64) :
    Variant → Run ω (Option Distance)
  | .dutchV2 start _ => pure ((distance? seconds start).map .seconds)
  | .dutchV3 start => blocksSince blocks chainId start
  | .priority start => blocksSince blocks chainId start
  | .dutch => pure none
  | .limit => pure none

/-- The seconds between two moments, given as the bits of doubles. -/
def insertionSeconds (now : Float) (writtenAt : UInt64) : UInt64 :=
  (now - Float.ofBits writtenAt).toBits

/-- Writes how old a change is, if that is known. -/
def recordInsertion (labels : List Label) (insertion : Option UInt64) : Run ω Unit :=
  match insertion with
  | none => pure ()
  | some bits => Run.measure .insertionStaleness labels (.value bits)

/-- Writes how far into its decay an order is, if that is known. -/
def recordDistance (labels : List Label) (distance : Option Distance) : Run ω Unit :=
  match distance with
  | none => pure ()
  | some distance => Run.record (.measured (distance.sample labels))

/-- **Measures an order.**  `writtenAt` is the epoch second at which the change was written. -/
def observe (s : Surroundings ω) (blocks : BlockSource ω) (thresholds : Thresholds)
    (stored : StoredOrder) (writtenAt : Option UInt64) : Run ω StalenessReport := do
  let moment ← s.clock
  let now := moment.epochSeconds
  let insertion := writtenAt.map (insertionSeconds now)
  recordInsertion stored.labels insertion
  let distance ← stored.variant.distance blocks stored.order.chainId now.toUInt64
  recordDistance stored.labels distance
  let isStale := distance.any thresholds.exceededBy
  if isStale then
    Run.count .staleOrders stored.labels 1
    Run.note (.stale stored.order.chainId stored.variant.orderType stored.order.orderHash)
  pure ⟨insertion, distance, isStale⟩

end OrderHerald
