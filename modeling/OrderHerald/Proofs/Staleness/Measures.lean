import OrderHerald.Proofs.Staleness.Overdue

/-!
# What observing an order measures

Observing an order ends in a report and in a few measurements, and the two say the same.  The distance in
the report is the exact difference of two unsigned numbers, taken where a signed number can hold it; each
measurement stands for one part of the report and is labelled with the order's chain and type.

**One equation.**  `observe_eq` says at once what observing comes to, what it writes and in which world it
leaves off.  Between the measurements stands only what the source of blocks writes by itself.

**Who was asked.**  A source may keep a log of the chains that it is asked about.  It answers as before,
and the log is the part of its world that observing the order adds to; so what is said of the log holds
of what any source is asked.

* `Variant.Clock`, `Variant.Elapsed` — an order's clock, and how far it is past the start of its decay.
* `StalenessReport.samples` — the measurements that a report stands for.
* `BlockSource.logged`, `Run.Logs` — a source that keeps a log, and what a run adds to it.

## Main statements

* `Variant.distance_eq_some_iff` — a distance is the exact difference, where a signed number can hold it.
* `observe_eq` — what observing an order is.
* `samples_observe` — it measures what its report stands for.
* `logs_observe` — which orders make the source be asked, and about which chain.
* `observe_measures` — all of that together.
-/

namespace OrderHerald

variable {ω : Type}

/-! ### Exact distances -/

theorem fitsInt64_iff {n : Int} :
    fitsInt64 n = true ↔ Int64.minValue.toInt ≤ n ∧ n ≤ Int64.maxValue.toInt := by
  rw [fitsInt64, Bool.and_eq_true, decide_eq_true_eq, decide_eq_true_eq]

namespace Variant

/-- **The clock of an order**: the unit in which it counts, what it shows and where the decay starts.  One
kind shows whole seconds, the other the latest block, if that is known. -/
inductive Clock (seconds : UInt64) (latest : Except BlockError (Option UInt64)) :
    Variant → (Int → Distance) → UInt64 → UInt64 → Prop
  | dutchV2 {start stop : UInt64} : Clock seconds latest (.dutchV2 start stop) .seconds seconds start
  | dutchV3 {start current : UInt64} (known : latest = .ok (some current)) :
      Clock seconds latest (.dutchV3 start) .blocks current start
  | priority {start current : UInt64} (known : latest = .ok (some current)) :
      Clock seconds latest (.priority start) .blocks current start

/-- **So far is an order past the start of its decay**: by the difference of the numbers that its clock
shows and starts from, where a signed number of 64 bits can hold it. -/
inductive Elapsed (seconds : UInt64) (latest : Except BlockError (Option UInt64)) (variant : Variant) :
    Distance → Prop
  | past {unit : Int → Distance} {reading start : UInt64} {count : Int}
      (clock : variant.Clock seconds latest unit reading start)
      (exact : count = (reading.toNat : Int) - start.toNat)
      (fits : Int64.minValue.toInt ≤ count ∧ count ≤ Int64.maxValue.toInt) :
      Elapsed seconds latest variant (unit count)

variable {variant : Variant} {blocks : BlockSource ω} {chainId seconds : UInt64} {world : ω}

/-- An order is measured by its clock. -/
theorem Clock.value_distance {unit : Int → Distance} {reading start : UInt64}
    (clock : variant.Clock seconds (blocks.latest chainId world).value unit reading start) :
    (variant.distance blocks chainId seconds world).value = (distance? reading start).map unit := by
  cases clock with
  | dutchV2 => rfl
  | dutchV3 known => rw [value_distance_blocks (.inl rfl), known]
  | priority known => rw [value_distance_blocks (.inr rfl), known]

/-- Only an order with a clock is measured. -/
theorem exists_clock {distance : Distance}
    (measured : (variant.distance blocks chainId seconds world).value = some distance) :
    ∃ unit reading start,
      variant.Clock seconds (blocks.latest chainId world).value unit reading start := by
  have known : ∀ start, variant = .dutchV3 start ∨ variant = .priority start →
      ∃ current, (blocks.latest chainId world).value = .ok (some current) := by
    intro start kind
    rw [value_distance_blocks kind] at measured
    split at measured
    · rename_i current answered
      exact ⟨current, answered⟩
    · cases measured
  cases variant with
  | dutch => cases measured
  | dutchV2 start stop => exact ⟨_, _, _, .dutchV2⟩
  | dutchV3 start =>
    obtain ⟨current, answered⟩ := known start (.inl rfl)
    exact ⟨_, _, _, .dutchV3 answered⟩
  | priority start =>
    obtain ⟨current, answered⟩ := known start (.inr rfl)
    exact ⟨_, _, _, .priority answered⟩
  | limit => cases measured

/-- **A distance is the exact difference**, where a signed number can hold it. -/
theorem distance_eq_some_iff {distance : Distance} :
    (variant.distance blocks chainId seconds world).value = some distance
      ↔ variant.Elapsed seconds (blocks.latest chainId world).value distance := by
  constructor
  · intro measured
    obtain ⟨unit, reading, start, clock⟩ := exists_clock measured
    rw [clock.value_distance, Option.map_eq_some_iff] at measured
    obtain ⟨count, counted, rfl⟩ := measured
    obtain ⟨exact, fits⟩ := distance?_eq_some_iff.mp counted
    exact .past clock exact (fitsInt64_iff.mp fits)
  · rintro ⟨clock, exact, fits⟩
    rw [clock.value_distance, distance?_eq_some_iff.mpr ⟨exact, fitsInt64_iff.mpr fits⟩]
    rfl

/-- A signed number reaches one farther before the start than past it. -/
example : distance? 0 9223372036854775808 = some (-9223372036854775808)
    ∧ distance? 9223372036854775808 0 = none := by decide

end Variant

/-! ### What observing is -/

namespace StalenessReport

/-- The measurement of how old the change is, if that is known. -/
def insertionSample? (labels : List Label) (report : StalenessReport) : Option Sample :=
  report.insertion.map fun bits => ⟨.insertionStaleness, labels, .value bits⟩

/-- The double of a count: that of its magnitude, with its sign. -/
def double (count : Int) : Float :=
  if count < 0 then -(UInt64.ofNat count.natAbs).toFloat else (UInt64.ofNat count.toNat).toFloat

/-- The measurement of how far the order is into its decay, if that is known: seconds and blocks have each
a histogram of their own, and it takes the count. -/
def distanceSample? (labels : List Label) (report : StalenessReport) : Option Sample :=
  match report.distance with
  | none => none
  | some (.seconds count) => some ⟨.stalenessSeconds, labels, .value (double count).toBits⟩
  | some (.blocks count) => some ⟨.stalenessBlocks, labels, .value (double count).toBits⟩

/-- The measurement that the order is stale, if it is. -/
def staleSample? (labels : List Label) (report : StalenessReport) : Option Sample :=
  if report.isStale then some ⟨.staleOrders, labels, .increment 1⟩ else none

/-- **The measurements that a report stands for**, each part for itself. -/
def samples (labels : List Label) (report : StalenessReport) : List Sample :=
  (report.insertionSample? labels).toList ++ (report.distanceSample? labels).toList
    ++ (report.staleSample? labels).toList

/-- What is written into the log if the order is stale. -/
def staleNote? (stored : StoredOrder) (report : StalenessReport) : Option Note :=
  if report.isStale then
    some (.stale stored.order.chainId stored.variant.orderType stored.order.orderHash)
  else none

end StalenessReport

namespace StoredOrder

variable (stored : StoredOrder) (s : Surroundings ω) (blocks : BlockSource ω)

/-- What is done about a report. -/
def conclude (report : StalenessReport) : Run ω StalenessReport := do
  recordDistance stored.labels report.distance
  if report.isStale then
    Run.count .staleOrders stored.labels 1
    Run.note (.stale stored.order.chainId stored.variant.orderType stored.order.orderHash)
  pure report

theorem conclude_eq (report : StalenessReport) (world : ω) :
    stored.conclude report world
      = ⟨report,
          ((report.distanceSample? stored.labels).map .measured).toList
            ++ (((report.staleSample? stored.labels).map .measured).toList
            ++ ((report.staleNote? stored).map .noted).toList),
          world⟩ := by
  obtain ⟨insertion, distance, isStale⟩ := report
  match distance with
  | none => cases isStale <;> rfl
  | some (.seconds count) => cases isStale <;> rfl
  | some (.blocks count) => cases isStale <;> rfl

/-- What is found out about the distance of an order: the clock is read first. -/
def measured (world : ω) : Outcome ω (Option Distance) :=
  stored.variant.distance blocks stored.order.chainId (s.now world).1.epochSeconds.toUInt64
    (s.now world).2

/-- The report about an order. -/
def reported (thresholds : Thresholds) (writtenAt : Option UInt64) (world : ω) : StalenessReport :=
  let distance := (stored.measured s blocks world).value
  ⟨writtenAt.map (insertionSeconds (s.now world).1.epochSeconds), distance,
    distance.any thresholds.exceededBy⟩

end StoredOrder

/-- **What observing an order is**: what it comes to, what it writes and where it leaves off. -/
theorem observe_eq (s : Surroundings ω) (blocks : BlockSource ω) (thresholds : Thresholds)
    (stored : StoredOrder) (writtenAt : Option UInt64) (world : ω) :
    let report := stored.reported s blocks thresholds writtenAt world
    observe s blocks thresholds stored writtenAt world
      = ⟨report,
          ((report.insertionSample? stored.labels).map .measured).toList
            ++ ((stored.measured s blocks world).journal
            ++ (((report.distanceSample? stored.labels).map .measured).toList
            ++ (((report.staleSample? stored.labels).map .measured).toList
            ++ ((report.staleNote? stored).map .noted).toList))),
          (stored.measured s blocks world).world⟩ := by
  intro report
  let last := stored.conclude report (stored.measured s blocks world).world
  have run : observe s blocks thresholds stored writtenAt world
      = ⟨last.value, ((report.insertionSample? stored.labels).map .measured).toList
          ++ ((stored.measured s blocks world).journal ++ last.journal), last.world⟩ := by
    cases writtenAt <;> rfl
  rw [run, show last = _ from stored.conclude_eq report _]

/-! ### The measurements -/

namespace Journal

theorem samples_measured (sample : Option Sample) :
    samples (sample.map .measured).toList = sample.toList := by
  cases sample <;> rfl

theorem samples_noted (note : Option Note) : samples (note.map .noted).toList = [] := by
  cases note <;> rfl

end Journal

/-- The measurements of staleness. -/
def stalenessOf (samples : List Sample) : List Sample :=
  samples.filter fun sample => sample.metric ∈ Metric.staleness

theorem stalenessOf_append (first second : List Sample) :
    stalenessOf (first ++ second) = stalenessOf first ++ stalenessOf second := List.filter_append ..

/-- Those whom the service asks measure no staleness. -/
theorem Event.IsForeign.notMem_staleness {event : Event} (h : event.IsForeign) {sample : Sample}
    (measured : event.sample? = some sample) : sample.metric ∉ Metric.staleness := by
  have notifying : ∀ metric ∈ Metric.staleness, metric ∈ Metric.notification := by decide
  cases event with
  | measured other =>
    cases measured
    exact fun mem => h (notifying _ mem)
  | _ => cases measured

/-- Finding out about a distance measures no staleness. -/
theorem Variant.unmeasured_distance (variant : Variant) (blocks : BlockSource ω)
    (chainId seconds : UInt64) :
    (variant.distance blocks chainId seconds).Writes fun event =>
      ∀ sample, event.sample? = some sample → sample.metric ∉ Metric.staleness := by
  have since : ∀ start, (blocksSince blocks chainId start).Writes fun event =>
      ∀ sample, event.sample? = some sample → sample.metric ∉ Metric.staleness := by
    intro start
    refine Run.Writes.bind ?_ fun answer => ?_
    · exact (blocks.writes_latest chainId).mono fun event foreign _ is => foreign.notMem_staleness is
    · match answer with
      | .ok (some current) => exact Run.writes_pure _
      | .ok none => exact Run.writes_pure _
      | .error reason => exact (Run.writes_record nofun).bind fun _ => Run.writes_pure _
  cases variant with
  | dutch => exact Run.writes_pure _
  | dutchV2 start stop => exact Run.writes_pure _
  | dutchV3 start => exact since start
  | priority start => exact since start
  | limit => exact Run.writes_pure _

theorem StoredOrder.stalenessOf_measured (stored : StoredOrder) (s : Surroundings ω)
    (blocks : BlockSource ω) (world : ω) :
    stalenessOf (stored.measured s blocks world).journal.samples = [] := by
  refine List.filter_eq_nil_iff.mpr fun sample mem => ?_
  obtain ⟨event, among, is⟩ := List.mem_filterMap.mp mem
  simpa using stored.variant.unmeasured_distance blocks _ _ _ event among sample is

/-- Every measurement that a report stands for is one of staleness. -/
theorem StalenessReport.stalenessOf_samples (labels : List Label) (report : StalenessReport) :
    stalenessOf (report.samples labels) = report.samples labels := by
  refine List.filter_eq_self.mpr fun sample mem => decide_eq_true ?_
  simp only [samples, List.mem_append, Option.mem_toList] at mem
  rcases mem with (mem | mem) | mem
  · obtain ⟨bits, -, rfl⟩ := Option.map_eq_some_iff.mp mem
    show Metric.insertionStaleness ∈ Metric.staleness
    decide
  · unfold distanceSample? at mem
    split at mem
    · cases mem
    · cases mem
      show Metric.stalenessSeconds ∈ Metric.staleness
      decide
    · cases mem
      show Metric.stalenessBlocks ∈ Metric.staleness
      decide
  · unfold staleSample? at mem
    split at mem
    · cases mem
      show Metric.staleOrders ∈ Metric.staleness
      decide
    · cases mem

/-- **What observing an order measures** is what its report stands for. -/
theorem samples_observe (s : Surroundings ω) (blocks : BlockSource ω) (thresholds : Thresholds)
    (stored : StoredOrder) (writtenAt : Option UInt64) (world : ω) :
    let outcome := observe s blocks thresholds stored writtenAt world
    stalenessOf outcome.journal.samples = outcome.value.samples stored.labels := by
  intro outcome
  show stalenessOf (observe s blocks thresholds stored writtenAt world).journal.samples
    = (observe s blocks thresholds stored writtenAt world).value.samples stored.labels
  rw [observe_eq]
  simp only [Journal.samples_append, Journal.samples_measured, Journal.samples_noted,
    stalenessOf_append, StoredOrder.stalenessOf_measured, List.nil_append, List.append_nil]
  rw [← stalenessOf_append, ← stalenessOf_append, ← List.append_assoc]
  exact StalenessReport.stalenessOf_samples stored.labels _

/-! ### Who was asked -/

/-- A source that answers as another and keeps a log of the chains that it was asked about. -/
def BlockSource.logged (blocks : BlockSource ω) : BlockSource (ω × List UInt64) where
  latest chainId := fun world =>
    let answered := blocks.latest chainId world.1
    ⟨answered.value, answered.journal, (answered.world, world.2 ++ [chainId])⟩
  writes_latest chainId world := blocks.writes_latest chainId world.1

/-- Surroundings beside which something stands that they neither read nor change. -/
def Surroundings.beside {τ : Type} (s : Surroundings ω) : Surroundings (ω × τ) where
  now world := ((s.now world.1).1, (s.now world.1).2, world.2)
  stamp world := ((s.stamp world.1).1, (s.stamp world.1).2, world.2)
  exchange request limit world :=
    ((s.exchange request limit world.1).1, (s.exchange request limit world.1).2, world.2)
  file path world := ((s.file path world.1).1, (s.file path world.1).2, world.2)
  order count world := ((s.order count world.1).1, (s.order count world.1).2, world.2)
  order_perm count world := s.order_perm count world.1

/-- **A run logs**: it is another run, and beside that it adds to a log. -/
def Run.Logs {α : Type} (logged : Run (ω × List UInt64) α) (run : Run ω α) (added : List UInt64) :
    Prop :=
  ∀ world log, logged (world, log)
    = ⟨(run world).value, (run world).journal, (run world).world, log ++ added⟩

namespace Run.Logs

variable {α β : Type}

theorem pure (value : α) : Logs (Pure.pure value) (Pure.pure value : Run ω α) [] := by
  intro world log
  rw [List.append_nil]
  rfl

theorem record (event : Event) : Logs (Run.record event) (Run.record event : Run ω Unit) [] := by
  intro world log
  rw [List.append_nil]
  rfl

/-- **What two runs log, they log one after the other.** -/
theorem bind {first : Run ω α} {logged : Run (ω × List UInt64) α} {next : α → Run ω β}
    {loggedNext : α → Run (ω × List UInt64) β} {added later : List UInt64}
    (h : Logs logged first added) (hnext : ∀ value, Logs (loggedNext value) (next value) later) :
    Logs (logged >>= loggedNext) (first >>= next) (added ++ later) := by
  intro world log
  show (⟨_, _, _⟩ : Outcome (ω × List UInt64) β) = _
  rw [h world log, hnext _ _ (log ++ added), List.append_assoc]
  rfl

end Run.Logs

/-- The chains about which a source is asked for a variant. -/
def Variant.asks (chainId : UInt64) (variant : Variant) : List UInt64 :=
  if variant.orderType = .dutchV3 ∨ variant.orderType = .priority then [chainId] else []

theorem logs_blocksSince (blocks : BlockSource ω) (chainId start : UInt64) :
    Run.Logs (blocksSince blocks.logged chainId start) (blocksSince blocks chainId start)
      [chainId] := by
  have asked : Run.Logs (blocks.logged.latest chainId) (blocks.latest chainId) [chainId] :=
    fun _ _ => rfl
  refine asked.bind fun answer => ?_
  match answer with
  | .ok (some current) => exact .pure _
  | .ok none => exact .pure _
  | .error reason => exact (Run.Logs.record _).bind fun _ => .pure _

/-- **A source is asked about an order that is counted in blocks**, once, and about no other. -/
theorem Variant.logs_distance (variant : Variant) (blocks : BlockSource ω)
    (chainId seconds : UInt64) :
    Run.Logs (variant.distance blocks.logged chainId seconds) (variant.distance blocks chainId seconds)
      (variant.asks chainId) := by
  cases variant with
  | dutch => exact .pure _
  | dutchV2 start stop => exact .pure _
  | dutchV3 start => exact logs_blocksSince blocks chainId start
  | priority start => exact logs_blocksSince blocks chainId start
  | limit => exact .pure _

/-- **What observing logs**: nothing else of it depends on the source. -/
theorem logs_observe (s : Surroundings ω) (blocks : BlockSource ω) (thresholds : Thresholds)
    (stored : StoredOrder) (writtenAt : Option UInt64) :
    Run.Logs (observe s.beside blocks.logged thresholds stored writtenAt)
      (observe s blocks thresholds stored writtenAt) (stored.variant.asks stored.order.chainId) := by
  intro world log
  let found := stored.measured s blocks world
  have logged : stored.measured s.beside blocks.logged (world, log)
      = ⟨found.value, found.journal, found.world, log ++ stored.variant.asks stored.order.chainId⟩ :=
    stored.variant.logs_distance blocks _ _ _ log
  rw [observe_eq, observe_eq, StoredOrder.reported, logged]
  rfl

/-! ### The counter of stale orders -/

/-- What is counted of staleness is counted by its own measurements. -/
theorem counted_stalenessOf {metric : Metric} (h : metric ∈ Metric.staleness) (labels : List Label)
    (samples : List Sample) :
    counted metric labels (stalenessOf samples) = counted metric labels samples := by
  induction samples with
  | nil => rfl
  | cons sample rest ih =>
    by_cases own : sample.metric ∈ Metric.staleness
    · rw [stalenessOf, List.filter_cons_of_pos (by simpa using own), counted, counted, ← ih]
      rfl
    · have other : sample.metric ≠ metric := fun same => own (same ▸ h)
      have nothing : sample.incrementOf metric labels = 0 := by
        unfold Sample.incrementOf
        split <;> simp [other]
      rw [stalenessOf, List.filter_cons_of_neg (by simpa using own), counted, nothing, Nat.zero_add,
        ← ih]
      rfl

theorem StalenessReport.counted_samples (labels own : List Label) (report : StalenessReport) :
    counted .staleOrders labels (report.samples own)
      = if report.isStale = true ∧ labels = own then 1 else 0 := by
  have insertion : counted .staleOrders labels (report.insertionSample? own).toList = 0 := by
    unfold insertionSample?
    cases report.insertion <;> rfl
  have distance : counted .staleOrders labels (report.distanceSample? own).toList = 0 := by
    unfold distanceSample?
    match report.distance with
    | none => rfl
    | some (.seconds count) => rfl
    | some (.blocks count) => rfl
  rw [samples, counted_append, counted_append, insertion, distance, Nat.zero_add,
    staleSample?]
  cases report.isStale with
  | false => rfl
  | true => simp [counted, Sample.incrementOf, eq_comm]

/-- **The report about an order is exact, and its measurements say the same.**  For every order, moment,
clock, thresholds and source of blocks:

* the distance in the report is the one by the order's clock, and there is none where the order has no
  clock, where its source fails or knows no block, and where no signed number can hold it;
* how old the change is stands in the report exactly if it is known when the change was written, and it is
  the time since then;
* of staleness there is measured what the report stands for, each part once and under the labels of the
  order's chain and type;
* the counter of stale orders grows by one exactly if the order is stale, and then it has a distance;
* the source is asked about the order's chain, once, if the order is counted in blocks, and otherwise
  it is not asked. -/
theorem observe_measures (s : Surroundings ω) (blocks : BlockSource ω) (thresholds : Thresholds)
    (stored : StoredOrder) (writtenAt : Option UInt64) (world : ω) :
    let outcome := observe s blocks thresholds stored writtenAt world
    let report := outcome.value
    let labels := [("chain_id", toString stored.order.chainId.toNat),
      ("order_type", stored.variant.orderType.name)]
    let seconds := (s.now world).1.epochSeconds.toUInt64
    let latest := (blocks.latest stored.order.chainId (s.now world).2).value
    (∀ distance, report.distance = some distance ↔ stored.variant.Elapsed seconds latest distance)
    ∧ report.insertion
        = writtenAt.map (fun bits => ((s.now world).1.epochSeconds - Float.ofBits bits).toBits)
    ∧ stalenessOf outcome.journal.samples = report.samples labels
    ∧ (∀ labels', counted .staleOrders labels' outcome.journal.samples
        = if report.isStale = true ∧ labels' = labels then 1 else 0)
    ∧ (report.isStale = true → report.distance.isSome = true)
    ∧ Run.Logs (observe s.beside blocks.logged thresholds stored writtenAt)
        (observe s blocks thresholds stored writtenAt)
        (stored.variant.asks stored.order.chainId) := by
  intro outcome report labels seconds latest
  have told : report = stored.reported s blocks thresholds writtenAt world := by
    show (observe s blocks thresholds stored writtenAt world).value = _
    rw [observe_eq]
  have samples : stalenessOf outcome.journal.samples = report.samples labels :=
    samples_observe s blocks thresholds stored writtenAt world
  refine ⟨fun distance => ?_, ?_, samples, fun labels' => ?_, fun stale => ?_,
    logs_observe s blocks thresholds stored writtenAt⟩
  · rw [told]
    exact Variant.distance_eq_some_iff
  · rw [told]
    rfl
  · have mem : Metric.staleOrders ∈ Metric.staleness := by decide
    rw [← counted_stalenessOf mem, samples, StalenessReport.counted_samples]
  · rw [told] at stale ⊢
    unfold StoredOrder.reported at stale ⊢
    cases found : (stored.measured s blocks world).value with
    | none => simp [found] at stale
    | some distance => rfl

end OrderHerald
