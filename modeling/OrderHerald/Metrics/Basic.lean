/-!
# Metrics

A metric has a name, a kind and a description.  What is measured is a sample: a metric, labels that
tell one series of it from another, and a reading.

* `Metric` — a metric that can be measured.
* `Sample` — one measurement; `Sample.series` names its series.
* `orderLabels` — the labels of orders: the chain and the type.
-/

namespace OrderHerald

/-- What a metric measures. -/
inductive MetricKind where
  /-- A number that only grows. -/
  | counter
  /-- A number that is set. -/
  | gauge
  /-- Samples. -/
  | histogram
  deriving DecidableEq, Repr, Inhabited

/-- The name of a kind. -/
def MetricKind.name : MetricKind → String
  | .counter => "Counter"
  | .gauge => "Gauge"
  | .histogram => "Histogram"

/-- A metric. -/
structure Metric where
  name : String
  kind : MetricKind
  description : String
  deriving DecidableEq, Repr, Inhabited

/-- A label and its value. -/
abbrev Label := String × String

/-- One reading of a metric. -/
inductive Reading where
  /-- A counter grows. -/
  | increment (amount : Nat)
  /-- A gauge is set. -/
  | level (value : Int)
  /-- A histogram takes a value, given by the bits of a double. -/
  | value (bits : UInt64)
  /-- A histogram takes the time something took. -/
  | elapsed
  deriving DecidableEq, Repr

/-- One measurement. -/
structure Sample where
  metric : Metric
  labels : List Label := []
  reading : Reading
  deriving DecidableEq, Repr

/-- The labels of what is measured about an order. -/
def orderLabels (chainId : UInt64) (orderType : String) : List Label :=
  [("chain_id", toString chainId.toNat), ("order_type", orderType)]

/-- The name of a series: the metric's, then each label with its value. -/
def Sample.series (sample : Sample) : String :=
  sample.metric.name ++ String.join (sample.labels.map fun label =>
    "|" ++ label.1 ++ "=" ++ label.2)

end OrderHerald
