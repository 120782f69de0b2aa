import OrderHerald.Dict
import OrderHerald.Metrics.Basic

/-!
# What samples come to

A counter comes to the sum of its increments, a gauge to its last level, a histogram to its values
in the order in which they were taken.

* `Totals` — the series with what they come to; `Totals.ofSamples`.
* `counted` — what one counter comes to under given labels.
-/

namespace OrderHerald

/-- What a histogram has taken. -/
structure Distribution where
  /-- The values, as bits of doubles. -/
  values : List UInt64 := []
  /-- How many times it took a time that something took. -/
  durations : Nat := 0
  deriving DecidableEq, Repr, Inhabited

/-- The series of a list of samples with what they come to. -/
structure Totals where
  counters : Dict String Nat := Dict.empty
  gauges : Dict String Int := Dict.empty
  histograms : Dict String Distribution := Dict.empty
  deriving Repr, Inhabited

namespace Totals

/-- One more sample. -/
def add (totals : Totals) (sample : Sample) : Totals :=
  let series := sample.series
  let seen := (totals.histograms.get? series).getD {}
  match sample.reading with
  | .increment amount =>
    { totals with
      counters := totals.counters.insert series ((totals.counters.get? series).getD 0 + amount) }
  | .level value => { totals with gauges := totals.gauges.insert series value }
  | .value bits =>
    { totals with
      histograms := totals.histograms.insert series { seen with values := seen.values ++ [bits] } }
  | .elapsed =>
    { totals with
      histograms := totals.histograms.insert series { seen with durations := seen.durations + 1 } }

/-- **What samples come to.** -/
def ofSamples (samples : List Sample) : Totals :=
  samples.foldl add {}

end Totals

/-- The increment of a counter under labels that a sample is; zero for any other sample. -/
def Sample.incrementOf (metric : Metric) (labels : List Label) (sample : Sample) : Nat :=
  match sample.reading with
  | .increment amount => if sample.metric = metric ∧ sample.labels = labels then amount else 0
  | _ => 0

/-- **How far a counter grows under labels.** -/
def counted (metric : Metric) (labels : List Label) : List Sample → Nat
  | [] => 0
  | sample :: rest => sample.incrementOf metric labels + counted metric labels rest

theorem counted_nil (metric : Metric) (labels : List Label) : counted metric labels [] = 0 := rfl

theorem counted_append (metric : Metric) (labels : List Label) (first second : List Sample) :
    counted metric labels (first ++ second)
      = counted metric labels first + counted metric labels second := by
  induction first with
  | nil => simp [counted]
  | cons sample rest ih => rw [List.cons_append, counted, counted, ih, Nat.add_assoc]

end OrderHerald
