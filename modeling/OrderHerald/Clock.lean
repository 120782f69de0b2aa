/-!
# Moments and lengths of time

A clock shows a moment of the epoch.  Moments may lie before the epoch, and a clock may be set back,
so the time that has passed since a moment is not always there.

* `Span` — a length of time.
* `Instant` — a moment; `Instant.since?`, `Instant.advance?`.
* `Instant.epochSeconds` — the moment as a double, `Instant.wholeSeconds` as a whole number.
-/

namespace OrderHerald

/-- A length of time, in nanoseconds. -/
structure Span where
  nanos : Nat
  deriving DecidableEq, Repr, Inhabited

namespace Span

/-- Nanoseconds of a second. -/
def nanosPerSecond : Nat := 1000000000

/-- So many seconds and nanoseconds. -/
def of (seconds nanos : Nat) : Span :=
  ⟨seconds * nanosPerSecond + nanos⟩

/-- So many milliseconds. -/
def ofMillis (millis : Nat) : Span := ⟨millis * 1000000⟩

instance : LE Span := ⟨fun a b => a.nanos ≤ b.nanos⟩

instance (a b : Span) : Decidable (a ≤ b) := inferInstanceAs (Decidable (a.nanos ≤ b.nanos))

end Span

/-- A moment, in nanoseconds since the epoch; negative before it. -/
structure Instant where
  nanos : Int
  deriving DecidableEq, Repr, Inhabited

namespace Instant

/-- The moment so many seconds and nanoseconds after the epoch. -/
def of (seconds : Int) (nanos : Nat) : Instant :=
  ⟨seconds * Span.nanosPerSecond + nanos⟩

/-- **How long ago a moment was**; `none` if it is yet to come. -/
def since? (now earlier : Instant) : Option Span :=
  if earlier.nanos ≤ now.nanos then some ⟨(now.nanos - earlier.nanos).toNat⟩ else none

/-- The moment after a length of time, unless its seconds leave the signed 64-bit range. -/
def advance? (now : Instant) (step : Span) : Option Instant :=
  let later := now.nanos + step.nanos
  if later < (Int64.maxValue.toInt + 1) * Span.nanosPerSecond then some ⟨later⟩ else none

/-- The whole seconds since the epoch; zero before it. -/
def wholeSeconds (now : Instant) : Nat := now.nanos.toNat / Span.nanosPerSecond

/-- The seconds since the epoch as a double: the whole seconds and the rest are rounded each, then
their sum.  Zero before the epoch. -/
def epochSeconds (now : Instant) : Float :=
  (UInt64.ofNat now.wholeSeconds).toFloat
    + (UInt64.ofNat (now.nanos.toNat % Span.nanosPerSecond)).toFloat / 1000000000.0

end Instant

end OrderHerald
