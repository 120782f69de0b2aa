import OrderHerald.Clock
import OrderHerald.Routing.Definition

/-!
# A routing definition that was fetched

* `Entry` — a routing definition and the moment it was fetched.
* `Entry.isFresh` — it is served for the refresh period, the end included.

## Main statements

* `Entry.isFresh_iff` — an entry is fresh as long as the clock is not past its period; a clock that
  was set back does not make it old.
* `Entry.fresh?_eq_some_iff`, `Entry.fresh?_eq_none_iff` — what is served, and when nothing is.
-/

namespace OrderHerald

/-- A routing definition and the moment the clock showed when it had been fetched. -/
structure Entry where
  definition : Definition
  fetchedAt : Instant
  deriving DecidableEq, Repr

namespace Entry

/-- **The entry may be served**: its age is at most the period, or its moment is yet to come. -/
def isFresh (entry : Entry) (period : Span) (now : Instant) : Bool :=
  match now.since? entry.fetchedAt with
  | some age => age ≤ period
  | none => true

theorem isFresh_iff (entry : Entry) (period : Span) (now : Instant) :
    entry.isFresh period now = true ↔ now.nanos ≤ entry.fetchedAt.nanos + period.nanos := by
  simp only [isFresh, Instant.since?]
  split
  · rename_i age h
    split at h
    · cases h
      simp only [decide_eq_true_eq]
      change (now.nanos - entry.fetchedAt.nanos).toNat ≤ period.nanos ↔ _
      omega
    · simp at h
  · rename_i h
    split at h
    · simp at h
    · simp only [true_iff]
      omega

/-- What an entry that may be served holds. -/
def fresh? (entry : Option Entry) (period : Span) (now : Instant) : Option Definition :=
  match entry with
  | none => none
  | some entry => if entry.isFresh period now then some entry.definition else none

/-- What is served stands in the entry, and the entry is fresh. -/
theorem fresh?_eq_some_iff {entry : Option Entry} {period : Span} {now : Instant}
    {definition : Definition} :
    fresh? entry period now = some definition
      ↔ ∃ kept, entry = some kept ∧ kept.definition = definition
          ∧ now.nanos ≤ kept.fetchedAt.nanos + period.nanos := by
  cases entry with
  | none => simp [fresh?]
  | some kept => simp [fresh?, isFresh_iff, and_comm]

/-- Nothing is served exactly if there is no entry or the clock is past its period. -/
theorem fresh?_eq_none_iff {entry : Option Entry} {period : Span} {now : Instant} :
    fresh? entry period now = none
      ↔ ∀ kept ∈ entry, kept.fetchedAt.nanos + period.nanos < now.nanos := by
  cases entry with
  | none => simp [fresh?]
  | some kept =>
    have fresh := kept.isFresh_iff period now
    simp only [fresh?, ite_eq_right_iff, reduceCtorEq, imp_false, fresh, Option.mem_def,
      Option.some.injEq, forall_eq', Int.not_le]

end Entry

end OrderHerald
