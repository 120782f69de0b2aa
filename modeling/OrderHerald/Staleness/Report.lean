import OrderHerald.Order.Kind

/-!
# How stale orders are

An order whose price decays is stale when it is looked at too long after the decay began.  The
distance is counted in seconds or in blocks, as a signed 64-bit number; a distance that does not fit
is no distance.

* `BlockError` — why the latest block of a chain is not known.
* `Distance` — how far past the start of its decay an order is; `distance?` measures.
* `StalenessReport` — what was observed about an order.

## Main statements

* `distance?_eq_some_iff` — a distance is the exact difference, and is there when it fits.
-/

namespace OrderHerald

/-- Why the latest block of a chain is not known. -/
inductive BlockError where
  /-- The node did not answer. -/
  | request
  /-- The node answered with an error, given as a compact document. -/
  | rpc (error : String)
  /-- The node's answer holds no block number. -/
  | invalidResult (result : String)
  deriving DecidableEq, Repr

/-- The text of an error. -/
def BlockError.message : BlockError → String
  | .request => "rpc request failed"
  | .rpc error => "rpc error: " ++ error
  | .invalidResult result => "invalid block number: " ++ result

/-- How far past the start of its decay an order is; negative before it. -/
inductive Distance where
  | seconds (count : Int)
  | blocks (count : Int)
  deriving DecidableEq, Repr

/-- What was observed about an order. -/
structure StalenessReport where
  /-- Seconds since the change was written, as the bits of a double. -/
  insertion : Option UInt64 := none
  distance : Option Distance := none
  isStale : Bool := false
  deriving DecidableEq, Repr, Inhabited

/-- The number lies between the least and the greatest signed 64-bit number. -/
def fitsInt64 (n : Int) : Bool := Int64.minValue.toInt ≤ n && n ≤ Int64.maxValue.toInt

/-- **The distance from a start**, if it fits 64 bits. -/
def distance? (now start : UInt64) : Option Int :=
  let difference : Int := now.toNat - start.toNat
  if fitsInt64 difference then some difference else none

theorem distance?_eq_some_iff {now start : UInt64} {n : Int} :
    distance? now start = some n ↔ n = now.toNat - start.toNat ∧ fitsInt64 n = true := by
  simp only [distance?]
  constructor
  · intro h
    split at h
    · rename_i fits
      have : ((now.toNat : Int) - start.toNat) = n := by simpa using h
      exact ⟨this.symm, this ▸ fits⟩
    · simp at h
  · rintro ⟨rfl, fits⟩
    simp [fits]

/-- A threshold as a signed 64-bit number: its bits are taken as they are. -/
def signedThreshold (threshold : UInt64) : Int := threshold.toInt64.toInt

end OrderHerald
