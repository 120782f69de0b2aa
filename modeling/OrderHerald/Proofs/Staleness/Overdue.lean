import OrderHerald.Proofs.Http.Asking
import OrderHerald.Proofs.Staleness.Observe

/-!
# Stale means overdue

An order is stale when the clock on which its price decays is past the start of the decay by more than a
threshold.  Start, reading and threshold are unsigned numbers of 64 bits; their distance is taken as a
signed one, and so is the threshold.

**Where signed numbers end.**  A distance that does not fit is no distance, and an order without a distance
is not stale.  Up to the greatest signed number the threshold is what it was set to, so there the comparison
is the one of the integers.

* `Judged` — what is said of an order is right, by integers.
* `value_observe` — what observing an order comes to.

## Main statements

* `judged_distance?` — signed numbers of 64 bits judge as integers do.
* `isStale_judged` — whether an observed order is stale.
-/

namespace OrderHerald

/-! ### Integers -/

/-- **A threshold that is a signed number is taken for what it is.** -/
theorem signedThreshold_eq {threshold : UInt64}
    (h : (threshold.toNat : Int) ≤ Int64.maxValue.toInt) : signedThreshold threshold = threshold.toNat := by
  have small : 2 * threshold.toBitVec.toNat < 2 ^ 64 := by
    change 2 * threshold.toNat < _
    have greatest : Int64.maxValue.toInt = 9223372036854775807 := by decide
    omega
  change threshold.toBitVec.toInt = _
  rw [BitVec.toInt_eq_toNat_cond, if_pos small]
  rfl

/-- **What is said of an order is right**: it began to decay at `start`, its clock shows `reading`, and
`stale` tells whether it is called stale under a threshold. -/
structure Judged (threshold reading start : UInt64) (stale : Bool) : Prop where
  /-- The order is stale exactly if it is past its start by more than the threshold, and by a signed
  number. -/
  stale_iff : (threshold.toNat : Int) ≤ Int64.maxValue.toInt →
    (stale = true ↔ (threshold.toNat : Int) < (reading.toNat : Int) - start.toNat ∧
      (reading.toNat : Int) - start.toNat ≤ Int64.maxValue.toInt)
  /-- Where the distance is no signed number the order is not stale, whatever the threshold. -/
  beyond : (reading.toNat : Int) - start.toNat < Int64.minValue.toInt ∨
    Int64.maxValue.toInt < (reading.toNat : Int) - start.toNat → stale = false

/-- **Signed numbers of 64 bits judge as integers do.** -/
theorem judged_distance? (threshold reading start : UInt64) :
    Judged threshold reading start
      ((distance? reading start).any fun count => signedThreshold threshold < count) := by
  have least : Int64.minValue.toInt < 0 := by decide
  by_cases fits : fitsInt64 ((reading.toNat : Int) - start.toNat) = true
  · rw [distance?_eq_some_iff.mpr ⟨rfl, fits⟩]
    simp only [fitsInt64, Bool.and_eq_true, decide_eq_true_eq] at fits
    refine ⟨fun small => ?_, fun outside => by omega⟩
    rw [Option.any_some, decide_eq_true_eq, signedThreshold_eq small]
    exact (and_iff_left fits.2).symm
  · have none : distance? reading start = none := by simp [distance?, fits]
    rw [none, Option.any_none]
    simp only [fitsInt64, Bool.and_eq_true, decide_eq_true_eq] at fits
    refine ⟨fun _ => iff_of_false Bool.false_ne_true fun late => ?_, fun _ => rfl⟩
    -- An order that is late by too much for a signed number is not early by too much.
    omega

/-! ### Observing -/

variable {ω : Type}

theorem world_recordInsertion (labels : List Label) (insertion : Option UInt64) (world : ω) :
    (recordInsertion labels insertion world).world = world := by
  cases insertion <;> rfl

/-- **What observing an order comes to.**  The clock is read first, and the source of blocks is asked after
that. -/
theorem value_observe (s : Surroundings ω) (blocks : BlockSource ω) (thresholds : Thresholds)
    (stored : StoredOrder) (writtenAt : Option UInt64) (world : ω) :
    let now := (s.now world).1.epochSeconds
    let distance :=
      (stored.variant.distance blocks stored.order.chainId now.toUInt64 (s.now world).2).value
    (observe s blocks thresholds stored writtenAt world).value
      = ⟨writtenAt.map (insertionSeconds now), distance, distance.any thresholds.exceededBy⟩ := by
  intro now distance
  simp only [observe, Run.value_bind]
  have unmoved : ∀ insertion, (recordInsertion stored.labels insertion (s.clock world).world).world
      = (s.now world).2 := fun insertion => world_recordInsertion _ _ _
  rw [unmoved]
  split <;> rfl

/-- **The distance in blocks** is taken from what the source answers, if it answers a block. -/
theorem Variant.value_distance_blocks {variant : Variant} {start : UInt64}
    (clock : variant = .dutchV3 start ∨ variant = .priority start) (blocks : BlockSource ω)
    (chainId seconds : UInt64) (world : ω) :
    (variant.distance blocks chainId seconds world).value
      = match (blocks.latest chainId world).value with
        | .ok (some current) => (distance? current start).map .blocks
        | _ => none := by
  have since : (variant.distance blocks chainId seconds world).value
      = (blocksSince blocks chainId start world).value := by
    rcases clock with rfl | rfl <;> rfl
  rw [since, blocksSince, Run.value_bind]
  cases (blocks.latest chainId world).value with
  | error reason => rfl
  | ok latest => cases latest <;> rfl

/-- **An order is stale exactly if it is overdue.**  For every order, moment, source of blocks and
thresholds, with the whole seconds that the clock shows and what the source answers about the order's
chain:

* a Dutch order that decays in time is judged by the seconds since its start;
* one that decays in blocks, or is auctioned, is judged by the blocks since its start, and is not stale
  where the source fails or knows no block;
* an order whose type has no clock is not stale. -/
theorem isStale_judged (s : Surroundings ω) (blocks : BlockSource ω) (thresholds : Thresholds)
    (stored : StoredOrder) (writtenAt : Option UInt64) (world : ω) :
    let seconds := (s.now world).1.epochSeconds.toUInt64
    let latest := (blocks.latest stored.order.chainId (s.now world).2).value
    let stale := (observe s blocks thresholds stored writtenAt world).value.isStale
    (∀ start stop, stored.variant = .dutchV2 start stop →
        Judged thresholds.seconds seconds start stale)
    ∧ (∀ start, stored.variant = .dutchV3 start ∨ stored.variant = .priority start →
        (∀ current, latest = .ok (some current) → Judged thresholds.blocks current start stale)
        ∧ ((∀ current, latest ≠ .ok (some current)) → stale = false))
    ∧ (stored.variant = .dutch ∨ stored.variant = .limit → stale = false) := by
  intro seconds latest stale
  have measured : stale = (stored.variant.distance blocks stored.order.chainId seconds
      (s.now world).2).value.any thresholds.exceededBy := by
    change (observe s blocks thresholds stored writtenAt world).value.isStale = _
    rw [value_observe]
  clear_value stale
  subst measured
  refine ⟨?_, ?_, ?_⟩
  · intro start stop clock
    rw [clock]
    change Judged _ _ _ (((distance? seconds start).map Distance.seconds).any _)
    rw [Option.any_map]
    exact judged_distance? thresholds.seconds seconds start
  · intro start clock
    rw [Variant.value_distance_blocks clock]
    refine ⟨fun current known => ?_, fun unknown => ?_⟩
    · simp only [show (blocks.latest stored.order.chainId (s.now world).2).value = _ from known]
      rw [Option.any_map]
      exact judged_distance? thresholds.blocks current start
    · split
      · rename_i current known
        exact absurd known (unknown current)
      · rfl
  · intro clock
    rcases clock with clock | clock <;> rw [clock] <;> rfl

/-! ### At the end of the signed numbers -/

/-- A source that knows the same block of every chain. -/
def BlockSource.constant (block : UInt64) : BlockSource Unit :=
  ⟨fun _ => pure (.ok (some block)), fun _ => Run.writes_pure _⟩

/-- An order that is auctioned from a block on. -/
def auctionedFrom (block : UInt64) : StoredOrder :=
  ⟨⟨"0xhash", 1700000000, "0xsig", "0xZ", .open, "0xencoded", 1, some .priority, none, none⟩,
    .priority block⟩

theorem isStale_judged_twoBlocksLate :
    let stale := (observe (.still ⟨0⟩) (.constant 202) {} (auctionedFrom 200) none ()).value.isStale
    Judged 1 202 200 stale ∧ stale = true := by
  intro stale
  obtain ⟨-, auctioned, -⟩ :=
    isStale_judged (.still ⟨0⟩) (.constant 202) {} (auctionedFrom 200) none ()
  have judged : Judged 1 202 200 stale := (auctioned 200 (.inr rfl)).1 202 rfl
  exact ⟨judged, (judged.stale_iff (by decide)).mpr (by decide)⟩

/-- **An order that is late by more than any signed number is not called stale**, and under a threshold
that is no signed number an order is stale before its auction begins. -/
theorem beyond_signed_numbers :
    let stale := fun (thresholds : Thresholds) (block start : UInt64) =>
      (observe (.still ⟨0⟩) (.constant block) thresholds (auctionedFrom start) none ()).value.isStale
    ¬ (stale {} 9223372036854775808 0 = true ↔
        ((1 : UInt64).toNat : Int) < ((9223372036854775808 : UInt64).toNat : Int) - (0 : UInt64).toNat)
    ∧ ¬ (stale { blocks := 9223372036854775808 } 199 200 = true ↔
        ((9223372036854775808 : UInt64).toNat : Int)
          < ((199 : UInt64).toNat : Int) - (200 : UInt64).toNat) := by
  intro stale
  have fresh : stale {} 9223372036854775808 0 = false := by rfl
  have early : stale { blocks := 9223372036854775808 } 199 200 = true := by rfl
  rw [fresh, early]
  decide

end OrderHerald
