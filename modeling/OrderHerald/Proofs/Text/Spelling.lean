import Mathlib.Data.Nat.Digits.Defs
import OrderHerald.Text.Decimal

/-!
# Which texts spell a number

The reader of decimal integers takes one character after the other.  What it takes altogether are the texts
of an optional plus sign and one digit or more, as many of them as one likes; and it reads each of them as
the sum of its digits, each times the power of ten that its place stands for, if that sum has 64 bits.

* `Decimal.Spell` — digits and the number that they spell.
* `Decimal.Spells` — texts and the unsigned 64-bit integer that they spell.

## Main statements

* `Decimal.uint64?_eq_some_iff` — a text is read as an integer exactly if it spells it.
-/

namespace OrderHerald

namespace Decimal

/-- **Digits spell a number**: each counts as often as its place says. -/
structure Spell (digits : List Char) (n : Nat) : Prop where
  nonempty : digits ≠ []
  isDigit : ∀ c ∈ digits, c.isDigit = true
  value : Nat.ofDigits 10 (digits.reverse.map fun c => c.toNat - '0'.toNat) = n

/-- **A text spells an unsigned 64-bit integer**: it is the digits of that integer, or a plus sign and the
digits. -/
def Spells (text : String) (n : UInt64) : Prop :=
  ∃ digits, (text.toList = digits ∨ text.toList = '+' :: digits) ∧ Spell digits n.toNat

theorem digit?_eq_some_iff {c : Char} {d : Nat} :
    digit? c = some d ↔ c.isDigit = true ∧ d = c.toNat - '0'.toNat := by
  have same : c.isDigit = true ↔ '0' ≤ c ∧ c ≤ '9' := by
    simp only [Char.isDigit, Bool.and_eq_true, decide_eq_true_eq]
    exact Iff.rfl
  unfold digit?
  rw [same]
  split <;> grind

/-- **Digits continue a number**: it moves as many places to the left as there are digits. -/
theorem continue?_eq_some_iff {start n : Nat} {digits : List Char} :
    continue? start digits = some n ↔ (∀ c ∈ digits, c.isDigit = true) ∧
      n = start * 10 ^ digits.length
        + Nat.ofDigits 10 (digits.reverse.map fun c => c.toNat - '0'.toNat) := by
  induction digits generalizing start with
  | nil =>
    rw [continue?, Option.some.injEq, eq_comm]
    simp
  | cons c rest ih =>
    rw [continue?, List.forall_mem_cons]
    cases digit : digit? c with
    | none =>
      have other : ¬ c.isDigit = true := fun isDigit => by
        rw [digit?_eq_some_iff.mpr ⟨isDigit, rfl⟩] at digit
        cases digit
      simp [other]
    | some d =>
      obtain ⟨isDigit, rfl⟩ := digit?_eq_some_iff.mp digit
      simp only [ih, isDigit, true_and, List.length_cons, List.reverse_cons, List.map_append,
        List.map_cons, List.map_nil, Nat.ofDigits_append, List.length_map, List.length_reverse,
        Nat.ofDigits_singleton]
      refine and_congr_right fun _ => ?_
      ring_nf

/-- One digit or more are read as the number that they spell. -/
theorem natural?_eq_some_iff {digits : List Char} {n : Nat} :
    natural? digits = some n ↔ Spell digits n := by
  cases digits with
  | nil => exact ⟨nofun, fun spelled => absurd rfl spelled.nonempty⟩
  | cons c rest =>
    rw [natural?, continue?_eq_some_iff, Nat.zero_mul, Nat.zero_add]
    · exact ⟨fun ⟨isDigit, value⟩ => ⟨nofun, isDigit, value.symm⟩,
        fun spelled => ⟨spelled.isDigit, spelled.value.symm⟩⟩
    · nofun

/-- A plus sign is no digit, so it is clear whether a text begins with its digits. -/
theorem positive?_eq_some_iff {text : List Char} {n : Nat} :
    positive? text = some n ↔ ∃ digits, (text = digits ∨ text = '+' :: digits) ∧ Spell digits n := by
  unfold positive?
  split
  · rename_i rest
    rw [natural?_eq_some_iff]
    constructor
    · intro spelled
      exact ⟨rest, .inr rfl, spelled⟩
    · rintro ⟨digits, rfl | signed, spelled⟩
      · exact absurd (spelled.isDigit '+' List.mem_cons_self) (by decide)
      · exact (List.cons.inj signed).2 ▸ spelled
  · rename_i signless
    rw [natural?_eq_some_iff]
    constructor
    · intro spelled
      exact ⟨text, .inl rfl, spelled⟩
    · rintro ⟨digits, rfl | signed, spelled⟩
      · exact spelled
      · exact absurd signed (signless digits)

/-- **A text is read as an integer exactly if it spells it.** -/
theorem uint64?_eq_some_iff {text : String} {n : UInt64} : uint64? text = some n ↔ Spells text n := by
  have read {m : Nat} := @positive?_eq_some_iff text.toList m
  unfold uint64? Spells
  rw [← read]
  cases positive? text.toList with
  | none => simp
  | some m =>
    simp only [Option.some.injEq]
    constructor
    · intro taken
      by_cases inRange : m < UInt64.size
      · rw [if_pos inRange] at taken
        obtain rfl := Option.some.inj taken
        exact (UInt64.toNat_ofNat_of_lt' inRange).symm
      · rw [if_neg inRange] at taken
        cases taken
    · rintro rfl
      rw [if_pos n.toNat_lt, UInt64.ofNat_toNat]

/-- Zeros in front do not count, however many there are. -/
example : uint64? "+0000000000000000000000018446744073709551615" = some 18446744073709551615 := by rfl

end Decimal

end OrderHerald
