import OrderHerald.Json.Numeral

/-!
# Integers in decimal read back

An integer is written with the fewest decimal digits.  The two readers of this library, that of
attributes and that of JSON, read this text as the integer it was made from, as far as their ranges
go.

**One digit at a time.**  The digits of a number from ten on are those of its tenth and one more, and so it
is in every base; hence every fact about the text of a number is carried from the tenth to the number itself.

* `Numeral.ofInt` — the numeral that an integer is written as.

## Main statements

* `Decimal.uint64?_repr` — the reader of attributes.
* `Numeral.ofChars?_repr`, `Numeral.value?_ofInt` — the reader of JSON.
-/

namespace OrderHerald

/-! ### Digits -/

theorem Decimal.digit?_digitChar : ∀ d < 10, Decimal.digit? (Nat.digitChar d) = some d := by
  decide

/-- **What holds of the text of every number**, in whatever base: it holds of one digit, and one more
digit behind the text of a number that is not zero keeps it. -/
theorem toDigits_induction {base : Nat} (many : 1 < base) {motive : Nat → List Char → Prop}
    (one : ∀ d < base, motive d [Nat.digitChar d])
    (more : ∀ n d, 0 < n → d < base → motive n (Nat.toDigits base n) →
      motive (n * base + d) (Nat.toDigits base n ++ [Nat.digitChar d])) (n : Nat) :
    motive n (Nat.toDigits base n) := by
  induction n using Nat.strongRecOn with
  | ind n ih =>
    by_cases small : n < base
    · rw [Nat.toDigits_of_lt_base small]
      exact one n small
    · have large : base ≤ n := Nat.le_of_not_lt small
      have front : 0 < n / base := Nat.div_pos large (by omega)
      have last : n % base < base := Nat.mod_lt n (by omega)
      have shorter : motive (n / base) (Nat.toDigits base (n / base)) :=
        ih (n / base) (Nat.div_lt_self (by omega) many)
      have whole := more (n / base) (n % base) front last shorter
      rw [Nat.toDigits_of_base_le many large]
      rwa [Nat.div_add_mod'] at whole

namespace Decimal

theorem continue?_append (n : Nat) (front back : List Char) :
    continue? n (front ++ back) = (continue? n front).bind (continue? · back) := by
  induction front generalizing n with
  | nil => rfl
  | cons c rest ih =>
    simp only [List.cons_append, continue?]
    cases digit? c with
    | none => rfl
    | some d => exact ih _

theorem continue?_toDigits (n : Nat) : continue? 0 (Nat.toDigits 10 n) = some n := by
  refine toDigits_induction (by decide) (motive := fun n text => continue? 0 text = some n) ?_ ?_ n
  · intro d small
    simp [continue?, digit?_digitChar d small]
  · intro n d _ small ih
    simp [continue?_append, ih, continue?, digit?_digitChar d small]

/-- Every character of the text is a digit. -/
theorem isDigit_of_mem {n : Nat} {c : Char} (h : c ∈ Nat.toDigits 10 n) : c.isDigit = true :=
  Nat.isDigit_of_mem_toDigits (by decide) (by decide) h

theorem natural?_toDigits (n : Nat) : natural? (Nat.toDigits 10 n) = some n := by
  cases text : Nat.toDigits 10 n with
  | nil => exact absurd text Nat.toDigits_ne_nil
  | cons c rest => rw [natural?, ← text, continue?_toDigits]; nofun

theorem positive?_toDigits (n : Nat) : positive? (Nat.toDigits 10 n) = some n := by
  unfold positive?
  split
  · rename_i rest text
    have sign : ('+' : Char).isDigit = true := isDigit_of_mem (text ▸ List.mem_cons_self)
    exact absurd sign (by decide)
  · exact natural?_toDigits n

/-- **The text of an unsigned 64-bit integer is read as that integer.** -/
theorem uint64?_repr (n : UInt64) : uint64? n.toNat.repr = some n := by
  rw [uint64?, Nat.toList_repr, positive?_toDigits]
  simp [n.toNat_lt]

end Decimal

namespace Numeral

/-- **The digits of a number**, the first of them zero for zero alone. -/
structure IsDigitsOf (n : Nat) (ds : List Nat) : Prop where
  value : ofDigits ds = n
  nonempty : ds ≠ []
  head : 0 < n → ds.head? ≠ some 0
  zero : n = 0 → ds = [0]

theorem digits_append {front back : List Char} {ds : List Nat} (h : digits front = (ds, [])) :
    digits (front ++ back) = (ds ++ (digits back).1, (digits back).2) := by
  induction front generalizing ds with
  | nil =>
    obtain rfl : [] = ds := (Prod.mk.inj h).1
    rfl
  | cons c rest ih =>
    simp only [digits, List.cons_append] at h ⊢
    cases digit : Decimal.digit? c with
    | none => simp [digit] at h
    | some d =>
      simp only [digit, Prod.mk.injEq] at h
      obtain ⟨rfl, tail⟩ := h
      rw [ih (Prod.ext rfl tail)]
      rfl

theorem digits_toDigits (n : Nat) :
    ∃ ds, digits (Nat.toDigits 10 n) = (ds, []) ∧ IsDigitsOf n ds := by
  refine toDigits_induction (by decide)
    (motive := fun n text => ∃ ds, digits text = (ds, []) ∧ IsDigitsOf n ds) ?_ ?_ n
  · intro d small
    refine ⟨[d], by simp [digits, Decimal.digit?_digitChar d small], ?_⟩
    exact ⟨by simp [ofDigits], by simp, fun pos => by simp; omega, fun zero => by rw [zero]⟩
  · rintro n d pos small ⟨ds, read, whole⟩
    refine ⟨ds ++ [d], ?_, ?_⟩
    · rw [digits_append read]
      simp [digits, Decimal.digit?_digitChar d small]
    · have head : (ds ++ [d]).head? = ds.head? := by
        cases ds with
        | nil => exact absurd rfl whole.nonempty
        | cons first rest => rfl
      refine ⟨?_, by simp, fun _ => head ▸ whole.head pos, fun zero => by omega⟩
      have value := whole.value
      simp only [ofDigits] at value
      simp [ofDigits, value]

/-- The numeral that an integer is written as. -/
def ofInt (value : Int) : Numeral where
  negative := value < 0
  whole := (digits (Nat.toDigits 10 value.natAbs)).1
  fraction := none
  exponent := none

/-- The digits of a number are the numeral of its magnitude, whatever its sign. -/
theorem ofMagnitude?_toDigits (negative : Bool) (n : Nat) :
    ofMagnitude? negative (Nat.toDigits 10 n)
      = some ⟨negative, (digits (Nat.toDigits 10 n)).1, none, none⟩ := by
  obtain ⟨ds, read, whole⟩ := digits_toDigits n
  rw [ofMagnitude?, read]
  -- The other branches ask for no digits, for a zero in front of others, or for more text.
  split
  · rename_i eq
    exact absurd (Prod.mk.inj eq).1 whole.nonempty
  · rename_i first rest eq
    obtain ⟨rfl, -⟩ := Prod.mk.inj eq
    rcases Nat.eq_zero_or_pos n with zero | pos
    · cases whole.zero zero
    · exact absurd rfl (whole.head pos)
  · rename_i eq
    cases (Prod.mk.inj eq).2
  · rename_i eq
    obtain ⟨rfl, rfl⟩ := Prod.mk.inj eq
    rfl

/-- **The text of an integer is the numeral of that integer.** -/
theorem ofChars?_repr (value : Int) : ofChars? value.repr.toList = some (ofInt value) := by
  rw [Int.repr_eq_if]
  split
  · rename_i nonneg
    have positive : decide (value < 0) = false := by simpa using nonneg
    have magnitude : value.natAbs = value.toNat := by omega
    rw [Nat.toList_repr, ofInt, magnitude, positive, ← ofMagnitude?_toDigits]
    unfold ofChars?
    split
    · rename_i rest text
      have sign : ('-' : Char).isDigit = true := Decimal.isDigit_of_mem (text ▸ List.mem_cons_self)
      exact absurd sign (by decide)
    · rfl
  · rename_i negative
    have negative : decide (value < 0) = true := by simpa using negative
    have magnitude : value.natAbs = (-value).toNat := by omega
    rw [String.toList_append, Nat.toList_repr, ofInt, magnitude, negative, ← ofMagnitude?_toDigits]
    rfl

theorem ofDigits_ofInt (value : Int) : ofDigits (ofInt value).whole = value.natAbs := by
  obtain ⟨ds, read, whole⟩ := digits_toDigits value.natAbs
  rw [ofInt, read]
  exact whole.value

/-- **The numeral of an integer of at most 64 bits denotes that integer.** -/
theorem value?_ofInt {value : Int} (low : Int64.minValue.toInt ≤ value)
    (high : value < UInt64.size) : (ofInt value).value? = some (.integer value) := by
  have magnitude := ofDigits_ofInt value
  by_cases negative : value < 0
  · have inRange : 0 < value.natAbs ∧ Int64.minValue.toInt ≤ -(value.natAbs : Int) := by omega
    simp only [value?, magnitude]
    simp only [ofInt, negative, decide_true, if_pos inRange]
    congr 2
    omega
  · have inRange : value.natAbs < UInt64.size := by omega
    simp only [value?, magnitude]
    simp only [ofInt, negative, decide_false, if_pos inRange]
    congr 2
    omega

end Numeral

end OrderHerald
