import OrderHerald.Proofs.Text.Utf8
import OrderHerald.Url.Percent

/-!
# Percent-encoding and back

An encoded text stands for the bytes of the text, whatever set of characters is encoded in it, as long as the
percent sign is in the set.

## Main statements

* `Percent.decode_encode` — an encoded text stands for the bytes of the text.
* `Percent.slash_not_mem_encode` — a slash that is encoded is gone.
-/

namespace OrderHerald

namespace Percent

variable {set : Char → Bool} {c : Char} {text : List Char}

/-! ### Bytes -/

theorem hexDigit?_digit : ∀ n < 16, Escape.hexDigit? (digit n) = some n := by
  decide

theorem decode_encodeByte (byte : UInt8) (rest : List Char) :
    decode (encodeByte byte ++ rest) = byte :: decode rest := by
  have high := hexDigit?_digit (byte.toNat / 16) (by have := byte.toNat_lt; omega)
  have low := hexDigit?_digit (byte.toNat % 16) (by omega)
  have whole : byte.toNat / 16 * 16 + byte.toNat % 16 = byte.toNat := by omega
  rw [encodeByte, List.cons_append, List.cons_append, List.cons_append, List.nil_append, decode]
  simp only [high, low, whole, UInt8.ofNat_toNat]

theorem decode_encodeBytes (bytes : List UInt8) (rest : List Char) :
    decode (bytes.flatMap encodeByte ++ rest) = bytes ++ decode rest := by
  induction bytes with
  | nil => rfl
  | cons byte bytes ih =>
    rw [List.flatMap_cons, List.append_assoc, decode_encodeByte, ih]
    rfl

/-! ### Texts -/

/-- A character that is no percent sign stands for itself. -/
theorem decode_cons (other : c ≠ '%') (rest : List Char) :
    decode (c :: rest) = String.utf8EncodeChar c ++ decode rest := by
  rw [decode]
  intro a b more eq
  exact absurd eq other

/-- **An encoded text stands for the bytes of the text.** -/
theorem decode_encode (escapes : set '%' = true) (text : List Char) :
    decode (encode set text) = text.flatMap String.utf8EncodeChar := by
  induction text with
  | nil => rfl
  | cons c text ih =>
    rw [List.flatMap_cons, ← ih, encode, List.flatMap_cons, encodeChar]
    split
    · exact decode_encodeBytes _ _
    · rename_i plain
      refine decode_cons ?_ _
      rintro rfl
      exact plain (by simp [escapes])

/-- **A slash that is encoded is gone.** -/
theorem slash_not_mem_encode (slash : set '/' = true) : '/' ∉ encode set text := by
  have digits : ∀ n < 16, digit n ≠ '/' := by decide
  intro mem
  obtain ⟨c, -, mem⟩ := List.mem_flatMap.mp mem
  rw [encodeChar] at mem
  split at mem
  · obtain ⟨byte, -, mem⟩ := List.mem_flatMap.mp mem
    have high := digits (byte.toNat / 16) (by have := byte.toNat_lt; omega)
    have low := digits (byte.toNat % 16) (by omega)
    simp only [encodeByte, List.mem_cons, List.not_mem_nil, or_false] at mem
    rcases mem with mem | mem | mem
    · exact absurd mem (by decide)
    · exact high mem.symm
    · exact low mem.symm
  · rename_i plain
    obtain rfl := List.mem_singleton.mp mem
    exact plain (by simp [slash])

end Percent

end OrderHerald
