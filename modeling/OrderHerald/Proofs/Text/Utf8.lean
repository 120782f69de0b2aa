import OrderHerald.Text.Utf8

/-!
# A text and its bytes

The bytes of a text are read as the characters of the text, whatever these are.

**One character at a time.**  Between two characters nothing is open, so it is enough to follow the
bytes of one.  Its first byte says how many are to come and which bits they bring; each of the
others brings six bits (`Utf8.decodeFrom_tail`).  The bounds that the first byte puts on the second
hold because a character is no half of a surrogate pair and is not written longer than needed.

## Main statements

* `Utf8.decode_toUTF8` — the bytes of a text are its characters.
-/

namespace OrderHerald

namespace Utf8

/-! ### The bytes of a character -/

/-- **A byte that goes on**: it brings six bits, and if it is the last, the character is there. -/
theorem decodeFrom_tail (p : Pending) (n : Nat) (rest : List UInt8)
    (low : p.lowest.toNat ≤ n % 64 + 0x80) (high : n % 64 + 0x80 ≤ p.highest.toNat) :
    decodeFrom (some p) (UInt8.ofNat (n % 64 + 0x80) :: rest) =
      if p.remaining ≤ 1 then some (Char.ofNat (p.bits * 64 + n % 64)) :: decodeFrom none rest
      else decodeFrom (some ⟨p.remaining - 1, p.bits * 64 + n % 64, 0x80, 0xBF⟩) rest := by
  have value : (UInt8.ofNat (n % 64 + 0x80)).toNat = n % 64 + 0x80 := by
    rw [UInt8.toNat_ofNat']
    omega
  have within : p.lowest ≤ UInt8.ofNat (n % 64 + 0x80) ∧ UInt8.ofNat (n % 64 + 0x80) ≤ p.highest := by
    rw [UInt8.le_iff_toNat_le, UInt8.le_iff_toNat_le, value]
    exact ⟨low, high⟩
  have bits : n % 64 + 0x80 - 0x80 = n % 64 := by omega
  rw [decodeFrom.eq_def]
  simp only [step, if_pos within, value, bits]
  split <;> rfl

/-- The first byte of two. -/
theorem decodeFrom_two {first : UInt8} {rest : List UInt8} (low : 0xC2 ≤ first.toNat)
    (high : first.toNat < 0xE0) :
    decodeFrom none (first :: rest)
      = decodeFrom (some ⟨1, first.toNat - 0xC0, 0x80, 0xBF⟩) rest := by
  have led : lead first = ([], some ⟨1, first.toNat - 0xC0, 0x80, 0xBF⟩) := by
    simp only [lead, UInt8.lt_iff_toNat_lt, UInt8.toNat_ofNat]
    rw [if_neg (by omega), if_neg (by omega), if_pos (by omega)]
  simp only [decodeFrom, step, led, List.nil_append]

/-- The first byte of three. -/
theorem decodeFrom_three {first : UInt8} {rest : List UInt8} (low : 0xE0 ≤ first.toNat)
    (high : first.toNat < 0xF0) :
    decodeFrom none (first :: rest)
      = decodeFrom (some ⟨2, first.toNat - 0xE0, if first = 0xE0 then 0xA0 else 0x80,
          if first = 0xED then 0x9F else 0xBF⟩) rest := by
  have led : lead first = ([], some ⟨2, first.toNat - 0xE0, if first = 0xE0 then 0xA0 else 0x80,
      if first = 0xED then 0x9F else 0xBF⟩) := by
    simp only [lead, UInt8.lt_iff_toNat_lt, UInt8.toNat_ofNat]
    rw [if_neg (by omega), if_neg (by omega), if_neg (by omega), if_pos (by omega)]
  simp only [decodeFrom, step, led, List.nil_append]

/-- The first byte of four. -/
theorem decodeFrom_four {first : UInt8} {rest : List UInt8} (low : 0xF0 ≤ first.toNat)
    (high : first.toNat < 0xF5) :
    decodeFrom none (first :: rest)
      = decodeFrom (some ⟨3, first.toNat - 0xF0, if first = 0xF0 then 0x90 else 0x80,
          if first = 0xF4 then 0x8F else 0xBF⟩) rest := by
  have led : lead first = ([], some ⟨3, first.toNat - 0xF0, if first = 0xF0 then 0x90 else 0x80,
      if first = 0xF4 then 0x8F else 0xBF⟩) := by
    simp only [lead, UInt8.lt_iff_toNat_lt, UInt8.toNat_ofNat]
    rw [if_neg (by omega), if_neg (by omega), if_neg (by omega), if_neg (by omega),
      if_pos (by omega)]
  simp only [decodeFrom, step, led, List.nil_append]

/-- A byte is the first of a range, or its number is another. -/
theorem toNat_ite {byte bound a b : UInt8} :
    (if byte = bound then a else b).toNat
      = if byte.toNat = bound.toNat then a.toNat else b.toNat := by
  simp only [← UInt8.toNat_inj]
  split <;> rfl

/-- **The bytes of a character are read as the character**, whatever follows. -/
theorem decodeFrom_encodeChar (c : Char) (rest : List UInt8) :
    decodeFrom none (String.utf8EncodeChar c ++ rest) = some c :: decodeFrom none rest := by
  have scalar : c.toNat < 0xD800 ∨ 0xDFFF < c.toNat ∧ c.toNat < 0x110000 := c.valid
  have value : c.val.toNat = c.toNat := rfl
  have back : ∀ {n : Nat}, n = c.toNat → Char.ofNat n = c := by
    rintro n rfl
    exact Char.ofNat_toNat c
  unfold String.utf8EncodeChar
  rw [value]
  generalize hv : c.toNat = v at *
  simp only
  by_cases one : v ≤ 0x7F
  · have byte : (UInt8.ofNat v).toNat = v := by rw [UInt8.toNat_ofNat']; omega
    have led : lead (UInt8.ofNat v) = ([some (Char.ofNat v)], none) := by
      simp only [lead, UInt8.lt_iff_toNat_lt, UInt8.toNat_ofNat, byte]
      rw [if_pos (by omega)]
    rw [if_pos one]
    simp [decodeFrom, step, led, back rfl]
  rw [if_neg one]
  by_cases two : v ≤ 0x7FF
  · have byte : (UInt8.ofNat (v / 64 % 0x20 + 0xC0)).toNat = v / 64 + 0xC0 := by
      rw [UInt8.toNat_ofNat']; omega
    rw [if_pos two, List.cons_append, decodeFrom_two (by omega) (by omega), byte, List.cons_append,
      decodeFrom_tail _ v _ (by simp) (by simp; omega), if_pos (by simp), back (by simp; omega)]
    rfl
  rw [if_neg two]
  by_cases three : v ≤ 0xFFFF
  · have byte : (UInt8.ofNat (v / 4096 % 0x10 + 0xE0)).toNat = v / 4096 + 0xE0 := by
      rw [UInt8.toNat_ofNat']; omega
    rw [if_pos three, List.cons_append, decodeFrom_three (by omega) (by omega), List.cons_append,
      decodeFrom_tail _ (v / 64) _ ?low ?high, if_neg (by simp), List.cons_append,
      decodeFrom_tail _ v _ (by simp) (by simp; omega), if_pos (by simp), byte,
      back (by simp; omega)]
    · rfl
    case low =>
      simp only [toNat_ite, byte, UInt8.toNat_ofNat]
      split <;> omega
    case high =>
      simp only [toNat_ite, byte, UInt8.toNat_ofNat]
      split <;> omega
  · have byte : (UInt8.ofNat (v / 262144 % 0x08 + 0xF0)).toNat = v / 262144 + 0xF0 := by
      rw [UInt8.toNat_ofNat']; omega
    rw [if_neg three, List.cons_append, decodeFrom_four (by omega) (by omega), List.cons_append,
      decodeFrom_tail _ (v / 4096) _ ?low ?high, if_neg (by simp), List.cons_append,
      decodeFrom_tail _ (v / 64) _ (by simp) (by simp; omega), if_neg (by simp), List.cons_append,
      decodeFrom_tail _ v _ (by simp) (by simp; omega), if_pos (by simp), byte,
      back (by simp; omega)]
    · rfl
    case low =>
      simp only [toNat_ite, byte, UInt8.toNat_ofNat]
      split <;> omega
    case high =>
      simp only [toNat_ite, byte, UInt8.toNat_ofNat]
      split <;> omega

/-! ### The bytes of a text -/

theorem decode_flatMap_encodeChar (text : List Char) :
    decode (text.flatMap String.utf8EncodeChar) = text.map some := by
  unfold decode
  induction text with
  | nil => rfl
  | cons c text ih => rw [List.flatMap_cons, decodeFrom_encodeChar, ih, List.map_cons]

/-- The list of bytes is made from its end, so what has been read stands in reverse. -/
theorem toList_loop (bytes : ByteArray) (i : Nat) (read : List UInt8) :
    ByteArray.toList.loop bytes i read = read.reverse ++ bytes.data.toList.drop i := by
  fun_induction ByteArray.toList.loop bytes i read with
  | case1 i read inside ih =>
    have inRange : i < bytes.data.toList.length := by simpa using inside
    rw [ih, List.drop_eq_getElem_cons inRange]
    simp [ByteArray.get!, inside]
  | case2 i read outside =>
    have beyond : bytes.data.toList.length ≤ i := by simpa using outside
    rw [List.drop_eq_nil_of_le beyond, List.append_nil]

/-- The bytes of a text are those of its characters, one after the other. -/
theorem toList_toUTF8 (text : String) :
    text.toUTF8.toList = text.toList.flatMap String.utf8EncodeChar := by
  rw [ByteArray.toList, toList_loop, String.toUTF8_eq_toByteArray, ← String.utf8Encode_toList,
    List.utf8Encode, List.toList_data_toByteArray]
  rfl

/-- **The bytes of a text are its characters.** -/
theorem decode_toUTF8 (text : String) : decode text.toUTF8.toList = symbols text := by
  rw [toList_toUTF8, decode_flatMap_encodeChar, symbols]

/-- Texts with the same bytes are the same. -/
theorem flatMap_encodeChar_inj {text other : List Char}
    (h : text.flatMap String.utf8EncodeChar = other.flatMap String.utf8EncodeChar) : text = other := by
  have same := congrArg decode h
  rw [decode_flatMap_encodeChar, decode_flatMap_encodeChar] at same
  exact (List.map_inj_right fun _ _ eq => Option.some.inj eq).mp same

end Utf8

end OrderHerald
