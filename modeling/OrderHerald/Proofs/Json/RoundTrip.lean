import OrderHerald.Json.Reader
import OrderHerald.Proofs.Json.Scan
import OrderHerald.Proofs.Text.Utf8

/-!
# Reading what was written

A value that its text tells all about (`Json.IsExact`) is read from its text as it was, from
characters and from bytes.

**Taking a value off the front** of its tokens leaves exactly what stood behind them, so arrays and
objects are read item by item.  The fuel of the reader goes down with every call, and every call
takes a token: as much fuel as tokens is enough (`Json.IsTaken`).

**The limit on nesting** does nothing to a value that keeps to it.

## Main statements

* `Json.IsExact.ofString?_text`, `Json.IsExact.ofBytes?_text` — such a value is read from its text.
* `Json.IsExact.text_injective` — different ones have different texts.
-/

namespace OrderHerald

namespace Json

variable {depth : Nat} {value : Json}

/-! ### From tokens to the value -/

/-- **A value can be taken off the front** of its tokens, with as much fuel as tokens. -/
def IsTaken (value : Json) : Prop :=
  ∀ fuel rest, value.tokens.length ≤ fuel →
    takeValue? fuel (value.tokens ++ rest) = some (value, rest)

/-- No value is without tokens, so there is always fuel for the first call. -/
theorem isTaken_of_succ (h : ∀ fuel rest, value.tokens.length ≤ fuel + 1 →
    takeValue? (fuel + 1) (value.tokens ++ rest) = some (value, rest)) : IsTaken value := by
  intro fuel rest enough
  cases fuel with
  | zero =>
    have nonempty : value.tokens ≠ [] := by cases value <;> simp [tokens]
    exact absurd (List.length_eq_zero_iff.mp (Nat.le_zero.mp enough)) nonempty
  | succ fuel => exact h fuel rest enough

/-- No value begins with the end of an array. -/
theorem head?_tokens_append_ne (value : Json) (rest : List Token) :
    (value.tokens ++ rest).head? ≠ some .closeArray := by
  cases value <;> simp [tokens]

/-- An array with something in it is read item by item. -/
theorem takeValue?_openArray {fuel : Nat} {tokens : List Token}
    (h : tokens.head? ≠ some .closeArray) :
    takeValue? (fuel + 1) (.openArray :: tokens)
      = (takeItems? fuel tokens).map fun (items, rest) => (.array items, rest) := by
  cases tokens with
  | nil => rfl
  | cons token tokens => cases token <;> first | rfl | exact absurd rfl h

/-- The items of an array, from the first on. -/
theorem takeItems?_tokens {item : Json} {items : List Json}
    (h : ∀ other ∈ item :: items, IsTaken other) (fuel : Nat) (rest : List Token)
    (enough : (item.tokens ++ itemTokens false items).length < fuel) :
    takeItems? fuel (item.tokens ++ (itemTokens false items ++ .closeArray :: rest))
      = some (item :: items, rest) := by
  -- On the items behind the first: each costs a comma and a call.
  induction items generalizing item fuel with
  | nil =>
    obtain ⟨fuel, rfl⟩ := Nat.exists_eq_add_one_of_ne_zero (Nat.ne_zero_of_lt enough)
    rw [itemTokens, List.append_nil] at enough
    have here := h item List.mem_cons_self fuel (.closeArray :: rest) (by omega)
    rw [takeItems?, itemTokens, List.nil_append, here]
  | cons next items ih =>
    obtain ⟨fuel, rfl⟩ := Nat.exists_eq_add_one_of_ne_zero (Nat.ne_zero_of_lt enough)
    simp only [itemTokens, Bool.false_eq_true, if_false, List.length_append, List.length_cons,
      List.length_nil] at enough
    have here := h item List.mem_cons_self fuel
      (.comma :: (next.tokens ++ (itemTokens false items ++ .closeArray :: rest))) (by omega)
    have later := ih (fun other mem => h other (List.mem_cons_of_mem item mem)) fuel
      (by rw [List.length_append]; omega)
    simp only [itemTokens, Bool.false_eq_true, if_false, List.cons_append, List.nil_append,
      List.append_assoc]
    rw [takeItems?, here]
    simp only [later, Option.map_some]

theorem isTaken_array {items : List Json} (h : ∀ item ∈ items, IsTaken item) :
    IsTaken (.array items) := by
  refine isTaken_of_succ fun fuel rest enough => ?_
  cases items with
  | nil => rfl
  | cons item items =>
    have count : (array (item :: items)).tokens.length
        = (item.tokens ++ itemTokens false items).length + 2 := by
      simp [tokens, itemTokens, Nat.add_assoc]
    have taken := takeItems?_tokens h fuel rest (by omega)
    have split : (array (item :: items)).tokens ++ rest
        = .openArray :: (item.tokens ++ (itemTokens false items ++ .closeArray :: rest)) := by
      simp [tokens, itemTokens]
    rw [split, takeValue?_openArray (head?_tokens_append_ne item _), taken]
    rfl

/-- The members of an object, from the first on. -/
theorem takeMembers?_tokens {key : String} {value : Json} {members : Members}
    (h : ∀ other ∈ (key, value) :: members, IsTaken other.2) (fuel : Nat) (rest : List Token)
    (enough : (value.tokens ++ memberTokens false members).length < fuel) :
    takeMembers? fuel (.string (some key) :: .colon ::
        (value.tokens ++ (memberTokens false members ++ .closeObject :: rest)))
      = some (some ((key, value) :: members), rest) := by
  induction members generalizing key value fuel with
  | nil =>
    obtain ⟨fuel, rfl⟩ := Nat.exists_eq_add_one_of_ne_zero (Nat.ne_zero_of_lt enough)
    rw [memberTokens, List.append_nil] at enough
    have taken : IsTaken value := h (key, value) List.mem_cons_self
    have here := taken fuel (.closeObject :: rest) (by omega)
    simp only [takeMembers?, memberTokens, List.nil_append, here, Option.map_some]
  | cons next members ih =>
    obtain ⟨nextKey, nextValue⟩ := next
    obtain ⟨fuel, rfl⟩ := Nat.exists_eq_add_one_of_ne_zero (Nat.ne_zero_of_lt enough)
    simp only [memberTokens, Bool.false_eq_true, if_false, List.length_append, List.length_cons,
      List.length_nil] at enough
    have taken : IsTaken value := h (key, value) List.mem_cons_self
    have here := taken fuel (.comma :: .string (some nextKey) :: .colon ::
        (nextValue.tokens ++ (memberTokens false members ++ .closeObject :: rest))) (by omega)
    have later := ih (fun other mem => h other (List.mem_cons_of_mem _ mem)) fuel
      (by rw [List.length_append]; omega)
    simp only [memberTokens, Bool.false_eq_true, if_false, List.cons_append, List.nil_append,
      List.append_assoc]
    simp only [takeMembers?, here, later, Option.map_some]

theorem isTaken_object {members : Members} (h : ∀ member ∈ members, IsTaken member.2) :
    IsTaken (.object members) := by
  refine isTaken_of_succ fun fuel rest enough => ?_
  cases members with
  | nil => rfl
  | cons member members =>
    obtain ⟨key, value⟩ := member
    have count : (object ((key, value) :: members)).tokens.length
        = (value.tokens ++ memberTokens false members).length + 4 := by
      simp [tokens, memberTokens, Nat.add_assoc]
    have taken := takeMembers?_tokens h fuel rest (by omega)
    have split : (object ((key, value) :: members)).tokens ++ rest
        = .openObject :: .string (some key) :: .colon ::
            (value.tokens ++ (memberTokens false members ++ .closeObject :: rest)) := by
      simp [tokens, memberTokens]
    rw [split, takeValue?, taken]
    · rfl
    · intro rest same
      cases same

/-- **Every value that its text tells all about can be taken off its tokens.** -/
theorem IsExact.isTaken (h : IsExact depth value) : IsTaken value := by
  induction h with
  | null => exact isTaken_of_succ fun _ _ _ => rfl
  | bool value => exact isTaken_of_succ fun _ _ _ => rfl
  | integer low high => exact isTaken_of_succ fun _ _ _ => rfl
  | string value => exact isTaken_of_succ fun _ _ _ => rfl
  | array _ ih => exact isTaken_array ih
  | object _ ih => exact isTaken_object ih

theorem IsExact.ofTokens?_tokens (h : IsExact depth value) :
    ofTokens? value.tokens = some value := by
  have taken := h.isTaken value.tokens.length [] (Nat.le_refl _)
  rw [List.append_nil] at taken
  rw [ofTokens?, taken]

/-! ### The limit on nesting -/

theorem boundedItems_eq_self {items : List Json}
    (h : ∀ item ∈ items, bounded depth item = item) : boundedItems depth items = items := by
  induction items with
  | nil => rfl
  | cons item items ih =>
    rw [boundedItems, h item List.mem_cons_self,
      ih fun other mem => h other (List.mem_cons_of_mem item mem)]

theorem boundedMembers_eq_self {members : Members}
    (h : ∀ member ∈ members, bounded depth member.2 = member.2) :
    boundedMembers depth members = members := by
  induction members with
  | nil => rfl
  | cons member members ih =>
    obtain ⟨key, value⟩ := member
    have here : bounded depth value = value := h (key, value) List.mem_cons_self
    rw [boundedMembers, here, ih fun other mem => h other (List.mem_cons_of_mem _ mem)]

/-- **A value that keeps to the limit stays as it is.** -/
theorem IsExact.bounded_eq_self (h : IsExact depth value) : bounded depth value = value := by
  induction h with
  | null => cases ‹Nat› <;> rfl
  | bool value => cases ‹Nat› <;> rfl
  | integer low high => cases ‹Nat› <;> rfl
  | string value => cases ‹Nat› <;> rfl
  | array _ ih => rw [bounded, boundedItems_eq_self ih]
  | object _ ih => rw [bounded, boundedMembers_eq_self ih]

/-! ### From the text to the value -/

theorem symbols_text (value : Json) : symbols value.text = value.chars.map some := by
  rw [symbols, text, String.toList_ofList]

/-- **A value is read from its text.** -/
theorem IsExact.ofString?_text (h : IsExact nestingLimit value) :
    ofString? value.text = some value := by
  rw [ofString?, read?, symbols_text, h.scan?_chars, Option.bind_some, h.ofTokens?_tokens,
    Option.map_some, h.bounded_eq_self]

/-- **A value is read from the bytes of its text.** -/
theorem IsExact.ofBytes?_text (h : IsExact nestingLimit value) :
    ofBytes? value.text.toUTF8.toList = some value := by
  rw [ofBytes?, Utf8.decode_toUTF8]
  exact h.ofString?_text

/-- **Different values have different texts.** -/
theorem IsExact.text_injective {other : Json} (h : IsExact nestingLimit value)
    (hother : IsExact nestingLimit other) (eq : value.text = other.text) : value = other :=
  Option.some.inj (h.ofString?_text.symm.trans (eq ▸ hother.ofString?_text))

end Json

end OrderHerald
