/-!
# Dictionaries in ascending order of their keys

Wherever a document holds names with values, only *which* value a name has matters, not where it
was written.  A `Dict` therefore keeps its entries in ascending order of their keys, each key once:
two dictionaries with the same bindings are equal.

* `Ascending.insert`, `Ascending.ofList` — the order-keeping operations on plain lists of pairs; a
  later binding replaces an earlier one of the same key.
* `Dict` — a list of pairs together with the fact that its keys ascend.

## Main statements

* `Ascending.lookup_insert` — insertion changes the binding of its own key and of no other.
* `Ascending.ordered_insert` — insertion keeps the keys ascending.
-/

namespace OrderHerald

namespace Ascending

variable {κ α : Type} [LT κ] [DecidableLT κ]

/-- Binds `key` to `value` at the key's place; an existing binding of the key is replaced. -/
def insert (key : κ) (value : α) : List (κ × α) → List (κ × α)
  | [] => [(key, value)]
  | (k, v) :: rest =>
    if key < k then (key, value) :: (k, v) :: rest
    else if k < key then (k, v) :: insert key value rest
    else (key, value) :: rest

/-- **The last binding of a key counts**: the bindings of a list, in ascending order. -/
def ofList (bindings : List (κ × α)) : List (κ × α) :=
  bindings.foldl (fun entries binding => insert binding.1 binding.2 entries) []

/-- The keys of the entries ascend strictly, so each of them stands there once. -/
def Ordered (entries : List (κ × α)) : Prop :=
  (entries.map Prod.fst).Pairwise (· < ·)

instance (entries : List (κ × α)) : Decidable (Ordered entries) := by
  unfold Ordered
  infer_instance

omit [DecidableLT κ] in
theorem ordered_nil : Ordered ([] : List (κ × α)) := List.Pairwise.nil

/-- The keys after an insertion are the old ones and the inserted one. -/
theorem mem_keys_insert [LE κ] [Std.LawfulOrderLT κ] [Std.IsLinearOrder κ]
    {key k : κ} {value : α} {entries : List (κ × α)} :
    k ∈ (insert key value entries).map Prod.fst ↔ k = key ∨ k ∈ entries.map Prod.fst := by
  induction entries with
  | nil => simp [insert]
  | cons head rest ih =>
    obtain ⟨k', v'⟩ := head
    simp only [insert]
    split
    · simp
    · split
      · simp only [List.map_cons, List.mem_cons, ih]
        constructor <;> rintro (h | h | h) <;> simp [h]
      · rename_i h₁ h₂
        have : key = k' := Std.le_antisymm (Std.not_lt.mp h₂) (Std.not_lt.mp h₁)
        subst this
        simp

/-- **Insertion keeps the order.** -/
theorem ordered_insert [LE κ] [Std.LawfulOrderLT κ] [Std.IsLinearOrder κ]
    (key : κ) (value : α) {entries : List (κ × α)} (h : Ordered entries) :
    Ordered (insert key value entries) := by
  induction entries with
  | nil => simp [insert, Ordered]
  | cons head rest ih =>
    obtain ⟨k', v'⟩ := head
    simp only [Ordered, List.map_cons, List.pairwise_cons] at h
    obtain ⟨hhead, hrest⟩ := h
    simp only [insert]
    split
    · rename_i hlt
      refine List.pairwise_cons.mpr ⟨?_, List.pairwise_cons.mpr ⟨hhead, hrest⟩⟩
      intro k hk
      rcases List.mem_cons.mp hk with rfl | hk
      · exact hlt
      · exact Std.lt_trans hlt (hhead k hk)
    · split
      · rename_i _ hlt
        refine List.pairwise_cons.mpr ⟨?_, ih hrest⟩
        intro k hk
        rcases mem_keys_insert.mp hk with rfl | hk
        · exact hlt
        · exact hhead k hk
      · rename_i h₁ h₂
        have : key = k' := Std.le_antisymm (Std.not_lt.mp h₂) (Std.not_lt.mp h₁)
        subst this
        exact List.pairwise_cons.mpr ⟨hhead, hrest⟩

/-- What the bindings of a list come to is ascending. -/
theorem ordered_ofList [LE κ] [Std.LawfulOrderLT κ] [Std.IsLinearOrder κ]
    (bindings : List (κ × α)) : Ordered (ofList bindings) := by
  suffices ∀ entries : List (κ × α), Ordered entries →
      Ordered (bindings.foldl (fun e b => insert b.1 b.2 e) entries) from this [] ordered_nil
  induction bindings with
  | nil => exact fun _ h => h
  | cons b rest ih => exact fun _ h => ih _ (ordered_insert _ _ h)

/-- **Insertion changes one binding.** -/
theorem lookup_insert [LE κ] [Std.LawfulOrderLT κ] [Std.IsLinearOrder κ] [DecidableEq κ]
    (key k : κ) (value : α) (entries : List (κ × α)) :
    (insert key value entries).lookup k = if k = key then some value else entries.lookup k := by
  induction entries with
  | nil =>
    by_cases h : k = key
    · simp [insert, h]
    · simp [insert, List.lookup_cons, h, beq_eq_false_iff_ne.mpr h]
  | cons head rest ih =>
    obtain ⟨k', v'⟩ := head
    simp only [insert]
    split
    · by_cases h : k = key
      · simp [h]
      · simp [List.lookup_cons, h, beq_eq_false_iff_ne.mpr h]
    · split
      · rename_i _ hlt
        by_cases h : k = key
        · subst h
          have hne : k ≠ k' := fun h => Std.lt_irrefl (h ▸ hlt)
          simp [List.lookup_cons, beq_eq_false_iff_ne.mpr hne, ih]
        · simp [List.lookup_cons, ih, h]
      · rename_i h₁ h₂
        have : key = k' := Std.le_antisymm (Std.not_lt.mp h₂) (Std.not_lt.mp h₁)
        subst this
        by_cases h : k = key
        · simp [h]
        · simp [List.lookup_cons, h, beq_eq_false_iff_ne.mpr h]

end Ascending

/-- Values under distinct keys, in ascending order of the keys. -/
structure Dict (κ α : Type) [LT κ] [DecidableLT κ] where
  /-- The bindings. -/
  entries : List (κ × α)
  /-- Each key stands at its one place. -/
  ordered : Ascending.Ordered entries

namespace Dict

variable {κ α : Type} [LT κ] [DecidableLT κ]

/-- **Dictionaries are what they bind**: equal entries make equal dictionaries. -/
@[ext] theorem ext {a b : Dict κ α} (h : a.entries = b.entries) : a = b := by
  cases a
  cases b
  simp_all

instance [DecidableEq κ] [DecidableEq α] : DecidableEq (Dict κ α) := fun a b =>
  if h : a.entries = b.entries then isTrue (ext h) else isFalse fun e => h (e ▸ rfl)

instance [Repr κ] [Repr α] : Repr (Dict κ α) where
  reprPrec dict := reprPrec dict.entries

/-- The dictionary without bindings. -/
def empty : Dict κ α := ⟨[], Ascending.ordered_nil⟩

instance : Inhabited (Dict κ α) := ⟨empty⟩

/-- The value bound to a key. -/
def get? [DecidableEq κ] (dict : Dict κ α) (key : κ) : Option α :=
  dict.entries.lookup key

variable [LE κ] [Std.LawfulOrderLT κ] [Std.IsLinearOrder κ]

/-- Binds `key` to `value`, in place of an earlier binding. -/
def insert (dict : Dict κ α) (key : κ) (value : α) : Dict κ α :=
  ⟨Ascending.insert key value dict.entries, Ascending.ordered_insert key value dict.ordered⟩

/-- **The last binding of a key counts.** -/
def ofList (bindings : List (κ × α)) : Dict κ α :=
  ⟨Ascending.ofList bindings, Ascending.ordered_ofList bindings⟩

theorem get?_insert [DecidableEq κ] (dict : Dict κ α) (key k : κ) (value : α) :
    (dict.insert key value).get? k = if k = key then some value else dict.get? k :=
  Ascending.lookup_insert key k value dict.entries

end Dict

end OrderHerald
