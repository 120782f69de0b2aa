import Mathlib.Data.List.Forall2
import Mathlib.Data.List.Perm.Basic
import OrderHerald.Json.Basic
import OrderHerald.Proofs.Dict

/-!
# Documents up to the order of members

The members of an object stand in some order, but it is their names by which they are found.  Two documents
are **rearranged** into each other if, at every depth, the members of the one object stand in another order in
the other.

**Each name once.**  A member is found by its name only if no other member of the object has it.

* `UnderName` — what is related under one name.
* `Json.Rearranged` — documents that are equal up to the order of members.
* `Json.NamesOnce` — no object in the document names a member twice.

## Main statements

* `Json.induction` — what holds of a document if it holds of its parts.
* `Json.Rearranged.refl` — every document is rearranged into itself.
-/

namespace OrderHerald

/-- **Things are related under one name.** -/
inductive UnderName {α β : Type} (R : α → β → Prop) : String × α → String × β → Prop where
  | intro (name : String) {a : α} {b : β} (h : R a b) : UnderName R (name, a) (name, b)

section Entries

variable {α β : Type} {R : α → β → Prop}

theorem underName_iff {member : String × α} {other : String × β} :
    UnderName R member other ↔ member.1 = other.1 ∧ R member.2 other.2 := by
  constructor
  · rintro ⟨name, h⟩
    exact ⟨rfl, h⟩
  · obtain ⟨name, a⟩ := member
    rintro ⟨rfl, h⟩
    exact .intro _ h

/-- Entries that are related one by one have the same names. -/
theorem map_fst_eq_of_underName {members : List (String × α)} {others : List (String × β)}
    (h : List.Forall₂ (UnderName R) members others) : members.map Prod.fst = others.map Prod.fst := by
  induction h with
  | nil => rfl
  | cons first _ ih =>
    cases first
    rw [List.map_cons, List.map_cons, ih]

/-- Items that are all read are read one by one. -/
theorem mapM_eq_some_iff {read? : α → Option β} {items : List α} {values : List β} :
    items.mapM read? = some values
      ↔ List.Forall₂ (fun item value => read? item = some value) items values := by
  induction items generalizing values with
  | nil =>
    rw [List.mapM_nil, List.forall₂_nil_left_iff]
    exact ⟨fun read => (Option.some.inj read).symm, fun empty => congrArg some empty.symm⟩
  | cons item rest ih =>
    rw [List.mapM_cons, List.forall₂_cons_left_iff]
    constructor
    · intro read
      obtain ⟨value, first, read⟩ := Option.bind_eq_some_iff.mp read
      obtain ⟨others, later, read⟩ := Option.bind_eq_some_iff.mp read
      exact ⟨value, others, first, ih.mp later, (Option.some.inj read).symm⟩
    · rintro ⟨value, others, first, later, rfl⟩
      rw [first, ih.mpr later]
      rfl

/-- Items are not all read if there is one that is not. -/
theorem mapM_eq_none_iff {read? : α → Option β} {items : List α} :
    items.mapM read? = none ↔ ∃ item ∈ items, read? item = none := by
  induction items with
  | nil => exact iff_of_false nofun (by simp)
  | cons item rest ih =>
    rw [List.mapM_cons, List.exists_mem_cons_iff, ← ih]
    cases read? item <;> cases rest.mapM read? <;> simp

/-- Members whose values are all read are read one by one, each under its name. -/
theorem mapM_snd_eq_some_iff {read? : α → Option β} {members : List (String × α)}
    {entries : List (String × β)} :
    (members.mapM fun member => (read? member.2).map (member.1, ·)) = some entries
      ↔ List.Forall₂ (UnderName fun item value => read? item = some value) members entries := by
  have same : ∀ (member : String × α) (entry : String × β),
      (read? member.2).map (member.1, ·) = some entry
        ↔ UnderName (fun item value => read? item = some value) member entry := by
    rintro ⟨name, item⟩ ⟨other, value⟩
    rw [underName_iff, Option.map_eq_some_iff]
    constructor
    · rintro ⟨_, read, ⟨⟩⟩
      exact ⟨rfl, read⟩
    · rintro ⟨rfl, read⟩
      exact ⟨value, read, rfl⟩
  simp only [mapM_eq_some_iff, same]

/-- **Entries in ascending order of distinct names** are those that are read of members in whatever order:
the members can be arranged so that one by one they are read as the entries. -/
theorem exists_ofList_iff {members : List (String × α)} {entries : List (String × β)}
    (distinct : (members.map Prod.fst).Nodup) :
    (∃ read, List.Forall₂ (UnderName R) members read ∧ Ascending.ofList read = entries)
      ↔ Ascending.Ordered entries ∧
          ∃ arranged, members.Perm arranged ∧ List.Forall₂ (UnderName R) arranged entries := by
  have kept : ∀ {read}, List.Forall₂ (UnderName R) members read → (Ascending.ofList read).Perm read :=
    fun each => Ascending.perm_ofList (map_fst_eq_of_underName each ▸ distinct)
  constructor
  · rintro ⟨read, each, rfl⟩
    refine ⟨Ascending.ordered_ofList read, ?_⟩
    have moved : Relation.Comp (List.Forall₂ (UnderName R)) List.Perm members (Ascending.ofList read) :=
      ⟨read, each, (kept each).symm⟩
    rwa [List.forall₂_comp_perm_eq_perm_comp_forall₂] at moved
  · rintro ⟨ordered, arranged, moved, each⟩
    obtain ⟨read, each, same⟩ := List.perm_comp_forall₂ moved each
    exact ⟨read, each, (Ascending.ordered_ofList read).eq_of_perm ordered ((kept each).trans same)⟩

/-- Items that are related exactly where the related has a property and stands for something else. -/
theorem forall₂_iff_map {γ : Type} {p : β → Prop} {T : α → γ → Prop} {f : β → γ} {items : List α}
    {others : List β} (h : ∀ a ∈ items, ∀ b ∈ others, (R a b ↔ p b ∧ T a (f b))) :
    List.Forall₂ R items others ↔ (∀ b ∈ others, p b) ∧ List.Forall₂ T items (others.map f) := by
  induction others generalizing items with
  | nil =>
    rw [List.map_nil, List.forall₂_nil_right_iff, List.forall₂_nil_right_iff]
    exact (and_iff_right nofun).symm
  | cons b others ih =>
    cases items with
    | nil =>
      refine iff_of_false nofun ?_
      rintro ⟨-, ⟨⟩⟩
    | cons a items =>
      have here := h a List.mem_cons_self b List.mem_cons_self
      have rest := ih fun a' mem b' mem' =>
        h a' (List.mem_cons_of_mem a mem) b' (List.mem_cons_of_mem b mem')
      rw [List.map_cons, List.forall₂_cons, List.forall₂_cons, List.forall_mem_cons, here, rest]
      tauto

end Entries

namespace Json

/-- **What holds of a document if it holds of its parts** holds of every document. -/
theorem induction {motive : Json → Prop} (null : motive .null) (bool : ∀ value, motive (.bool value))
    (number : ∀ value, motive (.number value)) (string : ∀ value, motive (.string value))
    (array : ∀ items, (∀ item ∈ items, motive item) → motive (.array items))
    (object : ∀ members, (∀ member ∈ members, motive member.2) → motive (.object members))
    (defect : motive .defect) (document : Json) : motive document :=
  @Json.rec motive (fun items => ∀ item ∈ items, motive item)
    (fun members => ∀ member ∈ members, motive member.2) (fun member => motive member.2)
    null bool number string array object defect
    nofun (fun _ _ first rest => List.forall_mem_cons.mpr ⟨first, rest⟩)
    nofun (fun _ _ first rest => List.forall_mem_cons.mpr ⟨first, rest⟩)
    (fun _ _ value => value) document

/-! ### Other orders of members -/

/-- **Two documents are equal up to the order of members**, at every depth. -/
inductive Rearranged : Json → Json → Prop where
  | null : Rearranged .null .null
  | bool (value : Bool) : Rearranged (.bool value) (.bool value)
  | number (value : Number) : Rearranged (.number value) (.number value)
  | string (value : String) : Rearranged (.string value) (.string value)
  | array {items others : List Json} (each : List.Forall₂ Rearranged items others) :
      Rearranged (.array items) (.array others)
  /-- The members stand in another order, and in this order each is rearranged under its name. -/
  | object {members arranged others : Members} (moved : members.Perm arranged)
      (each : List.Forall₂ (UnderName Rearranged) arranged others) :
      Rearranged (.object members) (.object others)
  | defect : Rearranged .defect .defect

/-- **Every document is rearranged into itself.** -/
theorem Rearranged.refl (document : Json) : document.Rearranged document := by
  induction document using Json.induction with
  | null => exact .null
  | bool value => exact .bool value
  | number value => exact .number value
  | string value => exact .string value
  | array items ih => exact .array (List.forall₂_same.mpr ih)
  | object members ih =>
    exact .object (.refl members) (List.forall₂_same.mpr fun member mem => .intro _ (ih member mem))
  | defect => exact .defect

/-- Only an object is rearranged into an object. -/
theorem rearranged_object_iff {document : Json} {others : Members} :
    document.Rearranged (.object others)
      ↔ ∃ members, document = .object members ∧
          ∃ arranged, members.Perm arranged ∧ List.Forall₂ (UnderName Rearranged) arranged others := by
  constructor
  · rintro (_ | _ | _ | _ | _ | ⟨moved, each⟩)
    exact ⟨_, rfl, _, moved, each⟩
  · rintro ⟨members, rfl, arranged, moved, each⟩
    exact .object moved each

/-- **A single member cannot be moved**; only what stands in it can be rearranged. -/
theorem rearranged_single_iff {document payload : Json} {name : String} :
    document.Rearranged (.object [(name, payload)])
      ↔ ∃ value, document = .object [(name, value)] ∧ value.Rearranged payload := by
  rw [rearranged_object_iff]
  constructor
  · rintro ⟨members, rfl, arranged, moved, each⟩
    obtain ⟨member, _, first, rest, rfl⟩ := List.forall₂_cons_right_iff.mp each
    obtain rfl := List.forall₂_nil_right_iff.mp rest
    obtain ⟨name, inner⟩ := first
    exact ⟨_, congrArg _ (List.perm_singleton.mp moved), inner⟩
  · rintro ⟨value, rfl, inner⟩
    exact ⟨_, rfl, _, .refl _, .cons (.intro name inner) .nil⟩

theorem rearranged_array_iff {document : Json} {others : List Json} :
    document.Rearranged (.array others)
      ↔ ∃ items, document = .array items ∧ List.Forall₂ Rearranged items others := by
  constructor
  · rintro (_ | _ | _ | _ | each | _)
    exact ⟨_, rfl, each⟩
  · rintro ⟨items, rfl, each⟩
    exact .array each

/-! ### Each name once -/

/-- **No object in the document names a member twice.** -/
inductive NamesOnce : Json → Prop where
  | null : NamesOnce .null
  | bool (value : Bool) : NamesOnce (.bool value)
  | number (value : Number) : NamesOnce (.number value)
  | string (value : String) : NamesOnce (.string value)
  | array {items : List Json} (each : ∀ item ∈ items, NamesOnce item) : NamesOnce (.array items)
  | object {members : Members} (distinct : (members.map Prod.fst).Nodup)
      (each : ∀ member ∈ members, NamesOnce member.2) : NamesOnce (.object members)
  | defect : NamesOnce .defect

theorem NamesOnce.of_array {items : List Json} (h : NamesOnce (.array items)) :
    ∀ item ∈ items, item.NamesOnce := by
  cases h with
  | array each => exact each

theorem NamesOnce.of_object {members : Members} (h : NamesOnce (.object members)) :
    (members.map Prod.fst).Nodup ∧ ∀ member ∈ members, member.2.NamesOnce := by
  cases h with
  | object distinct each => exact ⟨distinct, each⟩

theorem NamesOnce.single (name : String) {value : Json} (h : value.NamesOnce) :
    NamesOnce (.object [(name, value)]) :=
  .object (List.pairwise_singleton _ name) (List.forall_mem_singleton.mpr h)

theorem NamesOnce.of_single {name : String} {value : Json} (h : NamesOnce (.object [(name, value)])) :
    value.NamesOnce :=
  h.of_object.2 _ List.mem_cons_self

end Json

end OrderHerald
