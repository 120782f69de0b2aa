import Mathlib.Data.List.Perm.Basic
import OrderHerald.Json.Document

/-!
# Records written as objects

An object is read as a record by asking, field by field, which of its members bear the field's name
or an alias of it (`Field.given`).  None, and the field is missing; one, and it is the field's
value; more, and the object is no record (`Record.of?_object`).

**Layout does not count.**  Where a member stands and what other members there are is never asked,
so two objects that give the same for each field are the same record (`Record.of?_congr`).

## Main statements

* `Record.of?_object` — the record an object is.
* `Record.of?_laid` — members in another order, and members that name no field, change nothing.
* `Record.optional?_of_ofGiven?` — a field that may be missing is what is given for it.
-/

namespace OrderHerald

/-- The field goes by a name. -/
def Field.isNamed (field : Field) (name : String) : Bool :=
  name = field.name || field.aliases.contains name

/-- **What members give for a field**: the values under its name and its aliases. -/
def Field.given (field : Field) (members : Json.Members) : List Json :=
  (members.filter fun member => field.isNamed member.1).map Prod.snd

namespace Slot

variable {δ : Type}

/-- A value that may be missing from a record by name. -/
def ofOption : Option δ → Slot δ
  | none => .unnamed
  | some value => .given value

/-- What is held for a field by the values that are given for it: one at most. -/
def ofGiven? : List δ → Option (Slot δ)
  | [] => some .unnamed
  | [value] => some (.given value)
  | _ => none

theorem ofGiven?_singleton (value : δ) : ofGiven? [value] = some (.given value) := rfl

theorem ofGiven?_toList (value : Option δ) : ofGiven? value.toList = some (ofOption value) := by
  cases value <;> rfl

/-- The order of the values is of no concern. -/
theorem ofGiven?_perm {values others : List δ} (h : values.Perm others) :
    ofGiven? values = ofGiven? others := by
  match values, h with
  | [], h => rw [List.nil_perm.mp h]
  | [value], h => rw [List.singleton_perm.mp h]
  | first :: second :: rest, h =>
    match others, h with
    | [], h => exact absurd h.length_eq (by simp)
    | [value], h => exact absurd h.length_eq (by simp)
    | _ :: _ :: _, _ => rfl

end Slot

namespace Field

variable (field : Field)

@[simp] theorem given_nil : field.given [] = [] := rfl

theorem given_cons (name : String) (value : Json) (members : Json.Members) :
    field.given ((name, value) :: members)
      = if field.isNamed name then value :: field.given members else field.given members := by
  unfold given
  rw [List.filter_cons]
  split <;> rfl

theorem given_append (front back : Json.Members) :
    field.given (front ++ back) = field.given front ++ field.given back := by
  unfold given
  rw [List.filter_append, List.map_append]

/-- What stands under a name, if anything does. -/
theorem given_toList (name : String) (value : Option Json) :
    field.given (value.map (name, ·)).toList
      = if field.isNamed name then value.toList else [] := by
  cases value <;> simp [given_cons]

/-- A field without aliases, given once at most, is given what stands under its name. -/
theorem eq_of_given {members : Json.Members} {held : Slot Json} (plain : field.aliases = [])
    (h : Slot.ofGiven? (field.given members) = some held) :
    held = Slot.ofOption (members.lookup field.name) := by
  induction members with
  | nil =>
    cases h
    rfl
  | cons member rest ih =>
    obtain ⟨name, value⟩ := member
    rw [given_cons] at h
    rw [List.lookup_cons]
    by_cases named : field.name = name
    · -- The first member with the name is the only one.
      rw [if_pos (by simp [isNamed, named])] at h
      rw [beq_iff_eq.mpr named]
      cases others : field.given rest with
      | nil =>
        rw [others] at h
        exact (Option.some.inj h).symm
      | cons other others' =>
        rw [others] at h
        cases h
    · rw [if_neg (by simp [isNamed, plain, Ne.symm named])] at h
      rw [beq_eq_false_iff_ne.mpr named]
      exact ih h

/-- Members under other names give nothing. -/
theorem given_eq_nil {members : Json.Members}
    (h : ∀ member ∈ members, field.isNamed member.1 = false) : field.given members = [] := by
  unfold given
  rw [List.map_eq_nil_iff, List.filter_eq_nil_iff]
  intro member mem
  simp [h member mem]

end Field

namespace Record

/-! ### The record of an object -/

theorem ofNamed?_eq_mapM (members : Json.Members) (index : Nat) (fields : List Field) :
    ofNamed? (members.map fun (key, value) => (FieldKey.name key, value)) index fields
      = fields.mapM fun field => (Slot.ofGiven? (field.given members)).map (field.name, ·) := by
  induction fields generalizing index with
  | nil => rfl
  | cons field fields ih =>
    have named : (members.map fun (key, value) => (FieldKey.name key, value)).filter
          (fun member => names field index member.1)
        = (members.filter fun member => field.isNamed member.1).map
          fun (key, value) => (FieldKey.name key, value) := by
      rw [List.filter_map]
      rfl
    rw [ofNamed?, named, ih, List.mapM_cons, Field.given]
    generalize members.filter (fun member => field.isNamed member.1) = given
    generalize (List.mapM _ fields : Option (Record Json)) = record
    match given with
    | [] => cases record <;> rfl
    | [(_, value)] => cases record <;> rfl
    | _ :: _ :: _ => rfl

/-- **The record an object is**: one slot for each field, and none of them given twice. -/
theorem of?_object (fields : List Field) (members : Json.Members) :
    of? fields (Json.object members)
      = fields.mapM fun field => (Slot.ofGiven? (field.given members)).map (field.name, ·) :=
  ofNamed?_eq_mapM members 0 fields

/-- Objects that give the same for each field are the same record. -/
theorem of?_congr {fields : List Field} {members others : Json.Members}
    (h : ∀ field ∈ fields, (field.given members).Perm (field.given others)) :
    of? fields (Json.object members) = of? fields (Json.object others) := by
  rw [of?_object, of?_object]
  induction fields with
  | nil => rfl
  | cons field fields ih =>
    have here := Slot.ofGiven?_perm (h field List.mem_cons_self)
    have later := ih fun other mem => h other (List.mem_cons_of_mem field mem)
    rw [List.mapM_cons, List.mapM_cons, here, later]

/-- **Layout does not count**: members in another order, among members that name no field. -/
theorem of?_laid {fields : List Field} {core members extra : Json.Members}
    (unknown : ∀ field ∈ fields, ∀ member ∈ extra, field.isNamed member.1 = false)
    (order : members.Perm (core ++ extra)) :
    of? fields (Json.object members) = of? fields (Json.object core) := by
  refine of?_congr fun field mem => ?_
  have nothing : field.given extra = [] := field.given_eq_nil (unknown field mem)
  calc
    (field.given members).Perm (field.given (core ++ extra)) := (order.filter _).map _
    _ = field.given core := by rw [field.given_append, nothing, List.append_nil]

/-- **A field that is given twice** makes the object no record. -/
theorem of?_eq_none {fields : List Field} {members : Json.Members} {field : Field}
    (mem : field ∈ fields) (twice : 2 ≤ (field.given members).length) :
    of? fields (Json.object members) = none := by
  have refused : Slot.ofGiven? (field.given members) = none := by
    match field.given members, twice with
    | _ :: _ :: _, _ => rfl
  rw [of?_object]
  induction fields with
  | nil => cases mem
  | cons other fields ih =>
    rw [List.mapM_cons]
    rcases List.mem_cons.mp mem with rfl | mem
    · rw [refused]
      rfl
    · rw [ih mem]
      cases (Slot.ofGiven? (other.given members)).map (other.name, ·) <;> rfl

/-! ### What is held for a field -/

section Slots

variable {δ α : Type}

theorem slot_cons (name other : String) (held : Slot δ) (record : Record δ) :
    slot ((other, held) :: record) name = if name = other then held else slot record name := by
  unfold slot
  rw [List.lookup_cons]
  by_cases h : name = other
  · simp [h]
  · simp [h, beq_eq_false_iff_ne.mpr h]

/-- **What is held for a field** that goes by one name is what stands under this name. -/
theorem slot_of?_object {fields : List Field} {members : Json.Members} {record : Record Json}
    {name : String} (read : of? fields (Json.object members) = some record)
    (plain : ∀ field ∈ fields, field.aliases = []) (mem : name ∈ fields.map Field.name) :
    record.slot name = Slot.ofOption (members.lookup name) := by
  rw [of?_object] at read
  induction fields generalizing record with
  | nil => cases mem
  | cons field fields ih =>
    rw [List.mapM_cons] at read
    obtain ⟨entry, first, read⟩ := Option.bind_eq_some_iff.mp read
    obtain ⟨rest, later, read⟩ := Option.bind_eq_some_iff.mp read
    obtain ⟨held, given, rfl⟩ := Option.map_eq_some_iff.mp first
    obtain rfl : (field.name, held) :: rest = record := Option.some.inj read
    rw [slot_cons]
    split
    · rename_i same
      rw [same]
      exact field.eq_of_given (plain field List.mem_cons_self) given
    · rename_i other
      refine ih later (fun field mem => plain field (List.mem_cons_of_mem _ mem)) ?_
      exact (List.mem_cons.mp mem).resolve_left other

variable {record : Record δ} {name : String} {read? : δ → Option α}

variable {document : Option δ}

/-- A field that may be missing has a value of its own there. -/
theorem withDefault?_of_slot {default value : α} (h : record.slot name = Slot.ofOption document)
    (back : ∀ written, document = some written → read? written = some value)
    (missing : document = none → value = default) :
    record.withDefault? name default read? = some value := by
  unfold withDefault?
  rw [h]
  cases document with
  | none => exact congrArg some (missing rfl).symm
  | some written => exact back written rfl

variable [Document δ]

/-- A value that may be missing is read as what was written, if what was written is not null. -/
theorem optionalWithDefault?_of_slot {value : Option α}
    (h : record.slot name = Slot.ofOption document)
    (back : ∀ written, document = some written →
      Document.isNull written = false ∧ (read? written).map some = some value)
    (missing : document = none → value = none) :
    record.optionalWithDefault? name read? = some value := by
  unfold optionalWithDefault?
  rw [h]
  cases document with
  | none => exact congrArg some (missing rfl).symm
  | some written =>
    obtain ⟨present, read⟩ := back written rfl
    change nullable? read? written = some value
    rw [nullable?, if_neg (by rw [present]; exact Bool.false_ne_true), read]

/-- The same for a value that is always written in one way. -/
theorem optionalWithDefault?_of_write (write : α → δ)
    (present : ∀ a, Document.isNull (write a) = false) (back : ∀ a, read? (write a) = some a)
    {value : Option α} (h : record.slot name = Slot.ofOption (value.map write)) :
    record.optionalWithDefault? name read? = some value := by
  refine optionalWithDefault?_of_slot h (fun written same => ?_) Option.map_eq_none_iff.mp
  obtain ⟨a, rfl, rfl⟩ := Option.map_eq_some_iff.mp same
  exact ⟨present a, by rw [back, Option.map_some]⟩

end Slots

end Record

/-! ### Fields that may be missing -/

/-- **What is read of the values that are given for a field**: nothing if there is none, or if the only one
is null, and otherwise what the only one is read as. -/
inductive Json.Offers {α : Type} (read? : Json → Option α) : List Json → Option α → Prop where
  | missing : Offers read? [] none
  | null : Offers read? [.null] none
  | given {value : Json} {a : α} (present : value ≠ .null) (read : read? value = some a) :
      Offers read? [value] (some a)

namespace Record

variable {α : Type} {read? : Json → Option α} {record : Record Json} {name : String} {result : Option α}

theorem optional?_of_unnamed (held : record.slot name = .unnamed) :
    record.optional? name read? = some result ↔ Json.Offers read? [] result := by
  unfold optional?
  rw [held]
  constructor
  · rintro ⟨⟩
    exact .missing
  · rintro ⟨⟩
    rfl

theorem optional?_of_given {value : Json} (held : record.slot name = .given value) :
    record.optional? name read? = some result ↔ Json.Offers read? [value] result := by
  unfold optional?
  rw [held]
  show nullable? read? value = some result ↔ _
  unfold nullable?
  split
  · rename_i isNull
    obtain rfl : value = .null := by
      cases value with
      | null => rfl
      | _ => cases isNull
    constructor
    · rintro ⟨⟩
      exact .null
    · rintro (_ | _ | ⟨present, -⟩)
      · rfl
      · exact absurd rfl present
  · rename_i present
    rw [Option.map_eq_some_iff]
    constructor
    · rintro ⟨a, read, rfl⟩
      refine .given ?_ read
      rintro rfl
      exact present rfl
    · rintro (_ | _ | ⟨-, read⟩)
      · exact absurd rfl present
      · exact ⟨_, read, rfl⟩

/-- **A field that may be missing** is read as what is given for it. -/
theorem optional?_of_ofGiven? {values : List Json} {held : Slot Json}
    (given : Slot.ofGiven? values = some held) (there : record.slot name = held) :
    record.optional? name read? = some result ↔ Json.Offers read? values result := by
  match values, given with
  | [], given =>
    obtain rfl := Option.some.inj given
    exact optional?_of_unnamed there
  | [value], given =>
    obtain rfl := Option.some.inj given
    exact optional?_of_given there

end Record

/-- No field is offered by values of which there are two. -/
theorem Json.Offers.exists_ofGiven? {α : Type} {read? : Json → Option α} {values : List Json}
    {result : Option α} (offers : Json.Offers read? values result) :
    ∃ held, Slot.ofGiven? values = some held := by
  cases offers with
  | missing => exact ⟨_, rfl⟩
  | null => exact ⟨_, rfl⟩
  | given present read => exact ⟨_, rfl⟩

end OrderHerald
