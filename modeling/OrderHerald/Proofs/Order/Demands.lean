import OrderHerald.Proofs.Order.Agreement
import OrderHerald.Proofs.Text.Spelling

/-!
# Demands on attributes

An image is read attribute by attribute.  What is asked of one attribute is a `Demand`: what it is called,
where it stands, of which type it is and which values of this type will do.

**The first that fails.**  A reader answers to a list of demands if it gives a result exactly when all of
them are met, and otherwise the fault of the first one that is not.  Readers one after the other answer to
their lists one after the other (`Answers.bind`), so what is to be shown is one demand at a time.

* `Demand`, `Demand.Met`, `Demand.Fault` — what is asked, when it is met and what is wrong otherwise.
* `FirstFault` — the fault of the first demand that is not met.
* `Answers` — readers that give a result or the first fault.

## Main statements

* `Answers.bind` — readers one after the other.
* `Image.answers_string`, `Image.answers_uint64` and the like — the readers of one attribute.
-/

namespace OrderHerald

/-- The name in JSON of the type of a value. -/
@[simp] def AttributeValue.key : AttributeValue → String
  | .string _ => "S"
  | .number _ => "N"
  | .bool _ => "BOOL"
  | .null _ => "NULL"
  | .map _ => "M"
  | .list _ => "L"
  | .stringSet _ => "SS"
  | .numberSet _ => "NS"
  | .binary _ => "B"

namespace Image

variable {image : Image} {name : String} {value : AttributeValue}

/-- **There is no attribute under the name**, or a null. -/
def Lacks (image : Image) (name : String) : Prop :=
  image.lookup name = none ∨ ∃ value, image.lookup name = some (.null value)

/-- **An attribute stands under the name**, and it is no null. -/
def Shows (image : Image) (name : String) (value : AttributeValue) : Prop :=
  image.lookup name = some value ∧ value.key ≠ "NULL"

theorem attribute?_eq_none_iff : image.attribute? name = none ↔ image.Lacks name := by
  unfold attribute? Lacks
  cases image.lookup name with
  | none => simp
  | some value => cases value <;> simp

theorem attribute?_eq_some_iff : image.attribute? name = some value ↔ image.Shows name value := by
  unfold attribute? Shows
  cases image.lookup name with
  | none => simp
  | some found =>
    cases found with
    | null flag =>
      simp only [reduceCtorEq, Option.some.injEq, false_iff]
      rintro ⟨rfl, other⟩
      exact other rfl
    | _ =>
      refine ⟨fun h => ⟨h, ?_⟩, And.left⟩
      rw [← Option.some.inj h]
      simp

/-- Where nothing stands no attribute does. -/
theorem Lacks.not_shows (absent : image.Lacks name) : ¬ image.Shows name value := by
  rw [← attribute?_eq_none_iff] at absent
  rw [← attribute?_eq_some_iff, absent]
  nofun

/-- One attribute only stands under a name. -/
theorem Shows.unique {other : AttributeValue} (h : image.Shows name value) (h' : image.Shows name other) :
    value = other :=
  Option.some.inj (h.1.symm.trans h'.1)

end Image

/-! ### Demands -/

/-- What a value has to be. -/
inductive Form where
  | text
  /-- The name of a status. -/
  | status
  /-- The name of a type of stored orders. -/
  | type
  /-- An unsigned 64-bit integer. -/
  | number
  | map
  deriving DecidableEq

namespace Form

/-- The name in JSON of the type that a value has to have. -/
@[simp] def key : Form → String
  | text => "S"
  | status => "S"
  | type => "S"
  | number => "N"
  | map => "M"

/-- **Which values will do.** -/
def Accepts : Form → AttributeValue → Prop
  | text, .string _ => True
  | status, .string name => ∃ status : OrderStatus, status.name = name
  | type, .string name => ∃ type : OrderType, type.name = name ∧ type ≠ .dutchV1V2
  | number, .number digits => ∃ n, Decimal.Spells digits n
  | map, .map _ => True
  | _, _ => False

/-- **What is wrong with a value** that stands under a name and will not do. -/
inductive Refuses (name : String) : Form → AttributeValue → ImageError → Prop where
  | wrongType {form : Form} {value : AttributeValue} (other : value.key ≠ form.key) :
      Refuses name form value (.wrongType name form.key)
  | unknownStatus {text : String} (unknown : ∀ status : OrderStatus, status.name ≠ text) :
      Refuses name .status (.string text) (.unknownStatus text)
  | unknownType {text : String} (unknown : ∀ type : OrderType, type.name ≠ text) :
      Refuses name .type (.string text) (.unknownType text)
  | unsupportedType :
      Refuses name .type (.string OrderType.dutchV1V2.name) (.unsupportedType .dutchV1V2)
  | invalidNumber {digits : String} (unspelled : ∀ n, ¬ Decimal.Spells digits n) :
      Refuses name .number (.number digits) (.invalidNumber name digits)

variable {form : Form} {name : String} {value : AttributeValue} {e e' : ImageError}

theorem key_of_accepts (h : form.Accepts value) : value.key = form.key := by
  cases form <;> cases value <;> first | rfl | exact h.elim

/-- What is refused will not do. -/
theorem Refuses.not_accepts (h : form.Refuses name value e) : ¬ form.Accepts value := by
  cases h with
  | wrongType other => exact fun accepts => other (key_of_accepts accepts)
  | unknownStatus unknown => exact fun ⟨other, named⟩ => unknown other named
  | unknownType unknown => exact fun ⟨other, named, _⟩ => unknown other named
  | unsupportedType =>
    rintro ⟨other, named, stored⟩
    exact stored (Option.some.inj (by rw [← OrderType.ofName?_name, named, OrderType.ofName?_name]))
  | invalidNumber unspelled => exact fun ⟨n, spelled⟩ => unspelled n spelled

/-- One thing only is wrong with a value. -/
theorem Refuses.unique (h : form.Refuses name value e) (h' : form.Refuses name value e') : e = e' := by
  cases h with
  | wrongType other =>
    cases h' with
    | wrongType => rfl
    | _ => exact absurd rfl other
  | unknownStatus unknown =>
    cases h' with
    | wrongType other => exact absurd rfl other
    | unknownStatus => rfl
  | unknownType unknown =>
    cases h' with
    | wrongType other => exact absurd rfl other
    | unknownType => rfl
    | unsupportedType => exact absurd rfl (unknown .dutchV1V2)
  | unsupportedType =>
    cases h' with
    | wrongType other => exact absurd rfl other
    | unknownType unknown => exact absurd rfl (unknown .dutchV1V2)
    | unsupportedType => rfl
  | invalidNumber unspelled =>
    cases h' with
    | wrongType other => exact absurd rfl other
    | invalidNumber => rfl

end Form

/-- **What is asked of one attribute.** -/
structure Demand where
  name : String
  form : Form
  /-- The attribute may be absent. -/
  optional : Bool := false
  /-- The name of the map in which the attribute stands, if it stands in one. -/
  within : Option String := none

namespace Demand

/-- Where the attribute stands. -/
def place (demand : Demand) (image : Image) : Image :=
  match demand.within with
  | none => image
  | some map =>
    match image.lookup map with
    | some (.map entries) => entries
    | _ => []

/-- **The demand is met.** -/
def Met (demand : Demand) (image : Image) : Prop :=
  (demand.optional = true ∧ (demand.place image).Lacks demand.name) ∨
    ∃ value, (demand.place image).Shows demand.name value ∧ demand.form.Accepts value

/-- **What is wrong** where the demand is not met: the attribute is absent, or its value will not do. -/
def Fault (demand : Demand) (image : Image) (e : ImageError) : Prop :=
  (demand.optional = false ∧ (demand.place image).Lacks demand.name ∧ e = .missing demand.name) ∨
    ∃ value, (demand.place image).Shows demand.name value ∧ demand.form.Refuses demand.name value e

variable {demand : Demand} {image : Image} {e e' : ImageError}

/-- Nothing is wrong where the demand is met. -/
theorem Met.not_fault (met : demand.Met image) : ¬ demand.Fault image e := by
  rintro (⟨needed, absent, -⟩ | ⟨value, shown, refuses⟩)
  · rcases met with ⟨optional, -⟩ | ⟨value, shown, -⟩
    · rw [needed] at optional
      cases optional
    · exact absent.not_shows shown
  · rcases met with ⟨-, absent⟩ | ⟨other, also, accepts⟩
    · exact absent.not_shows shown
    · obtain rfl := shown.unique also
      exact refuses.not_accepts accepts

/-- One thing only is wrong with an attribute. -/
theorem Fault.unique (fault : demand.Fault image e) (also : demand.Fault image e') : e = e' := by
  rcases fault with ⟨-, absent, rfl⟩ | ⟨value, shown, refuses⟩
  · rcases also with ⟨-, -, rfl⟩ | ⟨value, shown, -⟩
    · rfl
    · exact absurd shown absent.not_shows
  · rcases also with ⟨-, absent, -⟩ | ⟨other, alike, refused⟩
    · exact absurd shown absent.not_shows
    · obtain rfl := shown.unique alike
      exact refuses.unique refused

end Demand

/-- **The fault of the first demand that is not met.** -/
def FirstFault (demands : List Demand) (image : Image) (e : ImageError) : Prop :=
  ∃ before demand after, demands = before ++ demand :: after ∧
    (∀ other ∈ before, other.Met image) ∧ demand.Fault image e

variable {α β : Type} {image : Image} {demand : Demand} {front back : List Demand} {e : ImageError}

theorem firstFault_nil : ¬ FirstFault [] image e := by
  rintro ⟨before, demand, after, eq, -⟩
  exact absurd eq.symm (by simp)

theorem firstFault_cons :
    FirstFault (demand :: back) image e
      ↔ demand.Fault image e ∨ (demand.Met image ∧ FirstFault back image e) := by
  constructor
  · rintro ⟨before, other, after, eq, met, fault⟩
    cases before with
    | nil =>
      obtain ⟨rfl, rfl⟩ := List.cons.inj eq
      exact .inl fault
    | cons head before =>
      obtain ⟨rfl, rfl⟩ := List.cons.inj eq
      rw [List.forall_mem_cons] at met
      exact .inr ⟨met.1, before, other, after, rfl, met.2, fault⟩
  · rintro (fault | ⟨met, before, other, after, rfl, rest, fault⟩)
    · exact ⟨[], demand, back, rfl, nofun, fault⟩
    · exact ⟨demand :: before, other, after, rfl, List.forall_mem_cons.mpr ⟨met, rest⟩, fault⟩

theorem firstFault_append :
    FirstFault (front ++ back) image e
      ↔ FirstFault front image e ∨ ((∀ demand ∈ front, demand.Met image) ∧ FirstFault back image e) := by
  induction front with
  | nil => simp [firstFault_nil]
  | cons demand front ih =>
    rw [List.cons_append, firstFault_cons, firstFault_cons, ih, List.forall_mem_cons]
    tauto

/-! ### Readers that answer to demands -/

/-- **A reader answers to demands**: it gives a result exactly if they are met, and otherwise the fault of
the first that is not. -/
structure Answers (demands : List Demand) (image : Image) (result : Except ImageError α) : Prop where
  ok_iff : (∃ value, result = .ok value) ↔ ∀ demand ∈ demands, demand.Met image
  error_iff : ∀ e, result = .error e ↔ FirstFault demands image e

theorem answers_nil (value : α) : Answers [] image (.ok value) where
  ok_iff := ⟨fun _ => nofun, fun _ => ⟨value, rfl⟩⟩
  error_iff _ := ⟨nofun, fun fault => absurd fault firstFault_nil⟩

/-- **Readers one after the other** answer to their demands one after the other. -/
theorem Answers.bind {first : Except ImageError α} {next : α → Except ImageError β}
    (h : Answers front image first)
    (hnext : ∀ value, first = .ok value → Answers back image (next value)) :
    Answers (front ++ back) image (first >>= next) := by
  cases first with
  | error reason =>
    have unmet : ¬ ∀ demand ∈ front, demand.Met image := by
      rw [← h.ok_iff]
      nofun
    change Answers _ _ (.error reason)
    refine ⟨?_, fun e => ?_⟩
    · rw [List.forall_mem_append]
      exact iff_of_false nofun fun met => unmet met.1
    · rw [firstFault_append, ← h.error_iff]
      have same : (Except.error reason : Except ImageError β) = .error e
          ↔ (Except.error reason : Except ImageError α) = .error e := by simp
      rw [same, or_iff_left fun both => unmet both.1]
  | ok value =>
    have met : ∀ demand ∈ front, demand.Met image := h.ok_iff.mp ⟨value, rfl⟩
    have later := hnext value rfl
    change Answers _ _ (next value)
    refine ⟨?_, fun e => ?_⟩
    · rw [later.ok_iff, List.forall_mem_append, and_iff_right met]
    · rw [later.error_iff, firstFault_append, ← h.error_iff, and_iff_right met, or_iff_right nofun]

/-- A reader answers to one demand if it gives a result where the demand is met, and else its fault. -/
theorem answers_singleton {result : Except ImageError α}
    (judged : (demand.Met image ∧ ∃ read, result = .ok read) ∨
      ∃ e, demand.Fault image e ∧ result = .error e) : Answers [demand] image result := by
  have single : ∀ e, FirstFault [demand] image e ↔ demand.Fault image e := fun e => by
    rw [firstFault_cons, or_iff_left fun both => firstFault_nil both.2]
  rcases judged with ⟨met, read, rfl⟩ | ⟨reason, fault, rfl⟩
  · refine ⟨?_, fun e => ?_⟩
    · rw [List.forall_mem_singleton]
      exact iff_of_true ⟨read, rfl⟩ met
    · rw [single]
      exact iff_of_false nofun met.not_fault
  · refine ⟨?_, fun e => ?_⟩
    · rw [List.forall_mem_singleton]
      exact iff_of_false nofun fun met => met.not_fault fault
    · rw [single, Except.error.injEq]
      exact ⟨fun same => same ▸ fault, fun also => fault.unique also⟩

/-- **A reader judges a value by a form**: it gives a result if the value will do, and otherwise says what
is wrong with it. -/
def Form.Judges (form : Form) (name : String) (value : AttributeValue) (result : Except ImageError α) :
    Prop :=
  (form.Accepts value ∧ ∃ read, result = .ok read) ∨ ∃ e, form.Refuses name value e ∧ result = .error e

/-- **A reader of one attribute** answers to one demand: it judges what stands there, and where nothing does
it says so unless the attribute may be absent. -/
theorem answers_attribute {result : Except ImageError α}
    (absent : (demand.place image).attribute? demand.name = none →
      (demand.optional = true ∧ ∃ read, result = .ok read) ∨
        (demand.optional = false ∧ result = .error (.missing demand.name)))
    (present : ∀ value, (demand.place image).attribute? demand.name = some value →
      demand.form.Judges demand.name value result) :
    Answers [demand] image result := by
  refine answers_singleton ?_
  cases there : (demand.place image).attribute? demand.name with
  | none =>
    have lacks := Image.attribute?_eq_none_iff.mp there
    rcases absent there with ⟨optional, read⟩ | ⟨needed, missing⟩
    · exact .inl ⟨.inl ⟨optional, lacks⟩, read⟩
    · exact .inr ⟨_, .inl ⟨needed, lacks, rfl⟩, missing⟩
  | some value =>
    have shown := Image.attribute?_eq_some_iff.mp there
    rcases present value there with ⟨accepts, read⟩ | ⟨e, refuses, error⟩
    · exact .inl ⟨.inr ⟨value, shown, accepts⟩, read⟩
    · exact .inr ⟨e, .inr ⟨value, shown, refuses⟩, error⟩

/-! ### The readers of an image -/

namespace Image

variable (image : Image) (name : String)

theorem answers_optionalString :
    Answers [{ name, form := .text, optional := true }] image (image.optionalString name) := by
  refine answers_attribute (fun absent => .inl ⟨rfl, none, ?_⟩) fun value there => ?_
  all_goals change image.attribute? name = _ at *
  · simp only [optionalString, absent]
  · cases value with
    | string text => exact .inl ⟨trivial, some text, by simp only [optionalString, there]⟩
    | _ =>
      refine .inr ⟨_, .wrongType (by simp), ?_⟩
      simp only [optionalString, there, Form.key]

theorem answers_string : Answers [{ name, form := .text }] image (image.string name) := by
  refine answers_attribute (fun absent => .inr ⟨rfl, ?_⟩) fun value there => ?_
  all_goals change image.attribute? name = _ at *
  · simp only [string, optionalString, absent, needed]
  · cases value with
    | string text => exact .inl ⟨trivial, text, by simp only [string, optionalString, there, needed]⟩
    | _ =>
      refine .inr ⟨_, .wrongType (by simp), ?_⟩
      simp only [string, optionalString, there, needed, Form.key]

theorem answers_map : Answers [{ name, form := .map }] image (image.map name) := by
  refine answers_attribute (fun absent => .inr ⟨rfl, ?_⟩) fun value there => ?_
  all_goals change image.attribute? name = _ at *
  · simp only [map, absent]
  · cases value with
    | map entries => exact .inl ⟨trivial, entries, by simp only [map, there]⟩
    | _ =>
      refine .inr ⟨_, .wrongType (by simp), ?_⟩
      simp only [map, there, Form.key]

theorem answers_uint64 (within : Option String) :
    Answers [{ name, form := .number, within }] image
      ((Demand.place { name, form := .number, within } image).uint64 name) := by
  refine answers_attribute (fun absent => .inr ⟨rfl, ?_⟩) fun value there => ?_
  · simp only [uint64, number, optionalNumber, absent, needed]
  · simp only at there
    cases value with
    | number digits =>
      cases read : Decimal.uint64? digits with
      | none =>
        have unspelled : ∀ n, ¬ Decimal.Spells digits n := fun n spelled => by
          rw [Decimal.uint64?_eq_some_iff.mpr spelled] at read
          cases read
        refine .inr ⟨_, .invalidNumber unspelled, ?_⟩
        simp only [uint64, number, optionalNumber, there, read, needed]
      | some n =>
        refine .inl ⟨⟨n, Decimal.uint64?_eq_some_iff.mp read⟩, n, ?_⟩
        simp only [uint64, number, optionalNumber, there, read, needed]
    | _ =>
      refine .inr ⟨_, .wrongType (by simp), ?_⟩
      simp only [uint64, number, optionalNumber, there, needed, Form.key]

end Image

end OrderHerald
