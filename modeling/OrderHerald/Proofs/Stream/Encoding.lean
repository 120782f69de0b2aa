import OrderHerald.Proofs.Json.Rearranged
import OrderHerald.Stream.Attribute

/-!
# Which documents are attribute values

A typed value is written as an object whose one member names its type, and so are the items and entries in
it.  A document is read as a value exactly if it is what is written for that value, up to the order of
members.

**One step of reading** looks at the one member, and leaves the values that stand in it to the reader again.
So what is to be shown at every depth follows the structure of the value.

**Entries ascend in a value that is read**, whatever the order of the members.  Such values stand for maps in
which only the names count, and for each of them one list of entries.

* `AttributeValue.IsOrdered` — the entries of every map in the value ascend.
* `AttributeValue.Reads` — one step of reading.
* `AttributeValue.Untyped` — what keeps a document from being a value.

## Main statements

* `AttributeValue.isExact` — which documents are read as a value.
* `AttributeValue.ofJson?_eq_none_iff` — which documents are no values.
* `Image.exists_ofJson?_iff` — which documents are images.
* `AttributeValue.encoding_exact` — values are read as they are written.
-/

namespace OrderHerald

namespace AttributeValue

/-- **What holds of a value if it holds of the values in it** holds of every value. -/
theorem induction {motive : AttributeValue → Prop} (string : ∀ value, motive (.string value))
    (number : ∀ digits, motive (.number digits)) (bool : ∀ value, motive (.bool value))
    (null : ∀ value, motive (.null value))
    (map : ∀ entries, (∀ entry ∈ entries, motive entry.2) → motive (.map entries))
    (list : ∀ items, (∀ item ∈ items, motive item) → motive (.list items))
    (stringSet : ∀ values, motive (.stringSet values))
    (numberSet : ∀ values, motive (.numberSet values)) (binary : ∀ value, motive (.binary value))
    (value : AttributeValue) : motive value :=
  @AttributeValue.rec motive (fun entries => ∀ entry ∈ entries, motive entry.2)
    (fun items => ∀ item ∈ items, motive item) (fun entry => motive entry.2)
    string number bool null map list stringSet numberSet binary
    nofun (fun _ _ first rest => List.forall_mem_cons.mpr ⟨first, rest⟩)
    nofun (fun _ _ first rest => List.forall_mem_cons.mpr ⟨first, rest⟩)
    (fun _ _ value => value) value

/-- **The entries of every map ascend** in the value, and each name stands there once. -/
inductive IsOrdered : AttributeValue → Prop where
  | string (value : String) : IsOrdered (.string value)
  | number (digits : String) : IsOrdered (.number digits)
  | bool (value : Bool) : IsOrdered (.bool value)
  | null (value : Bool) : IsOrdered (.null value)
  | map {entries : List (String × AttributeValue)} (ordered : Ascending.Ordered entries)
      (each : ∀ entry ∈ entries, IsOrdered entry.2) : IsOrdered (.map entries)
  | list {items : List AttributeValue} (each : ∀ item ∈ items, IsOrdered item) : IsOrdered (.list items)
  | stringSet (values : List String) : IsOrdered (.stringSet values)
  | numberSet (values : List String) : IsOrdered (.numberSet values)
  | binary (value : String) : IsOrdered (.binary value)

/-! ### Readers and writers of lists -/

theorem itemsOfJson?_eq_mapM (documents : List Json) :
    itemsOfJson? documents = documents.mapM ofJson? := by
  induction documents with
  | nil => rfl
  | cons document rest ih =>
    rw [itemsOfJson?, List.mapM_cons, ih]
    cases ofJson? document <;> cases rest.mapM ofJson? <;> rfl

theorem membersOfJson?_eq_mapM (members : Json.Members) :
    membersOfJson? members = members.mapM fun member => (ofJson? member.2).map (member.1, ·) := by
  induction members with
  | nil => rfl
  | cons member rest ih =>
    rw [membersOfJson?, List.mapM_cons, ih]
    cases ofJson? member.2 <;>
      cases rest.mapM (fun member => (ofJson? member.2).map (member.1, ·)) <;> rfl

theorem itemsToJson_eq_map (items : List AttributeValue) : itemsToJson items = items.map toJson := by
  induction items with
  | nil => rfl
  | cons item rest ih => rw [itemsToJson, List.map_cons, ih]

theorem entriesToJson_eq_map (entries : List (String × AttributeValue)) :
    entriesToJson entries = entries.map fun entry => (entry.1, entry.2.toJson) := by
  induction entries with
  | nil => rfl
  | cons entry rest ih => rw [entriesToJson, List.map_cons, ih]

/-! ### What the reader does with each type -/

theorem ofJson?_list (documents : List Json) :
    ofJson? (.object [("L", .array documents)]) = (documents.mapM ofJson?).map .list := by
  rw [ofJson?, itemsOfJson?_eq_mapM]

theorem ofJson?_map (members : Json.Members) :
    ofJson? (.object [("M", .object members)])
      = (members.mapM fun member => (ofJson? member.2).map (member.1, ·)).map fun entries =>
          .map (Ascending.ofList entries) := by
  rw [ofJson?, membersOfJson?_eq_mapM]

theorem ofJson?_stringSet (items : List Json) :
    ofJson? (.object [("SS", .array items)]) = (items.mapM Json.string?).map .stringSet := by
  rw [ofJson?]
  rfl

theorem ofJson?_numberSet (items : List Json) :
    ofJson? (.object [("NS", .array items)]) = (items.mapM Json.string?).map .numberSet := by
  rw [ofJson?]
  rfl

theorem mapM_string?_eq_some_iff {items : List Json} {values : List String} :
    items.mapM Json.string? = some values ↔ items = values.map .string := by
  rw [mapM_eq_some_iff, ← List.forall₂_eq_eq_eq, List.forall₂_map_right_iff]
  have same : ∀ item value, Json.string? item = some value ↔ item = .string value := by
    intro item value
    cases item <;> simp [Json.string?]
  simp only [same]

/-! ### One step of reading -/

/-- **What a document is read as**, by what the values in it are read as. -/
inductive Reads : Json → AttributeValue → Prop where
  | string (value : String) : Reads (.object [("S", .string value)]) (.string value)
  | number (digits : String) : Reads (.object [("N", .string digits)]) (.number digits)
  | bool (value : Bool) : Reads (.object [("BOOL", .bool value)]) (.bool value)
  | null (value : Bool) : Reads (.object [("NULL", .bool value)]) (.null value)
  | binary (value : String) : Reads (.object [("B", .string value)]) (.binary value)
  | stringSet (values : List String) :
      Reads (.object [("SS", .array (values.map .string))]) (.stringSet values)
  | numberSet (values : List String) :
      Reads (.object [("NS", .array (values.map .string))]) (.numberSet values)
  | list {documents : List Json} {items : List AttributeValue}
      (each : List.Forall₂ (fun document item => ofJson? document = some item) documents items) :
      Reads (.object [("L", .array documents)]) (.list items)
  | map {members : Json.Members} {entries : List (String × AttributeValue)}
      (each : List.Forall₂ (UnderName fun document value => ofJson? document = some value)
        members entries) :
      Reads (.object [("M", .object members)]) (.map (Ascending.ofList entries))

variable {document : Json} {value : AttributeValue}

/-- **The reader takes one step and reads what stands there.** -/
theorem ofJson?_eq_some_iff : ofJson? document = some value ↔ Reads document value := by
  constructor
  · intro read
    unfold ofJson? at read
    split at read
    · obtain rfl := Option.some.inj read
      exact .string _
    · obtain rfl := Option.some.inj read
      exact .number _
    · obtain rfl := Option.some.inj read
      exact .bool _
    · obtain rfl := Option.some.inj read
      exact .null _
    · obtain rfl := Option.some.inj read
      exact .binary _
    · obtain ⟨values, strings, rfl⟩ := Option.map_eq_some_iff.mp read
      obtain rfl := mapM_string?_eq_some_iff.mp strings
      exact .stringSet values
    · obtain ⟨values, strings, rfl⟩ := Option.map_eq_some_iff.mp read
      obtain rfl := mapM_string?_eq_some_iff.mp strings
      exact .numberSet values
    · obtain ⟨items, each, rfl⟩ := Option.map_eq_some_iff.mp read
      rw [itemsOfJson?_eq_mapM] at each
      exact .list (mapM_eq_some_iff.mp each)
    · obtain ⟨entries, each, rfl⟩ := Option.map_eq_some_iff.mp read
      rw [membersOfJson?_eq_mapM] at each
      exact .map (mapM_snd_eq_some_iff.mp each)
    · cases read
  · intro reads
    cases reads with
    | stringSet values => rw [ofJson?_stringSet, mapM_string?_eq_some_iff.mpr rfl, Option.map_some]
    | numberSet values => rw [ofJson?_numberSet, mapM_string?_eq_some_iff.mpr rfl, Option.map_some]
    | list each => rw [ofJson?_list, mapM_eq_some_iff.mpr each, Option.map_some]
    | map each => rw [ofJson?_map, mapM_snd_eq_some_iff.mpr each, Option.map_some]
    | _ => rw [ofJson?]

/-! ### Values are read as they are written -/

/-- **The value is read exactly**: of the documents that are rearranged into what is written for it, and of no
others. -/
def IsExact (value : AttributeValue) : Prop :=
  ∀ document : Json, document.NamesOnce →
    (ofJson? document = some value ↔ value.IsOrdered ∧ document.Rearranged value.toJson)

/-- A value without values in it is read of nothing but what is written for it. -/
theorem isExact_of_unmoved {name : String} {payload : Json} (ordered : value.IsOrdered)
    (written : value.toJson = .object [(name, payload)])
    (unmoved : ∀ document : Json, document.Rearranged payload → document = payload)
    (read : ∀ document, Reads document value ↔ document = .object [(name, payload)]) :
    value.IsExact := by
  intro document _
  rw [ofJson?_eq_some_iff, read, and_iff_right ordered, written, Json.rearranged_single_iff]
  constructor
  · rintro rfl
    exact ⟨payload, rfl, .refl payload⟩
  · rintro ⟨inner, rfl, arranged⟩
    rw [unmoved inner arranged]

theorem eq_of_rearranged_string {text : String} (h : document.Rearranged (.string text)) :
    document = .string text := by
  cases h
  rfl

theorem eq_of_rearranged_bool {flag : Bool} (h : document.Rearranged (.bool flag)) :
    document = .bool flag := by
  cases h
  rfl

/-- Lists of texts cannot be rearranged. -/
theorem eq_of_rearranged_strings {values : List String}
    (h : document.Rearranged (.array (values.map .string))) :
    document = .array (values.map .string) := by
  obtain ⟨items, rfl, each⟩ := Json.rearranged_array_iff.mp h
  rw [List.forall₂_map_right_iff] at each
  have same : List.Forall₂ (fun item value => item = .string value) items values :=
    each.imp fun _ _ => eq_of_rearranged_string
  rw [← List.forall₂_map_right_iff, List.forall₂_eq_eq_eq] at same
  rw [same]

/-- A list is read exactly if its items are. -/
theorem isExact_list {items : List AttributeValue} (h : ∀ item ∈ items, item.IsExact) :
    (list items).IsExact := by
  intro document names
  have written : (list items).toJson = .object [("L", .array (items.map toJson))] := by
    rw [toJson, itemsToJson_eq_map]
  have ordered : (list items).IsOrdered ↔ ∀ item ∈ items, item.IsOrdered :=
    ⟨fun | .list each => each, .list⟩
  have each : ∀ {documents : List Json}, (∀ document ∈ documents, document.NamesOnce) →
      (List.Forall₂ (fun document item => ofJson? document = some item) documents items
        ↔ (∀ item ∈ items, item.IsOrdered) ∧
            List.Forall₂ Json.Rearranged documents (items.map toJson)) :=
    fun names => forall₂_iff_map fun document mem item mem' => h item mem' document (names document mem)
  rw [ofJson?_eq_some_iff, written, ordered, Json.rearranged_single_iff]
  constructor
  · intro read
    cases read with
    | list read =>
      obtain ⟨ordered, arranged⟩ := (each names.of_single.of_array).mp read
      exact ⟨ordered, _, rfl, .array arranged⟩
  · rintro ⟨ordered, inner, rfl, arranged⟩
    obtain ⟨documents, rfl, same⟩ := Json.rearranged_array_iff.mp arranged
    exact .list ((each names.of_single.of_array).mpr ⟨ordered, same⟩)

/-- **A map is read exactly if what stands under its names is.**  Its members are arranged as its entries are,
and then read one by one. -/
theorem isExact_map {entries : List (String × AttributeValue)}
    (h : ∀ entry ∈ entries, entry.2.IsExact) : (map entries).IsExact := by
  intro document names
  have written : (map entries).toJson
      = .object [("M", .object (entries.map fun entry => (entry.1, entry.2.toJson)))] := by
    rw [toJson, entriesToJson_eq_map]
  have ordered : (map entries).IsOrdered
      ↔ Ascending.Ordered entries ∧ ∀ entry ∈ entries, entry.2.IsOrdered :=
    ⟨fun | .map ordered each => ⟨ordered, each⟩, fun both => .map both.1 both.2⟩
  have each : ∀ {members : Json.Members}, (∀ member ∈ members, member.2.NamesOnce) →
      (List.Forall₂ (UnderName fun document value => ofJson? document = some value) members entries
        ↔ (∀ entry ∈ entries, entry.2.IsOrdered) ∧
            List.Forall₂ (UnderName Json.Rearranged) members
              (entries.map fun entry => (entry.1, entry.2.toJson))) := by
    refine fun names => forall₂_iff_map fun member mem entry mem' => ?_
    rw [underName_iff, underName_iff, h entry mem' member.2 (names member mem)]
    exact and_left_comm
  rw [ofJson?_eq_some_iff, written, ordered, Json.rearranged_single_iff]
  constructor
  · intro read
    cases read with
    | map read =>
      obtain ⟨distinct, names⟩ := names.of_single.of_object
      obtain ⟨ascending, arranged, moved, arrangedRead⟩ :=
        (exists_ofList_iff distinct).mp ⟨_, read, rfl⟩
      obtain ⟨ordered, same⟩ :=
        (each fun member mem => names member (moved.mem_iff.mpr mem)).mp arrangedRead
      exact ⟨⟨ascending, ordered⟩, _, rfl, .object moved same⟩
  · rintro ⟨⟨ascending, ordered⟩, inner, rfl, rearranged⟩
    obtain ⟨members, rfl, arranged, moved, same⟩ := Json.rearranged_object_iff.mp rearranged
    obtain ⟨distinct, names⟩ := names.of_single.of_object
    have arrangedRead :=
      (each fun member mem => names member (moved.mem_iff.mpr mem)).mpr ⟨ordered, same⟩
    obtain ⟨found, read, rfl⟩ :=
      (exists_ofList_iff distinct).mpr ⟨ascending, arranged, moved, arrangedRead⟩
    exact .map read

/-- **Every value is read exactly.** -/
theorem isExact (value : AttributeValue) : value.IsExact := by
  induction value using AttributeValue.induction with
  | string text =>
    refine isExact_of_unmoved (.string text) rfl (fun _ => eq_of_rearranged_string) fun document => ?_
    exact ⟨fun | .string _ => rfl, fun same => same ▸ .string text⟩
  | number digits =>
    refine isExact_of_unmoved (.number digits) rfl (fun _ => eq_of_rearranged_string) fun document => ?_
    exact ⟨fun | .number _ => rfl, fun same => same ▸ .number digits⟩
  | bool flag =>
    refine isExact_of_unmoved (.bool flag) rfl (fun _ => eq_of_rearranged_bool) fun document => ?_
    exact ⟨fun | .bool _ => rfl, fun same => same ▸ .bool flag⟩
  | null flag =>
    refine isExact_of_unmoved (.null flag) rfl (fun _ => eq_of_rearranged_bool) fun document => ?_
    exact ⟨fun | .null _ => rfl, fun same => same ▸ .null flag⟩
  | binary text =>
    refine isExact_of_unmoved (.binary text) rfl (fun _ => eq_of_rearranged_string) fun document => ?_
    exact ⟨fun | .binary _ => rfl, fun same => same ▸ .binary text⟩
  | stringSet values =>
    refine isExact_of_unmoved (.stringSet values) rfl (fun _ => eq_of_rearranged_strings) fun document => ?_
    exact ⟨fun | .stringSet _ => rfl, fun same => same ▸ .stringSet values⟩
  | numberSet values =>
    refine isExact_of_unmoved (.numberSet values) rfl (fun _ => eq_of_rearranged_strings) fun document => ?_
    exact ⟨fun | .numberSet _ => rfl, fun same => same ▸ .numberSet values⟩
  | list items ih => exact isExact_list ih
  | map entries ih => exact isExact_map ih

end AttributeValue

/-! ### What is no value -/

/-- The JSON types. -/
inductive Json.Kind where
  | null | bool | number | string | array | object | defect
  deriving DecidableEq

/-- The JSON type of a document. -/
def Json.kind : Json → Kind
  | .null => .null
  | .bool _ => .bool
  | .number _ => .number
  | .string _ => .string
  | .array _ => .array
  | .object _ => .object
  | .defect => .defect

section Kinds

variable {document : Json}

theorem Json.kind_eq_string_iff : document.kind = .string ↔ ∃ text, document = .string text := by
  cases document <;> simp [kind]

theorem Json.kind_eq_bool_iff : document.kind = .bool ↔ ∃ flag, document = .bool flag := by
  cases document <;> simp [kind]

theorem Json.kind_eq_array_iff : document.kind = .array ↔ ∃ items, document = .array items := by
  cases document <;> simp [kind]

theorem Json.kind_eq_object_iff : document.kind = .object ↔ ∃ members, document = .object members := by
  cases document <;> simp [kind]

theorem Json.string?_eq_none_iff : document.string? = none ↔ document.kind ≠ .string := by
  cases document <;> simp [kind, string?]

end Kinds

namespace AttributeValue

variable {document : Json} {value : AttributeValue}

/-- **The JSON type of what stands under the name of a type**, if there is such a type. -/
def payloadKind? : String → Option Json.Kind
  | "S" => some .string
  | "N" => some .string
  | "B" => some .string
  | "BOOL" => some .bool
  | "NULL" => some .bool
  | "SS" => some .array
  | "NS" => some .array
  | "L" => some .array
  | "M" => some .object
  | _ => none

/-- **What keeps a document from being a value**, at the top of it or in a value that stands in it. -/
inductive Untyped : Json → Prop where
  | noObject {document : Json} (h : document.kind ≠ .object) : Untyped document
  /-- There is no member, or there are several. -/
  | noSingle {members : Json.Members} (h : members.length ≠ 1) : Untyped (.object members)
  | unknown {name : String} {payload : Json} (h : payloadKind? name = none) :
      Untyped (.object [(name, payload)])
  | otherKind {name : String} {payload : Json} {expected : Json.Kind}
      (known : payloadKind? name = some expected) (h : payload.kind ≠ expected) :
      Untyped (.object [(name, payload)])
  /-- One of a set is no text. -/
  | noText {name : String} {items : List Json} {item : Json} (known : name = "SS" ∨ name = "NS")
      (mem : item ∈ items) (h : item.kind ≠ .string) : Untyped (.object [(name, .array items)])
  | item {items : List Json} {item : Json} (mem : item ∈ items) (h : Untyped item) :
      Untyped (.object [("L", .array items)])
  | entry {members : Json.Members} {member : String × Json} (mem : member ∈ members)
      (h : Untyped member.2) : Untyped (.object [("M", .object members)])

/-- Where there is no object with one member under the name of a type, and in it what that type needs,
nothing is read. -/
theorem ofJson?_eq_none_of_kind (h : document.kind = .object → ∀ name payload,
    document = .object [(name, payload)] → payloadKind? name ≠ some payload.kind) :
    ofJson? document = none := by
  refine Option.eq_none_iff_forall_ne_some.mpr fun value read => ?_
  rw [ofJson?_eq_some_iff] at read
  cases read <;> exact h rfl _ _ rfl rfl

/-- **What is no value is not read.** -/
theorem Untyped.ofJson?_eq_none (h : Untyped document) : ofJson? document = none := by
  induction h with
  | noObject h => exact ofJson?_eq_none_of_kind fun object => absurd object h
  | noSingle h =>
    refine ofJson?_eq_none_of_kind fun _ name payload single => absurd ?_ h
    rw [(Json.object.inj single)]
    rfl
  | unknown h =>
    refine ofJson?_eq_none_of_kind fun _ name payload single => ?_
    cases single
    rw [h]
    nofun
  | otherKind known h =>
    refine ofJson?_eq_none_of_kind fun _ name payload single same => h ?_
    cases single
    exact Option.some.inj (same.symm.trans known)
  | noText known mem h =>
    have unread : List.mapM Json.string? _ = none :=
      mapM_eq_none_iff.mpr ⟨_, mem, Json.string?_eq_none_iff.mpr h⟩
    rcases known with rfl | rfl
    · rw [ofJson?_stringSet, unread, Option.map_none]
    · rw [ofJson?_numberSet, unread, Option.map_none]
  | item mem _ ih => rw [ofJson?_list, mapM_eq_none_iff.mpr ⟨_, mem, ih⟩, Option.map_none]
  | entry mem _ ih =>
    rw [ofJson?_map, mapM_eq_none_iff.mpr ⟨_, mem, by rw [ih, Option.map_none]⟩, Option.map_none]

/-- One step of judging: what is not read is no value, if this holds of what stands in it. -/
theorem untyped_of_parts
    (items : ∀ items, document = .object [("L", .array items)] →
      ∀ item ∈ items, ofJson? item = none → Untyped item)
    (entries : ∀ members, document = .object [("M", .object members)] →
      ∀ member ∈ members, ofJson? member.2 = none → Untyped member.2)
    (unread : ofJson? document = none) : Untyped document := by
  by_cases object : document.kind = .object
  · obtain ⟨members, rfl⟩ := Json.kind_eq_object_iff.mp object
    match members with
    | [] => exact .noSingle nofun
    | _ :: _ :: _ => exact .noSingle nofun
    | [(name, payload)] =>
      cases known : payloadKind? name with
      | none => exact .unknown known
      | some expected =>
        by_cases same : payload.kind = expected
        · unfold payloadKind? at known
          split at known
          all_goals cases known
          -- The three types of texts, the two of truth values, the two sets, the lists and the maps.
          iterate 3
            · obtain ⟨text, rfl⟩ := Json.kind_eq_string_iff.mp same
              rw [ofJson?] at unread
              cases unread
          iterate 2
            · obtain ⟨flag, rfl⟩ := Json.kind_eq_bool_iff.mp same
              rw [ofJson?] at unread
              cases unread
          · obtain ⟨texts, rfl⟩ := Json.kind_eq_array_iff.mp same
            rw [ofJson?_stringSet, Option.map_eq_none_iff, mapM_eq_none_iff] at unread
            obtain ⟨item, mem, unread⟩ := unread
            exact .noText (.inl rfl) mem (Json.string?_eq_none_iff.mp unread)
          · obtain ⟨texts, rfl⟩ := Json.kind_eq_array_iff.mp same
            rw [ofJson?_numberSet, Option.map_eq_none_iff, mapM_eq_none_iff] at unread
            obtain ⟨item, mem, unread⟩ := unread
            exact .noText (.inr rfl) mem (Json.string?_eq_none_iff.mp unread)
          · obtain ⟨documents, rfl⟩ := Json.kind_eq_array_iff.mp same
            rw [ofJson?_list, Option.map_eq_none_iff, mapM_eq_none_iff] at unread
            obtain ⟨item, mem, unread⟩ := unread
            exact .item mem (items documents rfl item mem unread)
          · obtain ⟨members, rfl⟩ := Json.kind_eq_object_iff.mp same
            rw [ofJson?_map, Option.map_eq_none_iff, mapM_eq_none_iff] at unread
            obtain ⟨member, mem, unread⟩ := unread
            exact .entry mem (entries members rfl member mem (Option.map_eq_none_iff.mp unread))
        · exact .otherKind known same
  · exact .noObject object

/-- **Which documents are no values.** -/
theorem ofJson?_eq_none_iff : ofJson? document = none ↔ Untyped document := by
  refine ⟨?_, Untyped.ofJson?_eq_none⟩
  -- The values in a list or in a map stand two levels below it, so a document is judged with its parts.
  suffices (ofJson? document = none → Untyped document) ∧
      (∀ items, document = .array items → ∀ item ∈ items, ofJson? item = none → Untyped item) ∧
      ∀ members, document = .object members →
        ∀ member ∈ members, ofJson? member.2 = none → Untyped member.2 from this.1
  induction document using Json.induction with
  | array items ih =>
    refine ⟨untyped_of_parts nofun nofun, ?_, nofun⟩
    rintro _ ⟨⟩ item mem
    exact (ih item mem).1
  | object members ih =>
    refine ⟨untyped_of_parts ?_ ?_, nofun, ?_⟩
    · rintro items ⟨⟩
      exact (ih _ List.mem_cons_self).2.1 items rfl
    · rintro inner ⟨⟩
      exact (ih _ List.mem_cons_self).2.2 inner rfl
    · rintro _ ⟨⟩ member mem
      exact (ih member mem).1
  | _ => exact ⟨untyped_of_parts nofun nofun, nofun, nofun⟩

/-! ### Documents that are written -/

/-- **What is written for a value names each member once.** -/
theorem IsOrdered.namesOnce_toJson (h : value.IsOrdered) : value.toJson.NamesOnce := by
  have texts : ∀ values : List String, (Json.array (values.map .string)).NamesOnce := by
    intro values
    refine .array fun item mem => ?_
    obtain ⟨text, -, rfl⟩ := List.mem_map.mp mem
    exact .string text
  induction h with
  | string text => exact .single _ (.string text)
  | number digits => exact .single _ (.string digits)
  | bool flag => exact .single _ (.bool flag)
  | null flag => exact .single _ (.bool flag)
  | binary text => exact .single _ (.string text)
  | stringSet values => exact .single _ (texts values)
  | numberSet values => exact .single _ (texts values)
  | list _ ih =>
    rw [toJson, itemsToJson_eq_map]
    refine .single _ (.array fun document mem => ?_)
    obtain ⟨item, here, rfl⟩ := List.mem_map.mp mem
    exact ih item here
  | map ordered _ ih =>
    rw [toJson, entriesToJson_eq_map]
    refine .single _ (.object ?_ fun member mem => ?_)
    · rw [List.map_map]
      exact ordered.nodup
    · obtain ⟨entry, here, rfl⟩ := List.mem_map.mp mem
      exact ih entry here

end AttributeValue

/-- **An image is read exactly if each of its attributes is.** -/
theorem Image.exists_ofJson?_iff {document : Json} :
    (∃ image, Image.ofJson? document = some image)
      ↔ ∃ members, document = .object members ∧
          ∀ member ∈ members, ∃ value, AttributeValue.ofJson? member.2 = some value := by
  cases document with
  | object members =>
    have read : (∃ image, Image.ofJson? (.object members) = some image)
        ↔ ¬ ∃ member ∈ members, AttributeValue.ofJson? member.2 = none := by
      rw [← Option.ne_none_iff_exists', Image.ofJson?, AttributeValue.membersOfJson?_eq_mapM, ne_eq,
        Option.map_eq_none_iff, mapM_eq_none_iff]
      simp only [Option.map_eq_none_iff]
    rw [read]
    constructor
    · intro each
      refine ⟨members, rfl, fun member mem => Option.ne_none_iff_exists'.mp fun unread => ?_⟩
      exact each ⟨member, mem, unread⟩
    · rintro ⟨_, ⟨⟩, each⟩ ⟨member, mem, unread⟩
      obtain ⟨value, read⟩ := each member mem
      cases unread.symm.trans read
  | _ => exact iff_of_false nofun nofun

/-- **Values are read as they are written.**

* A value is read of what is written for it, at any depth.
* A document that names each member once, as every plain value does, is read as a value exactly if it is what
  is written for the value, but for the order of the members.
* A document is no value exactly if it is no object with one member, or its member names no type, or what
  stands there is of another type than is named, or one of the values in it is no value.
* An image is read exactly if each of its attributes is. -/
theorem AttributeValue.encoding_exact :
    (∀ value : AttributeValue, value.IsOrdered → ofJson? value.toJson = some value) ∧
      (∀ (document : Json) (value : AttributeValue), document.NamesOnce →
        (ofJson? document = some value ↔ value.IsOrdered ∧ document.Rearranged value.toJson)) ∧
      (∀ document : Json, ofJson? document = none ↔ Untyped document) ∧
      ∀ document : Json, (∃ image, Image.ofJson? document = some image)
        ↔ ∃ members, document = .object members ∧
            ∀ member ∈ members, ∃ value, ofJson? member.2 = some value := by
  refine ⟨fun value ordered => ?_, fun document value names => value.isExact document names,
    fun document => ofJson?_eq_none_iff, fun document => Image.exists_ofJson?_iff⟩
  exact (value.isExact value.toJson ordered.namesOnce_toJson).mpr ⟨ordered, .refl value.toJson⟩

theorem AttributeValue.encoding_exact_nested :
    let document : Json := .object [("M", .object
      [("b", .object [("L", .array [.object [("N", .string "1")], .object [("NULL", .bool true)]])]),
        ("a", .object [("SS", .array [.string "x"])])])]
    let value : AttributeValue :=
      .map [("a", .stringSet ["x"]), ("b", .list [.number "1", .null true])]
    ofJson? document = some value ∧ document.Rearranged value.toJson ∧ document ≠ value.toJson ∧
      ofJson? value.toJson = some value ∧
      Untyped (.object [("L", .array [document, .object [("S", .bool true)]])]) := by
  intro document value
  obtain ⟨back, exact, untyped, -⟩ := encoding_exact
  have names : document.NamesOnce :=
    .single _ (.object (by decide) (List.forall_mem_cons.mpr
      ⟨.single _ (.array (List.forall_mem_cons.mpr ⟨.single _ (.string _),
        List.forall_mem_singleton.mpr (.single _ (.bool _))⟩)),
        List.forall_mem_singleton.mpr (.single _ (.array (List.forall_mem_singleton.mpr (.string _))))⟩))
  have read : ofJson? document = some value := by rfl
  obtain ⟨ordered, rearranged⟩ := (exact document value names).mp read
  refine ⟨read, rearranged, by simp [document, value, toJson, entriesToJson], back value ordered, ?_⟩
  exact (untyped _).mp (by rfl)

end OrderHerald
