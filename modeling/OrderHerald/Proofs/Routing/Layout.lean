import OrderHerald.Proofs.Dict
import OrderHerald.Proofs.Document.Record
import OrderHerald.Proofs.Json.RoundTrip
import OrderHerald.Routing.Format

/-!
# Routing definitions in any layout

A routing definition is written by hand, so it is laid out in many ways.  Which document says which
definition is said here without the reader, by relations that follow the definition from the outside
in; then the reader is shown to make the definition of every document that says it.

* **Lists** keep their order, **tables** do not: a table has a member for each of its bindings, in
  any order (`Json.ArrayOf`, `Json.TableOf`).
* **Records** have certain members, in any order and among others whose names are unknown
  (`Json.RecordOf`).
* **Members** stand under one of their names, or are left out where their value may be missing
  (`Json.MemberOf`).

The reader asks for each field which members bear a name of it, and a record laid out anew gives the
same for every field.  For tables the values are read member by member, and then the bindings come to
the table in whatever order they are.

## Main statements

* `Definition.ofJson?_of_laid` — a document that says a definition is read as that definition.
* `Definition.ofJson?_eq_none` — a document with both names of the rules is refused.
* `Definition.reads_every_layout` — writing and reading, in every layout.
-/

namespace OrderHerald

namespace Json

/-! ### Layouts -/

section Layouts

variable {α : Type}

/-- **A list laid out**: its items in their order. -/
inductive ArrayOf (item : α → Json → Prop) (list : List α) : Json → Prop
  | array {items : List Json} (written : List.Forall₂ item list items) :
    ArrayOf item list (.array items)

/-- **A table laid out**: a member for each binding, in any order. -/
inductive TableOf (value : α → Json → Prop) (table : Dict String α) : Json → Prop
  | object {bindings members : Members}
    (written : List.Forall₂ (fun entry member => member.1 = entry.1 ∧ value entry.2 member.2)
      table.entries bindings)
    (order : members.Perm bindings) : TableOf value table (.object members)

/-- **A record laid out**: certain members, in any order and among others under unknown names. -/
inductive RecordOf (known : List String) (core : Members) : Json → Prop
  | object {members : Members} (extra : Members) (unknown : ∀ member ∈ extra, member.1 ∉ known)
    (order : members.Perm (core ++ extra)) : RecordOf known core (.object members)

/-- **A member laid out**: under one of its names, or left out where its value may be missing. -/
inductive MemberOf (names : List String) (value : Json → Prop) (spare : Prop) : Members → Prop
  | written (name : String) {document : Json} (named : name ∈ names) (told : value document) :
    MemberOf names value spare [(name, document)]
  | leftOut (missing : spare) : MemberOf names value spare []

end Layouts

/-! ### Reading them -/

section Reading

variable {α : Type} {read? : Json → Option α} {value : α → Json → Prop}

/-- A list whose items are read is read. -/
theorem list?_of_arrayOf (back : ∀ a document, value a document → read? document = some a)
    {list : List α} {document : Json} (h : ArrayOf value list document) :
    list? read? document = some list := by
  obtain ⟨written⟩ := h
  change List.mapM read? _ = some list
  induction written with
  | nil => rfl
  | cons here _ ih => simp [List.mapM_cons, back _ _ here, ih]

/-- **A table whose values are read is read**, whatever the order of its members. -/
theorem dict?_of_tableOf (back : ∀ a document, value a document → read? document = some a)
    {table : Dict String α} {document : Json} (h : TableOf value table document) :
    dict? read? document = some table := by
  obtain ⟨written, order⟩ := h
  rename_i bindings members
  -- The bindings in the order of the members: so they are read, and so they are collected.
  obtain ⟨entries, written, same⟩ := List.perm_comp_forall₂ order written.flip
  have pairs : members.mapM (fun member => (read? member.2).map (member.1, ·)) = some entries := by
    clear order same
    induction written with
    | nil => rfl
    | cons here _ ih =>
      obtain ⟨name, told⟩ := here
      simp [List.mapM_cons, back _ _ told, ih, name]
  have collected : Dict.ofList entries = table := Dict.ofList_of_perm same
  change (members.mapM fun member => (read? member.2).map (member.1, ·)).map Dict.ofList = _
  rw [pairs, Option.map_some, collected]

/-- A record laid out anew is the same record. -/
theorem RecordOf.of?_eq {known : List String} {core : Members} {document : Json}
    (h : RecordOf known core document) {fields : List Field}
    (names : ∀ field ∈ fields, ∀ name, field.isNamed name = true → name ∈ known) :
    Record.of? fields document = Record.of? fields (.object core) := by
  obtain ⟨extra, unknown, order⟩ := h
  refine Record.of?_laid (fun field mem member added => ?_) order
  rw [Bool.eq_false_iff]
  intro named
  exact unknown member added (names field mem member.1 named)

/-- A member laid out is a document under a name, or nothing. -/
theorem MemberOf.exists_document {names : List String} {told : Json → Prop} {spare : Prop}
    {members : Members} (h : MemberOf names told spare members) (nonempty : names ≠ []) :
    ∃ name ∈ names, ∃ document : Option Json, members = (document.map (name, ·)).toList ∧
      (∀ written, document = some written → told written) ∧ (document = none → spare) := by
  cases h with
  | written name named told =>
    refine ⟨name, named, some _, rfl, fun written same => ?_, nofun⟩
    obtain rfl := Option.some.inj same
    exact told
  | leftOut missing =>
    obtain ⟨name, rest, rfl⟩ := List.exists_cons_of_ne_nil nonempty
    exact ⟨name, List.mem_cons_self, none, rfl, nofun, fun _ => missing⟩

end Reading

end Json

open Json

/-! ### Webhooks -/

namespace Endpoint

/-- A document says which headers there are: a text for each name. -/
def HeadersLaid (headers : Dict String String) (document : Json) : Prop :=
  TableOf (fun text value => value = .string text) headers document

/-- **A document says which webhook it is**: it has its url and, if there are any, its headers. -/
inductive Laid (endpoint : Endpoint) (document : Json) : Prop
  | record {headers : Members}
    (headersLaid : MemberOf ["headers"]
      (fun table => ∃ dict, endpoint.headers = some dict ∧ HeadersLaid dict table)
      (endpoint.headers = none) headers)
    (laid : RecordOf ["url", "headers"] (("url", .string endpoint.url) :: headers) document)

/-- **A webhook is read from every document that is laid out as it.** -/
theorem ofJson?_of_laid {endpoint : Endpoint} {document : Json} (h : endpoint.Laid document) :
    ofJson? document = some endpoint := by
  obtain ⟨headersLaid, laid⟩ := h
  obtain ⟨name, named, table, rfl, told, missing⟩ := headersLaid.exists_document (by decide)
  obtain rfl := List.mem_singleton.mp named
  have known : ∀ field ∈ fields, ∀ name, field.isNamed name = true → name ∈ ["url", "headers"] := by
    simp [fields, Field.isNamed]
  have record : Record.of? fields document
      = some [("url", .given (.string endpoint.url)), ("headers", Slot.ofOption table)] := by
    rw [laid.of?_eq known, Record.of?_object]
    simp [fields, Field.given_cons, Field.given_toList, Field.isNamed, Slot.ofGiven?_singleton,
      Slot.ofGiven?_toList]
  have headers : Record.optionalWithDefault?
      [("url", Slot.given (.string endpoint.url)), ("headers", Slot.ofOption table)]
      "headers" (dict? string?) = some endpoint.headers := by
    refine Record.optionalWithDefault?_of_slot (by simp [Record.slot_cons]) ?_ missing
    intro written same
    obtain ⟨dict, present, laid⟩ := told written same
    have read : dict? string? written = some dict := dict?_of_tableOf (by rintro _ _ rfl; rfl) laid
    obtain ⟨_, _⟩ := laid
    exact ⟨rfl, by rw [read, present, Option.map_some]⟩
  unfold ofJson?
  rw [record, Option.bind_eq_bind, Option.bind_some]
  simp only [headers]
  rfl

theorem list?_of_laid {endpoints : List Endpoint} {document : Json}
    (h : ArrayOf Laid endpoints document) : list? ofJson? document = some endpoints :=
  list?_of_arrayOf (fun _ _ laid => ofJson?_of_laid laid) h

end Endpoint

/-! ### Rules -/

namespace Rules

/-- A document says which webhooks a dimension has. -/
def TableLaid (table : Table) (document : Json) : Prop :=
  TableOf (ArrayOf Endpoint.Laid) table document

/-- **A document says which rules it holds**: a table for each dimension, and an empty one may be
left out. -/
inductive Laid (rules : Rules) (document : Json) : Prop
  | record {filler orderStatus offerer : Members}
    (fillerLaid : MemberOf ["filler"] (TableLaid rules.filler) (rules.filler = Dict.empty) filler)
    (orderStatusLaid : MemberOf ["orderStatus"] (TableLaid rules.orderStatus)
      (rules.orderStatus = Dict.empty) orderStatus)
    (offererLaid : MemberOf ["offerer"] (TableLaid rules.offerer) (rules.offerer = Dict.empty)
      offerer)
    (laid : RecordOf ["filler", "orderStatus", "offerer"] (filler ++ (orderStatus ++ offerer))
      document)

theorem tableOfJson?_of_laid {table : Table} {document : Json} (h : TableLaid table document) :
    tableOfJson? document = some table :=
  dict?_of_tableOf (fun _ _ items => Endpoint.list?_of_laid items) h

/-- **Rules are read from every document that is laid out as them.** -/
theorem ofJson?_of_laid {rules : Rules} {document : Json} (h : rules.Laid document) :
    ofJson? document = some rules := by
  obtain ⟨fillerLaid, orderStatusLaid, offererLaid, laid⟩ := h
  obtain ⟨name, named, filler, rfl, fillerTold, noFiller⟩ :=
    fillerLaid.exists_document (by decide)
  obtain rfl := List.mem_singleton.mp named
  obtain ⟨name, named, orderStatus, rfl, orderStatusTold, noOrderStatus⟩ :=
    orderStatusLaid.exists_document (by decide)
  obtain rfl := List.mem_singleton.mp named
  obtain ⟨name, named, offerer, rfl, offererTold, noOfferer⟩ :=
    offererLaid.exists_document (by decide)
  obtain rfl := List.mem_singleton.mp named
  have known : ∀ field ∈ fields, ∀ name, field.isNamed name = true →
      name ∈ ["filler", "orderStatus", "offerer"] := by
    simp [fields, Field.isNamed]
  have record : Record.of? fields document = some [("filler", Slot.ofOption filler),
      ("orderStatus", Slot.ofOption orderStatus), ("offerer", Slot.ofOption offerer)] := by
    rw [laid.of?_eq known, Record.of?_object]
    simp [fields, Field.given_append, Field.given_toList, Field.isNamed, Slot.ofGiven?_toList]
  unfold ofJson?
  rw [record, Option.bind_eq_bind, Option.bind_some]
  rw [Record.withDefault?_of_slot (by simp [Record.slot_cons])
      (fun written same => tableOfJson?_of_laid (fillerTold written same)) noFiller,
    Record.withDefault?_of_slot (by simp [Record.slot_cons])
      (fun written same => tableOfJson?_of_laid (orderStatusTold written same)) noOrderStatus,
    Record.withDefault?_of_slot (by simp [Record.slot_cons])
      (fun written same => tableOfJson?_of_laid (offererTold written same)) noOfferer]
  rfl

end Rules

/-! ### Definitions -/

namespace Definition

/-- **A document says which definition it holds**: the webhooks that take every order and the rules,
under either name, and whatever of them is empty may be left out. -/
inductive Laid (definition : Definition) (document : Json) : Prop
  | record {catchAll rules : Members}
    (catchAllLaid : MemberOf ["catchAll"] (ArrayOf Endpoint.Laid definition.catchAll)
      (definition.catchAll = []) catchAll)
    (rulesLaid : MemberOf ["filter", "filterRules"] definition.rules.Laid (definition.rules = {})
      rules)
    (laid : RecordOf ["catchAll", "filter", "filterRules"] (catchAll ++ rules) document)

/-- **A definition is read from every document that is laid out as it.** -/
theorem ofJson?_of_laid {definition : Definition} {document : Json}
    (h : definition.Laid document) : ofJson? document = some definition := by
  obtain ⟨catchAllLaid, rulesLaid, laid⟩ := h
  obtain ⟨name, named, catchAll, rfl, catchAllTold, noCatchAll⟩ :=
    catchAllLaid.exists_document (by decide)
  obtain rfl := List.mem_singleton.mp named
  obtain ⟨name, named, rules, rfl, rulesTold, noRules⟩ := rulesLaid.exists_document (by decide)
  have known : ∀ field ∈ fields, ∀ name, field.isNamed name = true →
      name ∈ ["catchAll", "filter", "filterRules"] := by
    simp [fields, Field.isNamed]
  have record : Record.of? fields document
      = some [("catchAll", Slot.ofOption catchAll), ("filter", Slot.ofOption rules)] := by
    rw [laid.of?_eq known, Record.of?_object]
    -- Either name of the rules is a name of the field.
    rcases List.mem_cons.mp named with rfl | named
    · simp [fields, Field.given_append, Field.given_toList, Field.isNamed, Slot.ofGiven?_toList]
    · obtain rfl := List.mem_singleton.mp named
      simp [fields, Field.given_append, Field.given_toList, Field.isNamed, Slot.ofGiven?_toList]
  unfold ofJson?
  rw [record, Option.bind_eq_bind, Option.bind_some]
  rw [Record.withDefault?_of_slot (by simp [Record.slot_cons])
      (fun written same => Endpoint.list?_of_laid (catchAllTold written same)) noCatchAll,
    Record.withDefault?_of_slot (by simp [Record.slot_cons])
      (fun written same => Rules.ofJson?_of_laid (rulesTold written same)) noRules]
  rfl

/-- **A document with both names of the rules is refused**, whatever stands under them. -/
theorem ofJson?_eq_none {members : Members} (one : "filter" ∈ members.map Prod.fst)
    (other : "filterRules" ∈ members.map Prod.fst) : ofJson? (.object members) = none := by
  let field : Field := ⟨"filter", ["filterRules"]⟩
  let kept := members.filter fun member => field.isNamed member.1
  have both : ∀ name ∈ members.map Prod.fst, field.isNamed name = true →
      ∃ member ∈ kept, member.1 = name := by
    intro name mem named
    obtain ⟨member, listed, rfl⟩ := List.mem_map.mp mem
    exact ⟨member, List.mem_filter.mpr ⟨listed, named⟩, rfl⟩
  obtain ⟨first, first_mem, first_name⟩ := both _ one (by decide)
  obtain ⟨second, second_mem, second_name⟩ := both _ other (by decide)
  have twice : 2 ≤ (field.given members).length := by
    change 2 ≤ (kept.map Prod.snd).length
    rw [List.length_map]
    -- With one member at most, the two names would be one.
    match kept, first_mem, second_mem with
    | [member], first_mem, second_mem =>
      rw [List.mem_singleton.mp first_mem] at first_name
      rw [List.mem_singleton.mp second_mem, first_name] at second_name
      exact absurd second_name (by decide)
    | _ :: _ :: _, _, _ => simp
  have refused : Record.of? fields (Json.object members) = none :=
    Record.of?_eq_none (List.mem_cons_of_mem _ List.mem_cons_self) twice
  unfold ofJson?
  rw [refused]
  rfl

end Definition

/-! ### The layout of what is written -/

section Written

variable {depth : Nat}

/-- A table written binding by binding is laid out. -/
theorem Json.TableOf.of_map {α : Type} (value : α → Json → Prop) (write : α → Json)
    (told : ∀ a, value a (write a)) (table : Dict String α) :
    TableOf value table (.object (table.entries.map fun entry => (entry.1, write entry.2))) := by
  refine .object ?_ (.refl _)
  rw [List.forall₂_map_right_iff, List.forall₂_same]
  exact fun entry _ => ⟨rfl, told entry.2⟩

theorem Json.ArrayOf.of_map {α : Type} (item : α → Json → Prop) (write : α → Json)
    (told : ∀ a, item a (write a)) (list : List α) :
    ArrayOf item list (.array (list.map write)) := by
  refine .array ?_
  rw [List.forall₂_map_right_iff, List.forall₂_same]
  exact fun a _ => told a

/-- The members alone are a record. -/
theorem Json.RecordOf.of_core (known : List String) (core : Members) :
    RecordOf known core (.object core) :=
  .object [] (fun _ mem => absurd mem List.not_mem_nil) (by rw [List.append_nil])

theorem Endpoint.laid_toJson (endpoint : Endpoint) : endpoint.Laid endpoint.toJson := by
  obtain ⟨url, headers⟩ := endpoint
  cases headers with
  | none => exact .record (.leftOut rfl) (.of_core _ _)
  | some headers =>
    have table : HeadersLaid headers (headersToJson headers) :=
      TableOf.of_map (fun text value => value = .string text) .string (fun _ => rfl) headers
    exact .record (.written "headers" (by decide) ⟨headers, rfl, table⟩) (.of_core _ _)

theorem Rules.laid_toJson (rules : Rules) : rules.Laid rules.toJson := by
  have written : ∀ table : Table, TableLaid table (tableToJson table) := fun table =>
    TableOf.of_map (ArrayOf Endpoint.Laid) (fun endpoints => .array (endpoints.map Endpoint.toJson))
      (ArrayOf.of_map _ _ Endpoint.laid_toJson) table
  exact .record (.written "filler" (by decide) (written _))
    (.written "orderStatus" (by decide) (written _)) (.written "offerer" (by decide) (written _))
    (.of_core _ _)

/-- **What is written is laid out** as the definition. -/
theorem Definition.laid_toJson (definition : Definition) : definition.Laid definition.toJson :=
  .record (.written "catchAll" (by decide) (.of_map _ _ Endpoint.laid_toJson definition.catchAll))
    (.written "filter" (by decide) definition.rules.laid_toJson) (.of_core _ _)

/-! ### The text of what is written -/

theorem Endpoint.isExact_toJson (endpoint : Endpoint) : IsExact (depth + 2) endpoint.toJson := by
  obtain ⟨url, headers⟩ := endpoint
  refine .object fun member mem => ?_
  rcases List.mem_cons.mp mem with rfl | mem
  · exact .string url
  · cases headers with
    | none => cases mem
    | some headers =>
      rw [List.mem_singleton.mp mem]
      refine .object fun member mem => ?_
      obtain ⟨⟨name, text⟩, -, rfl⟩ := List.mem_map.mp mem
      exact .string text

theorem Endpoint.isExact_list (endpoints : List Endpoint) :
    IsExact (depth + 3) (.array (endpoints.map Endpoint.toJson)) := by
  refine .array fun item mem => ?_
  obtain ⟨endpoint, -, rfl⟩ := List.mem_map.mp mem
  exact endpoint.isExact_toJson

theorem Rules.isExact_toJson (rules : Rules) : IsExact (depth + 5) rules.toJson := by
  have written : ∀ table : Table, IsExact (depth + 4) (tableToJson table) := by
    intro table
    refine .object fun member mem => ?_
    obtain ⟨⟨key, endpoints⟩, -, rfl⟩ := List.mem_map.mp mem
    exact Endpoint.isExact_list endpoints
  refine .object fun member mem => ?_
  simp only [List.mem_cons, List.not_mem_nil, or_false] at mem
  rcases mem with rfl | rfl | rfl <;> exact written _

theorem Definition.isExact_toJson (definition : Definition) :
    IsExact nestingLimit definition.toJson := by
  change IsExact (120 + 6 + 1) _
  refine .object fun member mem => ?_
  simp only [List.mem_cons, List.not_mem_nil, or_false] at mem
  rcases mem with rfl | rfl
  · exact Endpoint.isExact_list definition.catchAll
  · exact definition.rules.isExact_toJson

end Written

/-- **Routing definitions are read in every layout.**  The bytes that a definition is written as are
read as the definition.  What is written is one layout of it, and every other is read as well, as a
document or as bytes: with members in another order, the rules under their other name, empty parts
left out and unknown members added.  A document with both names of the rules is refused. -/
theorem Definition.reads_every_layout :
    (∀ definition : Definition,
      ofBytes? definition.toJson.text.toUTF8.toList = some definition ∧
        definition.Laid definition.toJson)
      ∧ (∀ (definition : Definition) (document : Json), definition.Laid document →
          ofJson? document = some definition ∧
            ∀ bytes, Json.ofBytes? bytes = some document → ofBytes? bytes = some definition)
      ∧ ∀ members : Members, "filter" ∈ members.map Prod.fst →
          "filterRules" ∈ members.map Prod.fst →
          ofJson? (.object members) = none ∧
            ∀ bytes, Json.ofBytes? bytes = some (.object members) → ofBytes? bytes = none := by
  refine ⟨fun definition => ?_, fun definition document laid => ?_, fun members one other => ?_⟩
  · have read := ofJson?_of_laid definition.laid_toJson
    refine ⟨?_, definition.laid_toJson⟩
    rw [ofBytes?, definition.isExact_toJson.ofBytes?_text, Option.bind_some, read]
  · have read := ofJson?_of_laid laid
    refine ⟨read, fun bytes parsed => ?_⟩
    rw [ofBytes?, parsed, Option.bind_some, read]
  · have refused := ofJson?_eq_none one other
    refine ⟨refused, fun bytes parsed => ?_⟩
    rw [ofBytes?, parsed, Option.bind_some, refused]

/-- A webhook that takes every order, and one with an empty table of headers for one filler. -/
def fillerDefinition : Definition where
  catchAll := [⟨"http://hook.test/all", none⟩]
  rules := { filler := Dict.empty.insert "0xF" [⟨"http://hook.test/filler", some Dict.empty⟩] }

/-- The same in another layout: the rules come first and under their other name, the headers before
the url, dimensions without webhooks are left out, and there are a version and a comment. -/
def fillerDocument : Json :=
  .object [("filterRules", .object [("comment", .string "one filler"),
      ("filler", .object [("0xF", .array
        [.object [("headers", .object []), ("url", .string "http://hook.test/filler")]])])]),
    ("catchAll", .array [.object [("url", .string "http://hook.test/all")]]),
    ("version", .number (.integer 2))]

theorem fillerDefinition_laid : fillerDefinition.Laid fillerDocument := by
  have all : Endpoint.Laid ⟨"http://hook.test/all", none⟩
      (.object [("url", .string "http://hook.test/all")]) :=
    .record (.leftOut rfl) (.of_core _ _)
  have headers : Endpoint.HeadersLaid Dict.empty (.object []) := .object .nil (.refl _)
  have filler : Endpoint.Laid ⟨"http://hook.test/filler", some Dict.empty⟩
      (.object [("headers", .object []), ("url", .string "http://hook.test/filler")]) :=
    .record (.written "headers" (by decide) ⟨_, rfl, headers⟩) (.object [] (by decide) (.swap _ _ _))
  have table : Rules.TableLaid fillerDefinition.rules.filler (.object [("0xF", .array
      [.object [("headers", .object []), ("url", .string "http://hook.test/filler")]])]) :=
    .object (.cons ⟨rfl, .array (.cons filler .nil)⟩ .nil) (.refl _)
  have rules : fillerDefinition.rules.Laid (.object [("comment", .string "one filler"),
      ("filler", .object [("0xF", .array
        [.object [("headers", .object []), ("url", .string "http://hook.test/filler")]])])]) := by
    refine .record (.written "filler" (by decide) table) (.leftOut rfl) (.leftOut rfl) ?_
    exact .object [("comment", .string "one filler")] (by decide) (.swap _ _ _)
  refine .record (.written "catchAll" (by decide) (.array (.cons all .nil)))
    (.written "filterRules" (by decide) rules) ?_
  exact .object [("version", .number (.integer 2))] (by decide) (.swap _ _ _)

theorem fillerDefinition_read :
    fillerDefinition.Laid fillerDocument ∧
      Definition.ofJson? fillerDocument = some fillerDefinition ∧
      Definition.ofJson? (.object [("filter", .object []), ("filterRules", .null)]) = none := by
  obtain ⟨-, read, refused⟩ := Definition.reads_every_layout
  exact ⟨fillerDefinition_laid, (read _ _ fillerDefinition_laid).1,
    (refused _ (by decide) (by decide)).1⟩

end OrderHerald
