import OrderHerald.Json.Document
import OrderHerald.Routing.Definition

/-!
# Routing definitions as JSON

The document is an object with `catchAll`, a list of webhooks, and `filter`, the tables per
dimension; both may be left out, and `filter` also goes by the name `filterRules`.  A webhook has a
`url` and perhaps `headers`.

* `Definition.ofJson?`, `Definition.ofBytes?` — reading.
* `Definition.toJson` — writing, with every key.
-/

namespace OrderHerald

namespace Endpoint

/-- The fields of a webhook. -/
def fields : List Field := ["url", "headers"]

/-- Reads a webhook. -/
def ofJson? (value : Json) : Option Endpoint := do
  let record ← Record.of? fields value
  let url ← record.required? "url" Json.string?
  let headers ← record.optionalWithDefault? "headers" (Json.dict? Json.string?)
  some ⟨url, headers⟩

/-- A dictionary of texts. -/
def headersToJson (headers : Dict String String) : Json :=
  .object (headers.entries.map fun (name, value) => (name, .string value))

/-- Writes a webhook; absent headers are left out. -/
def toJson (endpoint : Endpoint) : Json :=
  .object (("url", .string endpoint.url) ::
    match endpoint.headers with
    | none => []
    | some headers => [("headers", headersToJson headers)])

end Endpoint

namespace Rules

/-- The fields of the rules. -/
def fields : List Field := ["filler", "orderStatus", "offerer"]

/-- Reads the table of one dimension. -/
def tableOfJson? : Json → Option Table :=
  Json.dict? (Json.list? Endpoint.ofJson?)

/-- Reads the rules. -/
def ofJson? (value : Json) : Option Rules := do
  let record ← Record.of? fields value
  let filler ← record.withDefault? "filler" Dict.empty tableOfJson?
  let orderStatus ← record.withDefault? "orderStatus" Dict.empty tableOfJson?
  let offerer ← record.withDefault? "offerer" Dict.empty tableOfJson?
  some ⟨filler, orderStatus, offerer⟩

/-- Writes the table of one dimension. -/
def tableToJson (table : Table) : Json :=
  .object (table.entries.map fun (key, endpoints) => (key, .array (endpoints.map Endpoint.toJson)))

/-- Writes the rules. -/
def toJson (rules : Rules) : Json :=
  .object [("filler", tableToJson rules.filler), ("orderStatus", tableToJson rules.orderStatus),
    ("offerer", tableToJson rules.offerer)]

end Rules

namespace Definition

/-- The fields of a definition. -/
def fields : List Field := ["catchAll", ⟨"filter", ["filterRules"]⟩]

/-- **Reads a routing definition.** -/
def ofJson? (value : Json) : Option Definition := do
  let record ← Record.of? fields value
  let catchAll ← record.withDefault? "catchAll" [] (Json.list? Endpoint.ofJson?)
  let rules ← record.withDefault? "filter" {} Rules.ofJson?
  some ⟨catchAll, rules⟩

/-- Reads a routing definition from the bytes of its document. -/
def ofBytes? (bytes : List UInt8) : Option Definition :=
  (Json.ofBytes? bytes).bind ofJson?

/-- **Writes a routing definition.** -/
def toJson (definition : Definition) : Json :=
  .object [("catchAll", .array (definition.catchAll.map Endpoint.toJson)),
    ("filter", definition.rules.toJson)]

end Definition

end OrderHerald
