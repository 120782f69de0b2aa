import OrderHerald.Batch.Handle
import OrderHerald.ExclusiveFiller
import OrderHerald.Http.Answer
import OrderHerald.Text.Split

/-!
# The doors of the service

Batches of change records and orders with an exclusive filler come in as requests.

* `Visit` — a request as it came in; `Visit.path` is the path it names.
* `Refusal` — why a body is refused.
* `Order.accept` — the orders whose exclusive filler is notified.
* `Notifier.answer` — the answer to a request.

## Main statements

* `Order.accept_eq_ok_iff` — an order is accepted if it has a type and an exclusive filler.
* `orderOfBody_eq_ok_iff` — a body is taken if it spells an order that is accepted.
-/

namespace OrderHerald

/-- A request as it came in. -/
structure Visit where
  method : String
  /-- What is asked for: a path or a url, perhaps with a query. -/
  target : String
  /-- The bytes of the body, unless they could not be read to the end. -/
  body : Option (List UInt8)
  deriving DecidableEq, Repr

/-- What stands behind a sign of division and an authority, if a text has them. -/
def afterAuthority? : List Char → Option (List Char)
  | [] => none
  | c :: rest =>
    if [':', '/', '/'].isPrefixOf (c :: rest) then
      some (cutAt (fun c => c = '/' || c = '?') (rest.drop 2)).2
    else afterAuthority? rest

/-- **The path that a target names**: what stands before the query, behind scheme and authority if
there are any. -/
def pathOfTarget (target : String) : String :=
  let chars := target.toList
  let hierarchy :=
    if ['/'].isPrefixOf chars then chars else (afterAuthority? chars).getD chars
  match (cutAt (fun c => c = '?' || c = '#') hierarchy).1 with
  | [] => "/"
  | path => String.ofList path

/-- The path that a request names. -/
def Visit.path (visit : Visit) : String := pathOfTarget visit.target

/-- Where batches of change records come in. -/
def batchPath : String := "/order-notifications"

/-- Where orders with an exclusive filler come in. -/
def fillerPath : String := "/exclusive-filler"

/-- Why a body is refused. -/
inductive Refusal where
  /-- The bytes spell no document of the expected kind. -/
  | undecodable
  | batch (error : BatchError)
  | noType
  | noExclusiveFiller
  deriving DecidableEq, Repr

/-- The text of a refusal. -/
def Refusal.message : Refusal → String
  | .undecodable => "undecodable body"
  | .batch error => error.message
  | .noType => "order type is required"
  | .noExclusiveFiller => "order has no exclusive filler"

/-- The answer to a body that is refused. -/
def Refusal.answer (refusal : Refusal) : Answer := .text 400 (refusal.message ++ "\n")

/-- **The order's exclusive filler can be notified**: the order has a type and such a filler. -/
def Order.accept (order : Order) : Except Refusal OrderType :=
  match order.orderType with
  | none => .error .noType
  | some type =>
    if hasExclusiveFiller order.filler then .ok type else .error .noExclusiveFiller

theorem Order.accept_eq_ok_iff {order : Order} {type : OrderType} :
    order.accept = .ok type
      ↔ order.orderType = some type ∧ hasExclusiveFiller order.filler = true := by
  unfold Order.accept
  cases order.orderType with
  | none => simp
  | some other => by_cases h : hasExclusiveFiller order.filler = true <;> simp [h]

/-- The order that a body spells, with its type, if its exclusive filler can be notified. -/
def orderOfBody (body : List UInt8) : Except Refusal (Order × OrderType) :=
  match (Json.ofBytes? body).bind Order.ofJson? with
  | none => .error .undecodable
  | some order =>
    match order.accept with
    | .error refusal => .error refusal
    | .ok type => .ok (order, type)

/-- **A body is taken if it spells an order that is accepted**, and for no other reason. -/
theorem orderOfBody_eq_ok_iff {body : List UInt8} {order : Order} {type : OrderType} :
    orderOfBody body = .ok (order, type)
      ↔ (Json.ofBytes? body).bind Order.ofJson? = some order ∧ order.accept = .ok type := by
  unfold orderOfBody
  cases (Json.ofBytes? body).bind Order.ofJson? with
  | none => simp
  | some read =>
    simp only [Option.some.injEq]
    constructor
    · intro taken
      cases accepted : read.accept with
      | error refusal =>
        rw [accepted] at taken
        cases taken
      | ok other =>
        rw [accepted] at taken
        cases taken
        exact ⟨rfl, accepted⟩
    · rintro ⟨rfl, accepted⟩
      rw [accepted]

namespace Notifier

variable {π ω : Type} [DomainNames]

/-- The answer to a batch of change records. -/
def answerBatch (notifier : Notifier π ω) (body : List UInt8) : Run (π × ω) Answer := do
  match Json.plainOfBytes? body with
  | none => pure Refusal.undecodable.answer
  | some event =>
    match ← handleBatch notifier event with
    | .error error => pure (Refusal.batch error).answer
    | .ok response => pure (.json 200 response.text)

/-- The answer to an order with an exclusive filler. -/
def answerFiller (notifier : Notifier π ω) (body : List UInt8) : Run (π × ω) Answer := do
  match orderOfBody body with
  | .error refusal => pure refusal.answer
  | .ok (order, type) => do
    notifyExclusiveFiller notifier order type
    pure (.text 202 "accepted\n")

/-- **The answer to a request**; none if its body is needed and could not be read. -/
def answer (notifier : Notifier π ω) (visit : Visit) : Run (π × ω) (Option Answer) := do
  if visit.path = batchPath then
    if visit.method = "POST" then
      match visit.body with
      | none => pure none
      | some body => some <$> notifier.answerBatch body
    else pure (some (.error 405))
  else if visit.path = fillerPath then
    if visit.method = "POST" then
      match visit.body with
      | none => pure none
      | some body => some <$> notifier.answerFiller body
    else pure (some (.error 405))
  else pure (some (.error 404))

end Notifier

end OrderHerald
