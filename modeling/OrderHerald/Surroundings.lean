import OrderHerald.Clock
import OrderHerald.Run

/-!
# What lies around the service

The service reads clocks and files and asks other services; it shuffles what should not always come
in the same order, and the world decides in which order concurrent work is done.  All of that is a
`Surroundings` over some state of the world, about which nothing is known here: any answer may depend
on all that was asked before.

**Redirects.**  An answer may send the client on to another request.  The client follows such answers by
itself, ten of them at most, and what it is told in the end becomes of the request that was made.  What it
asks on the way is in the journal too, apart from what it was asked to ask.

* `Surroundings` — what can be looked at and asked.
* `Surroundings.ask` — a request; it is in the journal if it left.
* `Surroundings.follow` — the requests by which redirects are followed.
* `Surroundings.arrange` — a list in another order.

## Main statements

* `Surroundings.writes_ask` — asking writes requests, and of those that are made only the one.
* `Surroundings.perm_arrange` — arranging loses nothing and adds nothing.
-/

namespace OrderHerald

/-- What lies around the service. -/
structure Surroundings (ω : Type) where
  /-- The clock. -/
  now : ω → Instant × ω
  /-- The clock that stamps notifications, in epoch milliseconds. -/
  stamp : ω → UInt64 × ω
  /-- What becomes of a request that may take so long, or any time. -/
  exchange : Request → Option Span → ω → Exchange × ω
  /-- The bytes of a file, if it can be read. -/
  file : String → ω → Option (List UInt8) × ω
  /-- The order in which so many things come, where chance or concurrency decides: their places. -/
  order : Nat → ω → List Nat × ω
  order_perm : ∀ (count : Nat) (world : ω), (order count world).1.Perm (List.range count)

/-- The items of a list at given places. -/
def itemsAt {α : Type} (items : List α) (places : List Nat) : List α :=
  places.filterMap (items[·]?)

theorem itemsAt_range {α : Type} (items : List α) :
    itemsAt items (List.range items.length) = items := by
  induction items with
  | nil => rfl
  | cons item rest ih =>
    rw [itemsAt, List.length_cons, List.range_succ_eq_map, List.filterMap_cons, List.filterMap_map]
    exact congrArg (item :: ·) ih

namespace Surroundings

variable {ω α : Type}

/-- Reads the clock. -/
def clock (s : Surroundings ω) : Run ω Instant := Run.of s.now

/-- So many redirects are followed. -/
def redirectLimit : Nat := 10

/-- Goes on to another request.  If that does not leave, there is no answer to the one before. -/
def goOn (s : Surroundings ω) (limit : Option Span) (onward : Request) : Run ω Exchange := do
  let exchange ← Run.of (s.exchange onward limit)
  if exchange.isSent then do
    Run.record (.followed onward)
    pure exchange
  else pure .cutOff

/-- **Follows redirects**, so many at most.  What is left of the time is for the surroundings to know. -/
def follow (s : Surroundings ω) (limit : Option Span) : Nat → Exchange → Run ω Exchange
  | hops + 1, .redirected onward => do
    let exchange ← s.goOn limit onward
    follow s limit hops exchange
  | _, exchange => pure exchange

/-- **A request.**  It is in the journal if it left. -/
def ask (s : Surroundings ω) (request : Request) (limit : Option Span) : Run ω Exchange := do
  let exchange ← Run.of (s.exchange request limit)
  if exchange.isSent then Run.record (.requested request)
  s.follow limit redirectLimit exchange

theorem writes_goOn (s : Surroundings ω) (limit : Option Span) (onward : Request) :
    (s.goOn limit onward).Writes fun event => event = .followed onward := by
  have written : (Run.record (.followed onward) : Run ω Unit).Writes
      fun event => event = .followed onward := Run.writes_record rfl
  refine (Run.writes_of _).bind fun exchange => ?_
  split
  · exact written.bind fun _ => Run.writes_pure exchange
  · exact Run.writes_pure _

theorem writes_follow (s : Surroundings ω) (limit : Option Span) (hops : Nat)
    (exchange : Exchange) :
    (s.follow limit hops exchange).Writes fun event => ∃ onward, event = .followed onward := by
  induction hops generalizing exchange with
  | zero => cases exchange <;> exact Run.writes_pure _
  | succ hops ih =>
    cases exchange with
    | redirected onward =>
      exact ((s.writes_goOn limit onward).mono fun event going => ⟨onward, going⟩).bind ih
    | _ => exact Run.writes_pure _

/-- **Asking writes the request, and those by which redirects are followed**, and nothing else. -/
theorem writes_ask (s : Surroundings ω) (request : Request) (limit : Option Span) :
    (s.ask request limit).Writes fun event =>
      event = .requested request ∨ ∃ onward, event = .followed onward := by
  refine (Run.writes_of _).bind fun exchange => ?_
  have later : (s.follow limit redirectLimit exchange).Writes fun event =>
      event = .requested request ∨ ∃ onward, event = .followed onward :=
    (s.writes_follow limit redirectLimit exchange).mono fun event followed => .inr followed
  dsimp only
  split
  · exact (Run.writes_record (.inl rfl)).bind fun _ => later
  · exact later

/-- A list in the order that chance or concurrency decides. -/
def arrange (s : Surroundings ω) (items : List α) : Run ω (List α) := do
  let places ← Run.of (s.order items.length)
  pure (itemsAt items places)

/-- **Arranging loses nothing and adds nothing.** -/
theorem perm_arrange (s : Surroundings ω) (items : List α) (world : ω) :
    (s.arrange items world).value.Perm items := by
  have h := (s.order_perm items.length world).filterMap (items[·]?)
  rwa [show (List.range items.length).filterMap (items[·]?) = items from itemsAt_range items] at h

end Surroundings

end OrderHerald
