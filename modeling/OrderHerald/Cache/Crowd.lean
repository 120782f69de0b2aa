import OrderHerald.Cache.Entry
import OrderHerald.Store.Source

/-!
# Callers of the cache, step by step

Many callers may need the routing definition at the same time.  Each of them looks for a fresh entry,
waits for the one permit, looks again, fetches, stores what was fetched and hands the permit back.
The steps of different callers mix in any order, the clock moves in between, and a caller may leave
wherever it waits.

* `Standing` — how far a caller is.
* `Crowd` — the clock, the entry, the callers, the queue for the permit and who holds it.
* `Move`, `Crowd.move` — one step; a step that is not possible changes nothing.
* `Crowd.after` — the crowd after some steps.

The queue is in the order in which callers came to wait.  Any of them may be admitted next; that the
first one is, is a property of a run and not of the crowd.

A caller waits for the permit and for its fetch.  Between any other two of its steps it does not wait,
so it cannot leave there.

## Main statements

* `Crowd.standing_put_of_ne` — a caller that moves leaves the others where they are.
* `Crowd.entry_move` — only storing changes the entry.
-/

namespace OrderHerald

/-- How far a caller is. -/
inductive Standing where
  /-- It has not called. -/
  | away
  /-- It has called and not looked yet. -/
  | arrived
  /-- It found no fresh entry and waits for the permit. -/
  | waiting
  /-- It has the permit and has not looked again. -/
  | admitted
  /-- It has the permit, found no fresh entry again and is about to fetch. -/
  | starting
  /-- It has the permit and waits for what it fetches. -/
  | fetching
  /-- It has the permit and what it fetched. -/
  | storing (definition : Definition)
  /-- It has its answer and still the permit. -/
  | returning (answer : Except FetchError Definition)
  | answered (answer : Except FetchError Definition)
  /-- It left before there was an answer. -/
  | gone

/-- The callers of a cache at a moment. -/
structure Crowd where
  now : Instant
  entry : Option Entry
  standing : Nat → Standing
  /-- Who waits for the permit, first come first. -/
  queue : List Nat := []
  /-- Who holds the permit. -/
  permit : Option Nat := none

/-- One step. -/
inductive Move where
  /-- The clock is moved, forwards or backwards. -/
  | clock (time : Instant)
  | call (caller : Nat)
  | look (caller : Nat)
  /-- The permit goes to a caller that waits. -/
  | grant (caller : Nat)
  | lookAgain (caller : Nat)
  /-- The fetch of a caller begins. -/
  | fetch (caller : Nat)
  /-- The fetch of a caller ends. -/
  | finish (caller : Nat) (outcome : Except FetchError Definition)
  | store (caller : Nat)
  /-- A caller hands the permit back and returns. -/
  | release (caller : Nat)
  | leave (caller : Nat)

namespace Crowd

/-- Nobody has called yet. -/
def empty (now : Instant) (entry : Option Entry) : Crowd :=
  { now, entry, standing := fun _ => .away }

/-- A caller has come so far. -/
def put (crowd : Crowd) (caller : Nat) (standing : Standing) : Crowd :=
  { crowd with standing := fun other => if other = caller then standing else crowd.standing other }

/-- A caller comes to wait for the permit. -/
def enqueue (crowd : Crowd) (caller : Nat) : Crowd :=
  { crowd.put caller .waiting with queue := crowd.queue ++ [caller] }

/-- A caller waits no longer for the permit. -/
def dequeue (crowd : Crowd) (caller : Nat) (standing : Standing) : Crowd :=
  { crowd.put caller standing with queue := crowd.queue.filter fun other => other ≠ caller }

/-- A caller that waited gets the permit. -/
def grant (crowd : Crowd) (caller : Nat) : Crowd :=
  { crowd.dequeue caller .admitted with permit := some caller }

/-- A caller hands the permit back. -/
def release (crowd : Crowd) (caller : Nat) (standing : Standing) : Crowd :=
  { crowd.put caller standing with permit := none }

/-- A caller writes what it fetched into the entry. -/
def store (crowd : Crowd) (caller : Nat) (definition : Definition) : Crowd :=
  { crowd.put caller (.returning (.ok definition)) with entry := some ⟨definition, crowd.now⟩ }

/-- **One step of the crowd.** -/
def move (period : Span) (crowd : Crowd) : Move → Crowd
  | .clock time => { crowd with now := time }
  | .call caller =>
    match crowd.standing caller with
    | .away => crowd.put caller .arrived
    | _ => crowd
  | .look caller =>
    match crowd.standing caller with
    | .arrived =>
      match Entry.fresh? crowd.entry period crowd.now with
      | some definition => crowd.put caller (.answered (.ok definition))
      | none => crowd.enqueue caller
    | _ => crowd
  | .grant caller =>
    match crowd.permit, crowd.standing caller with
    | none, .waiting => crowd.grant caller
    | _, _ => crowd
  | .lookAgain caller =>
    match crowd.standing caller with
    | .admitted =>
      match Entry.fresh? crowd.entry period crowd.now with
      | some definition => crowd.put caller (.returning (.ok definition))
      | none => crowd.put caller .starting
    | _ => crowd
  | .fetch caller =>
    match crowd.standing caller with
    | .starting => crowd.put caller .fetching
    | _ => crowd
  | .finish caller outcome =>
    match crowd.standing caller with
    | .fetching =>
      match outcome with
      | .ok definition => crowd.put caller (.storing definition)
      | .error reason => crowd.put caller (.returning (.error reason))
    | _ => crowd
  | .store caller =>
    match crowd.standing caller with
    | .storing definition => crowd.store caller definition
    | _ => crowd
  | .release caller =>
    match crowd.standing caller with
    | .returning answer => crowd.release caller (.answered answer)
    | _ => crowd
  | .leave caller =>
    match crowd.standing caller with
    | .arrived => crowd.put caller .gone
    | .waiting => crowd.dequeue caller .gone
    | .admitted => crowd.release caller .gone
    | .fetching => crowd.release caller .gone
    | _ => crowd

/-- **The crowd after some steps.** -/
def after (period : Span) (crowd : Crowd) (moves : List Move) : Crowd :=
  moves.foldl (move period) crowd

/-- The answer that a caller has. -/
def answer? (crowd : Crowd) (caller : Nat) : Option (Except FetchError Definition) :=
  match crowd.standing caller with
  | .answered answer => some answer
  | _ => none

@[simp] theorem standing_put (crowd : Crowd) (caller : Nat) (standing : Standing) :
    (crowd.put caller standing).standing caller = standing := by
  simp [put]

/-- **A caller that moves leaves the others where they are.** -/
theorem standing_put_of_ne (crowd : Crowd) {caller other : Nat} (standing : Standing)
    (h : other ≠ caller) : (crowd.put caller standing).standing other = crowd.standing other := by
  simp [put, h]

/-- **Only storing changes the entry.** -/
theorem entry_move (period : Span) (crowd : Crowd) (step : Move)
    (h : ∀ caller, step ≠ .store caller) : (crowd.move period step).entry = crowd.entry := by
  cases step with
  | store caller => exact absurd rfl (h caller)
  | clock time => rfl
  | grant caller => simp only [move]; split <;> rfl
  | call caller => simp only [move]; split <;> rfl
  | look caller => simp only [move]; split <;> (try split) <;> rfl
  | lookAgain caller => simp only [move]; split <;> (try split) <;> rfl
  | fetch caller => simp only [move]; split <;> rfl
  | finish caller outcome => simp only [move]; split <;> (try split) <;> rfl
  | release caller => simp only [move]; split <;> rfl
  | leave caller => simp only [move]; split <;> rfl

theorem after_append (period : Span) (crowd : Crowd) (first second : List Move) :
    crowd.after period (first ++ second) = (crowd.after period first).after period second :=
  List.foldl_append

end Crowd

end OrderHerald
