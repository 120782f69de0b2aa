import OrderHerald.Cache.Basic
import OrderHerald.Cache.Crowd

/-!
# Serving callers that come together

Callers come one right after the other, and all of them have looked before the first fetch ends.
Those that found no fresh entry are served in the order in which they came.

* `Crowd.arrive` — callers call and look.
* `Crowd.serve` — one that waits is served.
* `Cache.definitions` — what each of them gets.
-/

namespace OrderHerald

namespace Crowd

variable {σ : Type}

/-- So many callers call and look, in order. -/
def arrive (period : Span) (count : Nat) (crowd : Crowd) : Crowd :=
  crowd.after period ((List.range count).flatMap fun caller => [.call caller, .look caller])

/-- The clock of the crowd is set to what the clock of the origin shows. -/
def setClock (period : Span) (origin : Origin σ) : Run (Crowd × σ) Unit :=
  Run.of fun world =>
    let (now, after) := origin.now world.2
    ((), (world.1.move period (.clock now), after))

/-- Some steps of the crowd. -/
def step (period : Span) (moves : List Move) : Run (Crowd × σ) Unit :=
  Run.of fun world => ((), (world.1.after period moves, world.2))

/-- How far a caller is. -/
def standingOf (caller : Nat) : Run (Crowd × σ) Standing :=
  Run.of fun world => (world.1.standing caller, world)

/-- **One that waits is served**: it gets the permit, looks again, and fetches if it must. -/
def serve (period : Span) (origin : Origin σ) (caller : Nat) : Run (Crowd × σ) Unit := do
  setClock period origin
  step period [.grant caller, .lookAgain caller]
  match ← standingOf caller with
  | .starting => do
    step period [.fetch caller]
    let outcome ← (Cache.fetch origin).onRight
    setClock period origin
    step period [.finish caller outcome, .store caller]
  | _ => pure ()
  step period [.release caller]

end Crowd

namespace Cache

variable {σ : Type}

/-- **What each of so many callers gets** that come together. -/
def definitions (period : Span) (origin : Origin σ) (count : Nat) :
    Run (Cached σ) (List (Except FetchError Definition)) := fun world =>
  let (now, after) := origin.now world.2
  let crowd := (Crowd.empty now world.1).arrive period count
  let outcome := Run.forEach crowd.queue (Crowd.serve period origin) (crowd, after)
  let served := outcome.world.1
  ⟨(List.range count).filterMap served.answer?, outcome.journal, (served.entry, outcome.world.2)⟩

end Cache

end OrderHerald
