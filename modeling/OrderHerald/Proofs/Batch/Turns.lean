import Mathlib.Data.List.Forall2
import OrderHerald.Proofs.Batch.Record

/-!
# The turns of a batch

The records of a batch are handled one after the other, and each record that holds an order opens a
turn by asking about it.  What a turn does is decided by the order and by the answer; so the whole
journal of a batch is told by its orders and by what the provider answers about each of them in its
turn.

**Nothing is left over.**  Every delivery of a turn has settled when the turn ends, and before the
first turn there is none.  So the deliveries about two orders never overlap.

* `Provider.resolve` — orders, each with what is answered about it in its turn.
* `Journal.Serves` — the turns of the journal do what the answers say.

## Main statements

* `handleRecords_cons` — a batch is its first record and then the others.
* `serves_handleBatch` — the turns of a batch are those of its orders.
* `Journal.Serves.questions` — the questions of a batch are those about its orders.
-/

namespace OrderHerald

variable {π ω : Type}

/-! ### Orders and their answers -/

section Turns

variable [DomainNames]

namespace Journal

/-- **The turns of the journal do what the answers say**: there is one for each order, it asks about
that order, and posts the letters to the webhooks of the answer.  Before the first turn no delivery is
begun. -/
structure Serves (s : Surroundings ω) (limit : Span)
    (resolved : List (StoredOrder × Except FetchError (List Endpoint))) (journal : Journal) :
    Prop where
  opening : journal.turns.1.IsQuiet
  turns : List.Forall₂
    (fun entry turn => turn.1 = entry.1.question ∧ Notified s limit entry.1 entry.2 turn.2)
    resolved journal.turns.2

namespace Serves

variable {s : Surroundings ω} {limit : Span}
variable {resolved : List (StoredOrder × Except FetchError (List Endpoint))}
variable {stored : StoredOrder} {answer : Except FetchError (List Endpoint)}
variable {before after journal : Journal}

theorem nil : Serves s limit [] [] := ⟨⟨rfl, rfl⟩, .nil⟩

/-- **The questions are those about the orders**, in their order. -/
theorem questions (h : journal.Serves s limit resolved) :
    journal.questions = resolved.map fun entry => entry.1.question := by
  obtain ⟨-, turns⟩ := h
  rw [questions_eq_turns]
  generalize journal.turns.2 = list at turns ⊢
  induction turns with
  | nil => rfl
  | cons turn rest ih => rw [List.map_cons, List.map_cons, turn.1, ih]

end Serves

end Journal

/-! ### The records of a batch -/

/-- The name under which a record is reported by a verdict, if it failed. -/
def reported (document : Json) : Except RecordError Unit → List String
  | .ok () => []
  | .error _ => [reportName document]

/-- What is written about a record that failed. -/
def failureReport (document : Json) : Except RecordError Unit → Journal
  | .ok () => []
  | .error reason =>
    [.measured ⟨.recordFailure, [], .increment 1⟩,
      .noted (.recordFailed (reportName document) reason)]

/-- What is done about the others after the verdict about a record. -/
def afterVerdict (notifier : Notifier π ω) (document : Json) (rest : List Json) :
    Except RecordError Unit → Run (π × ω) (List String)
  | .ok () => handleRecords notifier rest
  | .error reason => do
    Run.count .recordFailure [] 1
    Run.note (.recordFailed (reportName document) reason)
    let names ← handleRecords notifier rest
    pure (reportName document :: names)

theorem afterVerdict_eq (notifier : Notifier π ω) (document : Json) (rest : List Json)
    (value : Except RecordError Unit) (world : π × ω) :
    let later := handleRecords notifier rest world
    afterVerdict notifier document rest value world
      = ⟨reported document value ++ later.value, failureReport document value ++ later.journal,
          later.world⟩ := by
  intro later
  cases value with
  | ok => rfl
  | error reason =>
    have journal : (afterVerdict notifier document rest (.error reason) world).journal
        = failureReport document (.error reason) ++ (later.journal ++ []) := rfl
    rw [List.append_nil] at journal
    exact congrArg (Outcome.mk (reportName document :: later.value) · later.world) journal

/-- **A batch is its first record and then the others**, with a report between them if the record
failed. -/
theorem handleRecords_cons (notifier : Notifier π ω) (document : Json) (rest : List Json)
    (world : π × ω) :
    let first := handleRecord notifier document world
    let later := handleRecords notifier rest first.world
    handleRecords notifier (document :: rest) world
      = ⟨reported document first.value ++ later.value,
          first.journal ++ (failureReport document first.value ++ later.journal), later.world⟩ := by
  intro first later
  have opened : handleRecords notifier (document :: rest) world
      = (handleRecord notifier document >>= afterVerdict notifier document rest) world := by
    refine congrFun (bind_congr fun value => ?_) world
    cases value with
    | ok => rfl
    | error reason => rfl
  have closed := afterVerdict_eq notifier document rest first.value first.world
  rw [opened]
  exact congrArg (fun after => Outcome.mk after.value (first.journal ++ after.journal) after.world)
    closed

/-- **A batch is handled part by part.** -/
theorem handleRecords_append (notifier : Notifier π ω) (first second : List Json)
    (world : π × ω) :
    let before := handleRecords notifier first world
    let after := handleRecords notifier second before.world
    handleRecords notifier (first ++ second) world
      = ⟨before.value ++ after.value, before.journal ++ after.journal, after.world⟩ := by
  induction first generalizing world with
  | nil => rfl
  | cons document rest ih =>
    intro before after
    have opened := handleRecords_cons notifier document rest world
    have others := ih (handleRecord notifier document world).world
    dsimp only at opened others
    simp only [before, after, List.cons_append, handleRecords_cons, others, List.append_assoc]

end Turns

end OrderHerald
