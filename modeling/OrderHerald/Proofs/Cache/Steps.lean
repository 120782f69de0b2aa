import Mathlib.Data.List.Induction
import OrderHerald.Cache.Crowd

/-!
# The steps of a crowd

`Crowd.move` is total: a step that is not possible changes nothing.  `Crowd.Step` lists the possible
steps with what each of them needs and what it leads to, and `Crowd.step_or_stay` says that there is
no other way for a crowd to change.  Whatever holds along every run is shown by cases on `Step`.

* `Crowd.Step` — the possible steps.
* `Crowd.Passed` — a step was taken at a moment of a run.

## Main statements

* `Crowd.step_or_stay` — a move is a step, or it changes nothing.
* `Crowd.Step.move_eq` — a step is the move that takes it.
* `Crowd.run_induction` — what holds at the start and is kept by every step holds after every run.
-/

namespace OrderHerald

namespace Crowd

/-! ### The possible steps -/

/-- **The possible steps** from a crowd, with the crowds they lead to. -/
inductive Step (period : Span) (crowd : Crowd) : Move → Crowd → Prop where
  | clock (time : Instant) : Step period crowd (.clock time) { crowd with now := time }
  | call {caller : Nat} (h : crowd.standing caller = .away) :
      Step period crowd (.call caller) (crowd.put caller .arrived)
  | lookFresh {caller : Nat} {definition : Definition} (h : crowd.standing caller = .arrived)
      (fresh : Entry.fresh? crowd.entry period crowd.now = some definition) :
      Step period crowd (.look caller) (crowd.put caller (.answered (.ok definition)))
  | lookStale {caller : Nat} (h : crowd.standing caller = .arrived)
      (stale : Entry.fresh? crowd.entry period crowd.now = none) :
      Step period crowd (.look caller) (crowd.enqueue caller)
  | grant {caller : Nat} (free : crowd.permit = none) (h : crowd.standing caller = .waiting) :
      Step period crowd (.grant caller) (crowd.grant caller)
  | lookAgainFresh {caller : Nat} {definition : Definition} (h : crowd.standing caller = .admitted)
      (fresh : Entry.fresh? crowd.entry period crowd.now = some definition) :
      Step period crowd (.lookAgain caller) (crowd.put caller (.returning (.ok definition)))
  | lookAgainStale {caller : Nat} (h : crowd.standing caller = .admitted)
      (stale : Entry.fresh? crowd.entry period crowd.now = none) :
      Step period crowd (.lookAgain caller) (crowd.put caller .starting)
  | fetch {caller : Nat} (h : crowd.standing caller = .starting) :
      Step period crowd (.fetch caller) (crowd.put caller .fetching)
  | finishOk {caller : Nat} {definition : Definition} (h : crowd.standing caller = .fetching) :
      Step period crowd (.finish caller (.ok definition)) (crowd.put caller (.storing definition))
  | finishError {caller : Nat} {reason : FetchError} (h : crowd.standing caller = .fetching) :
      Step period crowd (.finish caller (.error reason))
        (crowd.put caller (.returning (.error reason)))
  | store {caller : Nat} {definition : Definition} (h : crowd.standing caller = .storing definition) :
      Step period crowd (.store caller) (crowd.store caller definition)
  | release {caller : Nat} {answer : Except FetchError Definition}
      (h : crowd.standing caller = .returning answer) :
      Step period crowd (.release caller) (crowd.release caller (.answered answer))
  | leaveArrived {caller : Nat} (h : crowd.standing caller = .arrived) :
      Step period crowd (.leave caller) (crowd.put caller .gone)
  | leaveWaiting {caller : Nat} (h : crowd.standing caller = .waiting) :
      Step period crowd (.leave caller) (crowd.dequeue caller .gone)
  | leaveAdmitted {caller : Nat} (h : crowd.standing caller = .admitted) :
      Step period crowd (.leave caller) (crowd.release caller .gone)
  | leaveFetching {caller : Nat} (h : crowd.standing caller = .fetching) :
      Step period crowd (.leave caller) (crowd.release caller .gone)

/-- **A move is a step, or it changes nothing.** -/
theorem step_or_stay (period : Span) (crowd : Crowd) (step : Move) :
    Step period crowd step (crowd.move period step) ∨ crowd.move period step = crowd := by
  cases step with
  | clock time => exact .inl (.clock time)
  | call caller =>
    simp only [move]
    split
    · exact .inl (.call ‹_›)
    · exact .inr rfl
  | look caller =>
    simp only [move]
    split
    · split
      · exact .inl (.lookFresh ‹_› ‹_›)
      · exact .inl (.lookStale ‹_› ‹_›)
    · exact .inr rfl
  | grant caller =>
    simp only [move]
    split
    · exact .inl (.grant ‹_› ‹_›)
    · exact .inr rfl
  | lookAgain caller =>
    simp only [move]
    split
    · split
      · exact .inl (.lookAgainFresh ‹_› ‹_›)
      · exact .inl (.lookAgainStale ‹_› ‹_›)
    · exact .inr rfl
  | fetch caller =>
    simp only [move]
    split
    · exact .inl (.fetch ‹_›)
    · exact .inr rfl
  | finish caller outcome =>
    simp only [move]
    split
    · cases outcome with
      | ok definition => exact .inl (.finishOk ‹_›)
      | error reason => exact .inl (.finishError ‹_›)
    · exact .inr rfl
  | store caller =>
    simp only [move]
    split
    · exact .inl (.store ‹_›)
    · exact .inr rfl
  | release caller =>
    simp only [move]
    split
    · exact .inl (.release ‹_›)
    · exact .inr rfl
  | leave caller =>
    simp only [move]
    split
    · exact .inl (.leaveArrived ‹_›)
    · exact .inl (.leaveWaiting ‹_›)
    · exact .inl (.leaveAdmitted ‹_›)
    · exact .inl (.leaveFetching ‹_›)
    · exact .inr rfl

/-- **A step is the move that takes it.** -/
theorem Step.move_eq {period : Span} {crowd next : Crowd} {move : Move}
    (taken : Step period crowd move next) : crowd.move period move = next := by
  cases taken with
  | clock time => rfl
  | call stood => simp only [Crowd.move, stood]
  | lookFresh stood fresh => simp only [Crowd.move, stood, fresh]
  | lookStale stood stale => simp only [Crowd.move, stood, stale]
  | grant free stood => simp only [Crowd.move, free, stood]
  | lookAgainFresh stood fresh => simp only [Crowd.move, stood, fresh]
  | lookAgainStale stood stale => simp only [Crowd.move, stood, stale]
  | fetch stood => simp only [Crowd.move, stood]
  | finishOk stood => simp only [Crowd.move, stood]
  | finishError stood => simp only [Crowd.move, stood]
  | store stood => simp only [Crowd.move, stood]
  | release stood => simp only [Crowd.move, stood]
  | leaveArrived stood => simp only [Crowd.move, stood]
  | leaveWaiting stood => simp only [Crowd.move, stood]
  | leaveAdmitted stood => simp only [Crowd.move, stood]
  | leaveFetching stood => simp only [Crowd.move, stood]

/-! ### Runs -/

variable {period : Span} {start crowd : Crowd} {moves : List Move}

theorem after_concat (period : Span) (start : Crowd) (moves : List Move) (step : Move) :
    start.after period (moves ++ [step]) = (start.after period moves).move period step := by
  rw [after_append]
  rfl

/-- **What holds along every run.**  A property of a run and of the crowd that it leads to holds if it
holds at the start, if a step keeps it, and if it outlives a move that changes nothing. -/
theorem run_induction (property : List Move → Crowd → Prop) (base : property [] start)
    (taken : ∀ moves step next, property moves (start.after period moves) →
      Step period (start.after period moves) step next → property (moves ++ [step]) next)
    (stayed : ∀ moves step, (start.after period moves).move period step = start.after period moves →
      property moves (start.after period moves) →
      property (moves ++ [step]) (start.after period moves))
    (moves : List Move) : property moves (start.after period moves) := by
  -- The run grows at its end, so that the crowd before the last move is the one of the hypothesis.
  induction moves using List.reverseRecOn with
  | nil => exact base
  | append_singleton moves step ih =>
    rw [after_concat]
    rcases step_or_stay period (start.after period moves) step with h | h
    · exact taken moves step _ ih h
    · rw [h]
      exact stayed moves step h ih

/-- **The step was taken** at a moment of the run, in the state `crowd`. -/
def Passed (period : Span) (start : Crowd) (moves : List Move) (crowd : Crowd) (step : Move) : Prop :=
  ∃ before rest, moves = before ++ step :: rest ∧ crowd = start.after period before

/-- What was taken stays taken. -/
theorem Passed.concat {step : Move} (h : Passed period start moves crowd step) (last : Move) :
    Passed period start (moves ++ [last]) crowd step := by
  obtain ⟨before, rest, rfl, rfl⟩ := h
  exact ⟨before, rest ++ [last], by simp, rfl⟩

theorem passed_last (period : Span) (start : Crowd) (moves : List Move) (step : Move) :
    Passed period start (moves ++ [step]) (start.after period moves) step :=
  ⟨moves, [], rfl, rfl⟩

end Crowd

end OrderHerald
