import OrderHerald.Proofs.Cache.Steps

/-!
# One fetch at a time

Whatever the order in which the steps of the callers mix, whoever leaves and however the clock is
moved, the cache has at most one fetch under way, and no caller gets the outcome of another caller's
fetch except through a fresh entry.

Two invariants carry this.

* **The permit.**  `Crowd.PermitHeld` ties the permit to how far the callers are: the caller that has
  it is the one caller between the grant and the release.
* **The account.**  `Crowd.Accounted` ties what a caller carries to the run so far: what it is about
  to store is what its own fetch came to, and an answer is one that it saw at a look or fetched.

## Main statements

* `Crowd.permitHeld_after` — the permit is with the one caller that acts under it.
* `Crowd.accounted_after` — every answer has its account in the run.
* `Crowd.single_flight` — both together, as seen from outside.
-/

namespace OrderHerald

/-- The caller has the permit. -/
def Standing.holdsPermit : Standing → Bool
  | admitted => true
  | starting => true
  | fetching => true
  | storing _ => true
  | returning _ => true
  | _ => false

namespace Crowd

variable {period : Span} {start crowd next : Crowd} {moves : List Move} {caller other : Nat}
  {standing : Standing} {last : Move}

/-! ### The permit -/

/-- **The permit is with the one caller that acts under it.** -/
def PermitHeld (crowd : Crowd) : Prop :=
  ∀ caller, (crowd.standing caller).holdsPermit = true ↔ crowd.permit = some caller

theorem permitHeld_empty (now : Instant) (entry : Option Entry) :
    (empty now entry).PermitHeld := by
  intro caller
  simp [empty, Standing.holdsPermit]

/-- A caller that moves on with or without the permit, as it was, does not touch it. -/
theorem PermitHeld.put (h : crowd.PermitHeld)
    (same : standing.holdsPermit = (crowd.standing caller).holdsPermit) :
    (crowd.put caller standing).PermitHeld := by
  intro other
  change _ ↔ crowd.permit = some other
  by_cases eq : other = caller
  · rw [eq, standing_put, same]
    exact h caller
  · rw [standing_put_of_ne crowd standing eq]
    exact h other

/-- A permit that nobody has goes to one caller. -/
theorem PermitHeld.grant (h : crowd.PermitHeld) (free : crowd.permit = none) :
    (crowd.grant caller).PermitHeld := by
  intro other
  change ((crowd.put caller .admitted).standing other).holdsPermit = true ↔ some caller = some other
  by_cases eq : other = caller
  · rw [eq, standing_put]
    simp [Standing.holdsPermit]
  · -- The permit was free, so no other caller acts under it.
    rw [standing_put_of_ne crowd _ eq, h other, free]
    simp [Ne.symm eq]

/-- The caller that has the permit hands it back, and then nobody has it. -/
theorem PermitHeld.release (h : crowd.PermitHeld)
    (held : (crowd.standing caller).holdsPermit = true) (back : standing.holdsPermit = false) :
    (crowd.release caller standing).PermitHeld := by
  intro other
  change ((crowd.put caller standing).standing other).holdsPermit = true ↔ none = some other
  by_cases eq : other = caller
  · rw [eq, standing_put, back]
    simp
  · -- The caller that hands it back was the only one under the permit.
    rw [standing_put_of_ne crowd standing eq, h other, (h caller).mp held]
    simp [Ne.symm eq]

/-- **Every step leaves the permit in order.** -/
theorem PermitHeld.step (h : crowd.PermitHeld) (taken : Step period crowd last next) :
    next.PermitHeld := by
  cases taken with
  | clock time => exact h
  | call stood => exact h.put (by rw [stood]; rfl)
  | lookFresh stood fresh => exact h.put (by rw [stood]; rfl)
  | lookStale stood stale => exact h.put (by rw [stood]; rfl)
  | grant free stood => exact h.grant free
  | lookAgainFresh stood fresh => exact h.put (by rw [stood]; rfl)
  | lookAgainStale stood stale => exact h.put (by rw [stood]; rfl)
  | fetch stood => exact h.put (by rw [stood]; rfl)
  | finishOk stood => exact h.put (by rw [stood]; rfl)
  | finishError stood => exact h.put (by rw [stood]; rfl)
  | store stood => exact h.put (by rw [stood]; rfl)
  | release stood => exact h.release (by rw [stood]; rfl) rfl
  | leaveArrived stood => exact h.put (by rw [stood]; rfl)
  | leaveWaiting stood => exact h.put (by rw [stood]; rfl)
  | leaveAdmitted stood => exact h.release (by rw [stood]; rfl) rfl
  | leaveFetching stood => exact h.release (by rw [stood]; rfl) rfl

/-- The permit is in order after every run. -/
theorem permitHeld_after (h : start.PermitHeld) (moves : List Move) :
    (start.after period moves).PermitHeld :=
  run_induction (fun _ crowd => crowd.PermitHeld) h
    (fun _ _ _ ih taken => PermitHeld.step ih taken) (fun _ _ _ ih => ih) moves

/-- Two callers that both have the permit are one. -/
theorem PermitHeld.unique (h : crowd.PermitHeld)
    (first : (crowd.standing caller).holdsPermit = true)
    (second : (crowd.standing other).holdsPermit = true) : caller = other := by
  have eq : some caller = some other := ((h caller).mp first).symm.trans ((h other).mp second)
  exact Option.some.inj eq

/-! ### The account of what callers carry -/

/-- The step is one of the caller's two looks at the entry. -/
def Looks (crowd : Crowd) (caller : Nat) : Move → Prop
  | .look looker => looker = caller ∧ crowd.standing caller = .arrived
  | .lookAgain looker => looker = caller ∧ crowd.standing caller = .admitted
  | _ => False

/-- **The caller saw the definition** in the entry at one of its looks, and at that moment the clock
was not past the period of the entry. -/
def SawFresh (period : Span) (start : Crowd) (moves : List Move) (caller : Nat)
    (definition : Definition) : Prop :=
  ∃ crowd step kept, Passed period start moves crowd step ∧ crowd.Looks caller step ∧
    crowd.entry = some kept ∧ kept.definition = definition ∧
    crowd.now.nanos ≤ kept.fetchedAt.nanos + period.nanos

/-- **The caller's own fetch came to this.** -/
def Fetched (period : Span) (start : Crowd) (moves : List Move) (caller : Nat)
    (outcome : Except FetchError Definition) : Prop :=
  ∃ crowd, Passed period start moves crowd (.finish caller outcome) ∧
    crowd.standing caller = .fetching

/-- The answer is the caller's to give: an error is what its own fetch came to, a definition is that
or was seen fresh. -/
def Earned (period : Span) (start : Crowd) (moves : List Move) (caller : Nat) :
    Except FetchError Definition → Prop
  | .ok definition =>
    SawFresh period start moves caller definition ∨ Fetched period start moves caller (.ok definition)
  | .error reason => Fetched period start moves caller (.error reason)

/-- What a caller that has come so far carries is accounted for by the run. -/
def Carries (period : Span) (start : Crowd) (moves : List Move) (caller : Nat) : Standing → Prop
  | .storing definition => Fetched period start moves caller (.ok definition)
  | .returning answer => Earned period start moves caller answer
  | .answered answer => Earned period start moves caller answer
  | _ => True

/-- **What every caller carries is accounted for.** -/
def Accounted (period : Span) (start : Crowd) (moves : List Move) (crowd : Crowd) : Prop :=
  ∀ caller, Carries period start moves caller (crowd.standing caller)

theorem Fetched.concat {outcome : Except FetchError Definition}
    (h : Fetched period start moves caller outcome) (last : Move) :
    Fetched period start (moves ++ [last]) caller outcome := by
  obtain ⟨crowd, passed, fetching⟩ := h
  exact ⟨crowd, passed.concat last, fetching⟩

theorem Earned.concat {answer : Except FetchError Definition}
    (h : Earned period start moves caller answer) (last : Move) :
    Earned period start (moves ++ [last]) caller answer := by
  cases answer with
  | error reason => exact Fetched.concat h last
  | ok definition =>
    rcases h with ⟨crowd, step, kept, passed, seen⟩ | fetched
    · exact .inl ⟨crowd, step, kept, passed.concat last, seen⟩
    · exact .inr (fetched.concat last)

/-- What is accounted for stays so as the run goes on. -/
theorem Carries.concat (h : Carries period start moves caller standing) (last : Move) :
    Carries period start (moves ++ [last]) caller standing := by
  cases standing with
  | storing definition => exact Fetched.concat h last
  | returning answer => exact Earned.concat h last
  | answered answer => exact Earned.concat h last
  | _ => trivial

/-- A look at a fresh entry accounts for the definition in it. -/
theorem sawFresh_last {definition : Definition}
    (looks : (start.after period moves).Looks caller last)
    (fresh : Entry.fresh? (start.after period moves).entry period (start.after period moves).now
      = some definition) :
    SawFresh period start (moves ++ [last]) caller definition := by
  obtain ⟨kept, stands, holds, inTime⟩ := Entry.fresh?_eq_some_iff.mp fresh
  exact ⟨_, last, kept, passed_last period start moves last, looks, stands, holds, inTime⟩

/-- The end of a fetch accounts for what it came to. -/
theorem fetched_last {outcome : Except FetchError Definition}
    (fetching : (start.after period moves).standing caller = .fetching) :
    Fetched period start (moves ++ [.finish caller outcome]) caller outcome :=
  ⟨_, passed_last period start moves _, fetching⟩

/-- One caller moves on, and what it carries then is accounted for. -/
theorem Accounted.put (h : Accounted period start moves crowd) (last : Move)
    (carries : Carries period start (moves ++ [last]) caller standing) :
    Accounted period start (moves ++ [last]) (crowd.put caller standing) := by
  intro other
  by_cases eq : other = caller
  · rw [eq, standing_put]
    exact carries
  · rw [standing_put_of_ne crowd standing eq]
    exact (h other).concat last

/-- What the caller carries, where it is known how far it is. -/
theorem Accounted.carries (h : Accounted period start moves crowd)
    (stood : crowd.standing caller = standing) : Carries period start moves caller standing :=
  stood ▸ h caller

/-- **Every step keeps the account.** -/
theorem Accounted.step (h : Accounted period start moves (start.after period moves))
    (taken : Step period (start.after period moves) last next) :
    Accounted period start (moves ++ [last]) next := by
  -- Looks and ends of fetches give a caller something to carry; storing and releasing pass it on.
  cases taken with
  | clock time => exact fun caller => (h caller).concat _
  | call stood => exact h.put _ trivial
  | lookFresh stood fresh => exact h.put _ (.inl (sawFresh_last ⟨rfl, stood⟩ fresh))
  | lookStale stood stale => exact h.put _ trivial
  | grant free stood => exact h.put _ trivial
  | lookAgainFresh stood fresh => exact h.put _ (.inl (sawFresh_last ⟨rfl, stood⟩ fresh))
  | lookAgainStale stood stale => exact h.put _ trivial
  | fetch stood => exact h.put _ trivial
  | finishOk stood => exact h.put _ (fetched_last stood)
  | finishError stood => exact h.put _ (fetched_last stood)
  | store stood => exact h.put _ (.inr (Fetched.concat (h.carries stood) _))
  | release stood => exact h.put _ (Earned.concat (h.carries stood) _)
  | leaveArrived stood => exact h.put _ trivial
  | leaveWaiting stood => exact h.put _ trivial
  | leaveAdmitted stood => exact h.put _ trivial
  | leaveFetching stood => exact h.put _ trivial

/-- What callers carry is accounted for after every run in which nobody had called at first. -/
theorem accounted_after (now : Instant) (entry : Option Entry) (moves : List Move) :
    Accounted period (empty now entry) moves ((empty now entry).after period moves) := by
  have base : Accounted period (empty now entry) [] (empty now entry) := fun _ => trivial
  exact run_induction (Accounted period (empty now entry)) base
    (fun _ _ _ ih taken => ih.step taken) (fun _ last _ ih caller => (ih caller).concat last) moves

/-! ### One fetch at a time -/

theorem standing_of_answer? {answer : Except FetchError Definition}
    (h : crowd.answer? caller = some answer) : crowd.standing caller = .answered answer := by
  simp only [answer?] at h
  split at h
  · rename_i given stood
    rw [stood, Option.some.inj h]
  · cases h

/-- **At most one fetch is under way, and what it comes to reaches others only through the entry.**
For any number of callers, any order of their steps, any movement of the clock between them, any
refresh period and any outcome of every fetch, at every moment of the run:

* two callers whose fetches are under way are one;
* a step leaves the entry as it is, or it is the storing of a caller that has the permit, and the
  entry then holds what that caller's own fetch came to, under the moment the clock shows;
* a definition that a caller answers was seen by it at one of its looks in an entry that was fresh
  then, or its own fetch came to it;
* an error that a caller answers is what its own fetch came to. -/
theorem single_flight (period : Span) (now : Instant) (entry : Option Entry) (moves : List Move) :
    let start := empty now entry
    let crowd := start.after period moves
    (∀ caller other, crowd.standing caller = .fetching → crowd.standing other = .fetching →
      caller = other)
    ∧ (∀ step, (crowd.move period step).entry = crowd.entry ∨
        ∃ caller definition, step = .store caller ∧ crowd.permit = some caller ∧
          Fetched period start moves caller (.ok definition) ∧
          (crowd.move period step).entry = some ⟨definition, crowd.now⟩)
    ∧ (∀ caller definition, crowd.answer? caller = some (.ok definition) →
        SawFresh period start moves caller definition ∨
          Fetched period start moves caller (.ok definition))
    ∧ (∀ caller reason, crowd.answer? caller = some (.error reason) →
        Fetched period start moves caller (.error reason)) := by
  intro start crowd
  have held : crowd.PermitHeld := permitHeld_after (permitHeld_empty now entry) moves
  have accounted : Accounted period start moves crowd := accounted_after now entry moves
  refine ⟨?_, ?_, ?_, ?_⟩
  · intro caller other first second
    exact held.unique (by rw [first]; rfl) (by rw [second]; rfl)
  · -- Of all steps only storing writes the entry, and the account says what is stored.
    intro step
    rcases step_or_stay period crowd step with taken | stays
    · generalize crowd.move period step = next at taken ⊢
      cases taken with
      | store stood =>
        exact .inr ⟨_, _, rfl, (held _).mp (by rw [stood]; rfl), accounted.carries stood, rfl⟩
      | _ => exact .inl rfl
    · exact .inl (by rw [stays])
  · intro caller definition answered
    exact accounted.carries (standing_of_answer? answered)
  · intro caller reason answered
    exact accounted.carries (standing_of_answer? answered)

/-- The caller that waited gets what the other one fetched, out of the entry and without a fetch. -/
example :
    ((empty ⟨0⟩ none).after ⟨0⟩
      [.call 0, .call 1, .look 0, .look 1, .grant 0, .lookAgain 0, .fetch 0, .finish 0 (.ok {}),
        .store 0, .release 0, .grant 1, .lookAgain 1, .release 1]).answer? 1
      = some (.ok {}) := rfl

end Crowd

end OrderHerald
