import OrderHerald.Proofs.Cache.SingleFlight

/-!
# What a crowd fetches and records

Along a run some fetches come to a routing definition, and each of these is recorded a little later:
written into the entry under the moment that the clock shows then.  In between the caller has the permit
and cannot leave, so at most one definition is owed to the entry, and none gets lost.

* `Crowd.observed` — what is observed along a run.
* `Crowd.successes`, `Crowd.recorded` — the definitions that fetches come to, and what is recorded.
* `Crowd.unrecorded` — what has been fetched and not recorded yet.

## Main statements

* `Crowd.entry_after` — the entry is what was recorded last.
* `Crowd.successes_after` — what fetches came to has been recorded, but for what is still owed.
* `Crowd.answer_of_fetched` — a caller that fetched answers what it fetched.
-/

namespace OrderHerald

namespace Crowd

variable {α : Type} {period : Span} {start crowd next : Crowd} {moves : List Move}
  {caller mover : Nat} {standing : Standing} {last : Move}

/-! ### Observations -/

/-- **What is observed along a run**, moment by moment. -/
def observed (see : Crowd → Move → Option α) (period : Span) : Crowd → List Move → List α
  | _, [] => []
  | crowd, step :: rest =>
    (see crowd step).toList ++ observed see period (crowd.move period step) rest

theorem observed_append (see : Crowd → Move → Option α) (period : Span) (start : Crowd)
    (moves more : List Move) :
    observed see period start (moves ++ more)
      = observed see period start moves ++ observed see period (start.after period moves) more := by
  induction moves generalizing start with
  | nil => rfl
  | cons step rest ih =>
    rw [List.cons_append, observed, ih, observed, List.append_assoc]
    rfl

theorem observed_concat (see : Crowd → Move → Option α) (period : Span) (start : Crowd)
    (moves : List Move) (last : Move) :
    observed see period start (moves ++ [last])
      = observed see period start moves ++ (see (start.after period moves) last).toList := by
  rw [observed_append]
  exact congrArg (_ ++ ·) (List.append_nil _)

/-- The definition that a fetch comes to, where one ends well. -/
def successAt? (crowd : Crowd) : Move → Option Definition
  | .finish caller (.ok definition) =>
    match crowd.standing caller with
    | .fetching => some definition
    | _ => none
  | _ => none

/-- What is written into the entry, where a caller stores what it fetched. -/
def recordAt? (crowd : Crowd) : Move → Option Entry
  | .store caller =>
    match crowd.standing caller with
    | .storing definition => some ⟨definition, crowd.now⟩
    | _ => none
  | _ => none

theorem successAt?_eq_some_iff {definition : Definition} :
    successAt? crowd last = some definition
      ↔ ∃ caller, last = .finish caller (.ok definition) ∧ crowd.standing caller = .fetching := by
  constructor
  · intro ended
    cases last with
    | finish caller outcome =>
      cases outcome with
      | error reason => cases ended
      | ok found =>
        simp only [successAt?] at ended
        split at ended
        · rename_i fetching
          obtain rfl : found = definition := Option.some.inj ended
          exact ⟨caller, rfl, fetching⟩
        · cases ended
    | _ => cases ended
  · rintro ⟨caller, rfl, fetching⟩
    simp only [successAt?, fetching]

theorem recordAt?_eq_some_iff {kept : Entry} :
    recordAt? crowd last = some kept
      ↔ ∃ caller, last = .store caller ∧ crowd.standing caller = .storing kept.definition ∧
          kept.fetchedAt = crowd.now := by
  constructor
  · intro written
    cases last with
    | store caller =>
      simp only [recordAt?] at written
      split at written
      · rename_i definition storing
        obtain rfl : ⟨definition, crowd.now⟩ = kept := Option.some.inj written
        exact ⟨caller, rfl, storing, rfl⟩
      · cases written
    | _ => cases written
  · rintro ⟨caller, rfl, storing, moment⟩
    simp only [recordAt?, storing, ← moment]

/-- **The definitions that fetches come to** along a run. -/
def successes (period : Span) (start : Crowd) (moves : List Move) : List Definition :=
  observed successAt? period start moves

/-- **What is recorded** along a run, with the moments the clock showed. -/
def recorded (period : Span) (start : Crowd) (moves : List Move) : List Entry :=
  observed recordAt? period start moves

theorem successes_concat (period : Span) (start : Crowd) (moves : List Move) (last : Move) :
    successes period start (moves ++ [last])
      = successes period start moves ++ (successAt? (start.after period moves) last).toList :=
  observed_concat ..

theorem recorded_concat (period : Span) (start : Crowd) (moves : List Move) (last : Move) :
    recorded period start (moves ++ [last])
      = recorded period start moves ++ (recordAt? (start.after period moves) last).toList :=
  observed_concat ..

/-! ### The entry -/

/-- A move leaves the entry as it is, unless it records. -/
theorem entry_move_eq (period : Span) (crowd : Crowd) (step : Move) :
    (crowd.move period step).entry = (recordAt? crowd step).or crowd.entry := by
  cases step with
  | store caller =>
    simp only [move, recordAt?]
    cases crowd.standing caller <;> rfl
  | _ => exact entry_move period crowd _ fun _ eq => by cases eq

/-- **The entry is what was recorded last.** -/
theorem entry_after (period : Span) (now : Instant) (moves : List Move) :
    ((empty now none).after period moves).entry
      = (recorded period (empty now none) moves).getLast? := by
  induction moves using List.reverseRecOn with
  | nil => rfl
  | append_singleton moves last ih =>
    rw [after_concat, entry_move_eq, ih, recorded_concat, List.getLast?_append]
    cases recordAt? ((empty now none).after period moves) last <;> rfl

end Crowd

/-! ### What is owed to the entry -/

/-- What a caller that has come so far owes to the entry. -/
def Standing.unrecorded : Standing → List Definition
  | storing definition => [definition]
  | _ => []

namespace Crowd

variable {period : Span} {start crowd next : Crowd} {moves : List Move}
  {caller mover : Nat} {standing : Standing} {last : Move}

/-- **What has been fetched and not recorded yet**: the caller with the permit owes it. -/
def unrecorded (crowd : Crowd) : List Definition :=
  match crowd.permit with
  | some caller => (crowd.standing caller).unrecorded
  | none => []

theorem unrecorded_of_permit (h : crowd.permit = some caller) :
    crowd.unrecorded = (crowd.standing caller).unrecorded := by
  rw [unrecorded, h]

/-- A caller that owes as much as before does not change what is owed. -/
theorem unrecorded_put {before : Standing} (stood : crowd.standing caller = before)
    (same : standing.unrecorded = before.unrecorded) :
    (crowd.put caller standing).unrecorded = crowd.unrecorded := by
  change (match crowd.permit with
    | some holder => ((crowd.put caller standing).standing holder).unrecorded
    | none => []) = crowd.unrecorded
  rw [unrecorded]
  cases crowd.permit with
  | none => rfl
  | some holder =>
    by_cases eq : holder = caller
    · rw [eq]
      simp only [standing_put, same, stood]
    · simp only [standing_put_of_ne crowd standing eq]

/-- A permit that nobody has goes to a caller that owes nothing. -/
theorem unrecorded_grant (free : crowd.permit = none) :
    (crowd.grant caller).unrecorded = crowd.unrecorded := by
  rw [unrecorded_of_permit rfl, unrecorded, free]
  change ((crowd.put caller .admitted).standing caller).unrecorded = []
  rw [standing_put]
  rfl

/-- A caller that owes nothing hands the permit back. -/
theorem unrecorded_release {before : Standing} (held : crowd.permit = some caller)
    (stood : crowd.standing caller = before) (nothing : before.unrecorded = []) :
    (crowd.release caller standing).unrecorded = crowd.unrecorded := by
  rw [unrecorded_of_permit held, stood, nothing]
  rfl

/-- **Nothing gets lost**: what is owed before a step and what a fetch comes to there is what the step
records and what is owed after it. -/
theorem unrecorded_step (held : crowd.PermitHeld) (taken : Step period crowd last next) :
    crowd.unrecorded ++ (successAt? crowd last).toList
      = (recordAt? crowd last).toList.map Entry.definition ++ next.unrecorded := by
  have aside (same : next.unrecorded = crowd.unrecorded) :
      crowd.unrecorded ++ [] = [] ++ next.unrecorded := by
    rw [same, List.append_nil, List.nil_append]
  cases taken with
  | clock time => exact aside rfl
  | call stood => exact aside (unrecorded_put stood rfl)
  | lookFresh stood fresh => exact aside (unrecorded_put stood rfl)
  | @lookStale caller stood stale =>
    exact aside (@unrecorded_put crowd caller .waiting _ stood rfl)
  | grant free stood => exact aside (unrecorded_grant free)
  | lookAgainFresh stood fresh => exact aside (unrecorded_put stood rfl)
  | lookAgainStale stood stale => exact aside (unrecorded_put stood rfl)
  | fetch stood => exact aside (unrecorded_put stood rfl)
  | finishError stood => exact aside (unrecorded_put stood rfl)
  | leaveArrived stood => exact aside (unrecorded_put stood rfl)
  | @leaveWaiting caller stood =>
    exact aside (@unrecorded_put crowd caller .gone _ stood rfl)
  | release stood =>
    exact aside (unrecorded_release ((held _).mp (by rw [stood]; rfl)) stood rfl)
  | leaveAdmitted stood =>
    exact aside (unrecorded_release ((held _).mp (by rw [stood]; rfl)) stood rfl)
  | leaveFetching stood =>
    exact aside (unrecorded_release ((held _).mp (by rw [stood]; rfl)) stood rfl)
  | @finishOk caller definition stood =>
    -- The fetch of the caller with the permit ends well, and the caller owes what it came to.
    have permit : crowd.permit = some caller := (held caller).mp (by rw [stood]; rfl)
    have owed : (crowd.put caller (.storing definition)).unrecorded = [definition] := by
      rw [@unrecorded_of_permit (crowd.put caller _) caller permit, standing_put]
      rfl
    rw [unrecorded_of_permit permit, owed]
    simp only [successAt?, stood]
    rfl
  | @store caller definition stood =>
    have permit : crowd.permit = some caller := (held caller).mp (by rw [stood]; rfl)
    have settled : (crowd.store caller definition).unrecorded = [] := by
      rw [@unrecorded_of_permit (crowd.store caller definition) caller permit]
      change ((crowd.put caller (.returning (.ok definition))).standing caller).unrecorded = []
      rw [standing_put]
      rfl
    rw [unrecorded_of_permit permit, settled]
    simp only [recordAt?, stood]
    rfl

/-- A move that changes nothing ends no fetch well. -/
theorem successAt?_eq_none_of_stay (stays : crowd.move period last = crowd) :
    successAt? crowd last = none := by
  rw [Option.eq_none_iff_forall_ne_some]
  intro definition ended
  obtain ⟨caller, rfl, fetching⟩ := successAt?_eq_some_iff.mp ended
  have storing : (crowd.move period (.finish caller (.ok definition))).standing caller
      = .storing definition := by
    simp only [move, fetching, standing_put]
  rw [stays, fetching] at storing
  cases storing

/-- A move that changes nothing records nothing. -/
theorem recordAt?_eq_none_of_stay (stays : crowd.move period last = crowd) :
    recordAt? crowd last = none := by
  rw [Option.eq_none_iff_forall_ne_some]
  intro kept written
  obtain ⟨caller, rfl, storing, -⟩ := recordAt?_eq_some_iff.mp written
  have returning : (crowd.move period (.store caller)).standing caller
      = .returning (.ok kept.definition) := by
    simp only [move, storing]
    exact standing_put crowd caller _
  rw [stays, storing] at returning
  cases returning

/-- **What fetches came to has been recorded**, but for what is still owed. -/
theorem successes_after (period : Span) (now : Instant) (moves : List Move) :
    successes period (empty now none) moves
      = (recorded period (empty now none) moves).map Entry.definition
        ++ ((empty now none).after period moves).unrecorded := by
  refine run_induction
    (fun moves crowd => successes period (empty now none) moves
      = (recorded period (empty now none) moves).map Entry.definition ++ crowd.unrecorded)
    rfl ?_ ?_ moves
  · intro moves last next ih taken
    have held : ((empty now none).after period moves).PermitHeld :=
      permitHeld_after (permitHeld_empty now none) moves
    rw [successes_concat, recorded_concat, ih, List.append_assoc, unrecorded_step held taken,
      List.map_append, List.append_assoc]
  · intro moves last stays ih
    rw [successes_concat, recorded_concat, successAt?_eq_none_of_stay stays,
      recordAt?_eq_none_of_stay stays, ih]
    simp only [Option.toList_none, List.append_nil]

end Crowd

/-! ### What a caller that fetched answers -/

/-- A caller that has come so far carries what its fetch came to. -/
def Standing.Bears (outcome : Except FetchError Definition) : Standing → Prop
  | storing definition => .ok definition = outcome
  | returning answer => answer = outcome
  | answered answer => answer = outcome
  | _ => False

namespace Crowd

variable {period : Span} {start crowd next : Crowd} {moves : List Move} {caller mover : Nat}
  {standing : Standing} {last : Move} {outcome : Except FetchError Definition}

/-- A caller moves on, and if it carries the outcome it goes on carrying it. -/
theorem bears_put {before : Standing} (h : (crowd.standing caller).Bears outcome)
    (stood : crowd.standing mover = before) (on : before.Bears outcome → standing.Bears outcome) :
    ((crowd.put mover standing).standing caller).Bears outcome := by
  by_cases eq : caller = mover
  · subst eq
    rw [standing_put]
    exact on (stood ▸ h)
  · rw [standing_put_of_ne crowd standing eq]
    exact h

/-- **What a caller's fetch came to stays with the caller.** -/
theorem bears_step (h : (crowd.standing caller).Bears outcome)
    (taken : Step period crowd last next) : (next.standing caller).Bears outcome := by
  -- Of the callers that carry an outcome, one can store it and one can return with it.
  cases taken with
  | clock time => exact h
  | call stood => exact bears_put h stood False.elim
  | lookFresh stood fresh => exact bears_put h stood False.elim
  | lookStale stood stale => exact bears_put h stood False.elim
  | grant free stood => exact bears_put h stood False.elim
  | lookAgainFresh stood fresh => exact bears_put h stood False.elim
  | lookAgainStale stood stale => exact bears_put h stood False.elim
  | fetch stood => exact bears_put h stood False.elim
  | finishOk stood => exact bears_put h stood False.elim
  | finishError stood => exact bears_put h stood False.elim
  | store stood => exact bears_put h stood id
  | release stood => exact bears_put h stood id
  | leaveArrived stood => exact bears_put h stood False.elim
  | leaveWaiting stood => exact bears_put h stood False.elim
  | leaveAdmitted stood => exact bears_put h stood False.elim
  | leaveFetching stood => exact bears_put h stood False.elim

theorem bears_finish (fetching : crowd.standing caller = .fetching) :
    ((crowd.move period (.finish caller outcome)).standing caller).Bears outcome := by
  simp only [move, fetching]
  cases outcome with
  | ok definition =>
    change ((crowd.put caller (.storing definition)).standing caller).Bears _
    rw [standing_put]
    rfl
  | error reason =>
    change ((crowd.put caller (.returning (.error reason))).standing caller).Bears _
    rw [standing_put]
    rfl

/-- **A caller that fetched answers what it fetched**, if it answers. -/
theorem answer_of_fetched (fetched : Fetched period start moves caller outcome)
    {answer : Except FetchError Definition}
    (answered : (start.after period moves).answer? caller = some answer) : answer = outcome := by
  obtain ⟨crowd, ⟨before, rest, rfl, rfl⟩, fetching⟩ := fetched
  -- From the end of the fetch on the caller carries the outcome.
  have bears : ((start.after period (before ++ .finish caller outcome :: rest)).standing caller).Bears
      outcome := by
    rw [after_append]
    exact run_induction (fun _ crowd => (crowd.standing caller).Bears outcome)
      (bears_finish fetching) (fun _ _ _ ih taken => bears_step ih taken) (fun _ _ _ ih => ih) rest
  rw [standing_of_answer? answered] at bears
  exact bears

end Crowd

end OrderHerald
