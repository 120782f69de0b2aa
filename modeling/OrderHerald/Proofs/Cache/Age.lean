import Mathlib.Data.List.Chain
import OrderHerald.Proofs.Cache.Records

/-!
# How old an answer is, and how often a fetch begins

As long as the clock never goes back, the refresh period bounds both: a definition that is handed out
without a fetch is at most a period old, and a fetch begins only when more than a period has passed
since the last record.

A caller finds the entry expired at its second look and fetches later.  What makes the finding last is
that the caller has the permit: until it stores, nobody else writes the entry, and the clock only moves
further away from it.  So `Crowd.Expired`, which says this of the caller that refreshes, is kept by every
step.

* `Crowd.RunsForward` — the clock never goes back.
* `Crowd.Expired` — under a caller that refreshes the entry stays expired.
* `Crowd.LatestSuccess` — what the last fetch that ended well came to, as it was recorded.

## Main statements

* `Crowd.expired_after` — the entry is expired whenever a caller refreshes.
* `Crowd.recorded_spaced` — records are more than a period apart.
* `Crowd.bounded_age` — what follows for fetches and for answers.
-/

namespace OrderHerald

/-- The moment that a move sets the clock to. -/
def Move.time? : Move → Option Instant
  | clock time => some time
  | _ => none

/-- The caller is about to fetch, fetches, or has not stored yet what it fetched. -/
def Standing.isRefreshing : Standing → Bool
  | starting => true
  | fetching => true
  | storing _ => true
  | _ => false

/-- A caller refreshes under the permit. -/
theorem Standing.holdsPermit_of_isRefreshing {standing : Standing}
    (h : standing.isRefreshing = true) : standing.holdsPermit = true := by
  cases standing with
  | starting => rfl
  | fetching => rfl
  | storing definition => rfl
  | _ => cases h

namespace Crowd

variable {period : Span} {start crowd next : Crowd} {moves : List Move} {now : Instant}
  {caller mover : Nat} {standing : Standing} {last : Move} {kept : Entry}

/-! ### The clock -/

/-- **The clock never goes back**: from one moment on, every moment that it is set to is followed by none
that lies before it. -/
def RunsForward (now : Instant) (moves : List Move) : Prop :=
  (now :: moves.filterMap Move.time?).Pairwise fun earlier later => earlier.nanos ≤ later.nanos

instance (now : Instant) (moves : List Move) : Decidable (RunsForward now moves) :=
  inferInstanceAs (Decidable (List.Pairwise _ _))

theorem now_move (period : Span) (crowd : Crowd) (step : Move) :
    (crowd.move period step).now = step.time?.getD crowd.now := by
  cases step with
  | clock time => rfl
  | _ =>
    rcases step_or_stay period crowd _ with taken | stays
    · generalize crowd.move period _ = next at taken ⊢
      cases taken <;> rfl
    · rw [stays]
      rfl

/-- The clock shows the moment of the start or one that it was set to. -/
theorem now_after (period : Span) (start : Crowd) (moves : List Move) :
    (start.after period moves).now ∈ start.now :: moves.filterMap Move.time? := by
  induction moves using List.reverseRecOn with
  | nil => exact List.mem_cons_self
  | append_singleton moves last ih =>
    rw [after_concat, now_move, List.filterMap_append, ← List.cons_append]
    cases time : last.time? with
    | none => exact List.mem_append_left _ ih
    | some time => exact List.mem_append_right _ (by simp [time])

/-- The run up to a moment runs forward too. -/
theorem RunsForward.of_append {first second : List Move}
    (h : RunsForward now (first ++ second)) : RunsForward now first := by
  rw [RunsForward, List.filterMap_append, ← List.cons_append] at h
  exact (List.pairwise_append.mp h).1

/-- A clock that is set shows no moment before the one that it showed. -/
theorem RunsForward.le_of_clock {time : Instant}
    (h : RunsForward start.now (moves ++ [.clock time])) :
    (start.after period moves).now.nanos ≤ time.nanos := by
  rw [RunsForward, List.filterMap_append, ← List.cons_append] at h
  exact (List.pairwise_append.mp h).2.2 _ (now_after period start moves) time List.mem_cons_self

/-! ### The entry under a caller that refreshes -/

/-- The clock is past the period of the entry, if there is one. -/
def EntryExpired (period : Span) (crowd : Crowd) : Prop :=
  ∀ kept ∈ crowd.entry, kept.fetchedAt.nanos + period.nanos < crowd.now.nanos

/-- **Under a caller that refreshes the entry stays expired.** -/
def Expired (period : Span) (crowd : Crowd) : Prop :=
  ∀ caller, (crowd.standing caller).isRefreshing = true → crowd.EntryExpired period

/-- A caller may come to refresh if the entry is expired. -/
theorem Expired.put (h : crowd.Expired period)
    (stale : standing.isRefreshing = true → crowd.EntryExpired period) :
    (crowd.put mover standing).Expired period := by
  intro caller refreshing
  by_cases eq : caller = mover
  · rw [eq, standing_put] at refreshing
    exact stale refreshing
  · rw [standing_put_of_ne crowd standing eq] at refreshing
    exact h caller refreshing

/-- A caller that writes a new entry was the only one that refreshed. -/
theorem expired_store {definition : Definition} (held : crowd.PermitHeld)
    (stood : crowd.standing mover = .storing definition) :
    (crowd.store mover definition).Expired period := by
  intro caller refreshing
  change ((crowd.put mover (.returning (.ok definition))).standing caller).isRefreshing = true
    at refreshing
  by_cases eq : caller = mover
  · rw [eq, standing_put] at refreshing
    cases refreshing
  · rw [standing_put_of_ne crowd _ eq] at refreshing
    have both : caller = mover := by
      have stores : (crowd.standing mover).holdsPermit = true := by rw [stood]; rfl
      exact held.unique (Standing.holdsPermit_of_isRefreshing refreshing) stores
    exact absurd both eq

/-- **Every step leaves the entry expired under a caller that refreshes**, unless it sets the clock
back. -/
theorem Expired.step (h : crowd.Expired period) (held : crowd.PermitHeld)
    (onward : ∀ time, last = .clock time → crowd.now.nanos ≤ time.nanos)
    (taken : Step period crowd last next) : next.Expired period := by
  cases taken with
  | clock time =>
    intro caller refreshing kept stands
    exact Int.lt_of_lt_of_le (h caller refreshing kept stands) (onward time rfl)
  | call stood => exact h.put nofun
  | lookFresh stood fresh => exact h.put nofun
  | lookStale stood stale => exact @Expired.put _ crowd _ .waiting h nofun
  | grant free stood => exact @Expired.put _ crowd _ .admitted h nofun
  | lookAgainFresh stood fresh => exact h.put nofun
  | lookAgainStale stood stale => exact h.put fun _ => Entry.fresh?_eq_none_iff.mp stale
  | fetch stood => exact h.put fun _ => h _ (by rw [stood]; rfl)
  | finishOk stood => exact h.put fun _ => h _ (by rw [stood]; rfl)
  | finishError stood => exact h.put nofun
  | store stood => exact expired_store held stood
  | @release _ answer stood => exact @Expired.put _ crowd _ (.answered answer) h nofun
  | leaveArrived stood => exact h.put nofun
  | leaveWaiting stood => exact @Expired.put _ crowd _ .gone h nofun
  | leaveAdmitted stood => exact @Expired.put _ crowd _ .gone h nofun
  | leaveFetching stood => exact @Expired.put _ crowd _ .gone h nofun

/-- **The entry is expired whenever a caller refreshes**, if the clock never went back. -/
theorem expired_after (forward : RunsForward now moves) :
    ((empty now none).after period moves).Expired period := by
  refine run_induction
    (fun moves crowd => RunsForward now moves → crowd.Expired period) ?_ ?_ ?_ moves forward
  · intro _ caller refreshing
    cases refreshing
  · intro moves last next ih taken forward
    refine (ih forward.of_append).step (permitHeld_after (permitHeld_empty now none) moves) ?_ taken
    intro time eq
    subst eq
    exact @RunsForward.le_of_clock period (empty now none) moves time forward
  · intro moves last stays ih forward
    exact ih forward.of_append

/-! ### Records -/

/-- The one record lies more than a period before the other. -/
def Apart (period : Span) (earlier later : Entry) : Prop :=
  earlier.fetchedAt.nanos + period.nanos < later.fetchedAt.nanos

instance (period : Span) : Trans (Apart period) (Apart period) (Apart period) where
  trans {first second third} before after := by
    simp only [Apart] at before after ⊢
    omega

/-- **Records are more than a period apart**, if the clock never went back. -/
theorem recorded_spaced (forward : RunsForward now moves) :
    (recorded period (empty now none) moves).Pairwise (Apart period) := by
  -- Each record is apart from the one before it, which is the entry that it replaces.
  rw [← List.isChain_iff_pairwise]
  induction moves using List.reverseRecOn with
  | nil => exact .nil
  | append_singleton moves last ih =>
    have spaced := ih forward.of_append
    have expired : ((empty now none).after period moves).Expired period :=
      expired_after forward.of_append
    rw [recorded_concat]
    cases written : recordAt? ((empty now none).after period moves) last with
    | none =>
      rw [Option.toList_none, List.append_nil]
      exact spaced
    | some kept =>
      refine spaced.append (List.isChain_singleton kept) ?_
      intro before stands after isKept
      obtain rfl : kept = after := Option.some.inj isKept
      rw [← entry_after] at stands
      obtain ⟨caller, -, storing, moment⟩ := recordAt?_eq_some_iff.mp written
      rw [Apart, moment]
      exact expired caller (by rw [storing]; rfl) before stands

/-! ### Bounded age -/

/-- **The latest success**: what the last fetch that ended well came to, with the moment under which it
was recorded last. -/
def LatestSuccess (period : Span) (start : Crowd) (moves : List Move) (kept : Entry) : Prop :=
  (successes period start moves).getLast? = some kept.definition
    ∧ (recorded period start moves).getLast? = some kept

/-- Where nothing is owed to the entry, what the entry holds is the latest success. -/
theorem latestSuccess_of_entry
    (nothing : ((empty now none).after period moves).unrecorded = [])
    (stands : ((empty now none).after period moves).entry = some kept) :
    LatestSuccess period (empty now none) moves kept := by
  rw [entry_after] at stands
  refine ⟨?_, stands⟩
  rw [successes_after, nothing, List.append_nil, List.getLast?_map, stands]
  rfl

/-- Nothing is owed to an entry that is fresh. -/
theorem Expired.unrecorded_eq_nil (h : crowd.Expired period) (stands : crowd.entry = some kept)
    (inTime : crowd.now.nanos ≤ kept.fetchedAt.nanos + period.nanos) : crowd.unrecorded = [] := by
  have fresh : ¬ crowd.EntryExpired period := fun expired =>
    Int.not_lt.mpr inTime (expired kept stands)
  rw [unrecorded]
  cases crowd.permit with
  | none => rfl
  | some holder =>
    have resting := mt (h holder) fresh
    change (crowd.standing holder).unrecorded = []
    cases stood : crowd.standing holder with
    | storing definition =>
      rw [stood] at resting
      exact absurd rfl resting
    | _ => rfl

/-- **Age and number of fetches are bounded by the refresh period.**  For any number of callers, any
order of their steps, any refresh period, any outcome of every fetch and a clock that never goes back, at
every moment of a run of a new cache:

* where a caller is about to fetch and some fetch has ended well, the latest success has been recorded,
  and the clock is more than a period past that;
* any two records are more than a period apart;
* a definition that a caller answers is what its own fetch came to, or the caller looked at the entry on
  its way, and at that moment the definition was the latest success and at most a period old;
* a caller whose own fetch came to something answers nothing else. -/
theorem bounded_age (period : Span) (now : Instant) (moves : List Move)
    (forward : RunsForward now moves) :
    let start := empty now none
    let crowd := start.after period moves
    (∀ caller definition, crowd.standing caller = .starting →
        (successes period start moves).getLast? = some definition →
        ∃ kept, kept.definition = definition ∧ LatestSuccess period start moves kept ∧
          kept.fetchedAt.nanos + period.nanos < crowd.now.nanos)
    ∧ (recorded period start moves).Pairwise (Apart period)
    ∧ (∀ caller definition, crowd.answer? caller = some (.ok definition) →
        Fetched period start moves caller (.ok definition) ∨
        ∃ before step rest kept, moves = before ++ step :: rest ∧
          (start.after period before).Looks caller step ∧
          LatestSuccess period start before kept ∧ kept.definition = definition ∧
          (start.after period before).now.nanos ≤ kept.fetchedAt.nanos + period.nanos)
    ∧ (∀ caller outcome answer, Fetched period start moves caller outcome →
        crowd.answer? caller = some answer → answer = outcome) := by
  intro start crowd
  refine ⟨?_, recorded_spaced forward, ?_, ?_⟩
  · intro caller definition stood succeeded
    -- The caller has the permit and has fetched nothing yet, so nothing is owed to the entry.
    have held : crowd.PermitHeld := permitHeld_after (permitHeld_empty now none) moves
    have nothing : crowd.unrecorded = [] := by
      rw [unrecorded_of_permit ((held caller).mp (by rw [stood]; rfl)), stood]
      rfl
    have latest : ∃ kept, crowd.entry = some kept ∧ kept.definition = definition := by
      rw [successes_after, nothing, List.append_nil, List.getLast?_map, ← entry_after] at succeeded
      exact Option.map_eq_some_iff.mp succeeded
    obtain ⟨kept, stands, holds⟩ := latest
    have expired : crowd.EntryExpired period := expired_after forward caller (by rw [stood]; rfl)
    exact ⟨kept, holds, latestSuccess_of_entry nothing stands, expired kept stands⟩
  · intro caller definition answered
    have earned : SawFresh period start moves caller definition ∨
        Fetched period start moves caller (.ok definition) :=
      (accounted_after now none moves).carries (standing_of_answer? answered)
    rcases earned with saw | fetched
    · obtain ⟨_, step, kept, ⟨before, rest, rfl, rfl⟩, looks, stands, holds, inTime⟩ := saw
      have nothing : (start.after period before).unrecorded = [] :=
        (expired_after forward.of_append).unrecorded_eq_nil stands inTime
      exact .inr ⟨before, step, rest, kept, rfl, looks, latestSuccess_of_entry nothing stands, holds,
        inTime⟩
    · exact .inl fetched
  · intro caller outcome answer fetched answered
    exact answer_of_fetched fetched answered

/-- One caller fetches, the next is served when the period ends, and the last comes right after that and
is about to fetch again. -/
def atPeriodEnd : List Move :=
  [.call 0, .look 0, .grant 0, .lookAgain 0, .fetch 0, .finish 0 (.ok {}), .store 0, .release 0,
    .clock ⟨5⟩, .call 1, .look 1, .clock ⟨6⟩, .call 2, .look 2, .grant 2, .lookAgain 2]

theorem bounded_age_atPeriodEnd :
    RunsForward ⟨0⟩ atPeriodEnd
    ∧ (∃ kept, kept.definition = {} ∧ LatestSuccess ⟨5⟩ (empty ⟨0⟩ none) atPeriodEnd kept ∧
        kept.fetchedAt.nanos + 5 < 6)
    ∧ ∃ before step rest kept, atPeriodEnd = before ++ step :: rest ∧
        ((empty ⟨0⟩ none).after ⟨5⟩ before).Looks 1 step ∧
        LatestSuccess ⟨5⟩ (empty ⟨0⟩ none) before kept ∧ kept.definition = {} ∧
        ((empty ⟨0⟩ none).after ⟨5⟩ before).now.nanos ≤ kept.fetchedAt.nanos + 5 := by
  have forward : RunsForward ⟨0⟩ atPeriodEnd := by decide
  obtain ⟨apart, -, seen, -⟩ := bounded_age ⟨5⟩ ⟨0⟩ atPeriodEnd forward
  refine ⟨forward, apart 2 {} rfl rfl, (seen 1 {} rfl).resolve_left ?_⟩
  -- The second caller never fetched.
  rintro ⟨_, ⟨before, rest, eq, -⟩, -⟩
  have mem : Move.finish 1 (.ok {}) ∈ atPeriodEnd :=
    eq ▸ List.mem_append_right before List.mem_cons_self
  simp [atPeriodEnd] at mem

end Crowd

end OrderHerald
