import OrderHerald.Cache.Together
import OrderHerald.Proofs.Cache.Sharing

/-!
# Callers that come together

`Cache.definitions` serves callers that come together, in the order in which they came: one of the orders in
which their steps may be taken in turn.  It ends, whatever fetches come to and however long they take, so each
of the callers gets its answer; and these answers share the fetches as those of every other run in turn do.

* `Crowd.Halfway` — between two callers: some are served, the others wait.

## Main statements

* `Crowd.Halfway.served` — a caller is served, from one such moment to the next.
* `Cache.shares_definitions` — all are served, and share fetches.
* `Cache.concurrent_refreshes` — so do callers that come together, and callers of any run in turn.
-/

namespace OrderHerald

/-- Where every item has an image, these are the images. -/
theorem filterMap_eq_of_map {α β : Type} {f : α → Option β} {items : List α} {images : List β}
    (h : items.map f = images.map some) : items.filterMap f = images :=
  calc items.filterMap f = (items.map f).filterMap id := by
        rw [List.filterMap_map]
        rfl
    _ = images := by
        rw [h, List.filterMap_map]
        exact List.filterMap_some

theorem Bench.le_advance (bench : Bench) (length : Span) :
    bench.now.nanos ≤ (bench.advance length).now.nanos := by
  change bench.now.nanos ≤ ((bench.now.advance? length).getD bench.now).nanos
  simp only [Instant.advance?]
  split
  · change bench.now.nanos ≤ bench.now.nanos + length.nanos
    omega
  · exact Int.le_refl _

/-- **What has been fetched is what the script tells** from one of its fetches on. -/
structure Script.Told (script : Script) (first : Nat) (fetched : List (Except FetchError Definition))
    (bench : Bench) : Prop where
  past : bench.past.length = first + fetched.length
  scripted : fetched = (List.range fetched.length).map fun i => script.outcome (first + i)

theorem Script.Told.after {script : Script} {first : Nat} {fetched : List (Except FetchError Definition)}
    {bench : Bench} (h : script.Told first fetched bench) :
    script.Told first (fetched ++ [(script.next bench).outcome]) (script.after bench) where
  past := by
    change (bench.past ++ [_]).length = _
    rw [List.length_append, h.past, List.length_append, Nat.add_assoc]
    rfl
  scripted := by
    have next : (script.next bench).outcome = script.outcome (first + fetched.length) := by
      rw [← h.past]
      rfl
    rw [List.length_append, List.length_singleton, List.range_succ, List.map_append, ← h.scripted, next]
    rfl

namespace Crowd

variable {period : Span} {script : Script} {crowd looked : Crowd} {bench : Bench} {caller : Nat}
  {standing : Standing} {callers rest : List Nat} {fetched : List (Except FetchError Definition)}
  {first : Nat} {journal : Journal}

/-! ### One caller is served -/

/-- A caller that finds nothing again fetches. -/
theorem serve_of_starting
    (steps : crowd.after period [.clock bench.now, .grant caller, .lookAgain caller] = looked)
    (starting : looked.standing caller = .starting) :
    serve period script.origin caller (crowd, bench)
      = ⟨(), Cache.fetchJournal (script.next bench).outcome,
          (looked.after period [.fetch caller, .clock (script.after bench).now,
            .finish caller (script.next bench).outcome, .store caller, .release caller],
            script.after bench)⟩ := by
  have now (bench : Bench) : script.origin.now bench = (bench.now, bench) := rfl
  have steps : (crowd.move period (.clock bench.now)).after period [.grant caller, .lookAgain caller]
      = looked := steps
  simp only [serve, bind, setClock, step, standingOf, Run.of, now, steps, starting, Run.onRight,
    Cache.fetch_scripted, List.nil_append, List.append_nil]
  rfl

/-- A caller that finds something returns with it. -/
theorem serve_of_returning {answer : Except FetchError Definition}
    (steps : crowd.after period [.clock bench.now, .grant caller, .lookAgain caller] = looked)
    (returns : looked.standing caller = .returning answer) :
    serve period script.origin caller (crowd, bench)
      = ⟨(), [], (looked.release caller (.answered answer), bench)⟩ := by
  have released : looked.after period [.release caller] = looked.release caller (.answered answer) :=
    (Step.release returns : Step period looked _ _).move_eq
  rw [← released]
  have now (bench : Bench) : script.origin.now bench = (bench.now, bench) := rfl
  have steps : (crowd.move period (.clock bench.now)).after period [.grant caller, .lookAgain caller]
      = looked := steps
  simp only [serve, bind, setClock, step, standingOf, Run.of, now, steps, returns, List.nil_append]

/-- The fetch ends, and the caller returns with what it came to. -/
theorem after_fetch (starting : looked.standing caller = .starting) (time : Instant)
    (outcome : Except FetchError Definition) :
    let fetching := { looked.put caller .fetching with now := time }
    looked.after period [.fetch caller, .clock time, .finish caller outcome, .store caller, .release caller]
      = match outcome with
        | .ok definition =>
          ((fetching.put caller (.storing definition)).store caller definition).release caller
            (.answered (.ok definition))
        | .error reason =>
          (fetching.put caller (.returning (.error reason))).release caller (.answered (.error reason)) := by
  intro fetching
  have fetches : fetching.standing caller = .fetching := standing_put looked caller .fetching
  have begun : (looked.move period (.fetch caller)).move period (.clock time) = fetching := by
    rw [(Step.fetch starting).move_eq]
    rfl
  simp only [after, List.foldl_cons, List.foldl_nil, begun]
  cases outcome with
  | ok definition =>
    rw [(Step.finishOk fetches).move_eq, (Step.store (standing_put fetching caller _)).move_eq,
      (Step.release (standing_store _ caller definition)).move_eq]
  | error reason =>
    have kept : (fetching.put caller (.returning (.error reason))).move period (.store caller)
        = fetching.put caller (.returning (.error reason)) := by
      simp only [move, standing_put]
    rw [(Step.finishError fetches).move_eq, kept, (Step.release (standing_put fetching caller _)).move_eq]

/-! ### Between two callers -/

/-- Nobody who has called has still to look. -/
def Quiet (crowd : Crowd) : Prop :=
  ∀ caller, crowd.standing caller ≠ .arrived

theorem Quiet.put (h : crowd.Quiet) (caller : Nat) (standing : Standing) (other : standing ≠ .arrived) :
    (crowd.put caller standing).Quiet := by
  intro someone
  by_cases eq : someone = caller
  · rw [eq, standing_put]
    exact other
  · rw [standing_put_of_ne crowd standing eq]
    exact h someone

theorem Quiet.grant (h : crowd.Quiet) : (crowd.grant caller).Quiet :=
  h.put caller .admitted nofun

theorem Quiet.store (h : crowd.Quiet) (definition : Definition) :
    (crowd.store caller definition).Quiet :=
  h.put caller (.returning (.ok definition)) nofun

theorem Quiet.release (h : crowd.Quiet) (answer : Except FetchError Definition) :
    (crowd.release caller (.answered answer)).Quiet :=
  h.put caller (.answered answer) nofun

/-- A caller fetches, when everyone who came waits; it returns with what the fetch came to. -/
theorem Turn.fetches {done : List Nat} {replies : List (Except FetchError Definition)}
    (h : Turn period callers fetched looked done replies) (quiet : looked.Quiet)
    (starting : looked.standing caller = .starting) {time : Instant}
    (forward : looked.now.nanos ≤ time.nanos) (outcome : Except FetchError Definition) :
    let back := looked.after period [.fetch caller, .clock time, .finish caller outcome, .store caller,
      .release caller]
    (∃ done replies, Turn period callers (fetched ++ [outcome]) back done replies) ∧
      back.permit = none ∧ back.queue = looked.queue ∧ back.Quiet ∧ back.now = time := by
  have begins : Turn period callers fetched (looked.put caller .fetching) done replies :=
    h.advanced starting rfl id
  have ticked := begins.ticked forward (standing_put _ caller .fetching)
  have calm : (looked.put caller .fetching).Quiet := quiet.put caller .fetching (by simp)
  simp only [after_fetch starting]
  cases outcome with
  | ok definition =>
    have finished : Turn period callers (fetched ++ [.ok definition]) _ done replies :=
      @Turn.finished _ _ _ (.storing definition) _ _ _ _ ticked (standing_put _ caller .fetching) calm _
        fun failed => ⟨failed, rfl⟩
    have stored := finished.stored (standing_put _ caller _)
    exact ⟨⟨_, _, stored.released (standing_store _ caller definition)⟩, rfl, rfl,
      ((calm.put caller (.storing definition) (by simp)).store definition).release _, rfl⟩
  | error reason =>
    have finished : Turn period callers (fetched ++ [.error reason]) _ done replies :=
      @Turn.finished _ _ _ (.returning (.error reason)) _ _ _ _ ticked (standing_put _ caller .fetching)
        calm _ fun failed => Tally.failing (failed.concat reason)
    exact ⟨⟨_, _, finished.released (standing_put _ caller _)⟩, rfl, rfl,
      (calm.put caller (.returning (.error reason)) (by simp)).release _, rfl⟩

/-- **Between two callers**: of those who came to wait the ones of `rest` are still to be served, and the
fetches of the script from the first one on have come to `fetched`. -/
structure Halfway (period : Span) (script : Script) (first : Nat) (callers rest : List Nat)
    (fetched : List (Except FetchError Definition)) (world : Crowd × Bench) (journal : Journal) : Prop where
  turn : ∃ done replies, Turn period callers fetched world.1 done replies
  free : world.1.permit = none
  queue : world.1.queue = rest
  quiet : world.1.Quiet
  clock : world.1.now = world.2.now
  journal : journal = fetchJournals fetched
  told : script.Told first fetched world.2

/-- **A caller is served.** -/
theorem Halfway.served {world : Crowd × Bench}
    (h : Halfway period script first callers (caller :: rest) fetched world journal) :
    ∃ fetched, Halfway period script first callers rest fetched
      (serve period script.origin caller world).world
      (journal ++ (serve period script.origin caller world).journal) := by
  obtain ⟨crowd, bench⟩ := world
  obtain ⟨⟨done, replies, turn⟩, free, queue, quiet, clock, written, told⟩ := h
  have waiting : crowd.standing caller = .waiting :=
    turn.waiting caller (by rw [queue]; exact List.mem_cons_self)
  have still : crowd.move period (.clock bench.now) = crowd := by
    rw [← show crowd.now = bench.now from clock]
    rfl
  have begun : crowd.after period [.clock bench.now, .grant caller, .lookAgain caller]
      = (crowd.grant caller).move period (.lookAgain caller) := by
    simp only [after, List.foldl_cons, List.foldl_nil, still, (Step.grant free waiting).move_eq]
  have admitted := standing_grant crowd caller
  obtain ⟨granted, left⟩ := turn.granted free queue
  have calm : (crowd.grant caller).Quiet := quiet.grant
  cases found : (crowd.grant caller).served period with
  | some definition =>
    have looked := begun.trans (Step.lookAgainFresh admitted found).move_eq
    have returns := standing_put (crowd.grant caller) caller (.returning (.ok definition))
    rw [serve_of_returning looked returns, List.append_nil]
    exact ⟨fetched, ⟨_, _, (granted.found admitted found).released returns⟩, rfl, left,
      (calm.put caller (.returning (.ok definition)) (by simp)).release _, clock, written, told⟩
  | none =>
    have looked := begun.trans (Step.lookAgainStale admitted found).move_eq
    have starting := standing_put (crowd.grant caller) caller .starting
    have forward : crowd.now.nanos ≤ (script.after bench).now.nanos := by
      rw [show crowd.now = bench.now from clock]
      exact bench.le_advance _
    obtain ⟨turn, free, queue, quiet, clock⟩ := (granted.lacked admitted found).fetches
      (calm.put caller .starting (by simp)) starting forward (script.next bench).outcome
    have noted : journal ++ Cache.fetchJournal (script.next bench).outcome
        = fetchJournals (fetched ++ [(script.next bench).outcome]) := by
      rw [written, fetchJournals_append]
      simp [fetchJournals]
    rw [serve_of_starting looked starting]
    exact ⟨_, turn, free, queue.trans left, quiet, clock, noted, told.after⟩

/-- All who are still to be served are served. -/
theorem Halfway.all_served {world : Crowd × Bench}
    (h : Halfway period script first callers rest fetched world journal) :
    ∃ fetched, Halfway period script first callers [] fetched
      (Run.forEach rest (serve period script.origin) world).world
      (journal ++ (Run.forEach rest (serve period script.origin) world).journal) := by
  induction rest generalizing fetched world journal with
  | nil =>
    refine ⟨fetched, ?_⟩
    change Halfway _ _ _ _ _ _ world (journal ++ [])
    rwa [List.append_nil]
  | cons caller rest ih =>
    obtain ⟨further, served⟩ := h.served
    obtain ⟨fetched, done⟩ := ih served
    refine ⟨fetched, ?_⟩
    change Halfway _ _ _ _ _ _ _ (journal ++ (_ ++ (_ ++ [])))
    rw [List.append_nil, ← List.append_assoc]
    exact done

/-! ### Callers come together -/

/-- One more caller comes, finds nothing and waits. -/
theorem Halfway.arrives (h : Halfway period script first callers callers [] (crowd, bench) journal)
    (absent : caller ∉ callers) :
    Halfway period script first (callers ++ [caller]) (callers ++ [caller]) []
      (crowd.after period [.call caller, .look caller], bench) journal := by
  obtain ⟨⟨done, replies, turn⟩, free, queue, quiet, clock, written, told⟩ := h
  have away : crowd.standing caller = .away := by
    rcases turn.outside caller absent with away | ⟨arrived, -⟩
    · exact away
    · exact absurd arrived (quiet caller)
  have arrived := standing_put crowd caller .arrived
  have came : crowd.after period [.call caller, .look caller] = (crowd.put caller .arrived).enqueue caller := by
    simp only [after, List.foldl_cons, List.foldl_nil, (Step.call away).move_eq,
      (Step.lookStale arrived turn.stale).move_eq]
  rw [came]
  refine ⟨⟨done, replies, (turn.called away).joined arrived⟩, free, congrArg (· ++ [caller]) queue, ?_, clock,
    written, told⟩
  intro other
  by_cases eq : other = caller
  · rw [eq, show ((crowd.put caller .arrived).enqueue caller).standing caller = .waiting from
      standing_put _ caller .waiting]
    simp
  · rw [show ((crowd.put caller .arrived).enqueue caller).standing other = crowd.standing other from
      (standing_put_of_ne _ .waiting eq).trans (standing_put_of_ne crowd .arrived eq)]
    exact quiet other

/-- So many callers come together. -/
theorem halfway_arrive {entry : Option Entry} (stale : Entry.fresh? entry period bench.now = none)
    (count : Nat) :
    Halfway period script bench.past.length (List.range count) (List.range count) []
      ((empty bench.now entry).arrive period count, bench) [] := by
  induction count with
  | zero => exact ⟨⟨[], [], turn_empty stale⟩, rfl, rfl, nofun, rfl, rfl, rfl, rfl⟩
  | succ count ih =>
    have more := ih.arrives (show count ∉ List.range count by simp)
    rw [List.range_succ, arrive, List.range_succ, List.flatMap_append, after_append]
    exact more

end Crowd

namespace Cache

variable {period : Span} {script : Script} {bench : Bench} {entry : Option Entry}

/-- Callers that wait in the order in which they came are served in this order. -/
theorem definitions_of_queue {count : Nat} {queue : List Nat}
    (waits : ((Crowd.empty bench.now entry).arrive period count).queue = queue) :
    let served := Run.forEach queue (Crowd.serve period script.origin)
      ((Crowd.empty bench.now entry).arrive period count, bench)
    definitions period script.origin count (entry, bench)
      = ⟨(List.range count).filterMap served.world.1.answer?, served.journal,
          (served.world.1.entry, served.world.2)⟩ := by
  subst waits
  rfl

/-- **All callers that come together get their answers, and share fetches.** -/
theorem shares_definitions (stale : Entry.fresh? entry period bench.now = none) (count : Nat) :
    let got := definitions period script.origin count (entry, bench)
    got.value.length = count ∧
      got.world.2.past.length = bench.past.length + got.journal.fetches.length ∧
      Shares (fun i => script.outcome (bench.past.length + i)) count got.value got.journal := by
  intro got
  have came : Crowd.Halfway period script _ _ _ _ _ _ := Crowd.halfway_arrive stale count
  have run : got = _ := definitions_of_queue came.queue
  obtain ⟨fetched, ⟨done, replies, turn⟩, free, queue, -, -, journal, told⟩ := came.all_served
  have answers := turn.over free queue
  have value : got.value = replies :=
    calc got.value = _ := by rw [run]
      _ = replies := filterMap_eq_of_map answers
  have journal : got.journal = fetchJournals fetched := by
    rw [run]
    exact journal
  have past : got.world.2.past.length = bench.past.length + fetched.length := by
    rw [run]
    exact told.past
  have length : replies.length = count := by
    rw [← List.length_map some, ← answers, List.length_map, List.length_range]
  have shares := (turn.free free).shares told.scripted
  rw [length] at shares
  rw [value, journal, fetches_fetchJournals]
  exact ⟨length, past, shares⟩

/-- **Concurrent callers share fetches.**  Let there be nothing that may be served.

* In whatever order the steps of callers mix, if everyone who comes waits by the time that the first fetch
  ends, the permit goes to the one that has waited longest and only fetches take time, then the answers of
  those who waited, in waiting order, share the fetches.
* Callers that come together all get their answers, and share the fetches of the script.

So with a first fetch among theirs that ends well it is the last one, those before it have the errors of the
ones before it, and all others have its definition, even if an entry may be served for no time at all. -/
theorem concurrent_refreshes (period : Span) (entry : Option Entry) :
    (∀ (now : Instant) (moves : List Move) (outcome : Nat → Except FetchError Definition),
      let start := Crowd.empty now entry
      let crowd := start.after period moves
      let waited := Crowd.waited period start moves
      let outcomes := Crowd.outcomes period start moves
      Entry.fresh? entry period now = none → Crowd.Orderly period [] start moves →
        outcomes = (List.range outcomes.length).map outcome →
        (∀ caller ∈ waited, ∃ answer, crowd.answer? caller = some answer) →
        ∃ replies, waited.map crowd.answer? = replies.map some ∧
          Shares outcome waited.length replies (fetchJournals outcomes)) ∧
      ∀ (script : Script) (bench : Bench) (count : Nat), Entry.fresh? entry period bench.now = none →
        let got := definitions period script.origin count (entry, bench)
        got.value.length = count ∧
          got.world.2.past.length = bench.past.length + got.journal.fetches.length ∧
          Shares (fun i => script.outcome (bench.past.length + i)) count got.value got.journal := by
  refine ⟨?_, ?_⟩
  · intro now moves outcome start crowd waited outcomes stale orderly scripted complete
    exact Crowd.shares_after stale orderly scripted complete
  · intro script bench count stale
    exact shares_definitions stale count

/-- The second fetch ends well, and the third caller gets what it came to, although nothing is served for
longer than it takes to look. -/
theorem third_caller_shares :
    let outcome : Nat → Except FetchError Definition := fun i => if i = 0 then .error .io else .ok {}
    let moves : List Move := [.call 0, .call 1, .call 2, .look 0, .look 1, .look 2, .grant 0, .lookAgain 0,
      .fetch 0, .clock ⟨5⟩, .finish 0 (.error .io), .release 0, .grant 1, .lookAgain 1, .fetch 1,
      .finish 1 (.ok {}), .store 1, .release 1, .grant 2, .lookAgain 2, .release 2]
    (∃ replies, [0, 1, 2].map ((Crowd.empty ⟨0⟩ none).after ⟨0⟩ moves).answer? = replies.map some ∧
      replies = [.error .io, .ok {}, .ok {}]) ∧
    (definitions ⟨0⟩ (Script.origin ⟨outcome, fun _ => ⟨7⟩⟩) 3 (none, ⟨⟨0⟩, []⟩)).value
      = [.error .io, .ok {}, .ok {}] := by
  intro outcome moves
  obtain ⟨schedules, together⟩ := concurrent_refreshes ⟨0⟩ none
  have first : ∀ i < 1, ∃ reason, outcome i = .error reason := by
    intro i lt
    obtain rfl : i = 0 := by omega
    exact ⟨.io, rfl⟩
  have orderly : Crowd.Orderly ⟨0⟩ [] (Crowd.empty ⟨0⟩ none) moves := by
    refine ⟨rfl, rfl, rfl, trivial, trivial, trivial, rfl, trivial, trivial, ⟨by decide, 0, rfl⟩, ?_, trivial,
      rfl, trivial, trivial, ?_, trivial, trivial, rfl, trivial, trivial, trivial⟩
    all_goals
      intro caller
      match caller with
      | 0 | 1 | 2 | _ + 3 => nofun
  have complete : ∀ caller ∈ [0, 1, 2],
      ∃ answer, ((Crowd.empty ⟨0⟩ none).after ⟨0⟩ moves).answer? caller = some answer := by
    intro caller mem
    match caller with
    | 0 | 1 | 2 => exact ⟨_, rfl⟩
    | _ + 3 => simp at mem
  constructor
  · obtain ⟨replies, answers, shares⟩ := schedules ⟨0⟩ moves outcome rfl orderly rfl complete
    exact ⟨replies, answers, (shares.success 1 {} (by decide) first rfl).2.1⟩
  · obtain ⟨-, -, shares⟩ := together ⟨outcome, fun _ => ⟨7⟩⟩ ⟨⟨0⟩, []⟩ 3 rfl
    exact (shares.success 1 {} (by decide) (by simpa using first) rfl).2.1

end Cache

end OrderHerald
