import OrderHerald.Proofs.Cache.History
import OrderHerald.Proofs.Cache.Records

/-!
# Callers that share fetches

Callers wait for the permit to fetch, and it goes to the one that has waited longest.  As long as fetches
fail, each caller makes its own and gets the error of it.  The first fetch that ends well is the last one:
whoever waits behind it finds its definition in the entry, even if an entry may be served for no time at
all, because the clock only goes on while a fetch is under way.

**Turns.**  `Crowd.Turn` ties the callers to what fetches came to and what was answered so far: who has an
answer, who has the permit, and who waits.  `Tally` says how fetches and answers are tied, and each step that
a crowd takes in turn keeps this.

* `Shares` — what so many callers get, and how often they fetch.
* `Crowd.waited`, `Crowd.outcomes` — who came to wait, in order, and what fetches came to.
* `Crowd.Orderly` — the permit is handed out in waiting order, and only fetches take time.

## Main statements

* `Crowd.Turn.step` — a step in turn keeps the turns.
* `Tally.shares` — so the first fetch that ends well is shared by all who wait behind it.
-/

namespace OrderHerald

/-! ### Fetches and answers -/

section Tallies

variable {outcome : Nat → Except FetchError Definition}
  {errors fetched replies : List (Except FetchError Definition)} {served : Option Definition}

/-- **How so many callers share fetches** that come to `outcome`, one after the other. -/
structure Shares (outcome : Nat → Except FetchError Definition) (count : Nat)
    (replies : List (Except FetchError Definition)) (journal : Journal) : Prop where
  /-- The first fetch that ends well is the last one.  Each caller before it has the error of its own fetch,
  and all others have the definition. -/
  success : ∀ k definition, k < count → (∀ i < k, ∃ reason, outcome i = .error reason) →
    outcome k = .ok definition →
    journal.fetches = (List.range (k + 1)).map outcome ∧
      replies = (List.range k).map outcome ++ List.replicate (count - k) (.ok definition) ∧
      counted .definitionFetch [] journal.samples = 1 ∧
      counted .definitionFetchFailure [] journal.samples = k
  /-- If none ends well, each caller has the error of its own fetch. -/
  failure : (∀ i < count, ∃ reason, outcome i = .error reason) →
    journal.fetches = (List.range count).map outcome ∧ replies = (List.range count).map outcome ∧
      counted .definitionFetch [] journal.samples = 0 ∧
      counted .definitionFetchFailure [] journal.samples = count

/-- No fetch ended well. -/
def Failed (outcomes : List (Except FetchError Definition)) : Prop :=
  ∀ outcome ∈ outcomes, ∃ reason, outcome = .error reason

/-- **What fetches came to and what was answered**, with the definition that may be served. -/
inductive Tally : Option Definition → List (Except FetchError Definition) →
    List (Except FetchError Definition) → Prop where
  | failing {errors : List (Except FetchError Definition)} (failed : Failed errors) :
      Tally none errors errors
  | shared {errors : List (Except FetchError Definition)} {definition : Definition} (others : Nat)
      (failed : Failed errors) :
      Tally (some definition) (errors ++ [.ok definition])
        (errors ++ List.replicate (others + 1) (.ok definition))

theorem Failed.concat (h : Failed errors) (reason : FetchError) :
    Failed (errors ++ [.error reason]) := by
  intro outcome mem
  rcases List.mem_append.mp mem with mem | mem
  · exact h outcome mem
  · exact ⟨reason, List.mem_singleton.mp mem⟩

theorem Tally.failed (h : Tally none fetched replies) : Failed fetched ∧ replies = fetched := by
  cases h with
  | failing failed => exact ⟨failed, rfl⟩

/-- One more caller gets what may be served. -/
theorem Tally.reply {definition : Definition} (h : Tally (some definition) fetched replies) :
    Tally (some definition) fetched (replies ++ [.ok definition]) := by
  cases h with
  | shared others failed =>
    rw [List.append_assoc, ← List.replicate_succ']
    exact .shared (others + 1) failed

/-- Before the first fetch nothing may be served. -/
theorem Tally.stale (h : Tally served [] replies) : served = none := by
  generalize nothing : ([] : List (Except FetchError Definition)) = fetched at h
  cases h with
  | failing failed => rfl
  | shared others failed => exact absurd nothing.symm (by simp)

/-- What is written about fetches that came to this. -/
def fetchJournals (fetched : List (Except FetchError Definition)) : Journal :=
  fetched.flatMap Cache.fetchJournal

theorem fetches_fetchJournals (fetched : List (Except FetchError Definition)) :
    (fetchJournals fetched).fetches = fetched := by
  induction fetched with
  | nil => rfl
  | cons outcome rest ih =>
    rw [fetchJournals, List.flatMap_cons, Journal.fetches_append, ← fetchJournals, ih]
    rfl

theorem fetchJournals_append (first second : List (Except FetchError Definition)) :
    fetchJournals (first ++ second) = fetchJournals first ++ fetchJournals second :=
  List.flatMap_append

/-- Failures are counted as failures. -/
theorem Failed.counted (h : Failed errors) :
    counted .definitionFetch [] (fetchJournals errors).samples = 0 ∧
      counted .definitionFetchFailure [] (fetchJournals errors).samples = errors.length := by
  induction errors with
  | nil => exact ⟨rfl, rfl⟩
  | cons outcome rest ih =>
    obtain ⟨reason, rfl⟩ := h outcome List.mem_cons_self
    obtain ⟨success, failure⟩ := ih fun other mem => h other (List.mem_cons_of_mem _ mem)
    rw [fetchJournals, List.flatMap_cons, Journal.samples_append, counted_append, counted_append,
      ← fetchJournals, success, failure, List.length_cons]
    exact ⟨rfl, Nat.add_comm 1 rest.length⟩

/-- The failures among scripted fetches are those of the script. -/
theorem Failed.scripted (h : Failed errors) (scripted : errors = (List.range errors.length).map outcome)
    {i : Nat} (lt : i < errors.length) : ∃ reason, outcome i = .error reason := by
  refine h (outcome i) ?_
  rw [scripted]
  exact List.mem_map_of_mem (List.mem_range.mpr lt)

/-- **What was answered is how callers share fetches**, if these come to what is scripted. -/
theorem Tally.shares (h : Tally served fetched replies)
    (scripted : fetched = (List.range fetched.length).map outcome) :
    Shares outcome replies.length replies (fetchJournals fetched) := by
  cases h with
  | failing failed =>
    obtain ⟨succeeded, lost⟩ := failed.counted
    refine ⟨fun k definition lt _ success => ?_, fun _ => ?_⟩
    · obtain ⟨reason, failure⟩ := failed.scripted scripted lt
      exact absurd (success.symm.trans failure) nofun
    · exact ⟨(fetches_fetchJournals _).trans scripted, scripted, succeeded, lost⟩
  | @shared errors definition others failed =>
    obtain ⟨succeeded, lost⟩ := failed.counted
    -- The script says what the failures came to and then the success.
    rw [List.length_append, List.length_singleton, List.range_succ, List.map_append] at scripted
    obtain ⟨before, last⟩ := List.append_inj scripted (by simp)
    have success : outcome errors.length = .ok definition := (List.singleton_inj.mp last).symm
    have first {i : Nat} (lt : i < errors.length) : ∃ reason, outcome i = .error reason :=
      failed.scripted before lt
    rw [List.length_append, List.length_replicate]
    refine ⟨fun k found lt earlier ends => ?_, fun fails => ?_⟩
    · obtain rfl : k = errors.length := by
        rcases Nat.lt_trichotomy k errors.length with less | same | more
        · obtain ⟨reason, failure⟩ := first less
          exact absurd (ends.symm.trans failure) nofun
        · exact same
        · obtain ⟨reason, failure⟩ := earlier _ more
          exact absurd (success.symm.trans failure) nofun
      obtain rfl : found = definition := Except.ok.inj (ends.symm.trans success)
      refine ⟨?_, ?_, ?_, ?_⟩
      · rw [fetches_fetchJournals, List.range_succ, List.map_append, ← before, ← last]
      · rw [Nat.add_sub_cancel_left, ← before]
      · rw [fetchJournals_append, Journal.samples_append, counted_append, succeeded]
        rfl
      · rw [fetchJournals_append, Journal.samples_append, counted_append, lost]
        rfl
    · obtain ⟨reason, failure⟩ := fails errors.length (by omega)
      exact absurd (success.symm.trans failure) nofun

end Tallies

/-! ### Who waited, and what fetches came to -/

/-- What the permit holder knows, as far as it has come. -/
def Standing.HasTurn (served : Option Definition) (fetched replies : List (Except FetchError Definition)) :
    Standing → Prop
  | admitted => Tally served fetched replies
  | starting => served = none ∧ Tally none fetched replies
  | fetching => served = none ∧ Tally none fetched replies
  | storing definition => Failed replies ∧ fetched = replies ++ [.ok definition]
  | returning answer => Tally served fetched (replies ++ [answer])
  | _ => False

namespace Crowd

variable {period : Span} {start crowd next : Crowd} {moves : List Move} {last : Move}
  {caller other : Nat} {standing : Standing} {callers done : List Nat}
  {fetched replies : List (Except FetchError Definition)}

theorem standing_grant (crowd : Crowd) (caller : Nat) :
    (crowd.grant caller).standing caller = .admitted :=
  standing_put crowd caller .admitted

theorem standing_store (crowd : Crowd) (caller : Nat) (definition : Definition) :
    (crowd.store caller definition).standing caller = .returning (.ok definition) :=
  standing_put crowd caller _

/-- Who comes to wait for the permit at a step. -/
def joinAt? (period : Span) (crowd : Crowd) : Move → Option Nat
  | .look caller =>
    match crowd.standing caller, Entry.fresh? crowd.entry period crowd.now with
    | .arrived, none => some caller
    | _, _ => none
  | _ => none

/-- What a fetch comes to that ends at a step. -/
def outcomeAt? (crowd : Crowd) : Move → Option (Except FetchError Definition)
  | .finish caller outcome =>
    match crowd.standing caller with
    | .fetching => some outcome
    | _ => none
  | _ => none

theorem outcomeAt?_finish (fetching : crowd.standing caller = .fetching)
    (outcome : Except FetchError Definition) :
    outcomeAt? crowd (.finish caller outcome) = some outcome := by
  simp only [outcomeAt?, fetching]

/-- **Who came to wait** for the permit, in order. -/
def waited (period : Span) (start : Crowd) (moves : List Move) : List Nat :=
  observed (joinAt? period) period start moves

/-- **What fetches came to**, in order. -/
def outcomes (period : Span) (start : Crowd) (moves : List Move) : List (Except FetchError Definition) :=
  observed outcomeAt? period start moves

/-- What may be served at the moment. -/
def served (period : Span) (crowd : Crowd) : Option Definition :=
  Entry.fresh? crowd.entry period crowd.now

/-- **A step in turn**, after fetches that came to this.  Nobody leaves; callers come before a fetch has
ended, and wait by the time that one ends; the permit goes to the one that has waited longest; the clock goes
on only while a fetch is under way. -/
def InTurn (fetched : List (Except FetchError Definition)) (crowd : Crowd) : Move → Prop
  | .clock time => crowd.now.nanos ≤ time.nanos ∧ ∃ caller, crowd.standing caller = .fetching
  | .call _ => fetched = []
  | .grant caller => crowd.queue.head? = some caller
  | .finish _ _ => ∀ caller, crowd.standing caller ≠ .arrived
  | .leave _ => False
  | _ => True

/-- **Every step of the run is taken in turn**, where fetches before it came to `fetched`. -/
def Orderly (period : Span) (fetched : List (Except FetchError Definition)) (crowd : Crowd) :
    List Move → Prop
  | [] => True
  | step :: rest => InTurn fetched crowd step ∧
      Orderly period (fetched ++ (outcomeAt? crowd step).toList) (crowd.move period step) rest

/-! ### Turns -/

/-- **Whose turn it is**, where these callers came to wait, fetches came to this, and the callers `done` have
these answers. -/
structure Turn (period : Span) (callers : List Nat) (fetched : List (Except FetchError Definition))
    (crowd : Crowd) (done : List Nat) (replies : List (Except FetchError Definition)) : Prop where
  order : callers = done ++ (crowd.permit.toList ++ crowd.queue)
  nodup : callers.Nodup
  answered : done.map crowd.standing = replies.map .answered
  waiting : ∀ caller ∈ crowd.queue, crowd.standing caller = .waiting
  /-- Others have not called, or have not looked yet and come before a fetch has ended. -/
  outside : ∀ caller, caller ∉ callers →
    crowd.standing caller = .away ∨ (crowd.standing caller = .arrived ∧ fetched = [])
  free : crowd.permit = none → Tally (crowd.served period) fetched replies
  holder : ∀ caller, crowd.permit = some caller →
    (crowd.standing caller).HasTurn (crowd.served period) fetched replies

theorem Turn.answered_of_mem (h : Turn period callers fetched crowd done replies) (mem : caller ∈ done) :
    ∃ reply, crowd.standing caller = .answered reply := by
  have listed : crowd.standing caller ∈ replies.map .answered :=
    h.answered ▸ List.mem_map_of_mem mem
  obtain ⟨reply, -, answered⟩ := List.mem_map.mp listed
  exact ⟨reply, answered.symm⟩

theorem Turn.mem_iff (h : Turn period callers fetched crowd done replies) :
    caller ∈ callers ↔ caller ∈ done ∨ crowd.permit = some caller ∨ caller ∈ crowd.queue := by
  rw [h.order, List.mem_append, List.mem_append, Option.mem_toList]

theorem Turn.answered_congr (h : Turn period callers fetched crowd done replies)
    (same : ∀ other ∈ done, next.standing other = crowd.standing other) :
    done.map next.standing = replies.map .answered :=
  (List.map_congr_left same).trans h.answered

/-- The caller with the permit has no answer yet, and does not wait. -/
theorem Turn.apart (h : Turn period callers fetched crowd done replies) (held : crowd.permit = some caller) :
    caller ∉ done ∧ caller ∉ crowd.queue := by
  have nodup := h.nodup
  rw [h.order, held, List.nodup_append] at nodup
  obtain ⟨-, rest, apart⟩ := nodup
  exact ⟨fun mem => apart caller mem caller List.mem_cons_self rfl, (List.nodup_cons.mp rest).1⟩

/-- A caller that has come further than to wait, and has no answer yet, has the permit. -/
theorem Turn.held (h : Turn period callers fetched crowd done replies)
    (acts : (crowd.standing caller).holdsPermit = true) : crowd.permit = some caller := by
  by_cases mem : caller ∈ callers
  · rcases h.mem_iff.mp mem with answered | held | waits
    · obtain ⟨reply, answered⟩ := h.answered_of_mem answered
      rw [answered] at acts
      cases acts
    · exact held
    · rw [h.waiting caller waits] at acts
      cases acts
  · rcases h.outside caller mem with away | ⟨arrived, -⟩
    · rw [away] at acts
      cases acts
    · rw [arrived] at acts
      cases acts

/-- A caller that has not come to wait is outside. -/
theorem Turn.not_mem (h : Turn period callers fetched crowd done replies)
    (stood : crowd.standing caller = .away ∨ crowd.standing caller = .arrived) : caller ∉ callers := by
  intro mem
  rcases h.mem_iff.mp mem with answered | held | waits
  · obtain ⟨reply, answered⟩ := h.answered_of_mem answered
    rw [answered] at stood
    rcases stood with stood | stood <;> cases stood
  · have turn := h.holder caller held
    rcases stood with stood | stood <;> exact (stood ▸ turn).elim
  · rw [h.waiting caller waits] at stood
    rcases stood with stood | stood <;> cases stood

/-- Before the first fetch has ended nothing may be served. -/
theorem Turn.stale (h : Turn period callers [] crowd done replies) : crowd.served period = none := by
  cases permit : crowd.permit with
  | none => exact (h.free permit).stale
  | some caller =>
    have turn := h.holder caller permit
    cases stood : crowd.standing caller with
    | admitted =>
      rw [stood] at turn
      exact Tally.stale turn
    | starting =>
      rw [stood] at turn
      exact turn.1
    | fetching =>
      rw [stood] at turn
      exact turn.1
    | storing definition =>
      rw [stood] at turn
      exact absurd turn.2 (by simp)
    | returning answer =>
      rw [stood] at turn
      exact Tally.stale turn
    | _ =>
      rw [stood] at turn
      exact turn.elim

/-- **The caller with the permit moves on**, and nobody else does. -/
theorem Turn.passed (h : Turn period callers fetched crowd done replies)
    {fetched' : List (Except FetchError Definition)} (held : crowd.permit = some caller)
    (permit : next.permit = some caller) (queue : next.queue = crowd.queue)
    (others : ∀ other, other ≠ caller → next.standing other = crowd.standing other)
    (quiet : fetched' = fetched ∨ ∀ other, crowd.standing other ≠ .arrived)
    (turn : (next.standing caller).HasTurn (next.served period) fetched' replies) :
    Turn period callers fetched' next done replies := by
  have order := h.order
  rw [held, ← permit, ← queue] at order
  obtain ⟨undone, unqueued⟩ := h.apart held
  refine ⟨order, h.nodup, ?_, ?_, ?_, ?_, ?_⟩
  · exact h.answered_congr fun other mem => others other (ne_of_mem_of_not_mem mem undone)
  · intro other mem
    rw [queue] at mem
    rw [others other (ne_of_mem_of_not_mem mem unqueued), h.waiting other mem]
  · intro other absent
    have ne : other ≠ caller := by
      rintro rfl
      exact absent (h.mem_iff.mpr (.inr (.inl held)))
    rw [others other ne]
    rcases h.outside other absent with away | ⟨arrived, none⟩
    · exact .inl away
    · rcases quiet with rfl | quiet
      · exact .inr ⟨arrived, none⟩
      · exact absurd arrived (quiet other)
  · intro free
    rw [permit] at free
    cases free
  · intro holder held
    rw [permit] at held
    exact Option.some.inj held ▸ turn

/-- A caller calls. -/
theorem Turn.called (h : Turn period callers [] crowd done replies)
    (away : crowd.standing caller = .away) :
    Turn period callers [] (crowd.put caller .arrived) done replies := by
  have absent : caller ∉ callers := h.not_mem (.inl away)
  have others : ∀ other ∈ callers, (crowd.put caller .arrived).standing other = crowd.standing other :=
    fun other mem => standing_put_of_ne crowd _ (ne_of_mem_of_not_mem mem absent)
  refine ⟨h.order, h.nodup, ?_, ?_, ?_, h.free, ?_⟩
  · exact h.answered_congr fun other mem => others other (h.mem_iff.mpr (.inl mem))
  · intro other mem
    rw [others other (h.mem_iff.mpr (.inr (.inr mem))), h.waiting other mem]
  · intro other unlisted
    by_cases eq : other = caller
    · rw [eq, standing_put]
      exact .inr ⟨rfl, rfl⟩
    · rw [standing_put_of_ne crowd _ eq]
      exact h.outside other unlisted
  · intro holder held
    rw [others holder (h.mem_iff.mpr (.inr (.inl held)))]
    exact h.holder holder held

/-- A caller comes to wait. -/
theorem Turn.joined (h : Turn period callers fetched crowd done replies)
    (arrived : crowd.standing caller = .arrived) :
    Turn period (callers ++ [caller]) fetched (crowd.enqueue caller) done replies := by
  have absent : caller ∉ callers := h.not_mem (.inr arrived)
  have others : ∀ other ∈ callers, (crowd.enqueue caller).standing other = crowd.standing other :=
    fun other mem => standing_put_of_ne crowd _ (ne_of_mem_of_not_mem mem absent)
  refine ⟨?_, ?_, ?_, ?_, ?_, h.free, ?_⟩
  · rw [h.order]
    simp only [enqueue, put, List.append_assoc]
  · rw [List.nodup_append]
    refine ⟨h.nodup, List.nodup_cons.mpr ⟨List.not_mem_nil, List.nodup_nil⟩, ?_⟩
    intro other mem last listed
    rw [List.mem_singleton.mp listed]
    exact ne_of_mem_of_not_mem mem absent
  · exact h.answered_congr fun other mem => others other (h.mem_iff.mpr (.inl mem))
  · intro other mem
    rcases List.mem_append.mp mem with mem | mem
    · rw [others other (h.mem_iff.mpr (.inr (.inr mem))), h.waiting other mem]
    · rw [List.mem_singleton.mp mem]
      exact standing_put crowd caller .waiting
  · intro other unlisted
    rw [List.mem_append, not_or, List.mem_singleton] at unlisted
    have same : (crowd.enqueue caller).standing other = crowd.standing other :=
      standing_put_of_ne crowd _ unlisted.2
    rw [same]
    exact h.outside other unlisted.1
  · intro holder held
    rw [others holder (h.mem_iff.mpr (.inr (.inl held)))]
    exact h.holder holder held

/-- The caller that has waited longest gets the permit. -/
theorem Turn.granted (h : Turn period callers fetched crowd done replies) (free : crowd.permit = none)
    {rest : List Nat} (queue : crowd.queue = caller :: rest) :
    Turn period callers fetched (crowd.grant caller) done replies ∧ (crowd.grant caller).queue = rest := by
  have order := h.order
  rw [free, queue, Option.toList_none, List.nil_append] at order
  have nodup := h.nodup
  rw [order, List.nodup_append] at nodup
  obtain ⟨-, nodup, apart⟩ := nodup
  have unqueued : caller ∉ rest := (List.nodup_cons.mp nodup).1
  have left : (crowd.grant caller).queue = rest := by
    change crowd.queue.filter (fun other => other ≠ caller) = rest
    rw [queue, List.filter_cons_of_neg (by simp)]
    exact List.filter_eq_self.mpr fun other mem => by simpa using ne_of_mem_of_not_mem mem unqueued
  have others (other : Nat) (ne : other ≠ caller) :
      (crowd.grant caller).standing other = crowd.standing other := standing_put_of_ne crowd _ ne
  refine ⟨⟨?_, h.nodup, ?_, ?_, ?_, nofun, ?_⟩, left⟩
  · rw [left, order]
    rfl
  · exact h.answered_congr fun other mem => others other (apart other mem caller List.mem_cons_self)
  · intro other mem
    rw [left] at mem
    rw [others other (ne_of_mem_of_not_mem mem unqueued),
      h.waiting other (queue ▸ List.mem_cons_of_mem caller mem)]
  · intro other unlisted
    have ne : other ≠ caller := by
      rintro rfl
      exact unlisted (by rw [order]; exact List.mem_append_right done List.mem_cons_self)
    rw [others other ne]
    exact h.outside other unlisted
  · intro holder held
    obtain rfl : caller = holder := Option.some.inj held
    rw [standing_grant]
    exact h.free free

/-- The caller with the permit hands it back and has its answer. -/
theorem Turn.released (h : Turn period callers fetched crowd done replies)
    {answer : Except FetchError Definition} (returns : crowd.standing caller = .returning answer) :
    Turn period callers fetched (crowd.release caller (.answered answer)) (done ++ [caller])
      (replies ++ [answer]) := by
  have held : crowd.permit = some caller := h.held (by rw [returns]; rfl)
  have order := h.order
  rw [held, Option.toList_some, List.singleton_append] at order
  obtain ⟨undone, unqueued⟩ := h.apart held
  have others (other : Nat) (ne : other ≠ caller) :
      (crowd.release caller (.answered answer)).standing other = crowd.standing other :=
    standing_put_of_ne crowd _ ne
  refine ⟨?_, h.nodup, ?_, ?_, ?_, fun _ => ?_, nofun⟩
  · rw [order, List.append_assoc]
    rfl
  · have kept := h.answered_congr fun other mem => others other (ne_of_mem_of_not_mem mem undone)
    rw [List.map_append, List.map_append, kept, List.map_singleton, List.map_singleton]
    exact congrArg (fun standing => _ ++ [standing]) (standing_put crowd caller (.answered answer))
  · intro other mem
    rw [others other (ne_of_mem_of_not_mem mem unqueued), h.waiting other mem]
  · intro other unlisted
    have ne : other ≠ caller := by
      rintro rfl
      exact unlisted (by rw [order]; exact List.mem_append_right done List.mem_cons_self)
    rw [others other ne]
    exact h.outside other unlisted
  · have turn := h.holder caller held
    rw [returns] at turn
    exact turn

/-- What may not be served is not served later. -/
theorem served_later {entry : Option Entry} {now later : Instant} (forward : now.nanos ≤ later.nanos)
    (stale : Entry.fresh? entry period now = none) : Entry.fresh? entry period later = none := by
  rw [Entry.fresh?_eq_none_iff] at stale ⊢
  intro kept stands
  have late := stale kept stands
  omega

/-- What was stored just now may be served. -/
theorem served_store (period : Span) (crowd : Crowd) (caller : Nat) (definition : Definition) :
    (crowd.store caller definition).served period = some definition :=
  Entry.fresh?_eq_some_iff.mpr ⟨_, rfl, rfl, by
    change crowd.now.nanos ≤ crowd.now.nanos + period.nanos
    omega⟩

/-- A fetch goes on, and the clock with it. -/
theorem Turn.ticked (h : Turn period callers fetched crowd done replies) {time : Instant}
    (forward : crowd.now.nanos ≤ time.nanos) (fetching : crowd.standing caller = .fetching) :
    Turn period callers fetched { crowd with now := time } done replies := by
  have held : crowd.permit = some caller := h.held (by rw [fetching]; rfl)
  have turn := h.holder caller held
  rw [fetching] at turn
  refine h.passed held held rfl (fun _ _ => rfl) (.inl rfl) ?_
  change (crowd.standing caller).HasTurn _ _ _
  rw [fetching]
  exact ⟨served_later forward turn.1, turn.2⟩

/-- The caller with the permit has come further, and what it knows is as good as before. -/
theorem Turn.advanced (h : Turn period callers fetched crowd done replies) {before : Standing}
    (stood : crowd.standing caller = before) (acts : before.holdsPermit = true)
    (turn : before.HasTurn (crowd.served period) fetched replies →
      standing.HasTurn (crowd.served period) fetched replies) :
    Turn period callers fetched (crowd.put caller standing) done replies := by
  have held : crowd.permit = some caller := h.held (by rw [stood, acts])
  refine h.passed held held rfl (fun _ => standing_put_of_ne crowd _) (.inl rfl) ?_
  rw [standing_put]
  exact turn (stood ▸ h.holder caller held)

/-- The caller with the permit looks again and finds something. -/
theorem Turn.found (h : Turn period callers fetched crowd done replies) {definition : Definition}
    (admitted : crowd.standing caller = .admitted) (fresh : crowd.served period = some definition) :
    Turn period callers fetched (crowd.put caller (.returning (.ok definition))) done replies := by
  refine h.advanced admitted rfl ?_
  rw [fresh]
  exact Tally.reply

/-- The caller with the permit looks again and finds nothing. -/
theorem Turn.lacked (h : Turn period callers fetched crowd done replies)
    (admitted : crowd.standing caller = .admitted) (stale : crowd.served period = none) :
    Turn period callers fetched (crowd.put caller .starting) done replies := by
  refine h.advanced admitted rfl ?_
  rw [stale]
  exact fun tally => ⟨rfl, tally⟩

/-- The fetch of the caller with the permit ends, when everyone who came waits. -/
theorem Turn.finished (h : Turn period callers fetched crowd done replies)
    (fetching : crowd.standing caller = .fetching) (quiet : ∀ other, crowd.standing other ≠ .arrived)
    {outcome : Except FetchError Definition}
    (turn : Failed fetched → standing.HasTurn none (fetched ++ [outcome]) fetched) :
    Turn period callers (fetched ++ [outcome]) (crowd.put caller standing) done replies := by
  have held : crowd.permit = some caller := h.held (by rw [fetching]; rfl)
  have knows := h.holder caller held
  rw [fetching] at knows
  obtain ⟨stale, tally⟩ := knows
  obtain ⟨failed, rfl⟩ := tally.failed
  refine h.passed held held rfl (fun _ => standing_put_of_ne crowd _) (.inr quiet) ?_
  rw [standing_put]
  change standing.HasTurn (crowd.served period) _ _
  rw [stale]
  exact turn failed

/-- What was fetched is stored, and it may be served. -/
theorem Turn.stored (h : Turn period callers fetched crowd done replies) {definition : Definition}
    (storing : crowd.standing caller = .storing definition) :
    Turn period callers fetched (crowd.store caller definition) done replies := by
  have held : crowd.permit = some caller := h.held (by rw [storing]; rfl)
  have knows := h.holder caller held
  rw [storing] at knows
  obtain ⟨failed, rfl⟩ := knows
  refine h.passed held held rfl (fun _ => standing_put_of_ne crowd _) (.inl rfl) ?_
  rw [standing_store, served_store]
  exact Tally.shared 0 failed

/-- **A step in turn keeps the turns.** -/
theorem Turn.step (h : Turn period callers fetched crowd done replies)
    (taken : Step period crowd last next) (inTurn : InTurn fetched crowd last) :
    ∃ done replies, Turn period (callers ++ (joinAt? period crowd last).toList)
      (fetched ++ (outcomeAt? crowd last).toList) next done replies := by
  -- Most steps neither bring a caller to wait nor end a fetch, and some end a fetch.
  have aside {next : Crowd} {done : List Nat} {replies : List (Except FetchError Definition)}
      (kept : Turn period callers fetched next done replies) :
      ∃ done replies, Turn period (callers ++ []) (fetched ++ []) next done replies :=
    ⟨done, replies, by rwa [List.append_nil, List.append_nil]⟩
  have ended {next : Crowd} {outcome : Except FetchError Definition}
      (kept : Turn period callers (fetched ++ [outcome]) next done replies) :
      ∃ done replies, Turn period (callers ++ []) (fetched ++ [outcome]) next done replies :=
    ⟨done, replies, by rwa [List.append_nil]⟩
  cases taken with
  | clock time =>
    obtain ⟨forward, caller, fetching⟩ := inTurn
    exact aside (h.ticked forward fetching)
  | call away =>
    obtain rfl : fetched = [] := inTurn
    exact aside (h.called away)
  | lookFresh arrived fresh =>
    -- Nobody finds anything before a fetch has ended, and later nobody looks for the first time.
    rcases h.outside _ (h.not_mem (.inr arrived)) with away | ⟨-, rfl⟩
    · exact absurd (arrived.symm.trans away) nofun
    · exact absurd (fresh.symm.trans h.stale) nofun
  | @lookStale caller arrived stale =>
    have joins : joinAt? period crowd (.look caller) = some caller := by
      simp only [joinAt?, arrived, stale]
    rw [joins]
    exact ⟨done, replies, by simpa [outcomeAt?] using h.joined arrived⟩
  | grant free waiting =>
    obtain ⟨rest, queue⟩ := List.head?_eq_some_iff.mp inTurn
    exact aside (h.granted free queue).1
  | lookAgainFresh admitted fresh => exact aside (h.found admitted fresh)
  | lookAgainStale admitted stale => exact aside (h.lacked admitted stale)
  | fetch starting => exact aside (h.advanced starting rfl id)
  | finishOk fetching =>
    rw [outcomeAt?_finish fetching]
    exact ended (h.finished fetching inTurn fun failed => ⟨failed, rfl⟩)
  | @finishError caller reason fetching =>
    rw [outcomeAt?_finish fetching]
    exact ended (h.finished fetching inTurn fun failed => Tally.failing (failed.concat reason))
  | store storing => exact aside (h.stored storing)
  | release returns => exact aside (h.released returns)
  | leaveArrived | leaveWaiting | leaveAdmitted | leaveFetching => exact inTurn.elim

/-! ### Runs in turn -/

theorem outcomes_concat (period : Span) (start : Crowd) (moves : List Move) (last : Move) :
    outcomes period start (moves ++ [last])
      = outcomes period start moves ++ (outcomeAt? (start.after period moves) last).toList :=
  observed_concat ..

theorem waited_concat (period : Span) (start : Crowd) (moves : List Move) (last : Move) :
    waited period start (moves ++ [last])
      = waited period start moves ++ (joinAt? period (start.after period moves) last).toList :=
  observed_concat ..

/-- A move that changes nothing brings nobody to wait. -/
theorem joinAt?_eq_none_of_stay (stays : crowd.move period last = crowd) :
    joinAt? period crowd last = none := by
  cases last with
  | look caller =>
    cases arrived : crowd.standing caller with
    | arrived =>
      cases stale : Entry.fresh? crowd.entry period crowd.now with
      | some definition => simp only [joinAt?, arrived, stale]
      | none =>
        have waits : (crowd.move period (.look caller)).standing caller = .waiting := by
          simp only [move, arrived, stale]
          exact standing_put crowd caller .waiting
        rw [stays, arrived] at waits
        cases waits
    | _ => simp only [joinAt?, arrived]
  | _ => rfl

/-- A move that changes nothing ends no fetch. -/
theorem outcomeAt?_eq_none_of_stay (stays : crowd.move period last = crowd) :
    outcomeAt? crowd last = none := by
  cases last with
  | finish caller outcome =>
    cases fetching : crowd.standing caller with
    | fetching =>
      have bears : ((crowd.move period (.finish caller outcome)).standing caller).Bears outcome :=
        bears_finish fetching
      rw [stays, fetching] at bears
      exact bears.elim
    | _ => simp only [outcomeAt?, fetching]
  | _ => rfl

theorem outcomes_cons (period : Span) (crowd : Crowd) (step : Move) (rest : List Move) :
    outcomes period crowd (step :: rest)
      = (outcomeAt? crowd step).toList ++ outcomes period (crowd.move period step) rest := rfl

theorem orderly_concat :
    Orderly period fetched crowd (moves ++ [last]) ↔ Orderly period fetched crowd moves ∧
      InTurn (fetched ++ outcomes period crowd moves) (crowd.after period moves) last := by
  induction moves generalizing fetched crowd with
  | nil => simp [Orderly, outcomes, observed, after]
  | cons step rest ih =>
    rw [List.cons_append, Orderly, Orderly, ih, and_assoc, outcomes_cons, List.append_assoc]
    rfl

/-- Nobody has called yet. -/
theorem turn_empty {now : Instant} {entry : Option Entry} (stale : Entry.fresh? entry period now = none) :
    Turn period [] [] (empty now entry) [] [] where
  order := rfl
  nodup := List.nodup_nil
  answered := rfl
  waiting := nofun
  outside _ _ := .inl rfl
  free _ := by
    rw [show (empty now entry).served period = none from stale]
    exact .failing nofun
  holder := nofun

/-- **Every run in turn keeps the turns.** -/
theorem turn_after {now : Instant} {entry : Option Entry} (stale : Entry.fresh? entry period now = none)
    (orderly : Orderly period [] (empty now entry) moves) :
    ∃ done replies, Turn period (waited period (empty now entry) moves)
      (outcomes period (empty now entry) moves) ((empty now entry).after period moves) done replies := by
  refine run_induction
    (fun moves crowd => Orderly period [] (empty now entry) moves → ∃ done replies,
      Turn period (waited period (empty now entry) moves) (outcomes period (empty now entry) moves) crowd
        done replies)
    (fun _ => ⟨[], [], turn_empty stale⟩) ?_ ?_ moves orderly
  · intro moves last next ih taken orderly
    obtain ⟨before, inTurn⟩ := orderly_concat.mp orderly
    obtain ⟨done, replies, turn⟩ := ih before
    rw [waited_concat, outcomes_concat]
    exact turn.step taken inTurn
  · intro moves last stays ih orderly
    rw [waited_concat, outcomes_concat, joinAt?_eq_none_of_stay stays, outcomeAt?_eq_none_of_stay stays]
    simpa using ih (orderly_concat.mp orderly).1

/-- Those who stand as answered have the answers. -/
theorem answers_of_standings (told : done.map crowd.standing = replies.map .answered) :
    done.map crowd.answer? = replies.map some := by
  induction done generalizing replies with
  | nil =>
    obtain rfl := List.map_eq_nil_iff.mp told.symm
    rfl
  | cons caller done ih =>
    obtain ⟨reply, replies, rfl, answered, rest⟩ := List.map_eq_cons_iff.mp told.symm
    rw [List.map_cons, List.map_cons, ih rest.symm, answer?, ← answered]

/-- When nobody waits any more and the permit is free, everyone who waited has an answer. -/
theorem Turn.over (h : Turn period callers fetched crowd done replies) (free : crowd.permit = none)
    (queue : crowd.queue = []) : callers.map crowd.answer? = replies.map some := by
  have all : callers = done := by
    rw [h.order, free, queue]
    exact List.append_nil done
  rw [all]
  exact answers_of_standings h.answered

/-- When everyone who waited has an answer, the permit is free and nobody waits. -/
theorem Turn.idle (h : Turn period callers fetched crowd done replies)
    (complete : ∀ caller ∈ callers, ∃ answer, crowd.answer? caller = some answer) :
    crowd.permit = none ∧ crowd.queue = [] := by
  have answered {caller : Nat} (mem : caller ∈ callers) :
      ∃ answer, crowd.standing caller = .answered answer := by
    obtain ⟨answer, answered⟩ := complete caller mem
    exact ⟨answer, standing_of_answer? answered⟩
  constructor
  · cases permit : crowd.permit with
    | none => rfl
    | some caller =>
      obtain ⟨answer, answered⟩ := answered (h.mem_iff.mpr (.inr (.inl permit)))
      exact (answered ▸ h.holder caller permit : Standing.HasTurn _ _ _ (.answered answer)).elim
  · refine List.eq_nil_iff_forall_not_mem.mpr fun caller mem => ?_
    obtain ⟨answer, answered⟩ := answered (h.mem_iff.mpr (.inr (.inr mem)))
    exact absurd ((h.waiting caller mem).symm.trans answered) nofun

/-- **Callers of a run in turn share fetches**, if all who waited have their answers. -/
theorem shares_after {now : Instant} {entry : Option Entry} {outcome : Nat → Except FetchError Definition}
    (stale : Entry.fresh? entry period now = none) (orderly : Orderly period [] (empty now entry) moves)
    (scripted : outcomes period (empty now entry) moves
      = (List.range (outcomes period (empty now entry) moves).length).map outcome)
    (complete : ∀ caller ∈ waited period (empty now entry) moves,
      ∃ answer, ((empty now entry).after period moves).answer? caller = some answer) :
    ∃ replies, (waited period (empty now entry) moves).map ((empty now entry).after period moves).answer?
        = replies.map some ∧
      Shares outcome (waited period (empty now entry) moves).length replies
        (fetchJournals (outcomes period (empty now entry) moves)) := by
  obtain ⟨done, replies, turn⟩ := turn_after stale orderly
  obtain ⟨free, queue⟩ := turn.idle complete
  have answers := turn.over free queue
  refine ⟨replies, answers, ?_⟩
  have length : (waited period (empty now entry) moves).length = replies.length := by
    simpa using congrArg List.length answers
  rw [length]
  exact (turn.free free).shares scripted

end Crowd

end OrderHerald
