import OrderHerald.Proofs.Cache.Refinement
import OrderHerald.Proofs.Cache.Sharing

/-!
# One caller at a time

Getting the definition is a function of the world, and a walk of one caller through a crowd.  Where nobody
else is under way the two are one: with the clock set to what the origin shows whenever it is read, the
caller ends with the answer of the function, its fetch comes to what the function writes down, and the entry
is the one that the function leaves.  So calls one after the other are one of the orders in which the steps
of callers may come, and what holds of a crowd in every order holds of them.

* `Origin.Shows` — a moment that the clock of an origin shows somewhere.
* `Crowd.Leads` — some steps lead from one crowd to another, by the clock of an origin.
* `Crowd.Solo` — a caller that is alone, and how far it is.
* `Cache.Use.GotBy` — what one gets from a use, told from how far the caller is that stands for it.

## Main statements

* `Crowd.Solo.gets` — a caller that is alone does what `Cache.definition` does.
* `Crowd.exists_run_of_used` — any uses of a new cache are a run of a crowd.
-/

namespace OrderHerald

/-- **The clock of the origin shows a moment**, in some state of the outside. -/
def Origin.Shows {σ : Type} (origin : Origin σ) (time : Instant) : Prop :=
  ∃ outside, (origin.now outside).1 = time

namespace Crowd

variable {σ : Type} {period : Span} {origin : Origin σ} {crowd next last : Crowd}
  {others : Nat → Standing} {entry : Option Entry} {permit : Option Nat} {caller : Nat}
  {standing : Standing} {definition : Definition} {reason : FetchError}
  {fetched later : List (Except FetchError Definition)}

/-! ### Steps lead on -/

/-- **Some steps lead from the one crowd to the other**: the clock is set to nothing but what the origin
shows, and the fetches that end on the way come to `fetched`. -/
def Leads (period : Span) (origin : Origin σ) (crowd next : Crowd)
    (fetched : List (Except FetchError Definition)) : Prop :=
  ∃ moves, crowd.after period moves = next ∧ outcomes period crowd moves = fetched ∧
    ∀ time, .clock time ∈ moves → origin.Shows time

theorem Leads.refl (period : Span) (origin : Origin σ) (crowd : Crowd) :
    Leads period origin crowd crowd [] :=
  ⟨[], rfl, rfl, nofun⟩

theorem Leads.trans (first : Leads period origin crowd next fetched)
    (second : Leads period origin next last later) :
    Leads period origin crowd last (fetched ++ later) := by
  obtain ⟨moves, rfl, rfl, shown⟩ := first
  obtain ⟨more, rfl, rfl, shownLater⟩ := second
  refine ⟨moves ++ more, after_append .., observed_append .., fun time mem => ?_⟩
  exact (List.mem_append.mp mem).elim (shown time) (shownLater time)

/-- The clock is set to what the origin shows. -/
theorem leads_clock (crowd : Crowd) (outside : σ) :
    Leads period origin crowd { crowd with now := (origin.now outside).1 } [] := by
  refine ⟨[.clock (origin.now outside).1], rfl, rfl, fun time mem => ?_⟩
  obtain rfl := Move.clock.inj (List.mem_singleton.mp mem)
  exact ⟨outside, rfl⟩

/-- Any other step leads on by itself. -/
theorem Step.leads {move : Move} (taken : Step period crowd move next)
    (other : ∀ time, move ≠ .clock time) :
    Leads period origin crowd next (outcomeAt? crowd move).toList := by
  refine ⟨[move], taken.move_eq, List.append_nil _, fun time mem => ?_⟩
  exact absurd (List.mem_singleton.mp mem).symm (other time)

/-! ### The walk of one caller -/

/-- **The caller is alone under way**: the others stay as far as they are. -/
structure Solo (caller : Nat) (others : Nat → Standing) (crowd : Crowd) (entry : Option Entry)
    (permit : Option Nat) (standing : Standing) : Prop where
  entry : crowd.entry = entry
  permit : crowd.permit = permit
  standing : crowd.standing caller = standing
  others : ∀ other, other ≠ caller → crowd.standing other = others other

/-- It is alone wherever it goes. -/
theorem Solo.put (h : Solo caller others crowd entry permit standing) (reached : Standing) :
    Solo caller others (crowd.put caller reached) entry permit reached where
  entry := h.entry
  permit := h.permit
  standing := standing_put crowd caller reached
  others := by
    intro other apart
    rw [standing_put_of_ne crowd reached apart]
    exact h.others other apart

theorem Solo.clock (h : Solo caller others crowd entry permit standing) (time : Instant) :
    Solo caller others { crowd with now := time } entry permit standing :=
  ⟨h.entry, h.permit, h.standing, h.others⟩

variable (period) (origin)

/-- It calls at a moment that the origin shows. -/
theorem Solo.arrives (h : Solo caller others crowd entry none .away) (outside : σ) :
    ∃ next, Leads period origin crowd next [] ∧ next.now = (origin.now outside).1 ∧
      Solo caller others next entry none .arrived := by
  have called : Step period { crowd with now := (origin.now outside).1 } (.call caller) _ :=
    .call h.standing
  exact ⟨_, (leads_clock crowd outside).trans (called.leads nofun), rfl, (h.clock _).put .arrived⟩

/-- It looks and is served. -/
theorem Solo.served (h : Solo caller others crowd entry none .arrived)
    (fresh : Entry.fresh? entry period crowd.now = some definition) :
    ∃ next, Leads period origin crowd next [] ∧
      Solo caller others next entry none (.answered (.ok definition)) := by
  rw [← h.entry] at fresh
  exact ⟨_, (Step.lookFresh h.standing fresh).leads nofun, h.put _⟩

/-- It looks, and is admitted at a later moment. -/
theorem Solo.admitted (h : Solo caller others crowd entry none .arrived)
    (stale : Entry.fresh? entry period crowd.now = none) (outside : σ) :
    ∃ next, Leads period origin crowd next [] ∧ next.now = (origin.now outside).1 ∧
      Solo caller others next entry (some caller) .admitted := by
  rw [← h.entry] at stale
  have waits := h.put .waiting
  have looked : Leads period origin crowd (crowd.enqueue caller) [] :=
    (Step.lookStale h.standing stale).leads nofun
  have granted : Step period { crowd.enqueue caller with now := (origin.now outside).1 }
    (.grant caller) _ := .grant h.permit waits.standing
  have admitted := waits.put .admitted
  exact ⟨_, (looked.trans (leads_clock _ outside)).trans (granted.leads nofun), rfl,
    ⟨admitted.entry, rfl, admitted.standing, admitted.others⟩⟩

/-- It returns with its answer. -/
theorem Solo.returns {answer : Except FetchError Definition}
    (h : Solo caller others crowd entry permit (.returning answer)) :
    ∃ next, Leads period origin crowd next [] ∧
      Solo caller others next entry none (.answered answer) := by
  have back := h.put (.answered answer)
  exact ⟨_, (Step.release h.standing).leads nofun, ⟨back.entry, rfl, back.standing, back.others⟩⟩

/-- It looks again and is served. -/
theorem Solo.servedAgain (h : Solo caller others crowd entry permit .admitted)
    (fresh : Entry.fresh? entry period crowd.now = some definition) :
    ∃ next, Leads period origin crowd next [] ∧
      Solo caller others next entry none (.answered (.ok definition)) := by
  rw [← h.entry] at fresh
  obtain ⟨next, returns, solo⟩ :=
    (h.put (.returning (.ok definition))).returns period origin
  exact ⟨next, ((Step.lookAgainFresh h.standing fresh).leads nofun).trans returns, solo⟩

/-- It looks again and fetches. -/
theorem Solo.fetches (h : Solo caller others crowd entry permit .admitted)
    (stale : Entry.fresh? entry period crowd.now = none) :
    ∃ next, Leads period origin crowd next [] ∧
      Solo caller others next entry permit .fetching := by
  rw [← h.entry] at stale
  have starts := h.put .starting
  have looked : Leads period origin crowd (crowd.put caller .starting) [] :=
    (Step.lookAgainStale h.standing stale).leads nofun
  exact ⟨_, looked.trans ((Step.fetch starts.standing).leads nofun), starts.put .fetching⟩

/-- Its fetch fails. -/
theorem Solo.fails (h : Solo caller others crowd entry permit .fetching) (reason : FetchError) :
    ∃ next, Leads period origin crowd next [.error reason] ∧
      Solo caller others next entry none (.answered (.error reason)) := by
  have ended : Leads period origin crowd (crowd.put caller (.returning (.error reason)))
      (outcomeAt? crowd (.finish caller (.error reason))).toList :=
    (Step.finishError h.standing).leads nofun
  rw [outcomeAt?_finish h.standing] at ended
  obtain ⟨next, returns, solo⟩ :=
    (h.put (.returning (.error reason))).returns period origin
  exact ⟨next, ended.trans returns, solo⟩

/-- Its fetch ends well, and what it came to is stored at a later moment. -/
theorem Solo.renews (h : Solo caller others crowd entry permit .fetching) (definition : Definition)
    (outside : σ) :
    ∃ next, Leads period origin crowd next [.ok definition] ∧
      Solo caller others next (some ⟨definition, (origin.now outside).1⟩) none
        (.answered (.ok definition)) := by
  let clocked := { crowd.put caller (.storing definition) with now := (origin.now outside).1 }
  have finished : Leads period origin crowd (crowd.put caller (.storing definition))
      (outcomeAt? crowd (.finish caller (.ok definition))).toList :=
    (Step.finishOk h.standing).leads nofun
  rw [outcomeAt?_finish h.standing] at finished
  have ended : Solo caller others clocked entry permit (.storing definition) :=
    (h.put (.storing definition)).clock _
  have stored := ended.put (.returning (.ok definition))
  have kept : Solo caller others (clocked.store caller definition)
      (some ⟨definition, (origin.now outside).1⟩) permit (.returning (.ok definition)) :=
    ⟨rfl, stored.permit, stored.standing, stored.others⟩
  obtain ⟨next, returns, solo⟩ := kept.returns period origin
  have walk := (finished.trans (leads_clock _ outside)).trans
    ((Step.store ended.standing).leads nofun)
  exact ⟨next, walk.trans returns, solo⟩

/-- **A caller that is alone does what the function does**: its answer is the value, what it fetches is what
is written down, and the entry is the one that the function leaves. -/
theorem Solo.gets {world : Cached σ} {origin : Origin σ} (h : Solo caller others crowd world.1 none .away)
    (plain : origin.IsPlain) :
    let got := Cache.definition period origin world
    ∃ next, Leads period origin crowd next got.journal.fetches ∧
      Solo caller others next got.world.1 none (.answered got.value) := by
  intro got
  -- The clock is set to what the origin shows at each look, and at the end of the fetch.
  obtain ⟨arrived, called, now, solo⟩ := h.arrives period origin world.2
  have first := Cache.value_look period origin world
  rw [← now] at first
  cases seen : (Cache.look period origin world).value with
  | some found =>
    rw [seen] at first
    obtain ⟨next, served, solo⟩ := solo.served period origin first.symm
    have eq : got = _ := Cache.definition_of_look seen
    rw [eq, Cache.entry_look]
    exact ⟨next, called.trans served, solo⟩
  | none =>
    rw [seen] at first
    generalize shown : (Cache.look period origin world).world = after
    have look : Cache.look period origin world = ⟨none, [], after⟩ := shown ▸ Cache.look_eq seen
    have same : after.1 = world.1 := shown ▸ Cache.entry_look period origin world
    obtain ⟨admitted, waited, now, solo⟩ := solo.admitted period origin first.symm after.2
    have second := Cache.value_look period origin after
    rw [← now, same] at second
    cases again : (Cache.look period origin after).value with
    | some found =>
      rw [again] at second
      obtain ⟨next, served, solo⟩ := solo.servedAgain period origin second.symm
      have eq : got = _ := Cache.definition_of_lookAgain look again
      rw [eq, Cache.entry_look, same]
      exact ⟨next, (called.trans waited).trans served, solo⟩
    | none =>
      rw [again] at second
      obtain ⟨fetching, began, solo⟩ := solo.fetches period origin second.symm
      have begun : Leads period origin crowd fetching [] := (called.trans waited).trans began
      have unchanged := (Cache.entry_look period origin after).trans same
      have eq : got = _ := Cache.definition_of_lacks look again
      rw [eq, Cache.value_refresh, Cache.fetches_refresh plain]
      generalize (Cache.look period origin after).world = there at unchanged ⊢
      cases came : (origin.fetch there.2).value with
      | error reason =>
        obtain ⟨next, failed, solo⟩ := solo.fails period origin reason
        rw [Cache.entry_refresh_of_error came, unchanged]
        exact ⟨next, begun.trans failed, solo⟩
      | ok definition =>
        obtain ⟨next, renewed, solo⟩ := solo.renews period origin definition
          (Cache.fetch origin there.2).world
        rw [Cache.entry_refresh_of_ok came]
        exact ⟨next, begun.trans renewed, solo⟩

end Crowd

/-! ### Calls one after the other -/

/-- **What one gets from a use**, told from how far the caller is that stands for it: that has an answer,
and one gets what the use makes of it.  For a change of the outside nobody stands. -/
def Cache.Use.GotBy {σ : Type} (standing : Standing) : Cache.Use σ → Cache.Use.Result → Prop
  | .warm, result => ∃ answer, standing = .answered answer ∧
      result = .warmed (answer.map fun _ => ())
  | .ask question, result => ∃ answer, standing = .answered answer ∧
      result = .answered (answer.map fun definition => definition.answer question)
  | .change _, result => standing = .away ∧ result = .changed

namespace Crowd

variable {σ : Type} {period : Span} {origin : Origin σ} {crowd : Crowd} {count : Nat}
  {world : Cached σ}

/-- **Nobody is under way**, and all callers from a number on are still away. -/
structure Idle (count : Nat) (crowd : Crowd) (entry : Option Entry) : Prop where
  entry : crowd.entry = entry
  permit : crowd.permit = none
  away : ∀ caller, count ≤ caller → crowd.standing caller = .away

theorem idle_empty (now : Instant) : Idle 0 (empty now none) none :=
  ⟨rfl, rfl, fun _ _ => rfl⟩

variable (period)

/-- The next caller gets the definition. -/
theorem Idle.gets (h : Idle count crowd world.1) (plain : origin.IsPlain) :
    let got := Cache.definition period origin world
    ∃ next, Leads period origin crowd next got.journal.fetches ∧
      Idle (count + 1) next got.world.1 ∧
      next.standing count = .answered got.value ∧
      ∀ caller < count, next.standing caller = crowd.standing caller := by
  intro got
  have alone : Solo count crowd.standing crowd world.1 none .away :=
    ⟨h.entry, h.permit, h.away count (Nat.le_refl count), fun _ _ => rfl⟩
  obtain ⟨next, walk, solo⟩ := alone.gets period plain
  refine ⟨next, walk, ⟨solo.entry, solo.permit, fun caller after => ?_⟩, solo.standing,
    fun caller before => solo.others caller (Nat.ne_of_lt before)⟩
  rw [solo.others caller (Nat.ne_of_gt after)]
  exact h.away caller (Nat.le_of_lt after)

/-- A use is the walk of the next caller, or nothing that a crowd sees. -/
theorem Idle.performs (h : Idle count crowd world.1) (plain : origin.IsPlain) (use : Cache.Use σ) :
    let done := use.perform period origin world
    ∃ next, Leads period origin crowd next done.journal.fetches ∧
      Idle (count + 1) next done.world.1 ∧
      use.GotBy (next.standing count) done.value ∧
      ∀ caller < count, next.standing caller = crowd.standing caller := by
  obtain ⟨next, walk, idle, answered, others⟩ := h.gets period plain
  cases use with
  | warm =>
    have reads := Cache.reads_warm period origin
    have fetches : Journal.fetches ((Cache.warm period origin world).journal ++ [])
        = (Cache.definition period origin world).journal.fetches := by
      rw [List.append_nil, reads.fetches]
    refine ⟨next, fetches ▸ walk, (reads.world world) ▸ idle, ⟨_, answered, ?_⟩, others⟩
    exact congrArg Cache.Use.Result.warmed (reads.value world)
  | ask question =>
    have reads := Cache.reads_answer period origin question
    have fetches : Journal.fetches ((Cache.answer period origin question world).journal ++ [])
        = (Cache.definition period origin world).journal.fetches := by
      rw [List.append_nil, reads.fetches]
    refine ⟨next, fetches ▸ walk, (reads.world world) ▸ idle, ⟨_, answered, ?_⟩, others⟩
    exact congrArg Cache.Use.Result.answered (reads.value world)
  | change become =>
    refine ⟨crowd, .refl period origin crowd, ⟨h.entry, h.permit, fun caller after => ?_⟩,
      ⟨h.away count (Nat.le_refl count), rfl⟩, fun _ _ => rfl⟩
    exact h.away caller (Nat.le_of_succ_le after)

/-- So are uses one after the other. -/
theorem Idle.used (h : Idle count crowd world.1) (plain : origin.IsPlain)
    (uses : List (Cache.Use σ)) :
    let done := Cache.used period origin uses world
    ∃ next, Leads period origin crowd next done.journal.fetches ∧
      Idle (count + uses.length) next done.world.1 ∧
      (∀ (number : Nat) (use : Cache.Use σ), uses[number]? = some use → ∃ result,
        done.value[number]? = some result ∧ use.GotBy (next.standing (count + number)) result) ∧
      ∀ caller < count, next.standing caller = crowd.standing caller := by
  induction uses generalizing count crowd world with
  | nil => exact ⟨crowd, .refl period origin crowd, h, nofun, fun _ _ => rfl⟩
  | cons use rest ih =>
    intro done
    obtain ⟨next, first, idle, got, before⟩ := h.performs period plain use
    obtain ⟨last, second, idle, gots, others⟩ := ih idle
    have journal : done.journal = (use.perform period origin world).journal
        ++ (Cache.used period origin rest (use.perform period origin world).world).journal :=
      Run.journal_forEach_cons ..
    refine ⟨last, ?_, ?_, ?_, fun caller early => ?_⟩
    · rw [journal, Journal.fetches_append]
      exact first.trans second
    · rw [List.length_cons, Nat.add_comm rest.length, ← Nat.add_assoc]
      exact idle
    · intro number other at'
      cases number with
      | zero =>
        obtain rfl := Option.some.inj at'
        refine ⟨_, rfl, ?_⟩
        rw [Nat.add_zero, others count (Nat.lt_succ_self count)]
        exact got
      | succ number =>
        obtain ⟨result, there, got⟩ := gots number other at'
        refine ⟨result, there, ?_⟩
        rw [Nat.add_comm number, ← Nat.add_assoc]
        exact got
    · rw [others caller (Nat.lt_succ_of_lt early)]
      exact before caller early

/-- **Any uses of a new cache are a run of a crowd** in which nobody had called at first.  The run leads to
the entry that the uses leave, with nobody under way; its fetches come to what is written down; the clock is
set to nothing but what the origin shows; and what one gets from each use is made of the answer of the
caller that stands for it. -/
theorem exists_run_of_used (now : Instant) (plain : origin.IsPlain) (outside : σ)
    (uses : List (Cache.Use σ)) :
    let done := Cache.used period origin uses (none, outside)
    ∃ moves, let crowd := (empty now none).after period moves
      crowd.entry = done.world.1 ∧ crowd.permit = none ∧
      outcomes period (empty now none) moves = done.journal.fetches ∧
      (∀ time, .clock time ∈ moves → origin.Shows time) ∧
      ∀ (number : Nat) (use : Cache.Use σ), uses[number]? = some use →
        ∃ result, done.value[number]? = some result ∧ use.GotBy (crowd.standing number) result := by
  intro done
  have idle : Idle 0 (empty now none) ((none, outside) : Cached σ).1 := idle_empty now
  obtain ⟨next, ⟨moves, rfl, fetched, shown⟩, last, gots, -⟩ := idle.used period plain uses
  refine ⟨moves, last.entry, last.permit, fetched, shown, fun number use at' => ?_⟩
  obtain ⟨result, there, got⟩ := gots number use at'
  rw [Nat.zero_add] at got
  exact ⟨result, there, got⟩

end Crowd

end OrderHerald
