import OrderHerald.Proofs.Delivery.Dispatch

/-!
# The account of a notification

A notification goes to many webhooks at once, and the report says how many took it and which did not.
Each delivery has a fate: the webhook, and what became of the request to it.  What is reported and
counted depends on these fates alone, and on each of them for itself.

**Numbers tell tasks apart.**  A task that settles is known by its number, and its url is looked up
among the tasks under way.  As long as these have distinct numbers the look-up finds the url of the
task that settled, also where several tasks go to one url.  `Fanout.Tracks` is what every settlement
preserves; nothing else about the order of settling is used.

* `Fate` — a webhook and what became of the request to it; `Fate.Consents`, `Fate.refusals`.
* `fates` — the fates of the deliveries of a notification, in the surroundings in which it is sent.
* `Course` — the tasks with their numbers and fates, and an order in which they settle.
* `Payload.tags` — the chain and the type, under which deliveries are counted.
* `Accounts` — a report and the counters are right about fates.

## Main statements

* `Fanout.Tracks.settle` — a task that settles is reported under its own url.
* `Course.accounts` — the account is right, whatever the numbers and in whatever order tasks settle.
* `delivery_accounting` — and so it is for every notification.
-/

namespace OrderHerald

variable {ω : Type}

/-! ### Fates -/

/-- **What became of a delivery**: the webhook, and what became of the request to it, if one could be
made. -/
structure Fate where
  endpoint : Endpoint
  exchange : Option Exchange
  deriving DecidableEq, Repr

namespace Fate

/-- Why the delivery failed, if it did. -/
def error (fate : Fate) : Option DeliveryError :=
  match fate.exchange with
  | none => some .request
  | some exchange => exchange.deliveryError

/-- **The webhook took the notification**: it answered with a status from 200 to 202. -/
def Consents (fate : Fate) : Prop :=
  ∃ response, fate.exchange = some (.answered response) ∧
    200 ≤ response.status ∧ response.status ≤ 202

theorem error_eq_none_iff (fate : Fate) : fate.error = none ↔ fate.Consents := by
  unfold error Consents
  cases fate.exchange with
  | none => simp
  | some exchange =>
    cases exchange with
    | answered response => simp [Exchange.deliveryError]
    | _ => simp [Exchange.deliveryError]

instance (fate : Fate) : Decidable fate.Consents :=
  decidable_of_iff _ fate.error_eq_none_iff

/-- The urls of the webhooks that did not take the notification, each once for each delivery. -/
def refusals (fates : List Fate) : List String :=
  (fates.filter fun fate => ¬ fate.Consents).map fun fate => fate.endpoint.url

theorem refusals_append (first second : List Fate) :
    refusals (first ++ second) = refusals first ++ refusals second := by
  rw [refusals, List.filter_append, List.map_append]
  rfl

theorem refusals_cons_of_consents {fate : Fate} (taken : fate.Consents) (rest : List Fate) :
    refusals (fate :: rest) = refusals rest := by
  rw [refusals, List.filter_cons_of_neg (by simpa using taken)]
  rfl

theorem refusals_cons_of_refused {fate : Fate} (refused : ¬ fate.Consents) (rest : List Fate) :
    refusals (fate :: rest) = fate.endpoint.url :: refusals rest := by
  rw [refusals, List.filter_cons_of_pos (by simpa using refused), List.map_cons]
  rfl

theorem perm_refusals {first second : List Fate} (h : first.Perm second) :
    (refusals first).Perm (refusals second) :=
  (h.filter _).map _

/-- A delivery that settles is reported by its fate alone. -/
theorem report_add (fate : Fate) (report : DeliveryReport) :
    report.add fate.endpoint.url fate.error
      = { report with
          succeeded := report.succeeded + [fate].countP fun fate => fate.Consents
          failedUrls := report.failedUrls ++ refusals [fate] } := by
  by_cases taken : fate.Consents
  · rw [fate.error_eq_none_iff.mpr taken]
    simp [DeliveryReport.add, refusals, taken]
  · obtain ⟨reason, eq⟩ := Option.ne_none_iff_exists'.mp (mt fate.error_eq_none_iff.mp taken)
    rw [eq]
    simp [DeliveryReport.add, refusals, taken]

/-- Every delivery was taken, or it was refused. -/
theorem countP_add_length_refusals (fates : List Fate) :
    (fates.countP fun fate => fate.Consents) + (refusals fates).length = fates.length := by
  rw [refusals, List.length_map, ← List.countP_eq_length_filter, eq_comm,
    List.length_eq_countP_add_countP fun fate : Fate => decide fate.Consents]
  simp

/-- The task of a delivery with a number. -/
def task (entry : Fate × Nat) : Task := ⟨entry.2, entry.1.endpoint.url⟩

/-- How a delivery with a number settles. -/
def settlement (entry : Fate × Nat) : Settlement := ⟨entry.2, entry.1.error⟩

end Fate

/-! ### Settling in some order -/

/-- **The report is right so far**: the tasks under way are those that have not settled, and the report
is about those that have. -/
structure Fanout.Tracks (fanout : Fanout) (unsettled settled : List (Fate × Nat)) : Prop where
  pending : fanout.pending.Perm (unsettled.map Fate.task)
  distinct : (unsettled.map Prod.snd).Nodup
  succeeded : fanout.report.succeeded = (settled.map Prod.fst).countP fun fate => fate.Consents
  failedUrls : fanout.report.failedUrls = Fate.refusals (settled.map Prod.fst)

namespace Fanout.Tracks

variable {fanout : Fanout} {entry : Fate × Nat} {unsettled settled : List (Fate × Nat)}

/-- A task that is under way has no number in common with the others. -/
theorem number_ne (h : fanout.Tracks (entry :: unsettled) settled) {other : Fate × Nat}
    (mem : other ∈ unsettled) : other.2 ≠ entry.2 := by
  have distinct := h.distinct
  rw [List.map_cons, List.nodup_cons] at distinct
  exact fun same => distinct.1 (same ▸ List.mem_map_of_mem mem)

/-- **The url that is looked up is the task's own.** -/
theorem url (h : fanout.Tracks (entry :: unsettled) settled) :
    fanout.url entry.2 = entry.1.endpoint.url := by
  have mem : Fate.task entry ∈ fanout.pending := h.pending.mem_iff.mpr List.mem_cons_self
  obtain ⟨task, found⟩ : ∃ task,
      (fanout.pending.find? fun task => task.number = entry.2) = some task := by
    rw [← Option.isSome_iff_exists, List.find?_isSome]
    exact ⟨Fate.task entry, mem, by simp [Fate.task]⟩
  have number : task.number = entry.2 := by simpa using List.find?_some found
  have own : task = Fate.task entry := by
    have among := h.pending.mem_iff.mp (List.mem_of_find?_eq_some found)
    rw [List.map_cons, List.mem_cons] at among
    rcases among with own | among
    · exact own
    · obtain ⟨other, stays, rfl⟩ := List.mem_map.mp among
      exact absurd number (h.number_ne stays)
  rw [Fanout.url, found, own]
  rfl

/-- The tasks that stay under way. -/
theorem pending_settle (h : fanout.Tracks (entry :: unsettled) settled) :
    (fanout.settle (Fate.settlement entry)).pending.Perm (unsettled.map Fate.task) := by
  have others : ∀ task ∈ unsettled.map Fate.task, decide (task.number ≠ entry.2) = true := by
    intro task among
    obtain ⟨other, stays, rfl⟩ := List.mem_map.mp among
    exact decide_eq_true (h.number_ne stays)
  have perm := h.pending.filter fun task => decide (task.number ≠ entry.2)
  rwa [List.map_cons, List.filter_cons_of_neg (by simp [Fate.task]),
    List.filter_eq_self.mpr others] at perm

/-- **A task that settles is reported under its own url**, and the others stay under way. -/
theorem settle (h : fanout.Tracks (entry :: unsettled) settled) :
    (fanout.settle (Fate.settlement entry)).Tracks unsettled (settled ++ [entry]) := by
  have distinct := h.distinct
  rw [List.map_cons, List.nodup_cons] at distinct
  have report : (fanout.settle (Fate.settlement entry)).report
      = fanout.report.add entry.1.endpoint.url entry.1.error := by
    rw [← h.url]
    rfl
  refine ⟨h.pending_settle, distinct.2, ?_, ?_⟩
  · rw [report, Fate.report_add, List.map_append, List.countP_append, ← h.succeeded]
    rfl
  · rw [report, Fate.report_add, List.map_append, Fate.refusals_append, ← h.failedUrls]
    rfl

/-- All tasks that are under way settle, one after the other. -/
theorem settleAll (h : fanout.Tracks unsettled settled) :
    ((unsettled.map Fate.settlement).foldl Fanout.settle fanout).Tracks [] (settled ++ unsettled) := by
  induction unsettled generalizing fanout settled with
  | nil => rwa [List.append_nil]
  | cons entry rest ih =>
    have after := ih h.settle
    rwa [List.append_assoc, List.singleton_append] at after

/-- Two tasks to one url, of which the first to settle fails. -/
example :
    DeliveryReport.ofSettled [⟨7, "https://u"⟩, ⟨3, "https://u"⟩] [⟨3, some .request⟩, ⟨7, none⟩]
      = ⟨2, 1, ["https://u"]⟩ := by decide

end Fanout.Tracks

/-! ### What settling counts -/

/-- **The tags of what is counted about a payload**: its chain, and its type if it has one. -/
def Payload.tags (payload : Payload) : List Label :=
  [("chain_id", toString payload.chainId.toNat),
    ("order_type", (payload.orderType.map OrderType.name).getD "unknown")]

/-- They are the labels under which it is counted. -/
theorem Payload.labels_eq_tags (payload : Payload) : payload.labels = payload.tags := rfl

/-- The counters that grow when a delivery settles. -/
def settlementMetrics (error : Option DeliveryError) : List Metric :=
  [.deliveryAttempt, if error.isNone then .deliverySuccess else .deliveryFailure]

theorem samples_recordSettlement (payload : Payload) (url : String) (error : Option DeliveryError)
    (world : ω) :
    (recordSettlement payload url error world).journal.samples
      = (settlementMetrics error).map fun metric => ⟨metric, payload.tags, .increment 1⟩ := by
  rw [← payload.labels_eq_tags]
  cases error <;> rfl

/-- Counters that grow by one each, under the same labels. -/
theorem counted_increments (metrics : List Metric) (metric : Metric) (labels own : List Label) :
    counted metric labels (metrics.map fun metric => ⟨metric, own, .increment 1⟩)
      = if labels = own then metrics.count metric else 0 := by
  induction metrics with
  | nil => simp [counted_nil]
  | cons head rest ih =>
    rw [List.map_cons, counted, ih, List.count_cons]
    by_cases same : labels = own
    · by_cases eq : head = metric <;> simp [Sample.incrementOf, same, eq, Nat.add_comm]
    · simp [Sample.incrementOf, same, Ne.symm same]

/-- **Settling counts under the payload's tags**, each delivery for itself. -/
theorem counted_settleAll (payload : Payload) (fanout : Fanout) (settlements : List Settlement)
    (world : ω) (metric : Metric) (labels : List Label) :
    counted metric labels (settleAll payload fanout settlements world).journal.samples
      = if labels = payload.tags then
          (settlements.flatMap fun settlement => settlementMetrics settlement.error).count metric
        else 0 := by
  induction settlements generalizing fanout world with
  | nil => simp [settleAll, Journal.samples, counted_nil]
  | cons settlement rest ih =>
    rw [settleAll, Run.journal_bind, Journal.samples_append, counted_append,
      samples_recordSettlement, counted_increments, ih, List.flatMap_cons, List.count_append]
    split <;> rfl

/-- A delivery counts as an attempt, and then as a success or as a failure. -/
theorem count_settlementMetrics (error : Option DeliveryError) :
    (settlementMetrics error).count .deliveryAttempt = 1
    ∧ (settlementMetrics error).count .deliverySuccess = (if error = none then 1 else 0)
    ∧ (settlementMetrics error).count .deliveryFailure = (if error = none then 0 else 1) := by
  cases error with
  | none => decide
  | some error =>
    simp only [settlementMetrics, Option.isNone_some, Bool.false_eq_true, reduceCtorEq, if_false]
    decide

/-- How often each counter of deliveries grows: once for every delivery, once for every one that was
taken, once for every one that was not. -/
theorem count_flatMap_settlementMetrics (fates : List Fate) :
    let metrics := fates.flatMap fun fate => settlementMetrics fate.error
    metrics.count .deliveryAttempt = fates.length
    ∧ metrics.count .deliverySuccess = (fates.countP fun fate => fate.Consents)
    ∧ metrics.count .deliveryFailure = (Fate.refusals fates).length := by
  induction fates with
  | nil => decide
  | cons fate rest ih =>
    obtain ⟨attempts, successes, failures⟩ := ih
    obtain ⟨attempt, success, failure⟩ := count_settlementMetrics fate.error
    simp only [List.flatMap_cons, List.count_append, attempt, success, failure, attempts, successes,
      failures, fate.error_eq_none_iff, List.length_cons, List.countP_cons, Fate.refusals,
      List.length_map, List.filter_cons]
    by_cases taken : fate.Consents <;> simp [taken, Nat.add_comm]

/-! ### The account -/

/-- **A report and the counters are right about fates.** -/
structure Accounts (payload : Payload) (fates : List Fate) (report : DeliveryReport)
    (journal : Journal) : Prop where
  attempted : report.attempted = fates.length
  succeeded : report.succeeded = fates.countP fun fate => fate.Consents
  failedUrls : report.failedUrls.Perm (Fate.refusals fates)
  attempts : ∀ labels, counted .deliveryAttempt labels journal.samples
    = if labels = payload.tags then report.attempted else 0
  successes : ∀ labels, counted .deliverySuccess labels journal.samples
    = if labels = payload.tags then report.succeeded else 0
  failures : ∀ labels, counted .deliveryFailure labels journal.samples
    = if labels = payload.tags then report.failedUrls.length else 0

/-- **A course that deliveries may take**: the tasks in the order in which they begin, each with its
own number, and the order in which they settle. -/
structure Course where
  begun : List (Fate × Nat)
  settled : List (Fate × Nat)
  distinct : (begun.map Prod.snd).Nodup
  settles : settled.Perm begun

namespace Course

/-- What becomes of the deliveries. -/
def fates (course : Course) : List Fate := course.begun.map Prod.fst

/-- The tasks settle in the order of the course, and it is reported. -/
def report (course : Course) (payload : Payload) : Run ω DeliveryReport :=
  settleAll payload (Fanout.start (course.begun.map Fate.task))
    (course.settled.map Fate.settlement)

theorem tracks (course : Course) :
    (Fanout.start (course.begun.map Fate.task)).Tracks course.settled [] :=
  ⟨(course.settles.map _).symm, (course.settles.map _).nodup_iff.mpr course.distinct, rfl, rfl⟩

/-- The fates in the order in which the tasks settle. -/
theorem perm_settled (course : Course) : (course.settled.map Prod.fst).Perm course.fates :=
  course.settles.map _

/-- What the course comes to, told in the order in which the tasks settle. -/
theorem value_report (course : Course) (payload : Payload) (world : ω) :
    (course.report payload world).value
      = ⟨course.fates.length, (course.settled.map Prod.fst).countP fun fate => fate.Consents,
          Fate.refusals (course.settled.map Prod.fst)⟩ := by
  have attempted := DeliveryReport.attempted_ofSettled (course.begun.map Fate.task)
    (course.settled.map Fate.settlement)
  have tracked := course.tracks.settleAll
  rw [report, value_settleAll]
  rw [DeliveryReport.ofSettled] at attempted
  generalize (course.settled.map Fate.settlement).foldl Fanout.settle
    (Fanout.start (course.begun.map Fate.task)) = last at attempted tracked ⊢
  obtain ⟨pending, tally, succeeded, failedUrls⟩ := last
  obtain ⟨-, -, succeeded, failedUrls⟩ := tracked
  simp only [List.length_map, List.nil_append] at attempted succeeded failedUrls
  rw [attempted, succeeded, failedUrls, fates, List.length_map]

/-- What the course counts. -/
theorem counted_report (course : Course) (payload : Payload) (world : ω) (metric : Metric)
    (labels : List Label) :
    counted metric labels (course.report payload world).journal.samples
      = if labels = payload.tags then
          ((course.settled.map Prod.fst).flatMap fun fate => settlementMetrics fate.error).count metric
        else 0 := by
  rw [report, counted_settleAll, List.flatMap_map, List.flatMap_map]
  rfl

/-- **The account is right**, whatever the numbers and in whatever order the tasks settle. -/
theorem accounts (course : Course) (payload : Payload) (world : ω) :
    Accounts payload course.fates (course.report payload world).value
      (course.report payload world).journal := by
  obtain ⟨attempts, successes, failures⟩ :=
    count_flatMap_settlementMetrics (course.settled.map Prod.fst)
  constructor
  · rw [value_report]
  · rw [value_report]
    exact course.perm_settled.countP_eq _
  · rw [value_report]
    exact Fate.perm_refusals course.perm_settled
  · intro labels
    rw [counted_report, attempts, value_report, course.perm_settled.length_eq]
  · intro labels
    rw [counted_report, successes, value_report]
  · intro labels
    rw [counted_report, failures, value_report]

/-- **Order and numbers do not matter**: courses of the same fates report and count the same. -/
theorem report_congr {first second : Course} (h : first.fates.Perm second.fates) (payload : Payload)
    (world elsewhere : ω) :
    let here := first.report payload world
    let there := second.report payload elsewhere
    here.value.attempted = there.value.attempted
    ∧ here.value.succeeded = there.value.succeeded
    ∧ here.value.failedUrls.Perm there.value.failedUrls
    ∧ ∀ metric labels, counted metric labels here.journal.samples
        = counted metric labels there.journal.samples := by
  have perm : (first.settled.map Prod.fst).Perm (second.settled.map Prod.fst) :=
    first.perm_settled.trans (h.trans second.perm_settled.symm)
  simp only [value_report, counted_report]
  refine ⟨h.length_eq, perm.countP_eq _, Fate.perm_refusals perm, fun metric labels => ?_⟩
  rw [(perm.flatMap_right fun fate => settlementMetrics fate.error).count_eq]

end Course

/-! ### A notification and its course -/

variable [DomainNames]

/-- Sends one webhook its request, if it can be made, and tells what became of it. -/
def converse (s : Surroundings ω) (limit : Span) (payload : Payload) (endpoint : Endpoint) :
    Run ω Fate := do
  let sentAt ← Run.of s.stamp
  match endpoint.request? payload sentAt with
  | none => pure ⟨endpoint, none⟩
  | some request => do
    let exchange ← s.ask request (some limit)
    pure ⟨endpoint, some exchange⟩

/-- **The fates of the deliveries of a notification**, in the order in which they begin. -/
def fates (s : Surroundings ω) (limit : Span) (payload : Payload) (endpoints : List Endpoint) :
    Run ω (List Fate) := do
  let shuffled ← s.arrange endpoints
  Run.forEach shuffled (converse s limit payload)

section Notification

variable (s : Surroundings ω) (limit : Span) (payload : Payload)

/-- Posting comes to the error of the fate. -/
theorem post_eq_map (endpoint : Endpoint) :
    post s limit payload endpoint = Fate.error <$> converse s limit payload endpoint := by
  rw [post, converse, map_bind]
  refine bind_congr fun sentAt => ?_
  cases endpoint.request? payload sentAt with
  | none => rw [map_pure]; rfl
  | some request => simp only [map_bind, map_pure]; rfl

theorem endpoint_converse (endpoint : Endpoint) (world : ω) :
    (converse s limit payload endpoint world).value.endpoint = endpoint := by
  rw [converse, Run.value_bind]
  cases endpoint.request? payload (Run.of s.stamp world).value with
  | none => rfl
  | some request => rfl

theorem value_deliver (endpoint : Endpoint) (world : ω) :
    (deliver s limit payload endpoint world).value
      = (converse s limit payload endpoint world).value.error := by
  rw [deliver, post_eq_map]
  rfl

theorem world_deliver (endpoint : Endpoint) (world : ω) :
    (deliver s limit payload endpoint world).world
      = (converse s limit payload endpoint world).world := by
  rw [deliver, post_eq_map]
  rfl

theorem endpoints_forEach_converse (endpoints : List Endpoint) (world : ω) :
    (Run.forEach endpoints (converse s limit payload) world).value.map Fate.endpoint
      = endpoints := by
  induction endpoints generalizing world with
  | nil => rfl
  | cons endpoint rest ih =>
    rw [Run.forEach, Run.value_bind, Run.value_bind, Run.value_pure, List.map_cons, ih,
      endpoint_converse]

/-- The deliveries settle as their fates say, if they are numbered from `start` on. -/
theorem value_deliverAll_from (endpoints : List Endpoint) (start : Nat) (world : ω) :
    (Run.forEach (endpoints.zipIdx start) (fun entry => do
        let error ← deliver s limit payload entry.1
        pure (⟨entry.2, error⟩ : Settlement)) world).value
      = ((Run.forEach endpoints (converse s limit payload) world).value.zipIdx start).map
          Fate.settlement := by
  induction endpoints generalizing start world with
  | nil => rfl
  | cons endpoint rest ih =>
    rw [List.zipIdx_cons, Run.value_forEach_cons, Run.value_forEach_cons, List.zipIdx_cons,
      List.map_cons, ih, Run.value_bind, Run.world_bind, value_deliver, world_deliver]
    rfl

theorem value_deliverAll (endpoints : List Endpoint) (world : ω) :
    (deliverAll s limit payload endpoints world).value
      = (Run.forEach endpoints (converse s limit payload) world).value.zipIdx.map
          Fate.settlement :=
  value_deliverAll_from s limit payload endpoints 0 world

/-- Tasks are numbered in the order in which they begin. -/
theorem tasks_eq (endpoints : List Endpoint) (world : ω) :
    tasks endpoints
      = (Run.forEach endpoints (converse s limit payload) world).value.zipIdx.map Fate.task := by
  have names := endpoints_forEach_converse s limit payload endpoints world
  calc tasks endpoints
      = tasks ((Run.forEach endpoints (converse s limit payload) world).value.map Fate.endpoint) := by
        rw [names]
    _ = _ := by
        rw [tasks, List.zipIdx_map, List.map_map]
        rfl

omit [DomainNames] in
/-- Arranging looks at how many items there are, and at nothing else. -/
theorem value_arrange_map {α β : Type} (f : α → β) (items : List α) (world : ω) :
    (s.arrange (items.map f) world).value = (s.arrange items world).value.map f := by
  rw [Surroundings.arrange, Surroundings.arrange, Run.value_bind, Run.value_bind, Run.value_pure,
    Run.value_pure, List.length_map, itemsAt, itemsAt, List.map_filterMap]
  congr 1
  funext place
  rw [List.getElem?_map]

/-- **A notification takes a course** of the fates that its surroundings decide, and nothing is measured
before the tasks settle. -/
theorem dispatch_course (endpoints : List Endpoint) (world : ω) :
    ∃ (course : Course) (before : Journal) (worldLast : ω),
      course.fates = (fates s limit payload endpoints world).value
      ∧ (∀ event ∈ before, event.metric? = none)
      ∧ (dispatch s limit endpoints payload world).value = (course.report payload worldLast).value
      ∧ (dispatch s limit endpoints payload world).journal
        = before ++ (course.report payload worldLast).journal := by
  let shuffled := (s.arrange endpoints world).value
  let worldThen := (s.arrange endpoints world).world
  let sent := deliverAll s limit payload shuffled worldThen
  let begun := (Run.forEach shuffled (converse s limit payload) worldThen).value
  have distinct : (begun.zipIdx.map Prod.snd).Nodup := by
    rw [List.zipIdx_map_snd]
    exact List.nodup_range'
  let course : Course :=
    ⟨begun.zipIdx, (s.arrange begun.zipIdx sent.world).value, distinct, s.perm_arrange _ _⟩
  have settles : settleAll payload (Fanout.start (tasks shuffled))
      (s.arrange sent.value sent.world).value = (course.report payload : Run ω DeliveryReport) := by
    rw [value_deliverAll, value_arrange_map, tasks_eq s limit payload shuffled worldThen]
    rfl
  let worldLast := (s.arrange sent.value sent.world).world
  have outcome := congrArg (fun run : Run ω DeliveryReport => run worldLast) settles
  have value := congrArg Outcome.value outcome
  have journal := congrArg (fun outcome => sent.journal ++ outcome.journal) outcome
  refine ⟨course, sent.journal, worldLast, List.zipIdx_map_fst _ _, fun event mem => ?_, value,
    journal⟩
  exact (writes_deliverAll s limit payload shuffled worldThen event mem).1

end Notification

/-- **The account of a notification.**  For every list of webhooks and every payload, in whatever order
the list is shuffled and the deliveries settle, and whatever becomes of each request:

* every webhook of the list meets one fate;
* the report counts all of them as attempted and those as succeeded that answered with a status from
  200 to 202, and it names the urls of all the others, once for each delivery;
* the counters of attempts, successes and failures grow by just as much, all under the tags of the
  payload, which are its chain and its type;
* any course of the same fates, with any distinct numbers and any order of settling, reports and counts
  the same;
* if one delivery meets another fate, no other delivery is reported differently. -/
theorem delivery_accounting (s : Surroundings ω) (limit : Span) (endpoints : List Endpoint)
    (payload : Payload) (world elsewhere : ω) :
    let met := (fates s limit payload endpoints world).value
    let outcome := dispatch s limit endpoints payload world
    (met.map Fate.endpoint).Perm endpoints
    ∧ outcome.value.attempted = endpoints.length
    ∧ Accounts payload met outcome.value outcome.journal
    ∧ outcome.value.succeeded + outcome.value.failedUrls.length = outcome.value.attempted
    ∧ (∀ course : Course, course.fates.Perm met →
        let again := course.report payload elsewhere
        again.value.attempted = outcome.value.attempted
        ∧ again.value.succeeded = outcome.value.succeeded
        ∧ again.value.failedUrls.Perm outcome.value.failedUrls
        ∧ ∀ metric labels, counted metric labels again.journal.samples
            = counted metric labels outcome.journal.samples)
    ∧ (∀ (course : Course) (one other : Fate) (rest : List Fate),
        met.Perm (one :: rest) → course.fates.Perm (other :: rest) →
        outcome.value.failedUrls.Perm (Fate.refusals [one] ++ Fate.refusals rest)
        ∧ (course.report payload elsewhere).value.failedUrls.Perm
            (Fate.refusals [other] ++ Fate.refusals rest)) := by
  intro met outcome
  obtain ⟨own, before, worldLast, same, silent, value, journal⟩ :=
    dispatch_course s limit payload endpoints world
  have named : (met.map Fate.endpoint).Perm endpoints := by
    have names := endpoints_forEach_converse s limit payload (s.arrange endpoints world).value
      (s.arrange endpoints world).world
    exact names ▸ s.perm_arrange endpoints world
  -- Nothing is measured before the tasks settle, so the counters are those of the course.
  have counts : ∀ metric labels, counted metric labels outcome.journal.samples
      = counted metric labels (own.report payload worldLast).journal.samples := by
    intro metric labels
    have none : counted metric labels before.samples = 0 :=
      Journal.counted_samples_eq_zero fun event mem => by simp [silent event mem]
    rw [journal, Journal.samples_append, counted_append, none, Nat.zero_add]
  have account : Accounts payload met outcome.value outcome.journal := by
    obtain ⟨attempted, succeeded, failedUrls, attempts, successes, failures⟩ :=
      same ▸ value ▸ own.accounts payload worldLast
    exact ⟨attempted, succeeded, failedUrls, fun labels => (counts _ _).trans (attempts labels),
      fun labels => (counts _ _).trans (successes labels),
      fun labels => (counts _ _).trans (failures labels)⟩
  refine ⟨named, ?_, account, ?_, ?_, ?_⟩
  · rw [account.attempted, ← named.length_eq, List.length_map]
  · rw [account.succeeded, account.failedUrls.length_eq, account.attempted,
      Fate.countP_add_length_refusals]
  · intro course perm
    have together : course.fates.Perm own.fates := same ▸ perm
    obtain ⟨attempted, succeeded, failedUrls, counters⟩ :=
      Course.report_congr together payload elsewhere worldLast
    rw [← value] at attempted succeeded failedUrls
    exact ⟨attempted, succeeded, failedUrls,
      fun metric labels => (counters metric labels).trans (counts metric labels).symm⟩
  · intro course one other rest meet meetOther
    refine ⟨account.failedUrls.trans ?_, (course.accounts payload elsewhere).failedUrls.trans ?_⟩
    · rw [← Fate.refusals_append]
      exact Fate.perm_refusals meet
    · rw [← Fate.refusals_append]
      exact Fate.perm_refusals meetOther

end OrderHerald
