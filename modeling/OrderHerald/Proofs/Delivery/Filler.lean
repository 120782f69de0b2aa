import OrderHerald.Proofs.Delivery.Letters
import OrderHerald.Proofs.Order.Agreement
import OrderHerald.Proofs.Routing.Exclusive
import OrderHerald.Proofs.Routing.FirstMet

/-!
# Notifying an exclusive filler, to its end

Nobody waits for the notification of an order's filler, and nothing comes back from it.  What it did can
be told from its journal alone: which question was asked, which deliveries were begun, and what was
measured.

**Four ways out.**  An order without a filler is let go before anybody is asked.  Otherwise one question
is asked and the answer decides: an error is counted, an empty list is nobody to notify, and any other
list is notified, every webhook once.  What is measured on the last way out is known to the last sample,
but for the order in which deliveries settle.

* `fillerSamples` — what is measured when the webhooks of a filler are notified.
* `FollowsUp` — what may follow an answer about a filler.

## Main statements

* `samples_dispatch` — what a notification measures, by the fates of its deliveries.
* `journal_notifyExclusiveFiller` — what is written about an order with a filler.
* `followsUp_afterFiller` — what follows an answer.
* `exclusive_filler_exits` — the ways out, for every provider and for a routing definition that does not
  change.
-/

namespace OrderHerald

variable {π ω : Type}

/-! ### What a notification measures -/

/-- A counter grows by one under labels. -/
def Metric.tick (metric : Metric) (labels : List Label) : Sample := ⟨metric, labels, .increment 1⟩

/-- **What deliveries count**, whose fates these are: every one is an attempt, and a success or a
failure. -/
def deliverySamples (labels : List Label) (met : List Fate) : List Sample :=
  List.replicate met.length (Metric.deliveryAttempt.tick labels)
    ++ List.replicate (met.countP fun fate => fate.Consents) (Metric.deliverySuccess.tick labels)
    ++ List.replicate (Fate.refusals met).length (Metric.deliveryFailure.tick labels)

/-- A delivery counts by its fate. -/
theorem settlementMetrics_error (fate : Fate) :
    settlementMetrics fate.error
      = [.deliveryAttempt, if fate.Consents then .deliverySuccess else .deliveryFailure] := by
  by_cases taken : fate.Consents
  · rw [fate.error_eq_none_iff.mpr taken, if_pos taken]
    rfl
  · obtain ⟨reason, eq⟩ := Option.ne_none_iff_exists'.mp (mt fate.error_eq_none_iff.mp taken)
    rw [eq, if_neg taken]
    rfl

/-- One more delivery counts by its fate, whatever the others count. -/
theorem perm_deliverySamples_cons (labels : List Label) (fate : Fate) (rest : List Fate) :
    ((settlementMetrics fate.error).map (Metric.tick · labels) ++ deliverySamples labels rest).Perm
      (deliverySamples labels (fate :: rest)) := by
  rw [settlementMetrics_error, deliverySamples, deliverySamples, List.length_cons,
    List.replicate_succ]
  by_cases taken : fate.Consents
  · rw [if_pos taken, List.countP_cons_of_pos (by simpa using taken),
      Fate.refusals_cons_of_consents taken, List.replicate_succ]
    simp only [List.map_cons, List.map_nil, List.cons_append, List.nil_append, List.append_assoc]
    exact List.perm_middle.symm.cons _
  · rw [if_neg taken, List.countP_cons_of_neg (by simpa using taken),
      Fate.refusals_cons_of_refused taken, List.length_cons, List.replicate_succ]
    simp only [List.map_cons, List.map_nil, List.cons_append, List.nil_append]
    exact List.perm_middle.symm.cons _

/-- Deliveries count one after the other. -/
theorem perm_deliverySamples (labels : List Label) (met : List Fate) :
    (met.flatMap fun fate => (settlementMetrics fate.error).map (Metric.tick · labels)).Perm
      (deliverySamples labels met) := by
  induction met with
  | nil => exact .refl _
  | cons fate rest ih =>
    rw [List.flatMap_cons]
    exact (ih.append_left _).trans (perm_deliverySamples_cons labels fate rest)

variable [DomainNames]

omit [DomainNames] in
theorem samples_settleAll (payload : Payload) (fanout : Fanout) (settlements : List Settlement)
    (world : ω) :
    (settleAll payload fanout settlements world).journal.samples
      = settlements.flatMap fun settlement =>
          (settlementMetrics settlement.error).map (Metric.tick · payload.tags) := by
  induction settlements generalizing fanout world with
  | nil => rfl
  | cons settlement rest ih =>
    rw [settleAll, Run.journal_bind, Journal.samples_append, samples_recordSettlement, ih,
      List.flatMap_cons]
    rfl

/-- **What a notification measures** is what its deliveries count. -/
theorem samples_dispatch (s : Surroundings ω) (limit : Span) (endpoints : List Endpoint)
    (payload : Payload) (world : ω) :
    (dispatch s limit endpoints payload world).journal.samples.Perm
      (deliverySamples payload.tags (fates s limit payload endpoints world).value) := by
  obtain ⟨course, before, worldLast, same, silent, -, journal⟩ :=
    dispatch_course s limit payload endpoints world
  have unmeasured : before.samples = [] := by
    refine List.filterMap_eq_nil_iff.mpr fun event mem => ?_
    have silent := silent event mem
    cases event with
    | measured sample => cases silent
    | _ => rfl
  rw [journal, Journal.samples_append, unmeasured, List.nil_append, Course.report,
    samples_settleAll, List.flatMap_map]
  refine .trans ?_ (perm_deliverySamples payload.tags _)
  have settled := course.perm_settled.flatMap_right fun fate =>
    (settlementMetrics fate.error).map (Metric.tick · payload.tags)
  rw [List.flatMap_map] at settled
  exact same ▸ settled

/-! ### After an answer -/

/-- **What is measured when the webhooks of a filler are notified**, whose deliveries meet these fates. -/
def fillerSamples (labels : List Label) (met : List Fate) : List Sample :=
  deliverySamples labels met
    ++ [⟨.fillerDuration, labels, .elapsed⟩, ⟨.fillerAttempt, labels, .increment met.length⟩]

/-- **What follows an answer** about the webhooks of a filler, as it is written down: they are told a
payload, and what is measured has labels. -/
inductive FollowsUp (notifier : Notifier π ω) (payload : Payload) (labels : List Label) (world : ω) :
    Except FetchError (List Endpoint) → Journal → Prop
  /-- The webhooks could not be looked up: that is counted, and nothing is sent. -/
  | failed {reason : FetchError} {journal : Journal} (attempts : journal.attempts = [])
      (requests : journal.requests = [])
      (samples : journal.samples = [⟨.fillerError, labels, .increment 1⟩]) :
      FollowsUp notifier payload labels world (.error reason) journal
  /-- There is nobody to notify: nothing is written at all. -/
  | nobody : FollowsUp notifier payload labels world (.ok []) []
  /-- Every webhook is notified once, with the payload, and what leaves are the requests of the letters. -/
  | notified {endpoints : List Endpoint} {letters : List Letter} {journal : Journal}
      (nonempty : endpoints ≠ [])
      (mail : IsMail notifier.surroundings notifier.timeout payload endpoints world letters)
      (attempts : journal.attempts.Perm (endpoints.map fun endpoint => (endpoint, payload)))
      (sent : journal.Holds payload letters)
      (requests : journal.requests = letters.flatMap (Letter.requests payload))
      (samples : journal.samples.Perm (fillerSamples labels (letters.map Letter.fate))) :
      FollowsUp notifier payload labels world (.ok endpoints) journal

/-- The labels of what is measured about an order of a type. -/
def Order.labels (order : Order) (type : OrderType) : List Label :=
  [("chain_id", toString order.chainId.toNat), ("order_type", type.name)]

omit [DomainNames] in
/-- What the webhooks of a filler are told is labelled with the type that was asked for. -/
theorem Order.tags_exclusivePayload (order : Order) (type : OrderType) :
    (order.exclusivePayload type).tags = order.labels type := rfl

/-- What is done after an answer about a filler. -/
def afterFiller (notifier : Notifier π ω) (order : Order) (type : OrderType) (filler : String) :
    Except FetchError (List Endpoint) → Run (π × ω) Unit
  | .error reason => do
    Run.count .fillerError (order.labels type) 1
    Run.note (.fillerFailed order.orderHash filler reason)
  | .ok [] => pure ()
  | .ok endpoints => do
    let report ← notifier.dispatch endpoints (order.exclusivePayload type)
    Run.measure .fillerDuration (order.labels type) .elapsed
    Run.count .fillerAttempt (order.labels type) report.attempted
    Run.note (.fillerNotified order.orderHash filler report)

variable (notifier : Notifier π ω) (order : Order) (type : OrderType)

/-- An order with a filler: ask, and do what the answer says. -/
theorem notifyExclusiveFiller_of_named {filler : String} (named : order.filler = some filler) :
    notifyExclusiveFiller notifier order type
      = notifier.ask (.filler filler) >>= afterFiller notifier order type filler := by
  simp only [notifyExclusiveFiller, named]
  refine bind_congr fun answer => ?_
  cases answer with
  | error reason => rfl
  | ok endpoints => cases endpoints <;> rfl

/-- After an answer the provider is left alone. -/
theorem world_afterFiller (filler : String) (answer : Except FetchError (List Endpoint))
    (world : π × ω) : (afterFiller notifier order type filler answer world).world.1 = world.1 := by
  match answer with
  | .error reason => rfl
  | .ok [] => rfl
  | .ok (endpoint :: rest) => rfl

/-- After an answer nothing is asked. -/
theorem questions_afterFiller (filler : String) (answer : Except FetchError (List Endpoint))
    (world : π × ω) :
    (afterFiller notifier order type filler answer world).journal.questions = [] := by
  match answer with
  | .error reason => rfl
  | .ok [] => rfl
  | .ok (endpoint :: rest) =>
    let payload := order.exclusivePayload type
    let sent := dispatch notifier.surroundings notifier.timeout (endpoint :: rest) payload world.2
    have silent : sent.journal.questions = [] :=
      Journal.questions_eq_nil fun event mem => (writes_dispatch _ _ _ _ _ event mem).2
    show Journal.questions (sent.journal ++ _) = []
    rw [Journal.questions_append, silent]
    rfl

/-- **What follows an answer.** -/
theorem followsUp_afterFiller (filler : String) (answer : Except FetchError (List Endpoint))
    (world : π × ω) :
    FollowsUp notifier (order.exclusivePayload type) (order.labels type) world.2 answer
      (afterFiller notifier order type filler answer world).journal := by
  let payload := order.exclusivePayload type
  match answer with
  | .error reason => exact .failed rfl rfl rfl
  | .ok [] => exact .nobody
  | .ok (endpoint :: rest) =>
    obtain ⟨letters, mail⟩ := exists_mail notifier.surroundings notifier.timeout payload
      (endpoint :: rest) world.2
    let sent := dispatch notifier.surroundings notifier.timeout (endpoint :: rest) payload world.2
    let behind : Journal :=
      [.measured ⟨.fillerDuration, order.labels type, .elapsed⟩,
        .measured ⟨.fillerAttempt, order.labels type, .increment sent.value.attempted⟩,
        .noted (.fillerNotified order.orderHash filler sent.value)]
    have journal : (afterFiller notifier order type filler (.ok (endpoint :: rest)) world).journal
        = sent.journal ++ behind := rfl
    have attempted : sent.value.attempted = (letters.map Letter.fate).length := by
      rw [(accounts_dispatch notifier.surroundings notifier.timeout payload (endpoint :: rest)
        world.2).attempted, mail.fates]
    rw [journal]
    refine .notified (List.cons_ne_nil _ _) mail ?_ (mail.sent.append_quiet rfl) ?_ ?_
    · have attempts := attempts_dispatch notifier.surroundings notifier.timeout (endpoint :: rest)
        payload world.2
      have nothing : Journal.attempts behind = [] := rfl
      rw [Journal.attempts_append, nothing, List.append_nil]
      exact attempts
    · have nothing : Journal.requests behind = [] := rfl
      rw [Journal.requests_append, nothing, List.append_nil]
      exact mail.requests
    · have deliveries := samples_dispatch notifier.surroundings notifier.timeout (endpoint :: rest)
        payload world.2
      rw [mail.fates, order.tags_exclusivePayload type] at deliveries
      rw [Journal.samples_append, fillerSamples, ← attempted]
      exact deliveries.append_right _

/-- **What is written about an order with a filler**: the question, what the provider does about it, the
answer, and what follows. -/
theorem journal_notifyExclusiveFiller {filler : String} (named : order.filler = some filler)
    (world : π × ω) :
    let answered := notifier.provider.answer (.filler filler) world.1
    (notifyExclusiveFiller notifier order type world).journal
      = .asked (.filler filler) :: (answered.journal ++ .answered answered.value ::
          (afterFiller notifier order type filler answered.value (answered.world, world.2)).journal) := by
  intro answered
  rw [notifyExclusiveFiller_of_named notifier order type named, Run.journal_bind]
  show (.asked (.filler filler) :: (answered.journal ++ [.answered answered.value])) ++ _ = _
  rw [List.cons_append, List.append_assoc, List.singleton_append]
  rfl

/-- One question is asked. -/
theorem questions_notifyExclusiveFiller {filler : String} (named : order.filler = some filler)
    (world : π × ω) :
    (notifyExclusiveFiller notifier order type world).journal.questions = [.filler filler] := by
  let answered := notifier.provider.answer (.filler filler) world.1
  let after := (afterFiller notifier order type filler answered.value (answered.world, world.2)).journal
  have quiet : answered.journal.questions = [] := Journal.questions_eq_nil fun event mem =>
    (notifier.provider.writes_answer (.filler filler) world.1 event mem).isAside.question
  have nothing : after.questions = [] := questions_afterFiller _ _ _ _ _ _
  rw [journal_notifyExclusiveFiller notifier order type named]
  show .filler filler :: Journal.questions (answered.journal ++ .answered answered.value :: after) = _
  rw [Journal.questions_append, quiet]
  exact congrArg (.filler filler :: ·) nothing

/-! ### The ways out -/

omit [DomainNames] in
/-- **The webhooks of a filler** are the first of every url among those registered under it. -/
theorem Definition.keepsFirst_exclusiveFiller (definition : Definition) (filler : String) :
    KeepsFirst ((definition.rules.filler.get? filler).getD []) (definition.exclusiveFiller filler) := by
  rw [exclusiveFiller, EndpointSet.endpoints_addAll]
  exact keepsFirst_firstMet _

/-- **The ways out of notifying an exclusive filler.**  For every order, type, provider and surroundings:

* an order without a filler does nothing at all;
* for any other the provider is asked one question, about the order's filler, and then exactly that
  follows which follows its answer: the webhooks are told the order's payload, but of the type that was
  asked for, and what is measured is labelled with the order's chain and that type;
* with a routing definition that does not change the answer is made of the webhooks registered under
  that very name, the first of every url, and each of them is notified once; so a webhook that takes
  every order is told nothing unless its url is registered there. -/
theorem exclusive_filler_exits (notifier : Notifier π ω) (order : Order) (type : OrderType)
    (world : π × ω) :
    let outcome := notifyExclusiveFiller notifier order type world
    let payload : Payload := { order.payload with orderType := some type }
    let labels := [("chain_id", toString order.chainId.toNat), ("order_type", type.name)]
    (order.filler = none → outcome = ⟨(), [], world⟩)
    ∧ ∀ filler, order.filler = some filler →
      let answered := notifier.provider.answer (.filler filler) world.1
      outcome.journal.questions = [.filler filler]
      ∧ outcome.world.1 = answered.world
      ∧ (∃ after, outcome.journal
            = .asked (.filler filler) :: (answered.journal ++ .answered answered.value :: after)
          ∧ (∀ event ∈ answered.journal, event.IsForeign)
          ∧ FollowsUp notifier payload labels world.2 answered.value after)
      ∧ ∀ definition : Definition, notifier.provider = .fixed definition →
        ∃ endpoints, answered.value = .ok endpoints
          ∧ KeepsFirst ((definition.rules.filler.get? filler).getD []) endpoints
          ∧ outcome.journal.attempts.Perm (endpoints.map fun endpoint => (endpoint, payload))
          ∧ ∀ endpoint ∈ definition.catchAll,
              ¬ Table.Registers definition.rules.filler filler endpoint.url →
              ∀ attempt ∈ outcome.journal.attempts, attempt.1.url ≠ endpoint.url := by
  intro outcome payload labels
  refine ⟨fun unnamed => ?_, fun filler named => ?_⟩
  · show notifyExclusiveFiller notifier order type world = _
    simp only [notifyExclusiveFiller, unnamed]
    rfl
  intro answered
  refine ⟨questions_notifyExclusiveFiller notifier order type named world, ?_,
    ⟨_, journal_notifyExclusiveFiller notifier order type named world,
      notifier.provider.writes_answer (.filler filler) world.1,
      followsUp_afterFiller notifier order type filler answered.value (answered.world, world.2)⟩, ?_⟩
  · show (notifyExclusiveFiller notifier order type world).world.1 = _
    rw [notifyExclusiveFiller_of_named notifier order type named, Run.world_bind, world_afterFiller]
    rfl
  · intro definition fixed
    have value : (notifier.provider.answer (.filler filler) world.1).value
        = .ok (definition.exclusiveFiller filler) := by
      rw [fixed]
      rfl
    have attempts : outcome.journal.attempts.Perm ((definition.exclusiveFiller filler).map
        fun endpoint => (endpoint, payload)) := by
      have told := attempts_notifyExclusiveFiller notifier named type world
      rwa [value] at told
    refine ⟨_, value, definition.keepsFirst_exclusiveFiller filler, attempts, ?_⟩
    intro endpoint listed unregistered attempt mem same
    obtain ⟨told, among, rfl⟩ := List.mem_map.mp (attempts.mem_iff.mp mem)
    apply unregistered
    rw [← same, ← Definition.mem_exclusiveFiller_iff]
    exact List.mem_map_of_mem among

end OrderHerald
