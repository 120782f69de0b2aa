import OrderHerald.Proofs.Delivery.Accounting
import OrderHerald.Proofs.Http.Asking

/-!
# A notification as letters

A delivery writes that it begins and then the requests that leave for it: at most the one to the webhook,
and behind it those by which the client follows redirects.  So the journal of a notification falls into
letters, one for each webhook, however the list is shuffled, and each of them can be told by itself: to
whom it goes, when it is sent, which requests leave and what becomes of it.

**When a request can be made.**  The text of a webhook's url must be a url of the web, and each of its
headers one that can be sent.  Neither the payload nor the moment has a part in this.

* `Endpoint.IsAskable`, `Endpoint.IsUnaskable` — a request to the webhook can be made, or cannot.
* `Endpoint.requestAt` — that request.
* `Letter` — one delivery: the webhook, the moment, what became of the request, and where it led on.
* `Letter.Posted` — it was posted in surroundings, whose answers are those that became of it.
* `Journal.letters` — the deliveries of a journal, each with the requests right behind its beginning.
* `Journal.Holds` — a journal holds letters, whatever is written behind it.
* `IsMail` — the letters of a notification.

## Main statements

* `Endpoint.request?_eq_some_iff` — which request is made to a webhook, and when.
* `exists_mail` — every notification is a list of letters.
* `accounts_dispatch` — its account is the account of their fates.
-/

namespace OrderHerald

variable {ω : Type}

/-! ### The request to a webhook -/

namespace Endpoint

variable {endpoint : Endpoint} {payload : Payload} {sentAt : UInt64}

/-- The headers of a webhook, as its own map has them. -/
def ownHeaders (endpoint : Endpoint) : List (String × String) :=
  endpoint.headers.elim [] fun headers => headers.entries

theorem headerList_eq_ownHeaders (endpoint : Endpoint) :
    endpoint.headerList = endpoint.ownHeaders := by
  unfold headerList ownHeaders
  cases endpoint.headers <;> rfl

/-- **The request to a webhook at a url**: who asks is said if the url says so, then what the body is, and
then come the webhook's own headers, each of them once. -/
def requestAt (endpoint : Endpoint) (url : Url) (payload : Payload) (sentAt : UInt64) : Request where
  method := "POST"
  url := url.target
  headers := url.signature
    ++ ("content-type", "application/json") :: endpoint.ownHeaders.map Header.asSent
  body := Notification.body ⟨payload, sentAt⟩

variable [DomainNames]

/-- **A request to the webhook can be made**: its text of a url is a url of the web, and each of its
headers can be sent. -/
structure IsAskable (endpoint : Endpoint) (url : Url) : Prop where
  parsed : Url.parse endpoint.url = .ok url
  web : url.scheme.name = "http" ∨ url.scheme.name = "https"
  headers : ∀ header ∈ endpoint.ownHeaders, Header.IsSendable header

/-- **Which request is made to a webhook**, and when one is made. -/
theorem request?_eq_some_iff {request : Request} :
    endpoint.request? payload sentAt = some request
      ↔ ∃ url, endpoint.IsAskable url ∧ request = endpoint.requestAt url payload sentAt := by
  unfold request?
  rw [Request.make?_eq_some_iff, headerList_eq_ownHeaders]
  constructor
  · rintro ⟨url, parsed, web, sendable, rfl⟩
    refine ⟨url, ⟨parsed, web, (List.forall_mem_cons.mp sendable).2⟩, ?_⟩
    rw [List.map_cons, jsonContent, Header.asSent_content]
    rfl
  · rintro ⟨url, ⟨parsed, web, sendable⟩, rfl⟩
    have all := List.forall_mem_cons.mpr ⟨Header.isSendable_content, sendable⟩
    refine ⟨url, parsed, web, all, ?_⟩
    rw [List.map_cons, jsonContent, Header.asSent_content]
    rfl

/-- **No request to the webhook can be made**, for one of three reasons. -/
inductive IsUnaskable (endpoint : Endpoint) : Prop where
  | unparsed {error : UrlError} (h : Url.parse endpoint.url = .error error)
  | elsewhere {url : Url} (h : Url.parse endpoint.url = .ok url)
      (scheme : url.scheme.name ≠ "http" ∧ url.scheme.name ≠ "https")
  | header {header : String × String} (mem : header ∈ endpoint.ownHeaders)
      (h : ¬ Header.IsSendable header)

theorem isUnaskable_iff : endpoint.IsUnaskable ↔ ∀ url, ¬ endpoint.IsAskable url := by
  constructor
  · rintro (h | ⟨h, scheme⟩ | ⟨mem, h⟩) url askable
    · cases h.symm.trans askable.parsed
    · cases h.symm.trans askable.parsed
      exact askable.web.elim scheme.1 scheme.2
    · exact h (askable.headers _ mem)
  · intro unaskable
    cases parsed : Url.parse endpoint.url with
    | error error => exact .unparsed parsed
    | ok url =>
      by_cases web : url.scheme.name = "http" ∨ url.scheme.name = "https"
      · have unsendable : ¬ ∀ header ∈ endpoint.ownHeaders, Header.IsSendable header :=
          fun headers => unaskable url ⟨parsed, web, headers⟩
        obtain ⟨header, unsendable⟩ := Classical.not_forall.mp unsendable
        obtain ⟨mem, h⟩ := Classical.not_imp.mp unsendable
        exact .header mem h
      · exact .elsewhere parsed (not_or.mp web)

/-- No request is made exactly to a webhook that cannot be asked. -/
theorem request?_eq_none_iff :
    endpoint.request? payload sentAt = none ↔ endpoint.IsUnaskable := by
  rw [Option.eq_none_iff_forall_ne_some, isUnaskable_iff]
  constructor
  · intro unmade url askable
    exact unmade _ (request?_eq_some_iff.mpr ⟨url, askable, rfl⟩)
  · intro unaskable request made
    obtain ⟨url, askable, -⟩ := request?_eq_some_iff.mp made
    exact unaskable url askable

instance (endpoint : Endpoint) : Decidable endpoint.IsUnaskable :=
  decidable_of_iff (endpoint.request? default 0 = none) request?_eq_none_iff

end Endpoint

/-- A url of another scheme is none to ask. -/
example : (⟨"ftp://hook.test", none⟩ : Endpoint).IsUnaskable := by decide

/-! ### Letters -/

/-- **One delivery**: the webhook, the moment of sending, what became of the request, if one could be
made, and the requests by which the client followed redirects. -/
structure Letter where
  endpoint : Endpoint
  sentAt : UInt64
  exchange : Option Exchange
  onward : List Request

namespace Letter

/-- What became of the delivery. -/
def fate (letter : Letter) : Fate := ⟨letter.endpoint, letter.exchange⟩

variable [DomainNames]

/-- **The requests that left**: the one to the webhook, and behind it those by which redirects were
followed; or none. -/
def requests (payload : Payload) (letter : Letter) : List Request :=
  match letter.endpoint.request? payload letter.sentAt, letter.exchange with
  | some request, some exchange => if exchange = .unreachable then [] else request :: letter.onward
  | _, _ => []

/-- What is written about the requests that left. -/
def events (payload : Payload) (letter : Letter) : Journal :=
  match letter.requests payload with
  | [] => []
  | request :: onward => .requested request :: onward.map .followed

/-- The delivery, with the requests that left. -/
def entry (payload : Payload) (letter : Letter) : (Endpoint × Payload) × List Request :=
  ((letter.endpoint, payload), letter.requests payload)

/-- **The letter was posted** in surroundings: what became of its request is what they said to it, when
all redirects had been followed. -/
inductive Posted (s : Surroundings ω) (limit : Span) (payload : Payload) (letter : Letter) : Prop where
  | asked {url : Url} {world later : ω} {exchange : Exchange}
      (askable : letter.endpoint.IsAskable url)
      (h : let first := s.exchange (letter.endpoint.requestAt url payload letter.sentAt)
              (some limit) world
        s.Follows (some limit) 10 first.1 first.2 letter.onward exchange later)
      (came : letter.exchange = some exchange)
  | unaskable (h : letter.endpoint.IsUnaskable) (silent : letter.exchange = none)
      (still : letter.onward = [])

end Letter

namespace Journal

/-- The requests at the front of a journal. -/
def front : Journal → List Request
  | .requested request :: rest => request :: front rest
  | .followed request :: rest => request :: front rest
  | _ => []

/-- **The deliveries of a journal**, each with the requests that leave right behind its beginning. -/
def letters : Journal → List ((Endpoint × Payload) × List Request)
  | [] => []
  | .attempted endpoint payload :: rest => ((endpoint, payload), front rest) :: letters rest
  | _ :: rest => letters rest

/-- Every delivery is among them. -/
theorem attempts_eq_letters (journal : Journal) :
    journal.attempts = journal.letters.map Prod.fst := by
  induction journal with
  | nil => rfl
  | cons event rest ih =>
    cases event with
    | attempted endpoint payload => exact congrArg ((endpoint, payload) :: ·) ih
    | _ => exact ih

/-- Where no delivery begins there are no letters. -/
theorem letters_append {before : Journal} (silent : before.attempts = []) (rest : Journal) :
    letters (before ++ rest) = letters rest := by
  induction before with
  | nil => rfl
  | cons event before ih =>
    cases event with
    | attempted endpoint payload => cases silent
    | _ => exact ih silent

variable [DomainNames]

/-- The requests of a letter are at the front of what is written about it. -/
theorem front_events (payload : Payload) (letter : Letter) (rest : Journal) :
    front (letter.events payload ++ rest) = letter.requests payload ++ front rest := by
  have followed : ∀ onward : List Request,
      front (onward.map .followed ++ rest) = onward ++ front rest := by
    intro onward
    induction onward with
    | nil => rfl
    | cons request onward ih => exact congrArg (request :: ·) ih
  unfold Letter.events
  cases letter.requests payload with
  | nil => rfl
  | cons request onward => exact congrArg (request :: ·) (followed onward)

theorem requests_events (payload : Payload) (letter : Letter) :
    requests (letter.events payload) = letter.requests payload := by
  have followed : ∀ onward : List Request, requests (onward.map .followed) = onward := by
    intro onward
    induction onward with
    | nil => rfl
    | cons request onward ih => exact congrArg (request :: ·) ih
  unfold Letter.events
  cases letter.requests payload with
  | nil => rfl
  | cons request onward => exact congrArg (request :: ·) (followed onward)

/-- No delivery begins in what is written about a letter. -/
theorem attempts_events (payload : Payload) (letter : Letter) :
    attempts (letter.events payload) = [] := by
  refine attempts_eq_nil fun event mem => ?_
  unfold Letter.events at mem
  split at mem
  · cases mem
  · rcases List.mem_cons.mp mem with rfl | mem
    · rfl
    · obtain ⟨request, -, rfl⟩ := List.mem_map.mp mem
      rfl

/-- **The journal holds letters**: they are its deliveries, and the requests that leave right behind the
beginning of each are those of the letter.  Whatever is written behind the journal, it adds nothing to
them. -/
def Holds (journal : Journal) (payload : Payload) (mail : List Letter) : Prop :=
  ∀ rest, letters (journal ++ rest) = mail.map (Letter.entry payload) ++ letters rest

namespace Holds

variable {journal quiet : Journal} {payload : Payload} {mail : List Letter}

theorem letters (h : journal.Holds payload mail) :
    journal.letters = mail.map (Letter.entry payload) := by
  have all := h []
  rwa [List.append_nil, Journal.letters, List.append_nil] at all

/-- The deliveries go where the letters go. -/
theorem attempts (h : journal.Holds payload mail) :
    journal.attempts = mail.map fun letter => (letter.endpoint, payload) := by
  rw [attempts_eq_letters, h.letters, List.map_map]
  rfl

/-- Where no delivery begins, there may be anything before. -/
theorem quiet_append (h : journal.Holds payload mail) (still : quiet.attempts = []) :
    (quiet ++ journal).Holds payload mail := by
  intro rest
  rw [List.append_assoc, letters_append still]
  exact h rest

/-- And anything behind. -/
theorem append_quiet (h : journal.Holds payload mail) (still : quiet.attempts = []) :
    (journal ++ quiet).Holds payload mail := by
  intro rest
  rw [List.append_assoc, h, letters_append still]

end Holds

end Journal

/-! ### Posting -/

section Notification

variable [DomainNames] (s : Surroundings ω) (limit : Span) (payload : Payload)

/-- **Posting writes one letter**, whose fate it is. -/
theorem exists_letter_post (endpoint : Endpoint) (world : ω) :
    ∃ letter : Letter, letter.endpoint = endpoint ∧ letter.Posted s limit payload ∧
      (converse s limit payload endpoint world).value = letter.fate ∧
      (post s limit payload endpoint world).journal = letter.events payload := by
  let sentAt := (Run.of s.stamp world).value
  let later := (Run.of s.stamp world).world
  cases made : endpoint.request? payload sentAt with
  | none =>
    refine ⟨⟨endpoint, sentAt, none, []⟩, rfl,
      .unaskable (Endpoint.request?_eq_none_iff.mp made) rfl rfl, ?_, ?_⟩
    · rw [converse, Run.value_bind, made]
      rfl
    · rw [post, Run.journal_bind, made, Letter.events, Letter.requests, made]
      rfl
  | some request =>
    obtain ⟨url, askable, rfl⟩ := Endpoint.request?_eq_some_iff.mp made
    obtain ⟨onward, follows, journal⟩ :=
      s.exists_follows_ask (endpoint.requestAt url payload sentAt) (some limit) later
    refine ⟨⟨endpoint, sentAt, some _, onward⟩, rfl, .asked askable follows rfl, ?_, ?_⟩
    · rw [converse, Run.value_bind, made]
      rfl
    · rw [post, Run.journal_bind, made, Letter.events, Letter.requests, made]
      show [] ++ ((s.ask _ (some limit) later).journal ++ []) = _
      rw [List.nil_append, List.append_nil, journal]
      dsimp only
      split <;> rfl

/-- **The letters of a list of webhooks** are those of each of them.  Numbers do not matter. -/
theorem exists_letters_from (endpoints : List Endpoint) (start : Nat) (world : ω) :
    let journal := (Run.forEach (endpoints.zipIdx start) (fun entry => do
      let error ← deliver s limit payload entry.1
      pure (⟨entry.2, error⟩ : Settlement)) world).journal
    ∃ letters : List Letter, letters.map Letter.endpoint = endpoints ∧
      (∀ letter ∈ letters, letter.Posted s limit payload) ∧
      (Run.forEach endpoints (converse s limit payload) world).value = letters.map Letter.fate ∧
      journal.requests = letters.flatMap (Letter.requests payload) ∧
      ∀ rest : Journal, rest.front = [] → Journal.front (journal ++ rest) = [] ∧
        Journal.letters (journal ++ rest) = letters.map (Letter.entry payload) ++ rest.letters := by
  induction endpoints generalizing start world with
  | nil => exact ⟨[], rfl, nofun, rfl, rfl, fun rest bare => ⟨bare, rfl⟩⟩
  | cons endpoint others ih =>
    obtain ⟨letter, rfl, posted, fate, journal⟩ := exists_letter_post s limit payload endpoint world
    obtain ⟨letters, rfl, allPosted, fates, requests, journals⟩ :=
      ih (start + 1) (converse s limit payload letter.endpoint world).world
    have first : (deliver s limit payload letter.endpoint >>= fun error =>
        (pure ⟨start, error⟩ : Run ω Settlement)) world
        = ⟨⟨start, (deliver s limit payload letter.endpoint world).value⟩,
            .attempted letter.endpoint payload :: letter.events payload,
            (converse s limit payload letter.endpoint world).world⟩ := by
      rw [← world_deliver, ← journal, ← journal_deliver]
      show (⟨_, _ ++ [], _⟩ : Outcome ω Settlement) = _
      rw [List.append_nil]
      rfl
    refine ⟨letter :: letters, rfl, List.forall_mem_cons.mpr ⟨posted, allPosted⟩, ?_, ?_, ?_⟩
    · rw [Run.value_forEach_cons, fate, fates, List.map_cons]
    · rw [List.zipIdx_cons, Run.journal_forEach_cons, first]
      dsimp only
      rw [Journal.requests_append, requests, List.flatMap_cons]
      exact congrArg (· ++ _) (Journal.requests_events payload letter)
    · intro rest bare
      obtain ⟨front, later⟩ := journals rest bare
      rw [List.zipIdx_cons, Run.journal_forEach_cons, first]
      dsimp only
      rw [List.cons_append, List.cons_append, List.append_assoc]
      refine ⟨rfl, ?_⟩
      rw [Journal.letters, Journal.front_events, front, List.append_nil,
        Journal.letters_append (Journal.attempts_events payload letter), later]
      rfl

omit [DomainNames] in
/-- What settling writes begins with a measure. -/
theorem front_settleAll (fanout : Fanout) {settlements : List Settlement} (some : settlements ≠ [])
    (world : ω) (rest : Journal) :
    Journal.front ((settleAll payload fanout settlements world).journal ++ rest) = [] := by
  cases settlements with
  | nil => exact absurd rfl some
  | cons settlement others => rfl

/-- **The mail of a notification**: a letter to each webhook of the list, and nothing else. -/
structure IsMail (endpoints : List Endpoint) (world : ω) (letters : List Letter) : Prop where
  addressed : (letters.map Letter.endpoint).Perm endpoints
  posted : ∀ letter ∈ letters, letter.Posted s limit payload
  /-- Behind the beginning of each delivery its own requests leave. -/
  sent : (dispatch s limit endpoints payload world).journal.Holds payload letters
  /-- No other requests leave. -/
  requests : (dispatch s limit endpoints payload world).journal.requests
    = letters.flatMap (Letter.requests payload)
  fates : (fates s limit payload endpoints world).value = letters.map Letter.fate

/-- **Every notification is mail.** -/
theorem exists_mail (endpoints : List Endpoint) (world : ω) :
    ∃ letters, IsMail s limit payload endpoints world letters := by
  let shuffled := (s.arrange endpoints world).value
  let worldThen := (s.arrange endpoints world).world
  obtain ⟨letters, names, posted, fates, requests, journal⟩ :=
    exists_letters_from s limit payload shuffled 0 worldThen
  let sent := deliverAll s limit payload shuffled worldThen
  let settled := s.arrange sent.value sent.world
  let after := settleAll payload (Fanout.start (tasks shuffled)) settled.value settled.world
  have silent : ∀ event ∈ after.journal, event.attempt? = none ∧ event.request? = none :=
    fun event mem => (writes_settleAll payload _ _ _ event mem).2.2
  have written : (dispatch s limit endpoints payload world).journal
      = sent.journal ++ after.journal := rfl
  refine ⟨letters, names ▸ s.perm_arrange endpoints world, posted, fun rest => ?_, ?_, fates⟩
  · rw [written, List.append_assoc]
    have quiet : Journal.letters (after.journal ++ rest) = rest.letters :=
      Journal.letters_append (Journal.attempts_eq_nil fun event mem => (silent event mem).1) rest
    by_cases none : settled.value = []
    · have nobody : shuffled = [] := by
        apply List.eq_nil_of_length_eq_zero
        rw [← length_deliverAll s limit payload shuffled worldThen,
          ← (s.perm_arrange sent.value sent.world).length_eq, none, List.length_nil]
      have unsent : ∀ list, list = [] → (deliverAll s limit payload list worldThen).journal = [] := by
        rintro _ rfl
        rfl
      obtain rfl := List.map_eq_nil_iff.mp (names.trans nobody)
      rw [unsent shuffled nobody, List.nil_append, quiet]
      rfl
    · have bare : Journal.front (after.journal ++ rest) = [] := front_settleAll payload _ none _ rest
      rw [← quiet]
      exact (journal _ bare).2
  · have nothing : after.journal.requests = [] :=
      List.filterMap_eq_nil_iff.mpr fun event mem => (silent event mem).2
    rw [written, Journal.requests_append, nothing, List.append_nil]
    exact requests

/-- **The account of a notification is the account of its fates.** -/
theorem accounts_dispatch (endpoints : List Endpoint) (world : ω) :
    Accounts payload (fates s limit payload endpoints world).value
      (dispatch s limit endpoints payload world).value
      (dispatch s limit endpoints payload world).journal := by
  obtain ⟨course, before, worldLast, same, silent, value, journal⟩ :=
    dispatch_course s limit payload endpoints world
  obtain ⟨attempted, succeeded, failedUrls, attempts, successes, failures⟩ :=
    same ▸ value ▸ course.accounts payload worldLast
  -- Nothing is measured before the tasks settle, so the counters are those of the course.
  have counts : ∀ metric labels,
      counted metric labels (dispatch s limit endpoints payload world).journal.samples
        = counted metric labels (course.report payload worldLast).journal.samples := by
    intro metric labels
    have none : counted metric labels before.samples = 0 :=
      Journal.counted_samples_eq_zero fun event mem => by simp [silent event mem]
    rw [journal, Journal.samples_append, counted_append, none, Nat.zero_add]
  exact ⟨attempted, succeeded, failedUrls, fun labels => (counts _ _).trans (attempts labels),
    fun labels => (counts _ _).trans (successes labels),
    fun labels => (counts _ _).trans (failures labels)⟩

end Notification

end OrderHerald
