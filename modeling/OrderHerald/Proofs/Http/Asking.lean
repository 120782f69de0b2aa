import OrderHerald.Surroundings

/-!
# Asking other services

A request is made of the text of a url, of headers and of a body.  It can be made if the text is a url of
the web and each of the headers can be sent; it goes to the url without what is nobody else's business, the
user in it and the fragment, and the user is told by a header.

**Redirects.**  What becomes of a request may be that the client goes on to another one.  `Follows` says
which requests leave in this way and what comes of the last of them; how the client makes them of the
answers is not known here.  Two things may be known: that no answer sends it on (`IsDirect`), and that it
takes no header along but those that it was given, and one that says where it comes from (`CarriesOn`).

* `Header.IsSendable`, `Header.asSent` — which headers can be sent, and how.
* `Url.target`, `Url.signature` — where a request to a url goes, and who it says is asking.
* `Surroundings.Follows` — what comes of following redirects.
* `Surroundings.still`, `Surroundings.answering` — surroundings in which nothing happens.

## Main statements

* `Request.make?_eq_some_iff` — which request is made, and when.
* `Surroundings.exists_follows_ask` — what asking is.
* `Surroundings.Follows.headers` — the headers of a request by which redirects are followed.
-/

namespace OrderHerald

variable {ω : Type}

/-! ### Headers -/

namespace Header

/-- **The header can be sent**: its name is a token, and its value has no control characters but tabs. -/
structure IsSendable (header : String × String) : Prop where
  named : header.1 ≠ ""
  short : header.1.length ≤ 65535
  token : ∀ c ∈ header.1.toList, c.isAlphanum = true ∨ c ∈ "!#$%&'*+-.^_\x60|~".toList
  plain : ∀ c ∈ header.2.toList, c = '\t' ∨ ' ' ≤ c ∧ c ≠ '\x7f'

/-- The header as it is sent. -/
def asSent (header : String × String) : Header := (header.1.map Char.toLower, header.2)

theorem isSendable_iff {header : String × String} :
    IsSendable header ↔ isName header.1 = true ∧ isValue header.2 = true := by
  have named : isName header.1 = true ↔ header.1 ≠ "" ∧ header.1.length ≤ 65535 ∧
      ∀ c ∈ header.1.toList, c.isAlphanum = true ∨ c ∈ "!#$%&'*+-.^_\x60|~".toList := by
    simp [isName, isTokenChar, and_assoc, Nat.lt_succ_iff]
  have valued : isValue header.2 = true ↔
      ∀ c ∈ header.2.toList, c = '\t' ∨ ' ' ≤ c ∧ c ≠ '\x7f' := by
    simp [isValue]
  rw [named, valued]
  exact ⟨fun ⟨named, short, token, plain⟩ => ⟨⟨named, short, token⟩, plain⟩,
    fun ⟨⟨named, short, token⟩, plain⟩ => ⟨named, short, token, plain⟩⟩

theorem of?_eq_some_iff {header : String × String} {sent : Header} :
    of? header.1 header.2 = some sent ↔ IsSendable header ∧ sent = asSent header := by
  rw [of?, isSendable_iff, ← Bool.and_eq_true]
  unfold asSent
  split
  · rename_i sendable
    rw [Option.some.injEq, eq_comm, and_iff_right sendable]
  · rename_i unsendable
    simp [unsendable]

/-- **Headers can be sent** if each of them can. -/
theorem mapM_of?_eq_some_iff {headers : List (String × String)} {sent : List Header} :
    headers.mapM (fun header => of? header.1 header.2) = some sent
      ↔ (∀ header ∈ headers, IsSendable header) ∧ sent = headers.map asSent := by
  induction headers generalizing sent with
  | nil => simp [eq_comm]
  | cons header rest ih =>
    rw [List.mapM_cons]
    constructor
    · intro made
      obtain ⟨first, one, made⟩ := Option.bind_eq_some_iff.mp made
      obtain ⟨others, all, made⟩ := Option.bind_eq_some_iff.mp made
      obtain ⟨sendable, rfl⟩ := of?_eq_some_iff.mp one
      obtain ⟨sendables, rfl⟩ := ih.mp all
      exact ⟨List.forall_mem_cons.mpr ⟨sendable, sendables⟩, (Option.some.inj made).symm⟩
    · rintro ⟨sendables, rfl⟩
      obtain ⟨sendable, sendables⟩ := List.forall_mem_cons.mp sendables
      rw [of?_eq_some_iff.mpr ⟨sendable, rfl⟩, ih.mpr ⟨sendables, rfl⟩]
      rfl

theorem isSendable_content : IsSendable ("content-type", "application/json") :=
  isSendable_iff.mpr (by decide +kernel)

/-- What the body is, is said in lower case already. -/
theorem asSent_content :
    asSent ("content-type", "application/json") = ("content-type", "application/json") := by
  have lower : "content-type".map Char.toLower = "content-type" := by
    apply String.toList_injective
    rw [String.toList_map]
    rfl
  show ("content-type".map Char.toLower, "application/json") = _
  rw [lower]

end Header

/-! ### Urls -/

/-- **Who asks**, by the name and the password in front of a host, both with their octets decoded.  A name
that is no text says nothing, and a password that is no text is none. -/
def Authority.asker? (authority : Authority) : Option (String × String) :=
  match Utf8.text? (Percent.decode authority.username.toList),
    Utf8.text? (Percent.decode authority.password.toList) with
  | none, _ => none
  | some "", none => none
  | some "", some "" => none
  | some name, password => some (name, password.getD "")

namespace Url

/-- The url without its fragment: scheme, what stands before the host, host, port, path and query. -/
def shown (url : Url) (before : String) (authority : Authority) : String :=
  url.scheme.name ++ "://" ++ before ++ authority.host.text
    ++ (authority.port.elim "" fun port => ":" ++ toString port)
    ++ url.path.text ++ (url.query.elim "" fun query => "?" ++ query)

/-- **Where a request to a url goes.**  A name and a password that say nothing stay where they are; others
are taken out. -/
def target (url : Url) : String :=
  match url.authority with
  | none => url.textWithoutFragment
  | some authority =>
    if authority.asker? = none ∧ ¬ (authority.username = "" ∧ authority.password = "") then
      let password := if authority.password = "" then "" else ":" ++ authority.password
      url.shown (authority.username ++ password ++ "@") authority
    else url.shown "" authority

/-- **The header that says who asks**, if the url does. -/
def signature (url : Url) : List Header :=
  match url.authority.bind Authority.asker? with
  | none => []
  | some (name, password) =>
    [("authorization",
      "Basic " ++ String.ofList (Base64.encode (name ++ ":" ++ password).toUTF8.toList))]

theorem textWithoutFragment_eq_shown {url : Url} {authority : Authority}
    (known : url.authority = some authority) :
    url.textWithoutFragment = url.shown authority.credentials authority := by
  have place : authority.text = authority.credentials ++ authority.host.text
      ++ authority.port.elim "" fun port => ":" ++ toString port := by
    rw [Authority.text.eq_1]
    cases authority.port <;> rfl
  have query : part "?" url.query = url.query.elim "" fun query => "?" ++ query := by
    cases url.query <;> rfl
  have mark : url.pathMark = "" := by rw [pathMark, known]
  have slashes : "://" = ":" ++ "//" := by decide
  rw [textWithoutFragment, known, mark, query, shown, slashes]
  dsimp only
  rw [place]
  simp only [String.append_assoc, String.empty_append]

/-- In a url in which nobody is named nothing stands before the host. -/
theorem textWithoutFragment_of_unnamed {url : Url} {authority : Authority}
    (known : url.authority = some authority)
    (nobody : authority.username = "" ∧ authority.password = "") :
    url.textWithoutFragment = url.shown "" authority := by
  rw [textWithoutFragment_eq_shown known, Authority.credentials, if_pos nobody]

end Url

namespace Request

theorem login?_eq_asker? (authority : Authority) : login? authority = authority.asker? := by
  unfold login? Authority.asker? decoded?
  cases Utf8.text? (Percent.decode authority.username.toList) with
  | none => rfl
  | some name =>
    cases Utf8.text? (Percent.decode authority.password.toList) with
    | none => grind
    | some password => grind

/-- **The address of a request** is where it goes and who it says is asking. -/
theorem address_eq (url : Url) : address url = (url.target, url.signature) := by
  unfold address Url.target Url.signature
  cases known : url.authority with
  | none => rfl
  | some authority =>
    rw [Option.bind_some]
    dsimp only
    rw [login?_eq_asker?]
    cases authority.asker? with
    | none =>
      by_cases nobody : authority.username = "" ∧ authority.password = ""
      · rw [if_neg (fun named => named.2 nobody), Url.textWithoutFragment_of_unnamed known nobody]
      · have named : authority.credentials
            = authority.username ++ (if authority.password = "" then "" else ":" ++ authority.password)
              ++ "@" := by
          rw [Authority.credentials, if_neg nobody]
          by_cases blank : authority.password = ""
          · simp [blank]
          · simp [blank, String.append_assoc]
        rw [if_pos ⟨rfl, nobody⟩, Url.textWithoutFragment_eq_shown known, named]
    | some login =>
      let bare : Authority := { authority with username := "", password := "" }
      let seen : Url := { url with authority := some bare }
      have shown : seen.textWithoutFragment = seen.shown "" bare :=
        Url.textWithoutFragment_of_unnamed rfl ⟨rfl, rfl⟩
      rw [if_neg nofun]
      exact congrArg (·, _) shown

variable [DomainNames]

/-- **Which request is made**, and when one can be made: the text of the url must be a url of the web, and
each header one that can be sent. -/
theorem make?_eq_some_iff {method text body : String} {headers : List (String × String)}
    {request : Request} :
    make? method text headers body = some request
      ↔ ∃ url, Url.parse text = .ok url ∧ (url.scheme.name = "http" ∨ url.scheme.name = "https") ∧
          (∀ header ∈ headers, Header.IsSendable header) ∧
          request = ⟨method, url.target, url.signature ++ headers.map Header.asSent, body⟩ := by
  unfold make?
  constructor
  · intro made
    split at made
    · cases made
    · rename_i url parsed
      split at made
      · rename_i web
        obtain ⟨sent, each, made⟩ := Option.bind_eq_some_iff.mp made
        obtain ⟨sendable, rfl⟩ := Header.mapM_of?_eq_some_iff.mp each
        rw [address_eq] at made
        exact ⟨url, parsed, by simpa [isAskable] using web, sendable, (Option.some.inj made).symm⟩
      · cases made
  · rintro ⟨url, parsed, web, sendable, rfl⟩
    have sent := Header.mapM_of?_eq_some_iff.mpr ⟨sendable, rfl⟩
    rw [parsed]
    dsimp only
    rw [if_pos (by simpa [isAskable] using web), sent, address_eq]
    rfl

end Request

/-! ### Redirects -/

namespace Exchange

theorem isSent_iff (exchange : Exchange) : exchange.isSent = true ↔ exchange ≠ .unreachable := by
  cases exchange <;> simp [isSent]

theorem onward?_eq_some_iff (exchange : Exchange) {next : Request} :
    exchange.onward? = some next ↔ exchange = .redirected next := by
  cases exchange <;> simp [onward?]

end Exchange

namespace Surroundings

variable {s : Surroundings ω} {limit : Option Span} {hops : Nat} {first last : Exchange}
  {world later : ω} {onward : List Request}

/-- **What comes of following redirects**, so many at most: the requests that leave on the way, what
becomes of the last of them, and the world then. -/
inductive Follows (s : Surroundings ω) (limit : Option Span) :
    Nat → Exchange → ω → List Request → Exchange → ω → Prop where
  /-- The client is not sent on. -/
  | here {hops : Nat} {exchange : Exchange} {world : ω} (direct : exchange.onward? = none) :
      Follows s limit hops exchange world [] exchange world
  /-- It is sent on once too often. -/
  | weary {next : Request} {world : ω} :
      Follows s limit 0 (.redirected next) world [] (.redirected next) world
  /-- It is sent on to where it does not get. -/
  | lost {hops : Nat} {next : Request} {world : ω}
      (h : (s.exchange next limit world).1 = .unreachable) :
      Follows s limit (hops + 1) (.redirected next) world [] .cutOff (s.exchange next limit world).2
  /-- It goes on. -/
  | on {hops : Nat} {next : Request} {world later : ω} {onward : List Request} {last : Exchange}
      (h : (s.exchange next limit world).1 ≠ .unreachable)
      (rest : Follows s limit hops (s.exchange next limit world).1 (s.exchange next limit world).2
        onward last later) :
      Follows s limit (hops + 1) (.redirected next) world (next :: onward) last later

/-- **The client takes no header along** where it is sent on, but those of the request that it comes from
and one that says where that was. -/
def CarriesOn (s : Surroundings ω) : Prop :=
  ∀ request limit world next, (s.exchange request limit world).1 = .redirected next →
    ∀ header ∈ next.headers, header ∈ request.headers ∨ header.1 = "referer"

namespace Follows

/-- Where the client is not sent on, nothing more comes of it. -/
theorem eq_of_direct (h : s.Follows limit hops first world onward last later)
    (direct : first.onward? = none) : onward = [] ∧ last = first ∧ later = world := by
  cases h with
  | here => exact ⟨rfl, rfl, rfl⟩
  | weary => cases direct
  | lost h => cases direct
  | on h rest => cases direct

/-- A request that has left is not one that never left, wherever it is sent on. -/
theorem eq_unreachable_iff (h : s.Follows limit hops first world onward last later) :
    last = .unreachable ↔ first = .unreachable := by
  induction h with
  | here => exact Iff.rfl
  | weary => exact iff_of_false nofun nofun
  | lost h => exact iff_of_false nofun nofun
  | on h rest ih => exact iff_of_false (fun last => h (ih.mp last)) nofun

/-- **The headers of a request by which redirects are followed** are of the request that was made, or say
where it comes from. -/
theorem headers (h : s.Follows limit hops first world onward last later) (carries : s.CarriesOn)
    {request : Request} {before : ω} (asked : first = (s.exchange request limit before).1) :
    ∀ next ∈ onward, ∀ header ∈ next.headers,
      header ∈ request.headers ∨ header.1 = "referer" := by
  induction h generalizing request before with
  | here => exact nofun
  | weary => exact nofun
  | lost h => exact nofun
  | @on hops next world later onward last h rest ih =>
    have own := carries request limit before next asked.symm
    refine List.forall_mem_cons.mpr ⟨own, fun other mem header among => ?_⟩
    rcases ih rfl other mem header among with taken | referer
    · exact own header taken
    · exact .inr referer

end Follows

/-- Where the client is not sent on, it does nothing more. -/
theorem follow_of_direct (s : Surroundings ω) (limit : Option Span) (hops : Nat) {exchange : Exchange}
    (direct : exchange.onward? = none) (world : ω) :
    s.follow limit hops exchange world = ⟨exchange, [], world⟩ := by
  cases exchange with
  | redirected next => cases direct
  | _ => cases hops <;> rfl

/-- Where it is sent on, it goes on and follows from there. -/
theorem follow_redirected (s : Surroundings ω) (limit : Option Span) (hops : Nat) (next : Request)
    (world : ω) :
    s.follow limit (hops + 1) (.redirected next) world
      = let reached := s.goOn limit next world
        let rest := s.follow limit hops reached.value reached.world
        ⟨rest.value, reached.journal ++ rest.journal, rest.world⟩ := rfl

theorem goOn_of_unreachable {next : Request} (h : (s.exchange next limit world).1 = .unreachable) :
    s.goOn limit next world = ⟨.cutOff, [], (s.exchange next limit world).2⟩ := by
  show (if (s.exchange next limit world).1.isSent then _ else _ : Run ω Exchange) _ = _
  rw [h]
  rfl

theorem goOn_of_sent {next : Request} (h : (s.exchange next limit world).1 ≠ .unreachable) :
    s.goOn limit next world
      = ⟨(s.exchange next limit world).1, [.followed next], (s.exchange next limit world).2⟩ := by
  show (if (s.exchange next limit world).1.isSent then _ else _ : Run ω Exchange) _ = _
  rw [if_pos ((s.exchange next limit world).1.isSent_iff.mpr h)]
  rfl

/-- **Following redirects comes to what `Follows` says**, and writes the requests that leave. -/
theorem exists_follows (s : Surroundings ω) (limit : Option Span) (hops : Nat) (exchange : Exchange)
    (world : ω) :
    let outcome := s.follow limit hops exchange world
    ∃ onward, outcome.journal = onward.map .followed ∧
      s.Follows limit hops exchange world onward outcome.value outcome.world := by
  induction hops generalizing exchange world with
  | zero =>
    cases exchange with
    | redirected next => exact ⟨[], rfl, .weary⟩
    | _ => exact ⟨[], rfl, .here rfl⟩
  | succ hops ih =>
    cases redirected : exchange.onward? with
    | none =>
      rw [follow_of_direct s limit (hops + 1) redirected]
      exact ⟨[], rfl, .here redirected⟩
    | some next =>
      obtain rfl := exchange.onward?_eq_some_iff.mp redirected
      rw [follow_redirected]
      by_cases lost : (s.exchange next limit world).1 = .unreachable
      · rw [goOn_of_unreachable lost]
        dsimp only
        rw [follow_of_direct s limit hops rfl]
        exact ⟨[], rfl, .lost lost⟩
      · rw [goOn_of_sent lost]
        obtain ⟨onward, journal, follows⟩ :=
          ih (s.exchange next limit world).1 (s.exchange next limit world).2
        exact ⟨next :: onward, congrArg (_ :: ·) journal, .on lost follows⟩

/-- **What asking is**: the request leaves, unless nothing can, and redirects are followed from there. -/
theorem exists_follows_ask (s : Surroundings ω) (request : Request) (limit : Option Span)
    (world : ω) :
    let first := s.exchange request limit world
    let outcome := s.ask request limit world
    ∃ onward, s.Follows limit 10 first.1 first.2 onward outcome.value outcome.world ∧
      outcome.journal
        = if outcome.value = .unreachable then []
          else .requested request :: onward.map .followed := by
  intro first outcome
  obtain ⟨onward, journal, follows⟩ := s.exists_follows limit redirectLimit first.1 first.2
  have asked : outcome = ⟨(s.follow limit redirectLimit first.1 first.2).value,
      (if first.1.isSent then [.requested request] else []) ++ onward.map .followed,
      (s.follow limit redirectLimit first.1 first.2).world⟩ := by
    rw [← journal]
    show (if first.1.isSent then _ else _ : Run ω Exchange) first.2 = _
    split <;> rfl
  rw [asked]
  refine ⟨onward, follows, ?_⟩
  dsimp only
  by_cases lost : first.1 = .unreachable
  · rw [if_pos (follows.eq_unreachable_iff.mpr lost), lost,
      (follows.eq_of_direct (by rw [lost]; rfl)).1]
    rfl
  · rw [if_neg (mt follows.eq_unreachable_iff.mp lost), if_pos (first.1.isSent_iff.mpr lost)]
    rfl

/-! ### Surroundings at rest -/

/-- Surroundings in which it is always the same moment and nobody answers. -/
def still (moment : Instant) : Surroundings Unit where
  now _ := (moment, ())
  stamp _ := (0, ())
  exchange _ _ _ := (.unreachable, ())
  file _ _ := (none, ())
  order count _ := (List.range count, ())
  order_perm _ _ := .refl _

end Surroundings

end OrderHerald
