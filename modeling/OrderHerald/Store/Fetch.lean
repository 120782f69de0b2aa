import OrderHerald.Routing.Format
import OrderHerald.Store.Source
import OrderHerald.Surroundings

/-!
# Fetching the routing definition

A file is read, an object is asked for.  What comes back has to be a routing definition.

* `Source.fetch` — the routing definition of a source.
-/

namespace OrderHerald

/-- The routing definition that bytes spell. -/
def definitionOfBytes (bytes : List UInt8) : Except FetchError Definition :=
  match Definition.ofBytes? bytes with
  | some definition => .ok definition
  | none => .error .decode

/-- The routing definition in an answer; only a status from 200 to 299 is a success. -/
def definitionOfExchange (url : Url) : Exchange → Except FetchError Definition
  | .answered response =>
    if 200 ≤ response.status ∧ response.status ≤ 299 then definitionOfBytes response.body
    else .error (.status response.status url.text)
  | _ => .error .request

variable [DomainNames]

/-- **Fetches the routing definition of a source.** -/
def Source.fetch {ω : Type} (s : Surroundings ω) :
    Source → Run ω (Except FetchError Definition)
  | .file path => do
    match ← Run.of (s.file path) with
    | none => pure (.error .io)
    | some bytes => pure (definitionOfBytes bytes)
  | .object url =>
    match Request.make? "GET" url.text [] "" with
    | none => pure (.error .request)
    | some request => do
      let exchange ← s.ask request none
      pure (definitionOfExchange url exchange)

/-- Fetching writes requests and nothing else. -/
theorem Source.writes_requests {ω : Type} (s : Surroundings ω) (source : Source) :
    (source.fetch s).Writes fun event =>
      ∃ request, event = .requested request ∨ event = .followed request := by
  cases source with
  | file path =>
    rw [Source.fetch]
    refine (Run.writes_of _).bind fun bytes => ?_
    split <;> exact Run.writes_pure _
  | object url =>
    rw [Source.fetch]
    split
    · exact Run.writes_pure _
    · rename_i request made
      refine ((s.writes_ask _ _).mono ?_).bind fun exchange => Run.writes_pure _
      rintro event (asked | ⟨onward, followed⟩)
      · exact ⟨request, .inl asked⟩
      · exact ⟨onward, .inr followed⟩

theorem Source.writes_fetch {ω : Type} (s : Surroundings ω) (source : Source) :
    (source.fetch s).Writes Event.IsForeign := by
  refine (source.writes_requests s).mono ?_
  rintro event ⟨request, rfl | rfl⟩ <;> exact trivial

end OrderHerald
