import OrderHerald.Routing.Match
import OrderHerald.Run

/-!
# Who knows the webhooks

Questions about webhooks are put to a provider.  It may answer from a routing definition that it
holds, or fail.  What it writes on the way is its own: it puts no questions, notifies nobody and
measures nothing that notifying measures.

* `Definition.answer` — the webhooks that a routing definition gives to a question.
* `Provider` — who answers questions; `Provider.ask` puts one to it.
* `Provider.fixed`, `Provider.failing` — always the same routing definition, always the same error.
-/

namespace OrderHerald

/-- **The webhooks that a routing definition gives to a question.** -/
def Definition.answer (definition : Definition) : Question → List Endpoint
  | .order filter => definition.matching filter
  | .filler name => definition.exclusiveFiller name

/-- Who answers questions about webhooks, in a world of its own. -/
structure Provider (π : Type) where
  answer : Question → Run π (Except FetchError (List Endpoint))
  writes_answer : ∀ question, (answer question).Writes Event.IsForeign

namespace Provider

variable {π : Type}

/-- **Puts a question to a provider.**  The question and the answer are in the journal, and between
them what the provider does to find the answer. -/
def ask (provider : Provider π) (question : Question) :
    Run π (Except FetchError (List Endpoint)) := do
  Run.record (.asked question)
  let answer ← provider.answer question
  Run.record (.answered answer)
  pure answer

/-- Answers from a routing definition that never changes. -/
def fixed (definition : Definition) : Provider π :=
  ⟨fun question => pure (.ok (definition.answer question)), fun _ => Run.writes_pure _⟩

/-- Answers no question. -/
def failing (error : FetchError) : Provider π :=
  ⟨fun _ => pure (.error error), fun _ => Run.writes_pure _⟩

end Provider

end OrderHerald
