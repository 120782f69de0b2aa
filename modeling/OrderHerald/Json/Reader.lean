import OrderHerald.Json.Token

/-!
# Reading JSON

The tree of a token list.  `Json.ofTokens?` takes one value off the front; a text is a document
when its tokens are one value and nothing more.

Every bracket of the text counts, but only 127 of them may stand around each other where somebody
looks: the containers below are defects (`Json.bounded`).

* `Json.read?` — the document a text is.
* `Json.ofString?`, `Json.ofBytes?` — the same from characters and from bytes.
* `Json.plainOfBytes?` — documents of which every part must have a meaning.
-/

namespace OrderHerald

namespace Json

mutual

/-- One value off the front of the tokens.  `fuel` bounds the number of calls below one another;
every call takes a token, so the number of tokens is enough. -/
def takeValue? : Nat → List Token → Option (Json × List Token)
  | 0, _ => none
  | fuel + 1, tokens =>
    match tokens with
    | .null :: rest => some (.null, rest)
    | .bool value :: rest => some (.bool value, rest)
    | .number (some value) :: rest => some (.number value, rest)
    | .number none :: rest => some (.defect, rest)
    | .string (some value) :: rest => some (.string value, rest)
    | .string none :: rest => some (.defect, rest)
    | .openArray :: .closeArray :: rest => some (.array [], rest)
    | .openArray :: rest => (takeItems? fuel rest).map fun (items, rest) => (.array items, rest)
    | .openObject :: .closeObject :: rest => some (.object [], rest)
    | .openObject :: rest =>
      (takeMembers? fuel rest).map fun (members, rest) =>
        (match members with
          | some members => .object members
          | none => .defect, rest)
    | _ => none

/-- One item or more, up to the end of the array. -/
def takeItems? : Nat → List Token → Option (List Json × List Token)
  | 0, _ => none
  | fuel + 1, tokens =>
    match takeValue? fuel tokens with
    | some (item, .comma :: rest) =>
      (takeItems? fuel rest).map fun (items, rest) => (item :: items, rest)
    | some (item, .closeArray :: rest) => some ([item], rest)
    | _ => none

/-- One member or more, up to the end of the object; no members if a key spells no text. -/
def takeMembers? : Nat → List Token → Option (Option Members × List Token)
  | 0, _ => none
  | fuel + 1, tokens =>
    match tokens with
    | .string key :: .colon :: rest =>
      match takeValue? fuel rest with
      | some (value, .comma :: rest) =>
        (takeMembers? fuel rest).map fun (members, rest) =>
          (match key, members with
            | some key, some members => some ((key, value) :: members)
            | _, _ => none, rest)
      | some (value, .closeObject :: rest) => some (key.map fun key => [(key, value)], rest)
      | _ => none
    | _ => none

end

/-- The tree of a token list that is one value. -/
def ofTokens? (tokens : List Token) : Option Json :=
  match takeValue? tokens.length tokens with
  | some (value, []) => some value
  | _ => none

/-- How many containers may stand around each other. -/
def nestingLimit : Nat := 127

/-- **The document a text is**, if it is one. -/
def read? (text : List Symbol) : Option Json :=
  ((Token.scan? text).bind ofTokens?).map (bounded nestingLimit)

/-- The document a string holds. -/
def ofString? (text : String) : Option Json :=
  read? (symbols text)

/-- The document a byte sequence holds. -/
def ofBytes? (bytes : List UInt8) : Option Json :=
  read? (Utf8.decode bytes)

/-- The plain value a byte sequence holds: every part of it has a meaning. -/
def plainOfBytes? (bytes : List UInt8) : Option Json :=
  (ofBytes? bytes).bind plain?

end Json

end OrderHerald
