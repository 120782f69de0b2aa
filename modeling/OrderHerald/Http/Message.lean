import OrderHerald.Text.Base64
import OrderHerald.Url.Parse

/-!
# Requests to other services

A request has a method, the url as it is asked, headers and a body.  It can be made if the url is one
of the web and every header has a name that is a token and a value without control characters.  A
name and password in the url are taken out of it and sent as a header instead.

An answer may send the client on to another request.  Which one that is, is for the client to know who
follows it, and not for those who made the first.

* `Request`, `Request.make?` — a request, if it can be made.
* `Exchange` — what becomes of a request.
-/

namespace OrderHerald

/-- The name of a header, in lower case, and its value. -/
abbrev Header := String × String

namespace Header

/-- The characters of tokens. -/
def isTokenChar (c : Char) : Bool :=
  c.isAlphanum || "!#$%&'*+-.^_\x60|~".toList.contains c

/-- A name is a token of at most 65535 characters. -/
def isName (name : String) : Bool :=
  !name.isEmpty && name.length < 65536 && name.toList.all isTokenChar

/-- A value holds no control characters but tabs. -/
def isValue (value : String) : Bool :=
  value.toList.all fun c => c = '\t' || (' ' ≤ c && c ≠ '\x7f')

/-- The header with a name and a value, if they can be sent. -/
def of? (name value : String) : Option Header :=
  if isName name && isValue value then some (name.map Char.toLower, value) else none

end Header

/-- A request. -/
structure Request where
  method : String
  /-- Without name, password and fragment. -/
  url : String
  headers : List Header
  body : String
  deriving DecidableEq, Repr, Inhabited

namespace Request

/-- Requests are made to urls of these schemes. -/
def isAskable (url : Url) : Bool :=
  url.scheme.name = "http" || url.scheme.name = "https"

/-- What the octets of a percent-encoded text spell, if they are UTF-8. -/
def decoded? (text : String) : Option String :=
  Utf8.text? (Percent.decode text.toList)

/-- The header that sends a name and a password. -/
def credentials (username password : String) : Header :=
  let bytes := (username ++ ":" ++ password).toUTF8.toList
  ("authorization", "Basic " ++ String.ofList (Base64.encode bytes))

/-- The name and password of an authority, if there is one of them.  A name that is no text stays where
it is, and the password with it; a password that is no text is none. -/
def login? (authority : Authority) : Option (String × String) :=
  match decoded? authority.username with
  | none => none
  | some username =>
    let password := (decoded? authority.password).getD ""
    if username = "" ∧ password = "" then none else some (username, password)

/-- The url as it is asked and the header that its name and password become. -/
def address (url : Url) : String × List Header :=
  match url.authority with
  | none => (url.textWithoutFragment, [])
  | some authority =>
    match login? authority with
    | none => (url.textWithoutFragment, [])
    | some (username, password) =>
      let bare := { url with authority := some { authority with username := "", password := "" } }
      (bare.textWithoutFragment, [credentials username password])

/-- **A request, if it can be made.** -/
def make? [DomainNames] (method url : String) (headers : List (String × String)) (body : String) :
    Option Request :=
  match Url.parse url with
  | .error _ => none
  | .ok parsed =>
    if isAskable parsed then do
      let headers ← headers.mapM fun header => Header.of? header.1 header.2
      let (url, credentials) := address parsed
      some ⟨method, url, credentials ++ headers, body⟩
    else none

end Request

/-- What another service answers. -/
structure Response where
  status : Nat
  body : List UInt8
  deriving DecidableEq, Repr, Inhabited

/-- **What becomes of a request.** -/
inductive Exchange where
  /-- It never left. -/
  | unreachable
  /-- It left, and the connection ended without an answer. -/
  | cutOff
  /-- It left, and no answer came in time. -/
  | timedOut
  | answered (response : Response)
  /-- It left, and the answer sends the client on to another request. -/
  | redirected (onward : Request)
  deriving DecidableEq, Repr

namespace Exchange

/-- The request left. -/
def isSent : Exchange → Bool
  | unreachable => false
  | _ => true

/-- The request to which the client is sent on, if it is. -/
def onward? : Exchange → Option Request
  | redirected onward => some onward
  | _ => none

end Exchange

end OrderHerald
