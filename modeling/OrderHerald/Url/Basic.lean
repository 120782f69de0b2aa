import OrderHerald.Url.Host

/-!
# Urls

A url is a scheme, perhaps an authority, a path, and perhaps a query and a fragment.  A path is
either a list of segments or, after a bare scheme, a text without structure.

Schemes of the web and `file` are special: their urls have an authority and at least one path
segment, a backslash divides segments like a slash, and each has a default port or none.

* `Scheme` — the kinds of schemes.
* `Authority`, `Path`, `Url` — the parts.
* `Url.text` — the canonical text.
-/

namespace OrderHerald

/-- What rules a scheme follows. -/
inductive Scheme where
  /-- Urls of the web, with a default port. -/
  | web (name : String) (defaultPort : Nat)
  | file
  | other (name : String)
  deriving DecidableEq, Repr, Inhabited

namespace Scheme

/-- The scheme with a lower-case name. -/
def ofName (name : String) : Scheme :=
  if name = "http" ∨ name = "ws" then .web name 80
  else if name = "https" ∨ name = "wss" then .web name 443
  else if name = "ftp" then .web name 21
  else if name = "file" then .file
  else .other name

/-- The name of a scheme. -/
def name : Scheme → String
  | .web name _ => name
  | .file => "file"
  | .other name => name

/-- The scheme has rules of its own. -/
def isSpecial : Scheme → Bool
  | .other _ => false
  | _ => true

/-- The port that is left out. -/
def defaultPort : Scheme → Option Nat
  | .web _ port => some port
  | _ => none

end Scheme

/-- Who is asked at which host. -/
structure Authority where
  username : String := ""
  password : String := ""
  host : Host := .empty
  port : Option Nat := none
  deriving DecidableEq, Repr, Inhabited

/-- What is asked for. -/
inductive Path where
  /-- A text without structure. -/
  | bare (text : String)
  /-- Segments, a slash in front of each. -/
  | segments (segments : List String)
  deriving DecidableEq, Repr, Inhabited

/-- A url. -/
structure Url where
  scheme : Scheme
  authority : Option Authority := none
  path : Path
  query : Option String := none
  fragment : Option String := none
  deriving DecidableEq, Repr, Inhabited

namespace Authority

/-- The name and password with the sign after them, if there are any. -/
def credentials (authority : Authority) : String :=
  if authority.username = "" ∧ authority.password = "" then ""
  else if authority.password = "" then authority.username ++ "@"
  else authority.username ++ ":" ++ authority.password ++ "@"

/-- The text of an authority. -/
def text (authority : Authority) : String :=
  authority.credentials ++ authority.host.text
    ++ (match authority.port with
        | none => ""
        | some port => ":" ++ toString port)

end Authority

/-- The text of a path. -/
def Path.text : Path → String
  | .bare text => text
  | .segments parts => String.join (parts.map ("/" ++ ·))

namespace Url

/-- Without an authority, a path that starts with an empty segment is marked, so that the segment is
not taken for one. -/
def pathMark (url : Url) : String :=
  match url.authority, url.path with
  | none, .segments ("" :: _ :: _) => "/."
  | _, _ => ""

/-- An optional part with the sign in front of it. -/
def part (sign : String) : Option String → String
  | none => ""
  | some text => sign ++ text

/-- The text of a url without its fragment. -/
def textWithoutFragment (url : Url) : String :=
  url.scheme.name ++ ":"
    ++ (match url.authority with
        | none => ""
        | some authority => "//" ++ authority.text)
    ++ url.pathMark ++ url.path.text ++ part "?" url.query

/-- **The canonical text of a url.** -/
def text (url : Url) : String :=
  url.textWithoutFragment ++ part "#" url.fragment

/-- The host, if the url names one. -/
def host? (url : Url) : Option Host :=
  match url.authority with
  | none => none
  | some authority => if authority.host = .empty then none else some authority.host

end Url

end OrderHerald
