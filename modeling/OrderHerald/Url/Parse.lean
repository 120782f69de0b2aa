import OrderHerald.Url.Segments

/-!
# Reading urls

A url is read from the left: the scheme up to the first colon, then, where two slashes or the scheme
say so, the authority, then the path.  The query starts at the first question mark and the fragment at
the first hash sign.  Blanks and control characters at the two ends do not count, tabs and line ends
nowhere.

There is no base: a text without a scheme is no url.  Which international domain names there are is
taken for given.

* `Url.parse` — the url a text is, in canonical form.
-/

namespace OrderHerald

namespace Url

/-- The text that counts. -/
def significant (text : String) : List Char :=
  (trimBoth (fun c => c.toNat ≤ 0x20) text.toList).filter
    fun c => !(c = '\t' || c = '\n' || c = '\r')

/-- The characters of a scheme after the first. -/
def isSchemeChar (c : Char) : Bool :=
  c.isAlphanum || c = '+' || c = '-' || c = '.'

/-- The scheme in front of a text and what follows its colon. -/
def takeScheme? (text : List Char) : Option (Scheme × List Char) :=
  match text with
  | [] => none
  | first :: _ =>
    if first.isAlpha then
      match cutAt (!isSchemeChar ·) text with
      | (name, ':' :: rest) => some (Scheme.ofName (String.ofList (name.map Char.toLower)), rest)
      | _ => none
    else none

/-- The text before the first sign of a kind, and the text after it if there is one. -/
def cutSign (sign : Char) (text : List Char) : List Char × Option (List Char) :=
  match cutAt (· = sign) text with
  | (before, _ :: after) => (before, some after)
  | (before, []) => (before, none)

/-- The characters that divide the path of a scheme. -/
def isDivider (scheme : Scheme) (c : Char) : Bool :=
  c = '/' || (scheme.isSpecial && c = '\\')

/-- The segments of a path text that starts after its first slash. -/
def rawSegments (scheme : Scheme) (text : List Char) : List String :=
  let slashes := if scheme.isSpecial then text.map fun c => if c = '\\' then '/' else c else text
  (splitOn '/' slashes).map fun part => String.ofList (Percent.encode Percent.path part)

/-- The path a text is; the text starts after its first slash. -/
def pathAfterSlash (scheme : Scheme) (text : List Char) : Path :=
  .segments (Segments.trimFile scheme (Segments.appendAll scheme [] (rawSegments scheme text)))

/-- The path after an authority.  Special urls have one always, other urls only if something is
there. -/
def pathAfterAuthority (scheme : Scheme) : List Char → Path
  | [] => if scheme.isSpecial then pathAfterSlash scheme [] else .segments []
  | c :: rest => pathAfterSlash scheme (if isDivider scheme c then rest else c :: rest)

/-- The number digits make, as a port; `none` where there are no digits. -/
def takePort (text : List Char) : Except UrlError (Option Nat × List Char) :=
  let (ds, rest) := cutAt (fun c => !c.isDigit) text
  let continues := match rest with
    | [] => true
    | c :: _ => c = '/' || c = '\\'
  let port := ds.foldl (fun n d => n * 10 + (d.toNat - '0'.toNat)) 0
  if port > 65535 then .error .invalidPort
  else if continues then .ok (if ds.isEmpty then none else some port, rest)
  else .error .invalidPort

/-- The text of a host and what follows it: a colon ends it outside of square brackets. -/
def cutHost (scheme : Scheme) : Bool → List Char → List Char × List Char
  | _, [] => ([], [])
  | inside, c :: rest =>
    if (c = ':' && !inside) || isDivider scheme c then ([], c :: rest)
    else
      let inside := if c = '[' then true else if c = ']' then false else inside
      (c :: (cutHost scheme inside rest).1, (cutHost scheme inside rest).2)

variable [DomainNames]

/-- The host and the port in front of a text. -/
def takeHostAndPort (scheme : Scheme) (text : List Char) :
    Except UrlError (Host × Option Nat × List Char) := do
  let (hostText, rest) := cutHost scheme false text
  let host ←
    if scheme.isSpecial then
      if hostText.isEmpty then .error .emptyHost else Host.ofSpecial hostText
    else Host.ofOther hostText
  match rest with
  | ':' :: rest =>
    if host = .empty then .error .emptyHost
    else do
      let (port, rest) ← takePort rest
      .ok (host, if port = scheme.defaultPort then none else port, rest)
  | rest => .ok (host, none, rest)

/-- What stands before the last at sign of the authority, and what stands after it. -/
def cutUserinfo (scheme : Scheme) (text : List Char) : Option (List Char) × List Char :=
  let (authority, rest) := cutAt (isDivider scheme) text
  match splitOn '@' authority with
  | [] | [_] => (none, text)
  | parts =>
    (some (['@'].intercalate parts.dropLast), parts.getLast?.getD [] ++ rest)

/-- The name and the password, encoded. -/
def credentials (userinfo : List Char) : String × String :=
  let encode (t : List Char) := String.ofList (Percent.encode Percent.userinfo t)
  match cutSign ':' userinfo with
  | (name, none) => (encode name, "")
  | (name, some password) => (encode name, encode password)

/-- The authority in front of a text, and the text after it.  `followed` tells that a query or a
fragment comes after the text. -/
def takeAuthority (scheme : Scheme) (followed : Bool) (text : List Char) :
    Except UrlError (Authority × List Char) := do
  let (userinfo, rest) := cutUserinfo scheme text
  let nothing : Bool := match rest with
    | [] => followed
    | c :: _ => isDivider scheme c
  if userinfo = some [] ∧ nothing then .error .emptyHost
  else do
    let (name, password) := credentials (userinfo.getD [])
    let (host, port, rest) ← takeHostAndPort scheme rest
    if host = .empty ∧ (name ≠ "" ∨ password ≠ "") then .error .emptyHost
    else .ok (⟨name, password, host, port⟩, rest)

/-- The host of a `file` url; the local host is no host, and neither is a drive letter, which stays
in the path. -/
def takeFileHost (text : List Char) : Except UrlError (Host × List Char) :=
  let (hostText, rest) := cutAt (isDivider .file) text
  if Segments.isDriveLetter (String.ofList hostText) then .ok (.empty, text)
  else if hostText.isEmpty then .ok (.empty, rest)
  else
    match Host.ofSpecial hostText with
    | .error e => .error e
    | .ok (.domain "localhost") => .ok (.empty, rest)
    | .ok host => .ok (host, rest)

/-- The path names a drive first. -/
def startsWithDrive : Path → Bool
  | .segments (first :: _) => Segments.isDriveLetter first
  | _ => false

/-- The authority and the path of a `file` url.  A host is dropped where the path names a drive. -/
def parseFile (text : List Char) : Except UrlError (Authority × Path) :=
  let isSlash := isDivider .file
  match text with
  | a :: b :: rest =>
    if isSlash a && isSlash b then do
      let (host, rest) ← takeFileHost rest
      let path := pathAfterAuthority .file rest
      .ok ({ host := if startsWithDrive path then .empty else host }, path)
    else .ok ({}, pathAfterAuthority .file text)
  | _ => .ok ({}, pathAfterAuthority .file text)

/-- The authority and the path after the colon of a scheme. -/
def parseHierarchy (scheme : Scheme) (followed : Bool) (text : List Char) :
    Except UrlError (Option Authority × Path) :=
  match scheme with
  | .file => do
    let (authority, path) ← parseFile text
    .ok (some authority, path)
  | .web _ _ => do
    let (authority, rest) ← takeAuthority scheme followed (text.dropWhile (isDivider scheme))
    .ok (some authority, pathAfterAuthority scheme rest)
  | .other _ =>
    match text with
    | '/' :: '/' :: rest => do
      let (authority, rest) ← takeAuthority scheme followed rest
      .ok (some authority, pathAfterAuthority scheme rest)
    | '/' :: rest => .ok (none, pathAfterSlash scheme rest)
    | bare => .ok (none, .bare (String.ofList (Percent.encode Percent.controls bare)))

/-- **The url a text is.** -/
def parse (text : String) : Except UrlError Url :=
  match takeScheme? (significant text) with
  | none => .error .noBase
  | some (scheme, rest) => do
    let (rest, fragment) := cutSign '#' rest
    let (rest, query) := cutSign '?' rest
    let (authority, path) ← parseHierarchy scheme (query.isSome || fragment.isSome) rest
    let querySet := if scheme.isSpecial then Percent.specialQuery else Percent.query
    .ok
      { scheme, authority, path
        query := query.map fun q => String.ofList (Percent.encode querySet q)
        fragment := fragment.map fun f => String.ofList (Percent.encode Percent.fragment f) }

end Url

end OrderHerald
