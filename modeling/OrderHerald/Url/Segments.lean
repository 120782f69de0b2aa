import OrderHerald.Url.Basic

/-!
# Path segments

Segments are put into a path one after the other.  A single dot stands for nothing and a double dot
takes the last segment away, also where the dots are percent-encoded; where such a segment is the
last of its path, an empty segment stands in its place.  A drive letter is never taken away.

In a `file` url a drive letter in first place is written with a colon, and empty segments in front
are dropped.

* `Segments.append` — one segment of a text, in its encoded form.
* `Segments.trimFile` — the form of a `file` path.
* `Url.push` — one segment put at the end of a url's path as it is.
* `Url.popIfEmpty` — the path without an empty last segment.
-/

namespace OrderHerald

namespace Segments

/-- A segment that stands for nothing. -/
def isSingleDot (segment : String) : Bool :=
  [".", "%2e", "%2E"].contains segment

/-- A segment that takes the one before it away. -/
def isDoubleDot (segment : String) : Bool :=
  ["..", "%2e%2e", "%2e%2E", "%2E%2e", "%2E%2E", "%2e.", "%2E.", ".%2e", ".%2E"].contains segment

/-- A letter and a colon or a bar. -/
def isDriveLetter (segment : String) : Bool :=
  match segment.toList with
  | [letter, mark] => letter.isAlpha && (mark = ':' || mark = '|')
  | _ => false

/-- The segments without the last one, unless that is a drive letter. -/
def shorten (segments : List String) : List String :=
  match segments.getLast? with
  | none => []
  | some last => if isDriveLetter last then segments else segments.dropLast

/-- A drive letter in first place, written with a colon. -/
def normalizeDrive (scheme : Scheme) (before : List String) (segment : String) : String :=
  if scheme = .file ∧ before = [] ∧ isDriveLetter segment then
    String.ofList (segment.toList.take 1 ++ [':'])
  else segment

/-- **One more segment of a path**, in its encoded form.  `last` tells that none follows. -/
def append (scheme : Scheme) (last : Bool) (before : List String) (segment : String) :
    List String :=
  if isDoubleDot segment then shorten before ++ (if last then [""] else [])
  else if isSingleDot segment then before ++ (if last then [""] else [])
  else before ++ [normalizeDrive scheme before segment]

/-- All segments of a path, in their encoded form. -/
def appendAll (scheme : Scheme) : List String → List String → List String
  | before, [] => before
  | before, [segment] => append scheme true before segment
  | before, segment :: rest => appendAll scheme (append scheme false before segment) rest

/-- Empty segments in front of a `file` path are dropped, except for the only one. -/
def trimFront : List String → List String
  | "" :: next :: rest => trimFront (next :: rest)
  | segments => segments

/-- The form of a path in its scheme. -/
def trimFile (scheme : Scheme) (segments : List String) : List String :=
  if scheme = .file then trimFront segments else segments

end Segments

namespace Url

/-- The path with an empty last segment taken away, unless it is the only one. -/
def popIfEmpty (url : Url) : Url :=
  match url.path with
  | .segments segments =>
    if segments.length ≥ 2 ∧ segments.getLast? = some "" then
      { url with path := .segments segments.dropLast }
    else url
  | .bare _ => url

/-- A segment as it is put into a path: line ends and tabs are dropped, and everything that would
divide the path or decode to something else is encoded. -/
def encodeSegment (scheme : Scheme) (segment : String) : String :=
  let set := if scheme.isSpecial then Percent.specialPathSegment else Percent.pathSegment
  String.ofList (Percent.encode set
    (segment.toList.filter fun c => !(c = '\t' || c = '\n' || c = '\r')))

/-- **Puts one segment at the end of the path.**  A single empty segment gives way to it, and a
segment of one or two dots is no segment at all. -/
def push (url : Url) (segment : String) : Url :=
  match url.path with
  | .bare _ => url
  | .segments segments =>
    if segment = "." ∨ segment = ".." then url
    else
      let before := if segments = [""] then [] else segments
      let after := Segments.append url.scheme true before (encodeSegment url.scheme segment)
      { url with path := .segments (Segments.trimFile url.scheme after) }

end Url

end OrderHerald
