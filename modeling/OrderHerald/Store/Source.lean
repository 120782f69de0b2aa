import OrderHerald.Store.Settings

/-!
# Sources of routing definitions

A source is an opened store: the url of an object, or the path of a file.  The url of an object is
the endpoint's, its path continued by the bucket and the parts of the key.

* `FetchError` — why no routing definition could be had.
* `Source` — where to read.
* `objectUrl` — the url of an object.
* `Store.source` — the source of a store.
-/

namespace OrderHerald

/-- Why no routing definition could be had. -/
inductive FetchError where
  /-- The file could not be read. -/
  | io
  /-- The object store did not answer. -/
  | request
  /-- The object store answered with a status that is no success. -/
  | status (code : Nat) (url : String)
  /-- The document is no routing definition. -/
  | decode
  /-- The object has no url. -/
  | invalidUrl (reason : String)
  deriving DecidableEq, Repr

/-- The text of an error. -/
def FetchError.message : FetchError → String
  | .io => "I/O error"
  | .request => "object store request failed"
  | .status code url =>
    "object store returned status " ++ toString code ++ " for " ++ url
  | .decode => "invalid webhook definition"
  | .invalidUrl reason => "invalid object store url: " ++ reason

/-- Where a routing definition is read. -/
inductive Source where
  | object (url : Url)
  | file (path : String)
  deriving DecidableEq, Repr

/-- The parts of a key. -/
def keyParts (key : String) : List String :=
  (splitOn '/' key.toList).map String.ofList

variable [DomainNames]

/-- **The url of an object.**  An endpoint whose path has no segments cannot hold objects. -/
def objectUrl (endpoint bucket key : String) : Except FetchError Url :=
  match Url.parse endpoint with
  | .error reason => .error (.invalidUrl reason.message)
  | .ok url =>
    match url.path with
    | .bare _ => .error (.invalidUrl endpoint)
    | .segments _ => .ok ((keyParts key).foldl Url.push (url.popIfEmpty.push bucket))

/-- **The source of a store**; without a key of its own it is the stage's object. -/
def Store.source (store : Store) (stage : Stage) : Except FetchError Source :=
  match store with
  | .objects endpoint bucket key =>
    match objectUrl endpoint bucket (key.getD stage.definitionKey) with
    | .ok url => .ok (.object url)
    | .error e => .error e
  | .file path => .ok (.file path)

end OrderHerald
