import OrderHerald.Document.Content
import OrderHerald.Url.Parse

/-!
# Where the routing definition is kept

The routing definition is an object in an object store, or a file.  The deployment stage names the
object where the settings do not.

* `Stage` — the deployment stages.
* `Store` — the settings; `Store.read?` reads them, from a tagged record.
* `Store.validate` — what is wrong with settings, before anything is opened.
-/

namespace OrderHerald

/-- A deployment stage. -/
inductive Stage where
  | beta
  | prod
  deriving DecidableEq, Repr, Inhabited

namespace Stage

/-- The object that holds the stage's routing definition. -/
def definitionKey : Stage → String
  | beta => "beta.json"
  | prod => "production.json"

/-- The stage a document's choice names. -/
def read? {δ : Type} [SettingsDocument δ] (value : δ) : Option Stage :=
  match SettingsDocument.variant? value with
  | some "beta" => some .beta
  | some "prod" => some .prod
  | _ => none

end Stage

/-- Where the routing definition is kept. -/
inductive Store where
  /-- An object of a bucket; without a key it is the stage's. -/
  | objects (endpoint bucket : String) (key : Option String)
  | file (path : String)
  deriving DecidableEq, Repr, Inhabited

/-- What is wrong with the settings of a store. -/
inductive StoreError where
  | invalidEndpoint (reason : UrlError)
  | emptyBucket
  | emptyKey
  | emptyPath
  deriving DecidableEq, Repr

/-- The text of an error. -/
def StoreError.message : StoreError → String
  | .invalidEndpoint reason => "webhook store endpoint is not a valid url: " ++ reason.message
  | .emptyBucket => "webhook store bucket cannot be empty"
  | .emptyKey => "webhook store key cannot be empty"
  | .emptyPath => "webhook store path cannot be empty"

namespace Store

/-- The bucket that is read where the settings name none. -/
def defaultBucket : String := "order-webhook-notification-config"

/-- The fields of an object store. -/
def objectFields : List Field := ["endpoint", "bucket", "key"]

/-- The fields of a file. -/
def fileFields : List Field := ["path"]

/-- The settings with a tag, from the parts other than the tag. -/
def ofTagged? (tag : String) (parts : Parts Content) : Option Store :=
  match tag with
  | "s3" => do
    let record ← Record.ofParts? objectFields parts
    let endpoint ← record.required? "endpoint" Content.text?
    let bucket ← record.withDefault? "bucket" defaultBucket Content.text?
    let key ← record.optional? "key" Content.text?
    some (.objects endpoint bucket key)
  | "filesystem" => do
    let record ← Record.ofParts? fileFields parts
    let path ← record.required? "path" Content.text?
    some (.file path)
  | _ => none

/-- The member of a map is the tag. -/
def isTag (entry : Content × Content) : Bool :=
  match entry.1 with
  | .text "type" => true
  | _ => false

/-- **Reads the settings of a store** out of content set aside: a map with exactly one tag, or a
list with the tag in front. -/
def ofContent? : Content → Option Store
  | .map entries =>
    match entries.filter isTag with
    | [(_, .text tag)] => do
      let members ← Content.members? (entries.filter fun entry => !isTag entry)
      ofTagged? tag (.named members)
    | _ => none
  | .list (.text tag :: rest) => ofTagged? tag (.placed rest)
  | _ => none

/-- The settings in a document. -/
def read? {δ : Type} [SettingsDocument δ] (value : δ) : Option Store :=
  (SettingsDocument.content? value).bind ofContent?

/-- **What is wrong with the settings**: the endpoint first, then the bucket, then the key. -/
def validate [DomainNames] : Store → Except StoreError Unit
  | .objects endpoint bucket key =>
    match Url.parse endpoint with
    | .error reason => .error (.invalidEndpoint reason)
    | .ok _ =>
      if bucket = "" then .error .emptyBucket
      else if key = some "" then .error .emptyKey
      else .ok ()
  | .file path => if path = "" then .error .emptyPath else .ok ()

end Store

end OrderHerald
