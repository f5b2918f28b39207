import CloudSync.Pagination
import CloudSync.Preconditions

/-!
# What the store is for

A namespace holds at most one record, at most one blob and a finite map of objects,
and it can be hidden. Every request of the sync API and of the panel's namespace routes
is one operation on the contents of one namespace: there are no keys, no encryption and
no tokens here.
-/

namespace CloudSync

open Rust Redb

set_option autoImplicit false

structure Payload where
  body : Bytes
  etag : String
  deriving Repr, DecidableEq

/-- What a namespace holds; `deleted` hides it. -/
structure Contents where
  metadata : Option SyncMetadata := none
  blob : Option Bytes := none
  objects : Table Payload := ∅
  deleted : Bool := false

abbrev Store := String → Contents

/-- Every namespace is as if it had never been used. -/
def Store.empty : Store := fun _ => {}

inductive Operation where
  | getMetadata
  | putMetadata (body : MetadataWriteRequest)
  | getBlob
  | putBlob (sectionRevisions : Option SectionRevisions) (body : Bytes)
  | listObjects (query : ObjectListQuery)
  | getObject (rawPath : String)
  | putObject (rawPath : String) (body : Bytes)
  | deleteObject (rawPath : String)
  | create
  | delete (hard : Bool)
  | restore

/-- The permission that a token needs; the other operations are those of the panel. -/
def Operation.permission : Operation → Option SyncPermission
  | .getMetadata | .getBlob | .listObjects _ | .getObject _ => some .read
  | .putMetadata _ | .putBlob _ _ | .putObject _ _ | .deleteObject _ => some .write
  | .create | .delete _ | .restore => none

/-- The namespace and the operation that a request names. -/
def Endpoint.storeCall : Endpoint → Option (String × Operation)
  | .getMetadata ns => (urlDecode ns).map fun ns => (ns, .getMetadata)
  | .putMetadata ns body => (urlDecode ns).map fun ns => (ns, .putMetadata body)
  | .getBlob ns => (urlDecode ns).map fun ns => (ns, .getBlob)
  | .putBlob ns sectionRevisions body => (urlDecode ns).map fun ns => (ns, .putBlob sectionRevisions body)
  | .listObjects ns query => (urlDecode ns).map fun ns => (ns, .listObjects query)
  | .getObject ns path => (urlDecode ns).map fun ns => (ns, .getObject path)
  | .putObject ns path body => (urlDecode ns).map fun ns => (ns, .putObject path body)
  | .deleteObject ns path => (urlDecode ns).map fun ns => (ns, .deleteObject path)
  | .adminCreateNamespace requested => some (trim requested, .create)
  | .adminDeleteNamespace ns hard => some (ns, .delete (hard.getD false))
  | .adminRestoreNamespace ns => some (ns, .restore)
  | _ => none

/-! ## Refusals -/

def check (ok : Bool) (e : AppError) : Except AppError Unit := if ok then .ok () else .error e

/-- Writes are refused while the disk is too full. -/
def diskSpace (state : AppState) (amb : Ambient) (incomingBytes : Nat) : Except AppError Unit :=
  if state.minFreeDiskBytes = 0 then .ok ()
  else match amb.diskFreeBytes with
    | none => .ok ()
    | some freeBytes =>
      check (saturatingAdd state.minFreeDiskBytes incomingBytes ≤ freeBytes) (.insufficientStorage
        s!"Only {freeBytes} bytes free; refusing write because at least {saturatingAdd state.minFreeDiskBytes incomingBytes} bytes are required")

/-- `If-Match` asks for this ETag, and without it `If-None-Match: *` for nothing to be there. -/
def precondition (headers : HeaderMap) (etag : Option String) (present : Bool)
    (changed already : AppError) : Except AppError Unit :=
  match headers.getStr "if-match" with
  | some expected => check (etag.getD "" == expected) changed
  | none => check (!(headers.getStr "if-none-match" == some "*" && present)) already

def remoteConflict (revision etag : Option String) (message : String) : AppError :=
  .conflict "etag_conflict_detected" message revision etag

/-! ## Operations -/

namespace Contents

variable (c : Crates) (state : AppState) (amb : Ambient) (headers : HeaderMap) (contents : Contents)

/-- An answer, and what the namespace holds from then on; an error changes nothing. -/
abbrev Outcome := Except AppError (Response × Contents)

def getMetadata : Outcome := .ok (.metadata (contents.metadata.getD .empty), contents)

def putMetadata (body : MetadataWriteRequest) : Outcome := do
  diskSpace state amb (256 * 1024)
  let m := metadataFromBody state contents.metadata body (amb.newUuid 0) (c.toRfc3339 (amb.now 2))
  pure (.written
    { ok := true
      revision := some body.revision
      etag := some (amb.newUuid 0)
      sectionRevisions := body.sectionRevisions }, { contents with metadata := some m })

def getBlob : Outcome :=
  match contents.blob with
  | none => .error (.notFound "No blob found")
  | some body => .ok (.payload
      { contentType := oxideContentType
        etag := (contents.metadata.bind (·.etag)).bind parseHeaderValue
        body := body }, contents)

def putBlob (sectionRevisions : Option SectionRevisions) (body : Bytes) : Outcome := do
  check (body.length ≤ state.maxBlobSize)
    (.payloadTooLarge s!"Blob size {body.length} exceeds limit {state.maxBlobSize}")
  diskSpace state amb body.length
  let revision := contents.metadata.bind (·.revision)
  let etag := contents.metadata.bind (·.etag)
  precondition headers etag (contents.metadata.any (·.exists))
    (remoteConflict revision etag "Remote snapshot changed before upload completed")
    (remoteConflict revision etag "Remote snapshot already exists")
  let m := metadataForBlob c state contents.metadata body (headers.getStr "x-oxideterm-revision")
    (headers.getStr "x-oxideterm-device-id") sectionRevisions (amb.newUuid 0) (c.toRfc3339 (amb.now 2))
  pure (.written
    { ok := true
      revision := headers.getStr "x-oxideterm-revision"
      etag := some (amb.newUuid 0)
      sectionRevisions := sectionRevisions }, { contents with metadata := some m, blob := some body })

/-- The paths that start with `pre`, in order. -/
def paths (pre : String) : List String := contents.objects.keys.filter (startsWith · pre)

def listObjects (query : ObjectListQuery) : Outcome := do
  check query.valid (.badRequest "Invalid object listing parameters")
  pure (.listing (.ofPage (Paging.page (contents.paths query.pre) query.cursor query.effectiveLimit)),
    contents)

def getObject (rawPath : String) : Outcome := do
  let path ← decodeObjectPath rawPath
  pure (.object (contents.objects[path]?.map fun payload =>
    { contentType := contentTypeOf path
      etag := parseHeaderValue payload.etag
      body := payload.body }), contents)

def putObject (rawPath : String) (body : Bytes) : Outcome := do
  let path ← decodeObjectPath rawPath
  check (body.length ≤ state.maxObjectSize)
    (.payloadTooLarge s!"Object size {body.length} exceeds limit {state.maxObjectSize}")
  diskSpace state amb body.length
  let etag := contents.objects[path]?.map (·.etag)
  precondition headers etag etag.isSome
    (remoteConflict none etag "Remote object changed before upload completed")
    (remoteConflict none etag "Remote object already exists")
  pure (.objectWritten (amb.newUuid 0),
    { contents with objects := contents.objects.insert path ⟨body, amb.newUuid 0⟩ })

def deleteObject (rawPath : String) : Outcome := do
  let path ← decodeObjectPath rawPath
  pure (.done, { contents with objects := contents.objects.erase path })

def create (ns : String) : Outcome := do
  diskSpace state amb (256 * 1024)
  check (!contents.deleted) (.badRequest s!"Namespace '{ns}' is soft-deleted. Restore or purge it first.")
  check (contents.metadata.isNone && contents.objects.isEmpty)
    (.badRequest s!"Namespace '{ns}' already exists")
  pure (.namespaceCreated ns, { contents with metadata := some .empty })

def delete (ns : String) (hard : Bool) : Outcome :=
  if hard then .ok (.namespaceDeleted .hard, {})
  else do
    check (!contents.deleted) (.badRequest s!"Namespace '{ns}' is already soft-deleted")
    check (contents.metadata.isSome || !contents.objects.isEmpty)
      (.notFound s!"Namespace '{ns}' not found")
    diskSpace state amb (256 * 1024)
    pure (.namespaceDeleted .soft, { contents with deleted := true })

def restore (ns : String) : Outcome := do
  diskSpace state amb (256 * 1024)
  check contents.deleted (.notFound s!"Namespace '{ns}' is not soft-deleted")
  pure (.done, { contents with deleted := false })

/-- A hidden namespace answers no request of the sync API. -/
def ifActive (ns : String) (outcome : Outcome) : Outcome := do
  check (!contents.deleted) (.notFound s!"Namespace '{ns}' is soft-deleted")
  outcome

def serve (ns : String) : Operation → Outcome
  | .getMetadata => contents.ifActive ns contents.getMetadata
  | .putMetadata body => contents.ifActive ns (contents.putMetadata c state amb body)
  | .getBlob => contents.ifActive ns contents.getBlob
  | .putBlob sectionRevisions body =>
    contents.ifActive ns (contents.putBlob c state amb headers sectionRevisions body)
  | .listObjects query => contents.ifActive ns (contents.listObjects query)
  | .getObject rawPath => contents.ifActive ns (contents.getObject rawPath)
  | .putObject rawPath body => contents.ifActive ns (contents.putObject state amb headers rawPath body)
  | .deleteObject rawPath => contents.ifActive ns (contents.deleteObject rawPath)
  | .create => contents.create state amb ns
  | .delete hard => contents.delete state amb ns hard
  | .restore => contents.restore state amb ns

end Contents

/-- A request acts on the namespace that it names. -/
def Store.serve (c : Crates) (state : AppState) (amb : Ambient) (r : Request) (store : Store) :
    Answer × Store :=
  match r.endpoint.storeCall with
  | none => (.error (.badRequest "Invalid namespace encoding"), store)
  | some (ns, operation) =>
    match (store ns).serve c state amb r.headers ns operation with
    | .error e => (.error e, store)
    | .ok (response, contents) => (.ok response, Function.update store ns contents)

/-- The answers to the requests one after the other, and the store at the end. -/
def Store.serveAll (c : Crates) (state : AppState) : List (Ambient × Request) → Store → List Answer × Store
  | [], store => ([], store)
  | (amb, r) :: rest, store =>
    let (answer, store') := store.serve c state amb r
    let (answers, store'') := Store.serveAll c state rest store'
    (answer :: answers, store'')

end CloudSync
