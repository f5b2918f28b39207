import CloudSync.Rust.PercentDecoding
import CloudSync.Transactions.Program
import CloudSync.Database

/-!
# The sync API (`api.rs`, `auth.rs`)

Handlers are programs of database transactions. Request bodies are already
parsed and path parameters already decoded once by the router; everything a
handler reads from the clock or the random generator comes from its `Ambient`.
-/

namespace CloudSync

open Rust Transactions Transactions.Fallible

set_option autoImplicit false

/-- A failed transaction is described by the text of its `redb::Error`. -/
abbrev databaseSignature : Signature where
  Op := DbCall
  Out := DbCall.Out
  Fault := String

abbrev DbProgram (α : Type) := Fallible databaseSignature String α

abbrev Handler (α : Type) := Fallible databaseSignature AppError α

/-- A call whose error the caller handles itself. -/
def redb (call : DbCall) : DbProgram call.Out := txn (S := databaseSignature) (fun e => e) call

/-- A call followed by `?`. -/
def db (call : DbCall) : Handler call.Out :=
  txn (S := databaseSignature) (fun e => .internal ("Database error: " ++ e)) call

/-- A call followed by `.map_err(|e| AppError::Internal(format!("{context}: {e}")))?`. -/
def dbOr (context : String) (call : DbCall) : Handler call.Out :=
  txn (S := databaseSignature) (fun e => .internal (context ++ ": " ++ e)) call

def orDatabaseError {α : Type} (x : DbProgram α) : Handler α :=
  x.mapError fun e => .internal ("Database error: " ++ e)

section Rules
variable (call : DbCall) (context : String) {P : DbCall → Prop} {M : Monitor databaseSignature}
  {ok : M.State → call.Out → Prop} {q : M.State}

@[simp] theorem calls_redb : Calls (α := no_index call.Out) P (redb call) ↔ P call :=
  calls_txn _ _

@[simp] theorem calls_db : Calls (α := no_index call.Out) P (db call) ↔ P call := calls_txn _ _

@[simp] theorem calls_dbOr : Calls (α := no_index call.Out) P (dbOr context call) ↔ P call :=
  calls_txn _ _

@[simp] theorem raises_db {E : AppError → Prop} :
    Raises (α := no_index call.Out) E (db call) ↔
      ∀ f : String, E (.internal ("Database error: " ++ f)) := raises_txn _ _

@[simp] theorem raises_dbOr {E : AppError → Prop} :
    Raises (α := no_index call.Out) E (dbOr context call) ↔
      ∀ f : String, E (.internal (context ++ ": " ++ f)) := raises_txn _ _

@[simp] theorem triple_redb {err : M.State → String → Prop} :
    Triple (α := no_index call.Out) M (redb call) ok err q ↔
      M.allow q call ∧ (∀ out, ok (M.step q call (.ok out)) out) ∧
        ∀ f : String, err (M.step q call (.error f)) f := triple_txn _ _

@[simp] theorem triple_db {err : M.State → AppError → Prop} :
    Triple (α := no_index call.Out) M (db call) ok err q ↔
      M.allow q call ∧ (∀ out, ok (M.step q call (.ok out)) out) ∧
        ∀ f : String, err (M.step q call (.error f)) (.internal ("Database error: " ++ f)) :=
  triple_txn _ _

end Rules

abbrev HeaderMap := List (String × Bytes)

/-- `HeaderValue::to_str` refuses everything but visible ASCII and tabs. -/
def toStr (value : Bytes) : Option String :=
  if value.all fun b => (32 ≤ b && b < 127) || b == 9 then
    some (String.ofList (value.map fun b => Char.ofNat b.toNat))
  else none

def HeaderMap.getStr (headers : HeaderMap) (name : String) : Option String :=
  (headers.lookup name).bind toStr

/-- `etag.parse::<HeaderValue>()`. -/
def parseHeaderValue (s : String) : Option String :=
  if (chars s).all fun ch => (32 ≤ ch.toNat && ch.toNat < 127) || ch == '\t' then some s else none

variable (c : Crates) (state : AppState) (amb : Ambient)

/-! ## `auth.rs` -/

def hashApiToken (token : String) : String := sha256Hex c (asBytes token)

/-- `"*"` matches all, `"prefix*"` every name with the prefix, any other pattern itself. -/
def namespaceMatches (ns pattern : String) : Bool :=
  if pattern = "*" then true
  else match stripSuffix pattern "*" with
    | some pre => startsWith ns pre
    | none => ns == pattern

def nameChar (ch : Char) : Bool := c.isAlphanumeric ch || ch == '-' || ch == '_' || ch == '.'

def validateNamespacePattern (pattern : String) : Bool :=
  if pattern = "*" then true
  else
    let candidate := (stripSuffix pattern "*").getD pattern
    !candidate.isEmpty && (chars candidate).all (nameChar c)

def normalizePermissions (permissions : List String) : List String :=
  ((permissions.map fun p => toAsciiLowercase (trim p)).mergeSort fun a b => a ≤ b).destutter (· ≠ ·)

def validatePermissions (permissions : List String) : Bool :=
  !permissions.isEmpty && permissions.all fun p => p == "read" || p == "write"

def permissionsAllow (permissions : List String) (required : String) : Bool :=
  permissions.any (· == required)

/-! ## Guards -/

def ensureDiskCapacity (incomingBytes : Nat) : Handler Unit :=
  if state.minFreeDiskBytes = 0 then pure ()
  else match amb.diskFreeBytes with
    | none => pure ()
    | some freeBytes =>
      let requiredBytes := saturatingAdd state.minFreeDiskBytes incomingBytes
      ensure (requiredBytes ≤ freeBytes) (.insufficientStorage
        s!"Only {freeBytes} bytes free; refusing write because at least {requiredBytes} bytes are required")

/-- The secret a request presents: behind `Bearer `, or the password of a `Basic` credential. -/
def presentedToken (headers : HeaderMap) : Except AppError String :=
  match headers.getStr "authorization" with
  | none => .error (.unauthorized "Missing Authorization header")
  | some authHeader =>
    match stripPrefix authHeader "Bearer " with
    | some bearer => .ok (trim bearer)
    | none =>
      match stripPrefix authHeader "Basic " with
      | none => .error (.unauthorized "Unsupported auth scheme")
      | some basic =>
        match (c.base64Decode (trim basic)).bind fromUtf8 with
        | none => .error (.unauthorized "Invalid Basic auth encoding")
        | some credential =>
          .ok (((splitOnce credential ':').map fun parts => parts.2).getD credential)

/-- The hash index and the token table are read in two transactions. -/
def getTokenByHash (tokenHash : String) : DbProgram (Option ApiToken) := do
  match ← redb (.getTokenIdByHash tokenHash) with
  | none => pure none
  | some tokenId => redb (.getToken tokenId)

def extractAuth (headers : HeaderMap) : Handler ApiToken := do
  let token ← liftResult (presentedToken c headers)
  let found ← (getTokenByHash (hashApiToken c token)).mapError fun e =>
    AppError.internal ("Token lookup error: " ++ e)
  okOr found (.unauthorized "Invalid token")

def tokenExpired (token : ApiToken) (now : Instant) : Bool :=
  (token.expiresAt.bind c.parseFromRfc3339).any fun expiresAt => expiresAt ≤ now

def ensureTokenActive (token : ApiToken) (now : Instant) : Except AppError Unit :=
  if !token.enabled then .error (.unauthorized "Token is disabled")
  else if tokenExpired c token now then .error (.unauthorized "Token has expired")
  else .ok ()

def tokenUsageUpdateDue (token : ApiToken) (now : Instant) (intervalSeconds : Int) : Bool :=
  if intervalSeconds ≤ 0 then true
  else match token.lastUsedAt.bind c.parseFromRfc3339 with
    | none => true
    | some lastUsed => intervalSeconds ≤ numSeconds (now - lastUsed)

def recordTokenFailure (tokenId : String) : Handler Unit :=
  dbOr "Failed to update token failure count" (.recordTokenFailure tokenId)

def resolveClientIp (headers : HeaderMap) (peer : IpAddr) : IpAddr :=
  if !state.trustProxyHeaders then peer
  else
    let forwarded := (headers.getStr "x-forwarded-for").bind fun value => (split value ',').head?
    let candidate := forwarded.or (headers.getStr "x-real-ip")
    (candidate.bind fun value => c.parseIpAddr (trim value)).getD peer

def maxClientVersionLen : Nat := 128

def syncClientVersion (headers : HeaderMap) : Option String :=
  match headers.getStr "x-oxideterm-client-version" with
  | none => none
  | some value =>
    if (trim value).isEmpty then none
    else some (String.ofList ((chars (trim value)).take maxClientVersionLen))

def ensureNamespaceActive (ns : String) : Handler Unit := do
  let deleted ← db (.isNamespaceDeleted ns)
  ensure (!deleted) (.notFound s!"Namespace '{ns}' is soft-deleted")

inductive SyncPermission where
  | read
  | write
  deriving Repr, DecidableEq

def SyncPermission.asStr : SyncPermission → String
  | .read => "read"
  | .write => "write"

/-- The checks on a token that was found; a refusal is counted on the token. -/
def checkToken (token : ApiToken) (ns : String) (permission : SyncPermission) : Except AppError Unit :=
  match ensureTokenActive c token (amb.now 0) with
  | .error e => .error e
  | .ok () =>
    if !namespaceMatches ns token.namespacePattern then
      .error (.forbidden s!"Token not authorized for namespace '{ns}'")
    else if !permissionsAllow token.permissions permission.asStr then
      .error (.forbidden s!"Token is missing '{permission.asStr}' permission")
    else .ok ()

def authorizeSyncRequestWithPermission (headers : HeaderMap) (ns : String)
    (permission : SyncPermission) (peer : IpAddr) : Handler ApiToken := do
  ensureNamespaceActive ns
  let token ← extractAuth c headers
  match checkToken c amb token ns permission with
  | .error e => do
    recordTokenFailure token.id
    throw e
  | .ok () => do
    let now := amb.now 1
    runIf (tokenUsageUpdateDue c token now state.tokenUsageWriteIntervalSeconds)
      (dbOr "Failed to update token audit info"
        (.recordTokenUsage token.id ns permission.asStr (resolveClientIp c state headers peer)
          (syncClientVersion headers) (c.toRfc3339 now)))
    pure token

/-- Namespace names: 1 to 128 bytes of alphanumeric characters, dash, underscore, dot. -/
def validateNamespace (ns : String) : Except AppError Unit :=
  if ns.isEmpty || 128 < len ns then
    .error (.badRequest "Namespace must be 1-128 characters")
  else if !(chars ns).all (nameChar c) then
    .error (.badRequest "Namespace may only contain alphanumeric, dash, underscore, dot")
  else .ok ()

def decodeNamespace (raw : String) : Except AppError String :=
  match urlDecode raw with
  | none => .error (.badRequest "Invalid namespace encoding")
  | some decoded => (validateNamespace c decoded).map fun _ => decoded

def validObjectPath (path : String) : Bool :=
  !path.isEmpty && len path ≤ 1024 && !(chars path).any isControl

def decodeObjectPath (raw : String) : Except AppError String :=
  match urlDecode raw with
  | none => .error (.badRequest "Invalid object path encoding")
  | some decoded =>
    if validObjectPath decoded then .ok decoded
    else .error (.badRequest "Object path must be 1-1024 visible characters")

/-! ## Conflicts -/

def mapConditionalWriteError : ConditionalWriteError → AppError
  | .conflict remoteRevision remoteEtag message =>
    .conflict "etag_conflict_detected" message remoteRevision remoteEtag
  | .storage error => .internal ("Database error: " ++ error)
  | .serialization error => .internal ("Serialization error: " ++ error)

structure ConflictObservation where
  «namespace» : String
  operation : String
  objectPath : Option String
  deviceId : Option String
  requestedRevision : Option String
  requestedEtag : Option String

def recordConditionalWriteConflict (observation : ConflictObservation)
    (error : ConditionalWriteError) : Handler Unit :=
  if state.maxSyncConflictRecords = 0 then pure ()
  else match error with
    | .conflict remoteRevision remoteEtag message =>
      dbOr "Failed to record sync conflict" (.addSyncConflict
        { id := amb.newUuid 1
          occurredAt := c.toRfc3339 (amb.now 3)
          «namespace» := observation.namespace
          operation := observation.operation
          objectPath := observation.objectPath
          deviceId := observation.deviceId
          requestedRevision := observation.requestedRevision
          requestedEtag := observation.requestedEtag
          remoteRevision := remoteRevision
          remoteEtag := remoteEtag
          message := message } state.maxSyncConflictRecords)
    | _ => pure ()

def requestEtagForConflict (ifMatch ifNoneMatch : Option String) : Option String :=
  ((ifMatch.or ifNoneMatch).map trim).filter fun value => !value.isEmpty

/-- The conditional write itself: a redb error is one of its own outcomes. -/
def conditionally (write : DbProgram (Except ConditionalWriteError Unit)) :
    Handler (Except ConditionalWriteError Unit) := do
  let result ← write.attempt
  match result with
  | .ok out => pure out
  | .error e => pure (.error (.storage e))

/-! ## Usage snapshots -/

def refreshNamespaceUsage (ns observedAt : String) (softDeleted : Bool) :
    DbProgram NamespaceUsageRecord := do
  let blobBytes : Nat ← redb (.blobSize ns)
  let stats : Nat × Nat × Option String ← redb (.namespaceObjectStats ns)
  let totalBytes := saturatingAdd blobBytes stats.2.1
  let previous : Option NamespaceUsageRecord ← redb (.getNamespaceUsage ns)
  let previousTotal := previous.elim totalBytes (·.totalBytes)
  let usage : NamespaceUsageRecord :=
    { «namespace» := ns
      observedAt := observedAt
      blobBytes := blobBytes
      objectCount := stats.1
      objectBytes := stats.2.1
      totalBytes := totalBytes
      growthBytes := max i64Min (min i64Max ((totalBytes : Int) - previousTotal))
      softDeleted := softDeleted }
  redb (.setNamespaceUsage usage)
  pure usage

def refreshNamespaceUsageIfStale (ns observedAt : String) (softDeleted : Bool)
    (intervalSeconds : Int) : DbProgram (Option NamespaceUsageRecord) :=
  if 0 < intervalSeconds then do
    let usage : Option NamespaceUsageRecord ← redb (.getNamespaceUsage ns)
    let elapsed := usage.bind fun usage =>
      (c.parseFromRfc3339 usage.observedAt).bind fun previous =>
        (c.parseFromRfc3339 observedAt).map fun current => numSeconds (current - previous)
    if elapsed.all fun seconds => intervalSeconds ≤ seconds then
      some <$> refreshNamespaceUsage ns observedAt softDeleted
    else pure none
  else some <$> refreshNamespaceUsage ns observedAt softDeleted

def refreshUsageAfterWrite (ns : String) (now : Instant) : Handler Unit := do
  let _ ← orDatabaseError
    (refreshNamespaceUsageIfStale c ns (c.toRfc3339 now) false state.usageRefreshIntervalSeconds)

def retainMetadataValue {α : Type} (enabled : Bool) (value : Option α) : Option α :=
  if enabled then value else none

/-! ## `/v1/namespaces/{namespace}/metadata` -/

def getMetadata (ns : String) (peer : IpAddr) (headers : HeaderMap) : Handler SyncMetadata := do
  let ns ← liftResult (decodeNamespace c ns)
  let _ ← authorizeSyncRequestWithPermission c state amb headers ns .read peer
  let row : Option SyncMetadata ← db (.getMetadata ns)
  match row with
  | some data => okOr data.fromSlice (.badRequest "JSON error: recursion limit exceeded")
  | none => pure .empty

/-- The record `put_metadata` stores. -/
def metadataFromBody (existing : Option SyncMetadata) (body : MetadataWriteRequest)
    (etag now : String) : SyncMetadata where
  «exists» := true
  format := body.format
  revision := retainMetadataValue state.metadataRetention.storeRevision (some body.revision)
  etag := some etag
  contentHash := retainMetadataValue state.metadataRetention.storeContentHash
    (existing.bind (·.contentHash))
  uploadedAt := retainMetadataValue state.metadataRetention.storeUploadedAt
    (body.uploadedAt.or (some now))
  deviceId := retainMetadataValue state.metadataRetention.storeDeviceId body.deviceId
  contentLength := existing.elim 0 (·.contentLength)
  sectionRevisions := body.sectionRevisions
  sections := body.sections
  contentType := body.contentType
  scope := body.scope

def putMetadata (ns : String) (peer : IpAddr) (headers : HeaderMap) (body : MetadataWriteRequest) :
    Handler WriteResponse := do
  let ns ← liftResult (decodeNamespace c ns)
  let _ ← authorizeSyncRequestWithPermission c state amb headers ns .write peer
  ensureDiskCapacity state amb (256 * 1024)
  let row : Option SyncMetadata ← db (.getMetadata ns)
  let etag := amb.newUuid 0
  let now := amb.now 2
  let data := metadataFromBody state (row.bind (·.fromSlice)) body etag (c.toRfc3339 now)
  db (.setMetadata ns data)
  refreshUsageAfterWrite c state ns now
  pure
    { ok := true
      revision := some body.revision
      etag := some etag
      sectionRevisions := data.sectionRevisions }

/-! ## `/v1/namespaces/{namespace}/blob` -/

structure PayloadResponse where
  contentType : String
  etag : Option String
  body : Bytes
  deriving Repr, DecidableEq

def oxideContentType : String := "application/vnd.oxideterm.oxide"

def getBlob (ns : String) (peer : IpAddr) (headers : HeaderMap) : Handler PayloadResponse := do
  let ns ← liftResult (decodeNamespace c ns)
  let _ ← authorizeSyncRequestWithPermission c state amb headers ns .read peer
  let stored : Option Bytes ← db (.getBlob ns)
  let encryptedBlob ← okOr stored (.notFound "No blob found")
  let blob ← liftResult (decryptIfNeeded c state encryptedBlob)
  let row : Option SyncMetadata ← db (.getMetadata ns)
  let etag := (row.bind (·.fromSlice)).bind (·.etag)
  pure
    { contentType := oxideContentType
      etag := etag.bind parseHeaderValue
      body := blob }

/-- The record `put_blob` stores, with the fields it keeps from the earlier one. -/
def metadataForBlob (existing : Option SyncMetadata) (body : Bytes) (revision deviceId : Option String)
    (sectionRevisions : Option SectionRevisions) (etag now : String) : SyncMetadata where
  «exists» := true
  format := existing.bind (·.format)
  revision := retainMetadataValue state.metadataRetention.storeRevision revision
  etag := some etag
  contentHash := retainMetadataValue state.metadataRetention.storeContentHash
    (some (sha256Hex c body))
  uploadedAt := retainMetadataValue state.metadataRetention.storeUploadedAt (some now)
  deviceId := retainMetadataValue state.metadataRetention.storeDeviceId deviceId
  contentLength := body.length
  sectionRevisions := sectionRevisions
  sections := existing.bind (·.sections)
  contentType := some oxideContentType
  scope := existing.bind (·.scope)

/-- `sectionRevisions` is what `serde_json::from_str` made of the header
`x-oxideterm-section-revisions`, if it is there and parses. -/
def putBlob (ns : String) (peer : IpAddr) (headers : HeaderMap)
    (sectionRevisions : Option SectionRevisions) (body : Bytes) : Handler WriteResponse := do
  let ns ← liftResult (decodeNamespace c ns)
  let _ ← authorizeSyncRequestWithPermission c state amb headers ns .write peer
  ensure (body.length ≤ state.maxBlobSize)
    (.payloadTooLarge s!"Blob size {body.length} exceeds limit {state.maxBlobSize}")
  ensureDiskCapacity state amb body.length
  let row : Option SyncMetadata ← db (.getMetadata ns)
  let ifMatch := headers.getStr "if-match"
  let ifNoneMatch := headers.getStr "if-none-match"
  let revision := headers.getStr "x-oxideterm-revision"
  let deviceId := headers.getStr "x-oxideterm-device-id"
  let encrypted ← liftResult (encryptIfNeeded c state (amb.nonce 0) body)
  let newEtag := amb.newUuid 0
  let data := metadataForBlob c state (row.bind (·.fromSlice)) body revision deviceId
    sectionRevisions newEtag (c.toRfc3339 (amb.now 2))
  let writeResult ← conditionally
    (redb (.putBlobIfMatches ns ifMatch (ifNoneMatch == some "*") encrypted data))
  match writeResult with
  | .error error => do
    recordConditionalWriteConflict c state amb
      { «namespace» := ns
        operation := "blob"
        objectPath := none
        deviceId := deviceId
        requestedRevision := revision
        requestedEtag := requestEtagForConflict ifMatch ifNoneMatch } error
    throw (mapConditionalWriteError error)
  | .ok () => do
    refreshUsageAfterWrite c state ns (amb.now 3)
    pure
      { ok := true
        revision := revision
        etag := some newEtag
        sectionRevisions := sectionRevisions }

/-! ## `/v1/namespaces/{namespace}/objects` -/

structure ObjectListQuery where
  pre : String
  cursor : Option String
  limit : Option Nat

structure ObjectListing where
  paths : List String
  nextCursor : Option String
  deriving Repr, DecidableEq

def ObjectListQuery.effectiveLimit (query : ObjectListQuery) : Nat := query.limit.getD 256

def ObjectListQuery.valid (query : ObjectListQuery) : Bool :=
  let limit := query.effectiveLimit
  (1 ≤ limit && limit ≤ 256) && len query.pre ≤ 1024 && !(chars query.pre).any isControl &&
    query.cursor.all fun cursor =>
      !cursor.isEmpty && len cursor ≤ 1024 && !(chars cursor).any isControl &&
        startsWith cursor query.pre

/-- One path more than the limit is asked for; it only tells that there is a next page. -/
def listingOf (paths : List String) (limit : Nat) : ObjectListing :=
  if limit < paths.length then
    { paths := paths.take limit, nextCursor := (paths.take limit).getLast? }
  else { paths := paths, nextCursor := none }

/-- The part of `list_objects` behind authorization. -/
def listObjectsPage (ns : String) (query : ObjectListQuery) : Handler ObjectListing := do
  ensure query.valid (.badRequest "Invalid object listing parameters")
  let limit := query.effectiveLimit
  let paths : List String ← db (.listObjectPaths ns query.pre query.cursor (limit + 1))
  pure (listingOf paths limit)

def listObjects (ns : String) (peer : IpAddr) (query : ObjectListQuery) (headers : HeaderMap) :
    Handler ObjectListing := do
  let ns ← liftResult (decodeNamespace c ns)
  let _ ← authorizeSyncRequestWithPermission c state amb headers ns .read peer
  listObjectsPage ns query

/-! ## `/v1/namespaces/{namespace}/objects/{*path}` -/

def deleteObject (ns objPath : String) (peer : IpAddr) (headers : HeaderMap) : Handler Unit := do
  let ns ← liftResult (decodeNamespace c ns)
  let _ ← authorizeSyncRequestWithPermission c state amb headers ns .write peer
  let decodedPath ← liftResult (decodeObjectPath objPath)
  let removed : Bool ← db (.deleteObject ns decodedPath)
  runIf removed (refreshUsageAfterWrite c state ns (amb.now 2))

def contentTypeOf (path : String) : String :=
  if endsWith path ".json" then "application/json"
  else if endsWith path ".oxide" then oxideContentType
  else "application/octet-stream"

/-- `none` is the bare 404 answer for a missing object. -/
def getObject (ns objPath : String) (peer : IpAddr) (headers : HeaderMap) :
    Handler (Option PayloadResponse) := do
  let ns ← liftResult (decodeNamespace c ns)
  let _ ← authorizeSyncRequestWithPermission c state amb headers ns .read peer
  let decodedPath ← liftResult (decodeObjectPath objPath)
  let stored : Option Bytes ← db (.getObject ns decodedPath)
  match stored with
  | none => pure none
  | some encrypted => do
    let data ← liftResult (decryptIfNeeded c state encrypted)
    let objectMeta : Option StoredObjectMetadata ← db (.getObjectMetadata ns decodedPath)
    pure (some
      { contentType := contentTypeOf decodedPath
        etag := objectMeta.bind fun m => parseHeaderValue m.etag
        body := data })

def putObject (ns objPath : String) (peer : IpAddr) (headers : HeaderMap) (body : Bytes) :
    Handler String := do
  let ns ← liftResult (decodeNamespace c ns)
  let _ ← authorizeSyncRequestWithPermission c state amb headers ns .write peer
  let decodedPath ← liftResult (decodeObjectPath objPath)
  ensure (body.length ≤ state.maxObjectSize)
    (.payloadTooLarge s!"Object size {body.length} exceeds limit {state.maxObjectSize}")
  ensureDiskCapacity state amb body.length
  let encrypted ← liftResult (encryptIfNeeded c state (amb.nonce 0) body)
  let etag := amb.newUuid 0
  let objectMeta : StoredObjectMetadata := { etag := etag, updatedAt := c.toRfc3339 (amb.now 2) }
  let ifMatch := headers.getStr "if-match"
  let ifNoneMatch := headers.getStr "if-none-match"
  let revision := headers.getStr "x-oxideterm-revision"
  let deviceId := headers.getStr "x-oxideterm-device-id"
  let writeResult ← conditionally (redb
    (.putObjectIfMatches ns decodedPath ifMatch (ifNoneMatch == some "*") encrypted objectMeta))
  match writeResult with
  | .error error => do
    recordConditionalWriteConflict c state amb
      { «namespace» := ns
        operation := "object"
        objectPath := some decodedPath
        deviceId := deviceId
        requestedRevision := revision
        requestedEtag := requestEtagForConflict ifMatch ifNoneMatch } error
    throw (mapConditionalWriteError error)
  | .ok () => do
    refreshUsageAfterWrite c state ns (amb.now 3)
    pure etag

end CloudSync
