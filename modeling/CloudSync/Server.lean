import CloudSync.AdminPanel
import CloudSync.Transactions.Interleaving

/-!
# The server

`Endpoint` is the routing table with the parameters of each route, `handle` the
dispatch, and `ServerRun` any number of requests served at once on one database.
-/

namespace CloudSync

open Rust Transactions Transactions.Fallible

set_option autoImplicit false

inductive Endpoint where
  | getMetadata (ns : String)
  | putMetadata (ns : String) (body : MetadataWriteRequest)
  | getBlob (ns : String)
  | putBlob (ns : String) (sectionRevisions : Option SectionRevisions) (body : Bytes)
  | listObjects (ns : String) (query : ObjectListQuery)
  | deleteObject (ns path : String)
  | getObject (ns path : String)
  | putObject (ns path : String) (body : Bytes)
  | adminLogin (body : LoginRequest)
  | adminLogout
  | adminCurrentUser
  | adminChangeOwnPassword (body : ChangeOwnPasswordRequest)
  | adminListUsers
  | adminCreateUser (body : CreateUserRequest)
  | adminUpdateUser (username : String) (body : UpdateUserRequest)
  | adminDeleteUser (username : String)
  | adminListNamespaces
  | adminCreateNamespace (requested : String)
  | adminDeleteNamespace (ns : String) (hard : Option Bool)
  | adminRestoreNamespace (ns : String)
  | adminListTokens
  | adminCreateToken (body : CreateTokenRequest)
  | adminUpdateToken (id : String) (body : UpdateTokenRequest)
  | adminRotateToken (id : String)
  | adminRevealToken (id : String)
  | adminDeleteToken (id : String)
  | adminListDevices
  | adminCreateDevice (body : CreateDeviceRequest)
  | adminUpdateDevice (id : String) (body : UpdateDeviceRequest)
  | adminDeleteDevice (id : String)
  | adminListConflicts
  | adminStats

structure Request where
  endpoint : Endpoint
  peer : IpAddr
  headers : HeaderMap

inductive Response where
  | done
  | metadata (data : SyncMetadata)
  | written (answer : WriteResponse)
  | payload (answer : PayloadResponse)
  | object (answer : Option PayloadResponse)
  | objectWritten (etag : String)
  | listing (answer : ObjectListing)
  | session (answer : SessionResponse)
  | loggedOut (cookies : List String)
  | adminUser (user : AdminUserSummary)
  | adminUsers (users : List AdminUserSummary)
  | namespaces (infos : List NamespaceInfo)
  | namespaceCreated (ns : String)
  | namespaceDeleted (mode : DeleteMode)
  | tokens (summaries : List TokenSummary)
  | token (summary : TokenSummary)
  | issuedToken (answer : IssuedToken)
  | devices (records : List DeviceRecord)
  | device (record : DeviceRecord)
  | conflicts (records : List SyncConflictRecord)
  | stats (answer : AdminStats)

variable (c : Crates) (state : AppState)

def handle (amb : Ambient) (r : Request) : Handler Response :=
  let headers := r.headers
  match r.endpoint with
  | .getMetadata ns => do return .metadata (← getMetadata c state amb ns r.peer headers)
  | .putMetadata ns body => do
    return .written (← putMetadata c state amb ns r.peer headers body)
  | .getBlob ns => do return .payload (← getBlob c state amb ns r.peer headers)
  | .putBlob ns sectionRevisions body => do
    return .written (← putBlob c state amb ns r.peer headers sectionRevisions body)
  | .listObjects ns query => do
    return .listing (← listObjects c state amb ns r.peer query headers)
  | .deleteObject ns path => do
    let _ ← deleteObject c state amb ns path r.peer headers
    return .done
  | .getObject ns path => do return .object (← getObject c state amb ns path r.peer headers)
  | .putObject ns path body => do
    return .objectWritten (← putObject c state amb ns path r.peer headers body)
  | .adminLogin body => do return .session (← adminLogin c state amb r.peer headers body)
  | .adminLogout => do return .loggedOut (← adminLogout c state amb headers)
  | .adminCurrentUser => do return .adminUser (← adminCurrentUser c state amb headers)
  | .adminChangeOwnPassword body => do
    return .session (← adminChangeOwnPassword c state amb headers body)
  | .adminListUsers => do return .adminUsers (← adminListUsers c state amb headers)
  | .adminCreateUser body => do return .adminUser (← adminCreateUser c state amb headers body)
  | .adminUpdateUser username body => do
    return .adminUser (← adminUpdateUser c state amb username headers body)
  | .adminDeleteUser username => do
    let _ ← adminDeleteUser c state amb username headers
    return .done
  | .adminListNamespaces => do return .namespaces (← adminListNamespaces c state amb headers)
  | .adminCreateNamespace requested => do
    return .namespaceCreated (← adminCreateNamespace c state amb headers requested)
  | .adminDeleteNamespace ns hard => do
    return .namespaceDeleted (← adminDeleteNamespace c state amb ns hard headers)
  | .adminRestoreNamespace ns => do
    let _ ← adminRestoreNamespace c state amb ns headers
    return .done
  | .adminListTokens => do return .tokens (← adminListTokens c state amb headers)
  | .adminCreateToken body => do return .issuedToken (← adminCreateToken c state amb headers body)
  | .adminUpdateToken id body => do
    return .token (← adminUpdateToken c state amb id headers body)
  | .adminRotateToken id => do return .issuedToken (← adminRotateToken c state amb id headers)
  | .adminRevealToken id => do return .issuedToken (← adminRevealToken c state amb id headers)
  | .adminDeleteToken id => do
    let _ ← adminDeleteToken c state amb id headers
    return .done
  | .adminListDevices => do return .devices (← adminListDevices c state amb headers)
  | .adminCreateDevice body => do
    return .device (← adminCreateDevice c state amb headers body)
  | .adminUpdateDevice id body => do
    return .device (← adminUpdateDevice c state amb id headers body)
  | .adminDeleteDevice id => do
    let _ ← adminDeleteDevice c state amb id headers
    return .done
  | .adminListConflicts => do return .conflicts (← adminListConflicts c state amb headers)
  | .adminStats => do return .stats (← adminStats c state amb headers)

/-! ## Requests served at once -/

/-- Request `i` and what it reads from its surroundings. -/
structure Traffic where
  request : Nat → Request
  ambient : Nat → Ambient

abbrev Answer := Except AppError Response

def Traffic.program (t : Traffic) (i : Nat) : Program databaseSignature Answer :=
  (handle c state (t.ambient i) (t.request i)).run

abbrev DbEvent := Event databaseSignature Db

abbrev ServerRun (t : Traffic) (start : Db) :
    List DbEvent → Db → (Nat → Program databaseSignature Answer) → Prop :=
  Run (S := databaseSignature) (DbCall.exec c) start (t.program c state)

/-- The random identifiers drawn while the requests are served are all different. -/
structure Traffic.FreshUuids (t : Traffic) : Prop where
  distinct : ∀ i k j l, (t.ambient i).newUuid k = (t.ambient j).newUuid l → i = j ∧ k = l
  nonempty : ∀ i k, (t.ambient i).newUuid k ≠ ""

/-! ## Starting up (`main.rs`) -/

/-- The record the bootstrap stores; `unchanged` is whether `ADMIN_PASSWORD` is the stored one. -/
def bootstrapUser (existing : Option AdminUserRecord) (unchanged : Bool)
    (username passwordHash now passwordUpdatedAt : String) : AdminUserRecord where
  username := username
  passwordHash := passwordHash
  role := existing.elim "admin" (·.role)
  sessionVersion := existing.elim 0 fun user =>
    if unchanged then user.sessionVersion else saturatingAdd user.sessionVersion 1
  enabled := true
  createdAt := existing.elim now (·.createdAt)
  updatedAt := now
  lastLoginAt := existing.bind (·.lastLoginAt)
  lastLoginIp := none
  failedLoginCount := 0
  lastFailedLoginAt := none
  passwordUpdatedAt := if unchanged then existing.bind (·.passwordUpdatedAt) else some passwordUpdatedAt
  disabledAt := none

/-- Write the account of `ADMIN_USERNAME` before the server listens. -/
def bootstrapAdmin (amb : Ambient) (adminUsername adminPassword : String) : Handler Unit := do
  let username := trim adminUsername
  ensure (!username.isEmpty) (.panicked "ADMIN_USERNAME must not be empty")
  let existing : Option AdminUserRecord ← (redb (.getAdminUser username)).mapError fun e : String =>
    AppError.panicked ("Failed to read admin user: " ++ e)
  let stored := (existing.filter fun user => verifyAdminPassword c adminPassword user.passwordHash)
  let passwordHash ← match stored with
    | some user => pure user.passwordHash
    | none => (hashAdminPassword c (amb.salt 0) adminPassword).mapError fun _ =>
      .panicked "Failed to hash admin password"
  (redb (.setAdminUser (bootstrapUser existing stored.isSome username passwordHash
    (c.toRfc3339 (amb.now 0)) (c.toRfc3339 (amb.now 1))))).mapError fun e : String =>
      AppError.panicked ("Failed to bootstrap admin user: " ++ e)

end CloudSync
