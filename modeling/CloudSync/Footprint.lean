import CloudSync.Server

/-!
# What a request can write

The tables fall into three areas that handlers write with values of their own;
all other calls only read or keep statistics. A request writes in at most one
area, and which one its route tells.
-/

namespace CloudSync

open Rust Transactions Transactions.Fallible

set_option autoImplicit false

inductive Area where
  | data
  | tokens
  | users
  deriving Repr, DecidableEq

/-- Reads of the payload tables and of their metadata count as well: what a
handler writes there depends on what it read. -/
@[simp] def DbCall.area : DbCall → Option Area
  | .getMetadata _ | .setMetadata .. | .getBlob _ | .putBlobIfMatches .. | .deleteObject .. => some .data
  | .getObject .. | .getObjectMetadata .. | .putObjectIfMatches .. => some .data
  | .hardDeleteNamespace _ => some .data
  | .setToken _ | .deleteToken _ | .setDevice _ | .deleteDevice _ => some .tokens
  | .setAdminUser _ | .deleteAdminUser _ => some .users
  | _ => none

def Endpoint.area : Endpoint → Option Area
  | .getMetadata _ | .putMetadata .. | .getBlob _ | .putBlob .. => some .data
  | .deleteObject .. | .getObject .. | .putObject .. => some .data
  | .adminListNamespaces | .adminCreateNamespace _ | .adminDeleteNamespace .. => some .data
  | .adminCreateToken _ | .adminUpdateToken .. | .adminRotateToken _ | .adminDeleteToken _ =>
    some .tokens
  | .adminCreateDevice _ | .adminUpdateDevice .. | .adminDeleteDevice _ => some .tokens
  | .adminLogin _ | .adminChangeOwnPassword _ | .adminCreateUser _ => some .users
  | .adminUpdateUser .. | .adminDeleteUser _ => some .users
  | _ => none

/-- The call stays in the area, or belongs to none. -/
@[simp] def Within (area : Option Area) (call : DbCall) : Prop := call.area = none ∨ call.area = area

theorem within_of_none {area : Option Area} {call : DbCall} (h : call.area = none) :
    Within area call := .inl h

theorem Within.weaken {area : Option Area} {call : DbCall} (h : Within none call) :
    Within area call := .inl (h.elim id id)

/-- Usage snapshots, tombstones and the use of tokens: what is kept about namespaces and tokens
besides their contents. -/
@[simp] def DbCall.keepsBooks : DbCall → Bool
  | .setNamespaceUsage _ | .softDeleteNamespace .. | .restoreNamespace _ => true
  | .recordTokenUsage .. | .recordTokenFailure _ => true
  | _ => false

/-- The call stays in the area and leaves the books about namespaces and tokens alone. -/
@[simp] def PanelCall (area : Option Area) (call : DbCall) : Prop :=
  Within area call ∧ call.keepsBooks = false

section Calls
variable {P : DbCall → Prop} {area : Option Area}

theorem calls_orDatabaseError {α : Type} {x : DbProgram α} (h : Calls P x) :
    Calls P (orDatabaseError x) := h.mapError _

/-- What stays outside all areas stays within any. -/
theorem calls_weaken {α ε : Type} {x : Fallible databaseSignature ε α} (h : Calls (Within none) x) :
    Calls (Within area) x := Program.Calls.mono (fun _ => Within.weaken) h

theorem panel_weaken {α ε : Type} {x : Fallible databaseSignature ε α}
    (h : Calls (PanelCall none) x) : Calls (PanelCall area) x :=
  Program.Calls.mono (fun _ hcall => ⟨hcall.1.weaken, hcall.2⟩) h

end Calls

variable {c : Crates} {state : AppState} {amb : Ambient}

/-! ## Shared parts -/

section Shared

section Credentials
variable {P : DbCall → Prop} (hhash : ∀ tokenHash, P (.getTokenIdByHash tokenHash))
  (hget : ∀ id, P (.getToken id))
include hhash hget

theorem getTokenByHash_reads (tokenHash : String) : Calls P (getTokenByHash tokenHash) := by
  refine .bind (by simp [hhash]) fun found => ?_
  cases found with
  | none => trivial
  | some id => simp [hget]

theorem extractAuth_reads (headers : HeaderMap) : Calls P (extractAuth c headers) :=
  .bind (by simp) fun _ => .bind ((getTokenByHash_reads hhash hget _).mapError _) fun _ => by simp

/-- An authorization looks at the tombstone and the token, and counts on the token. -/
theorem authorize_reads (headers : HeaderMap) (ns : String) (permission : SyncPermission)
    (peer : IpAddr) (hdeleted : P (.isNamespaceDeleted ns))
    (hfailure : ∀ id, P (.recordTokenFailure id))
    (husage : ∀ id clientIp version observedAt,
      P (.recordTokenUsage id ns permission.asStr clientIp version observedAt)) :
    Calls P (authorizeSyncRequestWithPermission c state amb headers ns permission peer) := by
  refine .bind (.bind (by simp [hdeleted]) fun _ => by simp) fun _ =>
    .bind (extractAuth_reads hhash hget headers) fun token => ?_
  cases checkToken c amb token ns permission with
  | error e => exact .bind (by simp [recordTokenFailure, hfailure]) fun _ => by simp
  | ok _ => exact .bind (by simp [husage]) fun _ => by simp

end Credentials

theorem extractAuth_calls (headers : HeaderMap) : Calls (Within none) (extractAuth c headers) :=
  extractAuth_reads (by simp) (by simp) headers

theorem authorize_calls (headers : HeaderMap) (ns : String) (permission : SyncPermission)
    (peer : IpAddr) :
    Calls (Within none)
      (authorizeSyncRequestWithPermission c state amb headers ns permission peer) :=
  authorize_reads (by simp) (by simp) headers ns permission peer (by simp) (by simp) (by simp)

theorem ensureDiskCapacity_calls (P : DbCall → Prop) (incomingBytes : Nat) :
    Calls P (ensureDiskCapacity state amb incomingBytes) := by
  unfold ensureDiskCapacity
  split
  · trivial
  · cases amb.diskFreeBytes with
    | none => trivial
    | some freeBytes => exact calls_ensure _ _

theorem refreshNamespaceUsage_calls (ns observedAt : String) (softDeleted : Bool) :
    Calls (Within none) (refreshNamespaceUsage ns observedAt softDeleted) :=
  .bind (by simp) fun _ => .bind (by simp) fun _ =>
    .bind (by simp) fun _ => .bind (by simp) fun _ =>
      by simp

theorem calls_map {P : DbCall → Prop} {ε α β : Type} {f : α → β}
    {x : Fallible databaseSignature ε α} (h : Calls P x) : Calls P (f <$> x) :=
  Program.Calls.bind h fun r => by cases r <;> trivial

theorem refreshNamespaceUsageIfStale_calls (ns observedAt : String) (softDeleted : Bool)
    (intervalSeconds : Int) :
    Calls (Within none)
      (refreshNamespaceUsageIfStale c ns observedAt softDeleted intervalSeconds) := by
  unfold refreshNamespaceUsageIfStale
  have h := refreshNamespaceUsage_calls ns observedAt softDeleted
  refine .ite (.bind (by simp) fun _ => .ite ?_ (by simp)) ?_
  · exact calls_map h
  · exact calls_map h

theorem refreshUsageAfterWrite_calls (ns : String) (now : Instant) :
    Calls (Within none) (refreshUsageAfterWrite c state ns now) :=
  .bind (calls_orDatabaseError (refreshNamespaceUsageIfStale_calls _ _ _ _)) fun _ => by simp

theorem recordConditionalWriteConflict_calls (observation : ConflictObservation)
    (error : ConditionalWriteError) :
    Calls (Within none) (recordConditionalWriteConflict c state amb observation error) := by
  unfold recordConditionalWriteConflict
  refine .ite (by simp) ?_
  cases error <;> simp

theorem conditionally_calls {P : DbCall → Prop}
    {write : DbProgram (Except ConditionalWriteError Unit)} (h : Calls P write) :
    Calls P (conditionally write) := by
  refine .bind h.attempt fun result => ?_
  cases result <;> simp

/-- A session is checked against the admin users alone. -/
theorem validateAdminSession_reads {P : DbCall → Prop} (h : ∀ username, P (.getAdminUser username))
    (headers : HeaderMap) (now : Instant) : Calls P (validateAdminSession c state headers now) :=
  .bind (by simp) fun _ => .bind (by simp) fun _ => .bind (by simp) fun claims =>
    .bind (by simp [h]) fun _ => .bind (by simp) fun _ => .bind (by simp) fun _ =>
      .bind (by simp) fun _ => by simp

theorem verifyAdmin_reads {P : DbCall → Prop} (h : ∀ username, P (.getAdminUser username))
    (headers : HeaderMap) (now : Instant) : Calls P (verifyAdmin c state headers now) :=
  .bind (validateAdminSession_reads h _ _) fun _ => by simp

theorem verifyAdminMutation_reads {P : DbCall → Prop} (h : ∀ username, P (.getAdminUser username))
    (headers : HeaderMap) (now : Instant) : Calls P (verifyAdminMutation c state headers now) :=
  .bind (verifyAdmin_reads h _ _) fun _ => by simp

theorem validateAdminSession_calls (headers : HeaderMap) (now : Instant) :
    Calls (Within none) (validateAdminSession c state headers now) :=
  validateAdminSession_reads (by simp) _ _

theorem verifyAdmin_calls (headers : HeaderMap) (now : Instant) :
    Calls (Within none) (verifyAdmin c state headers now) := verifyAdmin_reads (by simp) _ _

theorem verifyAdminMutation_calls (headers : HeaderMap) (now : Instant) :
    Calls (Within none) (verifyAdminMutation c state headers now) :=
  verifyAdminMutation_reads (by simp) _ _

end Shared

/-! ## The sync API -/

section SyncApi
variable (ns path : String) (peer : IpAddr) (headers : HeaderMap)

theorem getMetadata_calls :
    Calls (Within (some .data)) (getMetadata c state amb ns peer headers) :=
  .bind (by simp) fun _ => .bind (calls_weaken (authorize_calls ..)) fun _ =>
    .bind (by simp) fun row => by cases row <;> simp

theorem putMetadata_calls (body : MetadataWriteRequest) :
    Calls (Within (some .data)) (putMetadata c state amb ns peer headers body) :=
  .bind (by simp) fun _ => .bind (calls_weaken (authorize_calls ..)) fun _ =>
    .bind (ensureDiskCapacity_calls _ _) fun _ => .bind (by simp) fun _ => .bind (by simp) fun _ =>
      .bind (calls_weaken (refreshUsageAfterWrite_calls ..)) fun _ => by simp

theorem getBlob_calls : Calls (Within (some .data)) (getBlob c state amb ns peer headers) :=
  .bind (by simp) fun _ => .bind (calls_weaken (authorize_calls ..)) fun _ =>
    .bind (by simp) fun _ => .bind (by simp) fun _ => .bind (by simp) fun _ =>
      .bind (by simp) fun _ => by simp

theorem putBlob_calls (sectionRevisions : Option SectionRevisions) (body : Bytes) :
    Calls (Within (some .data)) (putBlob c state amb ns peer headers sectionRevisions body) := by
  refine .bind (by simp) fun _ => .bind (calls_weaken (authorize_calls ..)) fun _ =>
    .bind (by simp) fun _ => .bind (ensureDiskCapacity_calls _ _) fun _ => .bind (by simp) fun _ =>
      .bind (by simp) fun _ => .bind (conditionally_calls (by simp)) fun result => ?_
  cases result with
  | error e => exact .bind (calls_weaken (recordConditionalWriteConflict_calls ..)) fun _ => by simp
  | ok _ => exact .bind (calls_weaken (refreshUsageAfterWrite_calls ..)) fun _ => by simp

theorem listObjects_calls (query : ObjectListQuery) :
    Calls (Within none) (listObjects c state amb ns peer query headers) :=
  .bind (by simp) fun _ => .bind (authorize_calls ..) fun _ =>
    .bind (by simp) fun _ => .bind (by simp) fun _ => by simp

theorem deleteObject_calls :
    Calls (Within (some .data)) (deleteObject c state amb ns path peer headers) :=
  .bind (by simp) fun _ => .bind (calls_weaken (authorize_calls ..)) fun _ =>
    .bind (by simp) fun _ => .bind (by simp) fun _ =>
      calls_runIf.mpr fun _ => calls_weaken (refreshUsageAfterWrite_calls ..)

theorem getObject_calls :
    Calls (Within (some .data)) (getObject c state amb ns path peer headers) := by
  refine .bind (by simp) fun _ => .bind (calls_weaken (authorize_calls ..)) fun _ =>
    .bind (by simp) fun _ => .bind (by simp) fun stored => ?_
  cases stored with
  | none => trivial
  | some encrypted => exact .bind (by simp) fun _ => .bind (by simp) fun _ => by simp

theorem putObject_calls (body : Bytes) :
    Calls (Within (some .data)) (putObject c state amb ns path peer headers body) := by
  refine .bind (by simp) fun _ => .bind (calls_weaken (authorize_calls ..)) fun _ =>
    .bind (by simp) fun _ => .bind (by simp) fun _ => .bind (ensureDiskCapacity_calls _ _) fun _ =>
      .bind (by simp) fun _ => .bind (conditionally_calls (by simp)) fun result => ?_
  cases result with
  | error e => exact .bind (calls_weaken (recordConditionalWriteConflict_calls ..)) fun _ => by simp
  | ok _ => exact .bind (calls_weaken (refreshUsageAfterWrite_calls ..)) fun _ => by simp

end SyncApi

/-! ## The admin panel -/

section AdminPanel
variable (headers : HeaderMap)

theorem ensureLoginAllowed_calls (ip : IpAddr) (now : Instant) :
    Calls (PanelCall none) (ensureLoginAllowed c state ip now) := by
  refine .bind (by simp) fun _ => .bind (by simp) fun attempt => ?_
  cases (attempt.bind (·.blockedUntil)).bind c.parseFromRfc3339 <;> simp

theorem recordLoginFailure_calls (ip : IpAddr) (now : Instant) :
    Calls (PanelCall none) (recordLoginFailure c state ip now) :=
  .bind (by simp) fun _ => .bind (by simp) fun _ => .bind (by simp) fun _ => by simp

theorem recordUserLoginFailure_calls (user : AdminUserRecord) (failedAt updatedAt : Instant) :
    Calls (PanelCall (some .users)) (recordUserLoginFailure c user failedAt updatedAt) := by
  simp [recordUserLoginFailure]

theorem hashNewPassword_calls {P : DbCall → Prop} (password : Option String) :
    Calls P (hashNewPassword c amb password) := by
  cases password with
  | none => trivial
  | some password =>
    exact .bind (by simp [ensurePasswordLength]) fun _ => .bind (by simp [hashAdminPassword]) fun _ =>
      by simp

theorem ensureOtherEnabledAdmin_calls (message : String) :
    Calls (PanelCall none) (ensureOtherEnabledAdmin message) :=
  .bind (.bind (by simp) fun _ => by simp) fun _ => by simp

theorem adminLogin_calls (peer : IpAddr) (body : LoginRequest) :
    Calls (PanelCall (some .users)) (adminLogin c state amb peer headers body) := by
  refine .bind (panel_weaken (ensureLoginAllowed_calls _ _)) fun _ => .bind (by simp) fun _ =>
    .bind (by simp) fun found => ?_
  cases found with
  | none => exact .bind (panel_weaken (recordLoginFailure_calls ..)) fun _ => by simp
  | some user =>
    refine .ite (.bind (recordUserLoginFailure_calls ..) fun _ =>
      .bind (panel_weaken (recordLoginFailure_calls ..)) fun _ => by simp) ?_
    exact .bind (by simp [clearLoginFailures]) fun _ => .bind (by simp) fun _ =>
      .bind (by simp [createAdminJwtForUser]) fun _ => .bind (by simp) fun _ =>
        .bind (by simp) fun _ => by simp

theorem adminLogout_calls : Calls (PanelCall none) (adminLogout c state amb headers) :=
  .bind (verifyAdminMutation_reads (by simp) ..) fun _ => by simp

theorem adminCurrentUser_calls : Calls (PanelCall none) (adminCurrentUser c state amb headers) :=
  .bind (validateAdminSession_reads (by simp) ..) fun _ => .bind (by simp) fun _ => .bind (by simp) fun _ =>
    by simp

theorem adminChangeOwnPassword_calls (body : ChangeOwnPasswordRequest) :
    Calls (PanelCall (some .users)) (adminChangeOwnPassword c state amb headers body) := by
  refine .bind (verifyAdminMutation_reads (by simp) ..) fun _ =>
    .bind (ensureDiskCapacity_calls _ _) fun _ =>
    .bind (validateAdminSession_reads (by simp) ..) fun _ =>
    .bind (by simp [ensurePasswordLength]) fun _ => .bind (by simp) fun _ =>
    .bind (by simp) fun user => ?_
  refine .ite (.bind (recordUserLoginFailure_calls ..) fun _ => by simp) ?_
  exact .bind (by simp [hashAdminPassword]) fun _ => .bind (by simp) fun _ =>
    .bind (by simp [createAdminJwtForUser]) fun _ => .bind (by simp) fun _ => by simp

theorem adminListUsers_calls : Calls (PanelCall none) (adminListUsers c state amb headers) :=
  .bind (verifyAdmin_reads (by simp) ..) fun _ => .bind (by simp) fun _ => by simp

theorem adminCreateUser_calls (body : CreateUserRequest) :
    Calls (PanelCall (some .users)) (adminCreateUser c state amb headers body) :=
  .bind (verifyAdminMutation_reads (by simp) ..) fun _ =>
    .bind (ensureDiskCapacity_calls _ _) fun _ =>
    .bind (validateAdminSession_reads (by simp) ..) fun _ =>
    .bind (by simp) fun _ => .bind (by simp [ensurePasswordLength]) fun _ =>
    .bind (by simp) fun _ => .bind (by simp) fun _ => .bind (by simp [hashAdminPassword]) fun _ =>
    .bind (by simp) fun _ => by simp

theorem adminUpdateUser_calls (username : String) (body : UpdateUserRequest) :
    Calls (PanelCall (some .users)) (adminUpdateUser c state amb username headers body) :=
  .bind (verifyAdminMutation_reads (by simp) ..) fun _ =>
    .bind (ensureDiskCapacity_calls _ _) fun _ =>
    .bind (validateAdminSession_reads (by simp) ..) fun _ =>
    .bind (by simp) fun _ => .bind (by simp) fun _ => .bind (by simp) fun _ =>
    .bind (hashNewPassword_calls _) fun _ =>
    .bind (calls_runIf.mpr fun _ => panel_weaken (ensureOtherEnabledAdmin_calls _)) fun _ =>
    .bind (by simp) fun _ => by simp

theorem adminDeleteUser_calls (username : String) :
    Calls (PanelCall (some .users)) (adminDeleteUser c state amb username headers) :=
  .bind (verifyAdminMutation_reads (by simp) ..) fun _ =>
    .bind (validateAdminSession_reads (by simp) ..) fun _ =>
    .bind (by simp) fun _ => .bind (by simp) fun _ => .bind (by simp) fun _ =>
    .bind (calls_runIf.mpr fun _ => panel_weaken (ensureOtherEnabledAdmin_calls _)) fun _ => by simp

theorem calls_mapM {P : DbCall → Prop} {α β : Type} {f : α → Handler β} (hf : ∀ a, Calls P (f a))
    (l : List α) : Calls P (l.mapM f) := by
  induction l with
  | nil => trivial
  | cons a l ih =>
    rw [List.mapM_cons]
    exact .bind (hf a) fun _ => .bind ih fun _ => by simp

theorem namespaceInfo_calls (ns : String) (deleted : Option DeletedNamespaceRecord) :
    Calls (PanelCall (some .data)) (namespaceInfo c ns deleted) :=
  .bind (by simp) fun _ => .bind (by simp) fun _ => .bind (by simp) fun _ =>
    .bind (by simp) fun _ => by simp

theorem adminListNamespaces_calls :
    Calls (PanelCall (some .data)) (adminListNamespaces c state amb headers) :=
  .bind (verifyAdmin_reads (by simp) ..) fun _ => .bind (by simp) fun _ =>
    .bind (calls_mapM (fun _ => namespaceInfo_calls _ _) _) fun _ => .bind (by simp) fun _ =>
    .bind (calls_mapM (fun _ => namespaceInfo_calls _ _) _) fun _ => by simp

theorem adminCreateNamespace_calls (requested : String) :
    Calls (PanelCall (some .data)) (adminCreateNamespace c state amb headers requested) :=
  .bind (verifyAdminMutation_reads (by simp) ..) fun _ =>
    .bind (ensureDiskCapacity_calls _ _) fun _ => .bind (by simp) fun _ => .bind (by simp) fun _ =>
    .bind (by simp) fun _ => .bind (by simp) fun _ => .bind (by simp) fun _ => .bind (by simp) fun _ =>
    .bind (by simp) fun _ => .bind (by simp) fun _ => by simp

theorem adminDeleteNamespace_calls (ns : String) (hard : Option Bool) :
    Calls (Within (some .data)) (adminDeleteNamespace c state amb ns hard headers) := by
  refine .bind (calls_weaken (verifyAdminMutation_calls ..)) fun _ => .ite ?_ ?_
  · exact .bind (by simp) fun _ => by simp
  · exact .bind (by simp) fun _ => .bind (by simp) fun _ => .bind (by simp) fun _ =>
      .bind (calls_runIf.mpr fun _ => .bind (by simp) fun _ => by simp) fun _ =>
      .bind (ensureDiskCapacity_calls _ _) fun _ => .bind (by simp) fun _ =>
      .bind (calls_weaken (calls_orDatabaseError (refreshNamespaceUsage_calls ..))) fun _ => by simp

theorem adminRestoreNamespace_calls (ns : String) :
    Calls (Within none) (adminRestoreNamespace c state amb ns headers) :=
  .bind (verifyAdminMutation_calls ..) fun _ => .bind (ensureDiskCapacity_calls _ _) fun _ =>
    .bind (by simp) fun _ => .bind (by simp) fun _ => .bind (by simp) fun _ =>
    .bind (calls_orDatabaseError (refreshNamespaceUsage_calls ..)) fun _ => by simp

theorem adminListTokens_calls : Calls (PanelCall none) (adminListTokens c state amb headers) :=
  .bind (verifyAdmin_reads (by simp) ..) fun _ => .bind (by simp) fun _ => by simp

section Devices
variable {P : DbCall → Prop} (hget : ∀ id, P (.getDevice id)) (hset : ∀ device, P (.setDevice device))
include hget

theorem ensureDeviceExists_calls (deviceId : Option String) : Calls P (ensureDeviceExists deviceId) :=
  calls_ifSome.mpr fun _ _ => .bind (by simp [hget]) fun _ => by simp

include hset

theorem relinkDevice_calls (deviceId : String) (applies : DeviceRecord → Bool)
    (tokenId : Option String) (now : Instant) : Calls P (relinkDevice c deviceId applies tokenId now) :=
  .bind (by simp [hget]) fun _ => by simp [hset]

theorem moveDeviceLink_calls (tokenId : String) (oldDeviceId nextDeviceId : Option String) :
    Calls P (moveDeviceLink c amb tokenId oldDeviceId nextDeviceId) :=
  calls_runIf.mpr fun _ => .bind (calls_ifSome.mpr fun _ _ => relinkDevice_calls hget hset ..)
    fun _ => calls_ifSome.mpr fun _ _ => relinkDevice_calls hget hset ..

theorem changeTokenDevice_calls (token : ApiToken) (requested : Option (Option String)) :
    Calls P (changeTokenDevice c amb token requested) := by
  cases requested with
  | none => trivial
  | some requested =>
    exact .bind (ensureDeviceExists_calls hget _) fun _ =>
      .bind (moveDeviceLink_calls hget hset ..) fun _ => by simp

end Devices

theorem adminCreateToken_calls (body : CreateTokenRequest) :
    Calls (PanelCall (some .tokens)) (adminCreateToken c state amb headers body) :=
  .bind (verifyAdminMutation_reads (by simp) ..) fun _ =>
    .bind (ensureDiskCapacity_calls _ _) fun _ => .bind (by simp) fun _ => .bind (by simp) fun _ =>
    .bind (by simp [encryptToken]) fun _ => .bind (by simp) fun _ =>
    .bind (ensureDeviceExists_calls (by simp) _) fun _ => .bind (by simp) fun _ =>
    .bind (calls_ifSome.mpr fun _ _ => relinkDevice_calls (by simp) (by simp) ..) fun _ => by simp

theorem adminUpdateToken_calls (id : String) (body : UpdateTokenRequest) :
    Calls (PanelCall (some .tokens)) (adminUpdateToken c state amb id headers body) :=
  .bind (verifyAdminMutation_reads (by simp) ..) fun _ =>
    .bind (ensureDiskCapacity_calls _ _) fun _ => .bind (by simp) fun _ => .bind (by simp) fun _ =>
    .bind (by simp) fun _ => .bind (changeTokenDevice_calls (by simp) (by simp) ..) fun _ =>
    .bind (by simp) fun _ => by simp

theorem adminRotateToken_calls (id : String) :
    Calls (PanelCall (some .tokens)) (adminRotateToken c state amb id headers) :=
  .bind (verifyAdminMutation_reads (by simp) ..) fun _ =>
    .bind (ensureDiskCapacity_calls _ _) fun _ => .bind (by simp) fun _ => .bind (by simp) fun _ =>
    .bind (by simp [encryptToken]) fun _ => .bind (by simp) fun _ => by simp

theorem adminRevealToken_calls (id : String) :
    Calls (PanelCall none) (adminRevealToken c state amb id headers) :=
  .bind (verifyAdminMutation_reads (by simp) ..) fun _ => .bind (by simp) fun _ => .bind (by simp) fun _ =>
    .bind (by simp) fun _ => .bind (by simp) fun _ => .bind (by simp) fun _ => .bind (by simp) fun _ =>
    by simp

theorem adminDeleteToken_calls (id : String) :
    Calls (PanelCall (some .tokens)) (adminDeleteToken c state amb id headers) :=
  .bind (verifyAdminMutation_reads (by simp) ..) fun _ => .bind (by simp) fun _ =>
    .bind (Calls.forM fun _ => by simp) fun _ => by simp

theorem setTokenDeviceLink_calls (oldTokenId newTokenId : Option String) (deviceId : String) :
    Calls (PanelCall (some .tokens)) (setTokenDeviceLink oldTokenId newTokenId deviceId) :=
  calls_runIf.mpr fun _ => .bind (calls_ifSome.mpr fun _ _ => .bind (by simp) fun _ => by simp)
    fun _ => calls_ifSome.mpr fun _ _ => .bind (by simp) fun _ => .bind (by simp) fun _ => by simp

theorem adminListDevices_calls : Calls (PanelCall none) (adminListDevices c state amb headers) :=
  .bind (verifyAdmin_reads (by simp) ..) fun _ => .bind (by simp) fun _ => by simp

theorem ensureTokenExists_calls (tokenId : Option String) :
    Calls (PanelCall none) (ensureTokenExists tokenId) :=
  calls_ifSome.mpr fun _ _ => .bind (by simp) fun _ => by simp

theorem adminCreateDevice_calls (body : CreateDeviceRequest) :
    Calls (PanelCall (some .tokens)) (adminCreateDevice c state amb headers body) :=
  .bind (verifyAdminMutation_reads (by simp) ..) fun _ =>
    .bind (ensureDiskCapacity_calls _ _) fun _ => .bind (by simp [ensureDeviceName]) fun _ =>
    .bind (by simp [ensurePatternValid]) fun _ =>
    .bind (panel_weaken (ensureTokenExists_calls _)) fun _ => .bind (by simp) fun _ =>
    .bind (setTokenDeviceLink_calls ..) fun _ => by simp

theorem adminUpdateDevice_calls (id : String) (body : UpdateDeviceRequest) :
    Calls (PanelCall (some .tokens)) (adminUpdateDevice c state amb id headers body) :=
  .bind (verifyAdminMutation_reads (by simp) ..) fun _ =>
    .bind (ensureDiskCapacity_calls _ _) fun _ => .bind (by simp) fun _ => .bind (by simp) fun _ =>
    .bind (by simp [ensureDeviceName]) fun _ => .bind (by simp [ensurePatternValid]) fun _ =>
    .bind (calls_runIf.mpr fun _ => panel_weaken (ensureTokenExists_calls _)) fun _ =>
    .bind (by simp) fun _ => .bind (setTokenDeviceLink_calls ..) fun _ => by simp

theorem adminDeleteDevice_calls (id : String) :
    Calls (PanelCall (some .tokens)) (adminDeleteDevice c state amb id headers) :=
  .bind (verifyAdminMutation_reads (by simp) ..) fun _ => .bind (by simp) fun _ =>
    .bind (by simp) fun _ => .bind (setTokenDeviceLink_calls ..) fun _ => by simp

theorem adminListConflicts_calls : Calls (PanelCall none) (adminListConflicts c state amb headers) :=
  .bind (verifyAdmin_reads (by simp) ..) fun _ => by simp

theorem namespaceTotalBytes_calls (ns : String) : Calls (PanelCall none) (namespaceTotalBytes ns) := by
  refine .bind (by simp) fun usage => ?_
  cases usage with
  | some usage => trivial
  | none => exact .bind (by simp) fun _ => .bind (by simp) fun _ => by simp

theorem adminStats_calls : Calls (PanelCall none) (adminStats c state amb headers) :=
  .bind (verifyAdmin_reads (by simp) ..) fun _ => .bind (by simp) fun _ => .bind (by simp) fun _ =>
    .bind (by simp) fun _ => .bind (by simp) fun _ => .bind (by simp) fun _ => .bind (by simp) fun _ =>
    .bind (Calls.attempt (by simp)) fun _ =>
    .bind (calls_mapM namespaceTotalBytes_calls _) fun _ => by simp

end AdminPanel

/-- The requests of the panel, but for those that keep the books. -/
def Endpoint.leavesBooks : Endpoint → Bool
  | .getMetadata _ | .putMetadata .. | .getBlob _ | .putBlob .. => false
  | .listObjects .. | .deleteObject .. | .getObject .. | .putObject .. => false
  | .adminDeleteNamespace .. | .adminRestoreNamespace _ => false
  | _ => true

theorem handle_panel_calls (r : Request) (h : r.endpoint.leavesBooks = true) :
    Calls (PanelCall r.endpoint.area) (handle c state amb r) := by
  obtain ⟨endpoint, peer, headers⟩ := r
  cases endpoint with
  | adminLogin => exact .bind (adminLogin_calls ..) fun _ => by simp
  | adminLogout => exact .bind (adminLogout_calls ..) fun _ => by simp
  | adminCurrentUser => exact .bind (adminCurrentUser_calls ..) fun _ => by simp
  | adminChangeOwnPassword => exact .bind (adminChangeOwnPassword_calls ..) fun _ => by simp
  | adminListUsers => exact .bind (adminListUsers_calls ..) fun _ => by simp
  | adminCreateUser => exact .bind (adminCreateUser_calls ..) fun _ => by simp
  | adminUpdateUser => exact .bind (adminUpdateUser_calls ..) fun _ => by simp
  | adminDeleteUser => exact .bind (adminDeleteUser_calls ..) fun _ => by simp
  | adminListNamespaces => exact .bind (adminListNamespaces_calls ..) fun _ => by simp
  | adminCreateNamespace => exact .bind (adminCreateNamespace_calls ..) fun _ => by simp
  | adminListTokens => exact .bind (adminListTokens_calls ..) fun _ => by simp
  | adminCreateToken => exact .bind (adminCreateToken_calls ..) fun _ => by simp
  | adminUpdateToken => exact .bind (adminUpdateToken_calls ..) fun _ => by simp
  | adminRotateToken => exact .bind (adminRotateToken_calls ..) fun _ => by simp
  | adminRevealToken => exact .bind (adminRevealToken_calls ..) fun _ => by simp
  | adminDeleteToken => exact .bind (adminDeleteToken_calls ..) fun _ => by simp
  | adminListDevices => exact .bind (adminListDevices_calls ..) fun _ => by simp
  | adminCreateDevice => exact .bind (adminCreateDevice_calls ..) fun _ => by simp
  | adminUpdateDevice => exact .bind (adminUpdateDevice_calls ..) fun _ => by simp
  | adminDeleteDevice => exact .bind (adminDeleteDevice_calls ..) fun _ => by simp
  | adminListConflicts => exact .bind (adminListConflicts_calls ..) fun _ => by simp
  | adminStats => exact .bind (adminStats_calls ..) fun _ => by simp
  | _ => simp [Endpoint.leavesBooks] at h

/-- A request writes in the area of its route only. -/
theorem handle_calls (r : Request) : Calls (Within r.endpoint.area) (handle c state amb r) := by
  by_cases h : r.endpoint.leavesBooks = true
  · exact Program.Calls.mono (fun _ hcall => hcall.1) (handle_panel_calls r h)
  obtain ⟨endpoint, peer, headers⟩ := r
  cases endpoint with
  | getMetadata => exact .bind (getMetadata_calls ..) fun _ => by simp
  | putMetadata => exact .bind (putMetadata_calls ..) fun _ => by simp
  | getBlob => exact .bind (getBlob_calls ..) fun _ => by simp
  | putBlob => exact .bind (putBlob_calls ..) fun _ => by simp
  | listObjects => exact .bind (listObjects_calls ..) fun _ => by simp
  | deleteObject => exact .bind (deleteObject_calls ..) fun _ => by simp
  | getObject => exact .bind (getObject_calls ..) fun _ => by simp
  | putObject => exact .bind (putObject_calls ..) fun _ => by simp
  | adminDeleteNamespace => exact .bind (adminDeleteNamespace_calls ..) fun _ => by simp
  | adminRestoreNamespace => exact .bind (adminRestoreNamespace_calls ..) fun _ => by simp
  | _ => simp [Endpoint.leavesBooks] at h

end CloudSync
