import CloudSync.Serial
import CloudSync.TokenWrites

/-!
# A sync request behind its authorization

Every route of the sync API decodes the namespace, authorizes the request and
goes on. What it may call from there on is a matter of its route and of the
decoded names; no other namespace occurs in these calls.
-/

namespace CloudSync

open Rust Transactions Transactions.Fallible

set_option autoImplicit false

/-- The raw namespace of a sync route and the permission it asks for. -/
def Endpoint.syncTarget : Endpoint → Option (String × SyncPermission)
  | .getMetadata ns | .getBlob ns | .listObjects ns _ | .getObject ns _ => some (ns, .read)
  | .putMetadata ns _ | .putBlob ns _ _ | .deleteObject ns _ | .putObject ns _ _ => some (ns, .write)
  | _ => none

theorem Endpoint.isSync_iff (endpoint : Endpoint) :
    endpoint.isSync = true ↔ ∃ rawNs permission, endpoint.syncTarget = some (rawNs, permission) := by
  cases endpoint <;> simp [isSync, syncTarget]

/-- What a request may call once it is authorized for `ns`. -/
def Endpoint.MayCall (endpoint : Endpoint) (ns : String) : DbCall → Prop
  | .getMetadata ns' | .getBlob ns' | .getObject ns' _ | .getObjectMetadata ns' _ => ns' = ns
  | .blobSize ns' | .namespaceObjectStats ns' | .getNamespaceUsage ns' => ns' = ns
  | .listObjectPaths ns' pre after _ =>
    ns' = ns ∧ ∀ cursor ∈ after, startsWith cursor pre = true
  | .setNamespaceUsage usage => usage.namespace = ns
  | .addSyncConflict .. => True
  | .setMetadata ns' _ => ns' = ns ∧ ∃ raw body, endpoint = .putMetadata raw body
  | .putBlobIfMatches ns' _ _ _ _ =>
    ns' = ns ∧ ∃ raw sectionRevisions body, endpoint = .putBlob raw sectionRevisions body
  | .deleteObject ns' path =>
    ns' = ns ∧ ∃ raw rawPath, endpoint = .deleteObject raw rawPath ∧ decodeObjectPath rawPath = .ok path
  | .putObjectIfMatches ns' path _ _ _ _ =>
    ns' = ns ∧ ∃ raw rawPath body,
      endpoint = .putObject raw rawPath body ∧ decodeObjectPath rawPath = .ok path
  | _ => False

variable {c : Crates} {state : AppState} {amb : Ambient}

/-- A result that is already there is the only one to go on with. -/
theorem calls_liftResult_bind {P : DbCall → Prop} {ε α β : Type} {x : Except ε α}
    {f : α → Fallible databaseSignature ε β} (h : ∀ a, x = .ok a → Calls P (f a)) :
    Calls P (liftResult x >>= f) := by
  cases x with
  | ok a => exact h a rfl
  | error e => trivial

section Parts
variable {endpoint : Endpoint} {ns : String}

theorem refreshUsageAfterWrite_mayCall (now : Instant) :
    Calls (endpoint.MayCall ns) (refreshUsageAfterWrite c state ns now) := by
  have hrefresh : ∀ observedAt softDeleted,
      Calls (endpoint.MayCall ns) (refreshNamespaceUsage ns observedAt softDeleted) := fun _ _ =>
    .bind (by simp [Endpoint.MayCall]) fun _ => .bind (by simp [Endpoint.MayCall]) fun _ =>
      .bind (by simp [Endpoint.MayCall]) fun _ => .bind (by simp [Endpoint.MayCall]) fun _ => by simp
  refine .bind (calls_orDatabaseError ?_) fun _ => by simp
  unfold refreshNamespaceUsageIfStale
  refine .ite (.bind (by simp [Endpoint.MayCall]) fun _ => .ite ?_ (by simp)) ?_
  · exact calls_map (hrefresh _ _)
  · exact calls_map (hrefresh _ _)

theorem recordConditionalWriteConflict_mayCall (observation : ConflictObservation)
    (error : ConditionalWriteError) :
    Calls (endpoint.MayCall ns) (recordConditionalWriteConflict c state amb observation error) := by
  unfold recordConditionalWriteConflict
  refine .ite (by simp) ?_
  cases error <;> simp [Endpoint.MayCall]

/-- What follows a conditional write. -/
theorem written_mayCall {α : Type} (result : Except ConditionalWriteError Unit)
    (observation : ConflictObservation) (now : Instant) (answer : α) :
    Calls (endpoint.MayCall ns) (match result with
      | .error error => do
        recordConditionalWriteConflict c state amb observation error
        throw (mapConditionalWriteError error)
      | .ok () => do
        refreshUsageAfterWrite c state ns now
        pure answer : Handler α) := by
  cases result with
  | error e => exact .bind (recordConditionalWriteConflict_mayCall _ _) fun _ => by simp
  | ok _ => exact .bind (refreshUsageAfterWrite_mayCall _) fun _ => by simp

/-- A listing goes on only behind a path that it could have named. -/
theorem cursor_of_valid {query : ObjectListQuery} (hquery : query.valid = true) :
    ∀ cursor ∈ query.cursor, startsWith cursor query.pre = true := by
  intro cursor hcursor
  simp only [ObjectListQuery.valid, Bool.and_eq_true] at hquery
  have hcheck := hquery.2
  rw [Option.mem_def.mp hcursor, Option.all_some, Bool.and_eq_true] at hcheck
  exact hcheck.2

theorem listObjectsPage_mayCall (query : ObjectListQuery) :
    Calls (endpoint.MayCall ns) (listObjectsPage ns query) := by
  refine calls_liftResult_bind fun _ hvalid => .bind ?_ fun _ => by simp
  have hquery : query.valid = true := by
    by_contra hno
    rw [if_neg hno] at hvalid
    cases hvalid
  exact (calls_db _).mpr ⟨rfl, cursor_of_valid hquery⟩

end Parts

/-- Every request of the sync API: decode, authorize, go on within the namespace. -/
theorem handle_sync (c : Crates) (state : AppState) (amb : Ambient) {r : Request} {rawNs : String}
    {permission : SyncPermission} (hr : r.endpoint.syncTarget = some (rawNs, permission)) :
    ∃ f : String → Handler Response,
      handle c state amb r = (do
        let ns ← liftResult (decodeNamespace c rawNs)
        let _ ← authorizeSyncRequestWithPermission c state amb r.headers ns permission r.peer
        f ns) ∧
      ∀ ns, Calls (r.endpoint.MayCall ns) (f ns) := by
  have hwrap {α : Type} (wrap : α → Response) (f : String → Handler α) :
      (do return wrap (← (do
        let ns ← liftResult (decodeNamespace c rawNs)
        let _ ← authorizeSyncRequestWithPermission c state amb r.headers ns permission r.peer
        f ns)) : Handler Response) = (do
        let ns ← liftResult (decodeNamespace c rawNs)
        let _ ← authorizeSyncRequestWithPermission c state amb r.headers ns permission r.peer
        let a ← f ns
        return wrap a) := by
    simp only [bind_assoc]
  have hcalls {α : Type} {P : DbCall → Prop} {x : Handler α} (h : Calls P x) (wrap : α → Response) :
      Calls P (do return wrap (← x)) := .bind h fun _ => by simp
  obtain ⟨endpoint, peer, headers⟩ := r
  cases endpoint with
  | getMetadata ns =>
    cases hr
    refine ⟨_, hwrap Response.metadata _, fun ns => hcalls ?_ _⟩
    exact .bind (by simp [Endpoint.MayCall]) fun row => by cases row <;> simp
  | putMetadata ns body =>
    cases hr
    refine ⟨_, hwrap Response.written _, fun ns => hcalls ?_ _⟩
    exact .bind (ensureDiskCapacity_calls _ _) fun _ => .bind (by simp [Endpoint.MayCall]) fun _ =>
      .bind (by simp [Endpoint.MayCall]) fun _ => .bind (refreshUsageAfterWrite_mayCall _) fun _ => by simp
  | getBlob ns =>
    cases hr
    refine ⟨_, hwrap Response.payload _, fun ns => hcalls ?_ _⟩
    exact .bind (by simp [Endpoint.MayCall]) fun _ => .bind (by simp) fun _ => .bind (by simp) fun _ =>
      .bind (by simp [Endpoint.MayCall]) fun _ => by simp
  | putBlob ns sectionRevisions body =>
    cases hr
    refine ⟨_, hwrap Response.written _, fun ns => hcalls ?_ _⟩
    exact .bind (by simp) fun _ => .bind (ensureDiskCapacity_calls _ _) fun _ =>
      .bind (by simp [Endpoint.MayCall]) fun _ => .bind (by simp) fun _ =>
      .bind (conditionally_calls (by simp [Endpoint.MayCall])) fun result => written_mayCall result _ _ _
  | listObjects ns query =>
    cases hr
    exact ⟨_, hwrap Response.listing _, fun ns => hcalls (listObjectsPage_mayCall query) _⟩
  | deleteObject ns path =>
    cases hr
    refine ⟨_, hwrap (fun _ => Response.done) _, fun ns => hcalls ?_ _⟩
    exact calls_liftResult_bind fun path hpath => .bind (by simp [Endpoint.MayCall, hpath]) fun _ =>
      calls_runIf.mpr fun _ => refreshUsageAfterWrite_mayCall _
  | getObject ns path =>
    cases hr
    refine ⟨_, hwrap Response.object _, fun ns => hcalls ?_ _⟩
    refine .bind (by simp) fun _ => .bind (by simp [Endpoint.MayCall]) fun stored => ?_
    cases stored with
    | none => trivial
    | some encrypted =>
      exact .bind (by simp) fun _ => .bind (by simp [Endpoint.MayCall]) fun _ => by simp
  | putObject ns path body =>
    cases hr
    refine ⟨_, hwrap Response.objectWritten _, fun ns => hcalls ?_ _⟩
    exact calls_liftResult_bind fun path hpath => .bind (by simp) fun _ =>
      .bind (ensureDiskCapacity_calls _ _) fun _ => .bind (by simp) fun _ =>
      .bind (conditionally_calls (by simp [Endpoint.MayCall, hpath])) fun result =>
        written_mayCall result _ _ _
  | _ => cases hr

/-! ## Alone on the database -/

/-- The token a request presents. -/
def presentedApiToken (c : Crates) (headers : HeaderMap) (db : Db) : Except AppError ApiToken :=
  match presentedToken c headers with
  | .error e => .error e
  | .ok secret =>
    match db.tokenByHash (hashApiToken c secret) with
    | none => .error (.unauthorized "Invalid token")
    | some token => .ok token

theorem alone_extractAuth (headers : HeaderMap) (db : Db) :
    (extractAuth c headers).alone (DbCall.exec c) db = (presentedApiToken c headers db, db) := by
  unfold extractAuth presentedApiToken
  rw [alone_bind, alone_liftResult]
  cases presentedToken c headers with
  | error e => rfl
  | ok secret =>
    simp only [alone_bind, alone_mapError, alone_getTokenByHash, Except.mapError, alone_okOr]
    cases db.tokenByHash (hashApiToken c secret) with
    | none => rfl
    | some token => rfl

/-- The usage that an accepted request leaves on its token. -/
def withUsage (c : Crates) (state : AppState) (amb : Ambient) (headers : HeaderMap) (ns : String)
    (permission : SyncPermission) (peer : IpAddr) (token : ApiToken) (db : Db) : Db :=
  if tokenUsageUpdateDue c token (amb.now 1) state.tokenUsageWriteIntervalSeconds then
    db.recordTokenUsage token.id ns permission.asStr (resolveClientIp c state headers peer)
      (syncClientVersion headers) (c.toRfc3339 (amb.now 1))
  else db

theorem alone_authorize (headers : HeaderMap) (ns : String) (permission : SyncPermission)
    (peer : IpAddr) (db : Db) :
    (authorizeSyncRequestWithPermission c state amb headers ns permission peer).alone
        (DbCall.exec c) db =
      if db.isNamespaceDeleted ns then (.error (.notFound s!"Namespace '{ns}' is soft-deleted"), db)
      else match presentedApiToken c headers db with
        | .error e => (.error e, db)
        | .ok token =>
          match checkToken c amb token ns permission with
          | .error e => (.error e, db.recordTokenFailure token.id)
          | .ok () => (.ok token, withUsage c state amb headers ns permission peer token db) := by
  unfold authorizeSyncRequestWithPermission ensureNamespaceActive
  simp only [alone_bind, alone_db, alone_ensure, DbCall.exec, alone_extractAuth]
  cases db.isNamespaceDeleted ns with
  | true => rfl
  | false =>
    simp only [Bool.not_false, if_true, Bool.false_eq_true, if_false]
    cases presentedApiToken c headers db with
    | error e => rfl
    | ok token =>
      dsimp only
      cases checkToken c amb token ns permission with
      | error e =>
        simp only [alone_bind, recordTokenFailure, alone_dbOr, DbCall.exec]
        rfl
      | ok _ =>
        simp only [alone_bind, alone_runIf, alone_dbOr, DbCall.exec, withUsage]
        cases tokenUsageUpdateDue c token (amb.now 1) state.tokenUsageWriteIntervalSeconds <;> rfl

/-- A sync request that is alone: it is refused on the way, or it goes on within its namespace. -/
theorem serve_sync (c : Crates) (state : AppState) (amb : Ambient) {r : Request} {rawNs : String}
    {permission : SyncPermission} (hr : r.endpoint.syncTarget = some (rawNs, permission)) :
    ∃ f : String → Handler Response, (∀ ns, Calls (r.endpoint.MayCall ns) (f ns)) ∧
      ∀ db, serve c state amb r db =
        match decodeNamespace c rawNs with
        | .error e => (.error e, db)
        | .ok ns =>
          match (authorizeSyncRequestWithPermission c state amb r.headers ns permission r.peer).alone
              (DbCall.exec c) db with
          | (.ok _, db') => (f ns).alone (DbCall.exec c) db'
          | (.error e, db') => (.error e, db') := by
  obtain ⟨f, hhandle, hf⟩ := handle_sync c state amb hr
  refine ⟨f, hf, fun db => ?_⟩
  rw [serve, hhandle, alone_bind, alone_liftResult]
  cases decodeNamespace c rawNs with
  | error e => rfl
  | ok ns =>
    dsimp only
    rw [alone_bind]
    generalize (authorizeSyncRequestWithPermission c state amb r.headers ns permission r.peer).alone
      (DbCall.exec c) db = authorized
    rcases authorized with ⟨_ | _, _⟩ <;> rfl

end CloudSync
