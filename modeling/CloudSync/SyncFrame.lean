import CloudSync.Alignment
import CloudSync.SyncRequest

/-!
# What a sync request can change

A request that is alone on the database changes rows of the payload tables only
under the keys of its own namespace, and only if its credential lets it write
there. A request that is refused leaves a trace on its token at most.
-/

namespace CloudSync

open Rust Redb Transactions Transactions.Fallible

set_option autoImplicit false

variable {c : Crates} {state : AppState} {amb : Ambient}

/-! ## The rows a route is about -/

def Endpoint.writesRecord : Endpoint → Bool
  | .putMetadata .. | .putBlob .. => true
  | _ => false

def Endpoint.writesBlob : Endpoint → Bool
  | .putBlob .. => true
  | _ => false

/-- The raw path of the object that the route writes or deletes. -/
def Endpoint.objectWritten : Endpoint → Option String
  | .putObject _ rawPath _ | .deleteObject _ rawPath => some rawPath
  | _ => none

theorem Endpoint.permission_of_writes {endpoint : Endpoint} {rawNs : String}
    {permission : SyncPermission} (hr : endpoint.syncTarget = some (rawNs, permission))
    (h : endpoint.writesRecord = true ∨ endpoint.writesBlob = true ∨ endpoint.objectWritten ≠ none) :
    permission = .write := by
  cases endpoint <;> cases hr <;> simp [writesRecord, writesBlob, objectWritten] at h <;> rfl

/-- The payload tables have not been written at all. -/
structure SamePayload (db db' : Db) : Prop where
  metadata : db'.metadata = db.metadata
  blobs : db'.blobs = db.blobs
  objects : db'.objects = db.objects
  objectMetadata : db'.objectMetadata = db.objectMetadata

/-- From `db` to `db'` only rows that the route is about have changed. -/
structure KeepsOthers (endpoint : Endpoint) (ns : String) (db db' : Db) : Prop where
  metadata : ∀ key : String, db'.metadata[key]? ≠ db.metadata[key]? →
    endpoint.writesRecord = true ∧ key = metadataKey ns
  blobs : ∀ key : String, db'.blobs[key]? ≠ db.blobs[key]? →
    endpoint.writesBlob = true ∧ key = blobKey ns
  objects : ∀ key, db'.objectRow key ≠ db.objectRow key → ∃ rawPath path,
    endpoint.objectWritten = some rawPath ∧ decodeObjectPath rawPath = .ok path ∧ key = objectKey ns path

section Frame
variable {endpoint : Endpoint} {ns : String} {db db' db'' : Db}

theorem SamePayload.keepsOthers (h : SamePayload db db') : KeepsOthers endpoint ns db db' where
  metadata key hne := absurd (by rw [h.metadata]) hne
  blobs key hne := absurd (by rw [h.blobs]) hne
  objects key hne := absurd (by rw [Db.objectRow, Db.objectRow, h.objects, h.objectMetadata]) hne

theorem SamePayload.sameContents (h : SamePayload db db') : SameContents ns db db' where
  snapshot := by
    simp only [Db.snapshot, Db.getMetadata, Db.getBlob, h.metadata, h.blobs]
  objects path := by
    simp only [Db.objectRow, h.objects, h.objectMetadata]

theorem KeepsOthers.refl (endpoint : Endpoint) (ns : String) (db : Db) :
    KeepsOthers endpoint ns db db := SamePayload.keepsOthers ⟨rfl, rfl, rfl, rfl⟩

theorem KeepsOthers.trans (h : KeepsOthers endpoint ns db db') (h' : KeepsOthers endpoint ns db' db'') :
    KeepsOthers endpoint ns db db'' where
  metadata key hne := by
    by_cases hkey : db'.metadata[key]? = db.metadata[key]?
    · exact h'.metadata key (hkey ▸ hne)
    · exact h.metadata key hkey
  blobs key hne := by
    by_cases hkey : db'.blobs[key]? = db.blobs[key]?
    · exact h'.blobs key (hkey ▸ hne)
    · exact h.blobs key hkey
  objects key hne := by
    by_cases hkey : db'.objectRow key = db.objectRow key
    · exact h'.objects key (hkey ▸ hne)
    · exact h.objects key hkey

theorem keepsOthers_withUsage (headers : HeaderMap) (permission : SyncPermission) (peer : IpAddr)
    (token : ApiToken) :
    KeepsOthers endpoint ns db (withUsage c state amb headers ns permission peer token db) := by
  unfold withUsage
  split
  · obtain ⟨tokens, devices, h⟩ := db.recordTokenUsage_eq token.id ns permission.asStr
      (resolveClientIp c state headers peer) (syncClientVersion headers) (c.toRfc3339 (amb.now 1))
    rw [h]
    exact SamePayload.keepsOthers ⟨rfl, rfl, rfl, rfl⟩
  · exact .refl _ _ _

/-- What a request calls once it is authorized. -/
theorem keepsOthers_call {call : DbCall} (h : endpoint.MayCall ns call) :
    KeepsOthers endpoint ns db (call.exec c db).2 := by
  cases call with
  | setMetadata ns' data =>
    obtain ⟨rfl, raw, body, rfl⟩ := h
    refine ⟨fun key hne => ⟨rfl, ?_⟩, fun key hne => absurd rfl hne, fun key hne => absurd rfl hne⟩
    by_contra hkey
    simp [DbCall.exec, Db.setMetadata, Ne.symm hkey] at hne
  | putBlobIfMatches ns' expectedEtag requireAbsent blob m =>
    obtain ⟨rfl, raw, sectionRevisions, body, rfl⟩ := h
    rcases putBlobIfMatches_cases db ns' expectedEtag requireAbsent blob m with
      ⟨message, h⟩ | ⟨revision, message, h⟩ | ⟨_, h⟩
    · simp only [DbCall.exec, h]
      exact .refl _ _ _
    · simp only [DbCall.exec, h]
      exact .refl _ _ _
    · simp only [DbCall.exec, h]
      refine ⟨fun key hne => ⟨rfl, ?_⟩, fun key hne => ⟨rfl, ?_⟩, fun key hne => absurd rfl hne⟩
      · by_contra hkey
        simp [Ne.symm hkey] at hne
      · by_contra hkey
        simp [Ne.symm hkey] at hne
  | deleteObject ns' path =>
    obtain ⟨rfl, raw, rawPath, rfl, hpath⟩ := h
    refine ⟨fun key hne => absurd rfl hne, fun key hne => absurd rfl hne, fun key hne => ?_⟩
    refine ⟨rawPath, path, rfl, hpath, ?_⟩
    by_contra hkey
    simp [DbCall.exec, Db.deleteObject, Db.objectRow, objectMetaKey, Ne.symm hkey] at hne
  | putObjectIfMatches ns' path expectedEtag requireAbsent data m =>
    obtain ⟨rfl, raw, rawPath, body, rfl, hpath⟩ := h
    rcases putObjectIfMatches_cases db ns' path expectedEtag requireAbsent data m with
      ⟨message, h⟩ | ⟨_, h⟩
    · simp only [DbCall.exec, h]
      exact .refl _ _ _
    · simp only [DbCall.exec, h]
      refine ⟨fun key hne => absurd rfl hne, fun key hne => absurd rfl hne, fun key hne => ?_⟩
      refine ⟨rawPath, path, rfl, hpath, ?_⟩
      by_contra hkey
      simp [Db.objectRow, Ne.symm hkey] at hne
  | getMetadata _ | getBlob _ | getObject _ _ | getObjectMetadata _ _ => exact .refl _ _ _
  | blobSize _ | namespaceObjectStats _ | getNamespaceUsage _ | listObjectPaths _ _ _ _ =>
    exact .refl _ _ _
  | setNamespaceUsage _ | addSyncConflict _ _ => exact SamePayload.keepsOthers ⟨rfl, rfl, rfl, rfl⟩
  | _ => exact absurd h id

end Frame

/-! ## What the credential allows -/

theorem checkToken_eq_ok {token : ApiToken} {ns : String} {permission : SyncPermission}
    (h : checkToken c amb token ns permission = .ok ()) :
    token.enabled = true ∧ tokenExpired c token (amb.now 0) = false ∧
      namespaceMatches ns token.namespacePattern = true ∧
      permissionsAllow token.permissions permission.asStr = true := by
  unfold checkToken ensureTokenActive at h
  split at h
  · cases h
  · rename_i hactive
    split at hactive
    · cases hactive
    · split at hactive
      · cases hactive
      · split at h
        · cases h
        · split at h
          · cases h
          · simp_all

theorem presentedApiToken_eq_ok {headers : HeaderMap} {db : Db} {token : ApiToken}
    (h : presentedApiToken c headers db = .ok token) :
    ∃ secret, presentedToken c headers = .ok secret ∧
      db.tokenByHash (hashApiToken c secret) = some token := by
  unfold presentedApiToken at h
  split at h
  · cases h
  · rename_i secret hsecret
    split at h
    · cases h
    · rename_i token' htoken
      cases h
      exact ⟨secret, hsecret, htoken⟩

/-- A hash leads to a token that is stored under its own identifier and has this hash. -/
theorem TokensIndexed.of_tokenByHash {db : Db} (hd : TokensIndexed db) {tokenHash : String}
    {token : ApiToken} (h : db.tokenByHash tokenHash = some token) :
    db.getToken token.id = some token ∧ token.tokenHash = tokenHash := by
  obtain ⟨id, hid, htoken⟩ := Option.bind_eq_some_iff.mp h
  obtain ⟨token', htoken', hhash⟩ := hd.indexed tokenHash id hid
  rw [htoken] at htoken'
  cases htoken'
  rw [hd.keyed id token htoken]
  exact ⟨htoken, hhash⟩

theorem Reachable.tokensIndexed {s : Db} (h : Reachable c s) : TokensIndexed s := by
  refine h.invariant ?_ (fun db user hd => hd.of_same (.of_tables rfl rfl)) fun hd hrun =>
    hrun.linked.invariant (I := TokensIndexed) (fun _ _ _ _ => tokensIndexed_effect) hd
  constructor
  · intro id token h
    simp [Db.getToken] at h
  · intro tokenHash id h
    simp [Db.getTokenIdByHash] at h

/-- The credential of the request belongs to this token, and the token may write in `ns` now. -/
structure AllowsWrite (c : Crates) (amb : Ambient) (r : Request) (ns : String) (db : Db)
    (token : ApiToken) : Prop where
  presented : ∃ secret, presentedToken c r.headers = .ok secret ∧ hashApiToken c secret = token.tokenHash
  stored : db.getToken token.id = some token
  enabled : token.enabled = true
  unexpired : tokenExpired c token (amb.now 0) = false
  matched : namespaceMatches ns token.namespacePattern = true
  permitted : "write" ∈ token.permissions
  active : db.isNamespaceDeleted ns = false

/-- The namespace that the URL of a sync request names, decoded. -/
def Request.Addresses (c : Crates) (r : Request) (ns : String) : Prop :=
  ∃ rawNs permission, r.endpoint.syncTarget = some (rawNs, permission) ∧ decodeNamespace c rawNs = .ok ns

/-- The token with one more refused request. -/
def ApiToken.withFailure (token : ApiToken) : ApiToken :=
  { token with failedCount := saturatingAdd token.failedCount 1 }

theorem recordTokenFailure_stored {db : Db} {token : ApiToken} (h : db.getToken token.id = some token) :
    db.recordTokenFailure token.id =
      { db with tokens := db.tokens.insert (tokenKey token.id) token.withFailure } := by
  rw [Db.getToken] at h
  simp only [Db.recordTokenFailure, h]
  rfl

/-- All that a sync request does to the database. -/
structure SyncConfined (c : Crates) (state : AppState) (amb : Ambient) (r : Request) (db db' : Db) :
    Prop where
  metadata : ∀ key : String, db'.metadata[key]? ≠ db.metadata[key]? → ∃ ns token,
    r.Addresses c ns ∧ AllowsWrite c amb r ns db token ∧ r.endpoint.writesRecord = true ∧
      key = metadataKey ns
  blobs : ∀ key : String, db'.blobs[key]? ≠ db.blobs[key]? → ∃ ns token,
    r.Addresses c ns ∧ AllowsWrite c amb r ns db token ∧ r.endpoint.writesBlob = true ∧
      key = blobKey ns
  objects : ∀ key, db'.objectRow key ≠ db.objectRow key → ∃ ns token rawPath path,
    r.Addresses c ns ∧ AllowsWrite c amb r ns db token ∧
      r.endpoint.objectWritten = some rawPath ∧ decodeObjectPath rawPath = .ok path ∧
      key = objectKey ns path
  others : ∀ ns, ValidNamespaceName c ns → ¬ r.Addresses c ns → SameContents ns db db'
  refused : ∀ rawNs permission ns e, r.endpoint.syncTarget = some (rawNs, permission) →
    decodeNamespace c rawNs = .ok ns →
    ((authorizeSyncRequestWithPermission c state amb r.headers ns permission r.peer).alone
      (DbCall.exec c) db).1 = .error e →
    db' = db ∨ ∃ secret token, presentedToken c r.headers = .ok secret ∧
      db.tokenByHash (hashApiToken c secret) = some token ∧
      db' = { db with tokens := db.tokens.insert (tokenKey token.id) token.withFailure }

section Serve
variable {r : Request} {rawNs ns : String} {permission : SyncPermission} {db : Db}

/-- A request that was not let in has changed nothing, or has counted the refusal. -/
theorem authorize_refused (hd : TokensIndexed db) {e : AppError}
    (h : ((authorizeSyncRequestWithPermission c state amb r.headers ns permission r.peer).alone
      (DbCall.exec c) db).1 = .error e) :
    let db' := ((authorizeSyncRequestWithPermission c state amb r.headers ns permission r.peer).alone
      (DbCall.exec c) db).2
    db' = db ∨ ∃ secret token, presentedToken c r.headers = .ok secret ∧
      db.tokenByHash (hashApiToken c secret) = some token ∧
      db' = { db with tokens := db.tokens.insert (tokenKey token.id) token.withFailure } := by
  rw [alone_authorize] at h ⊢
  split at h
  · rename_i hdeleted
    rw [if_pos hdeleted]
    exact .inl rfl
  · rename_i hactive
    rw [if_neg hactive]
    cases hp : presentedApiToken c r.headers db with
    | error e => exact .inl rfl
    | ok token =>
      simp only [hp] at h ⊢
      cases hcheck : checkToken c amb token ns permission with
      | ok _ =>
        rw [hcheck] at h
        cases h
      | error e =>
        obtain ⟨secret, hsecret, htoken⟩ := presentedApiToken_eq_ok hp
        exact .inr ⟨secret, token, hsecret, htoken,
          recordTokenFailure_stored (hd.of_tokenByHash htoken).1⟩

/-- A request that was let in by its token, and what that says about the token. -/
theorem authorize_granted (hd : TokensIndexed db) {token : ApiToken} {db' : Db}
    (h : (authorizeSyncRequestWithPermission c state amb r.headers ns permission r.peer).alone
      (DbCall.exec c) db = (.ok token, db')) :
    (permission = .write → AllowsWrite c amb r ns db token) ∧
      db' = withUsage c state amb r.headers ns permission r.peer token db := by
  rw [alone_authorize] at h
  split at h
  · cases h
  · rename_i hactive
    cases hp : presentedApiToken c r.headers db with
    | error e =>
      rw [hp] at h
      cases h
    | ok token' =>
      simp only [hp] at h
      cases hcheck : checkToken c amb token' ns permission with
      | error e =>
        rw [hcheck] at h
        cases h
      | ok _ =>
        rw [hcheck] at h
        cases h
        obtain ⟨secret, hsecret, htoken⟩ := presentedApiToken_eq_ok hp
        obtain ⟨hstored, hhash⟩ := hd.of_tokenByHash htoken
        obtain ⟨henabled, hexpired, hmatched, hpermitted⟩ := checkToken_eq_ok hcheck
        refine ⟨?_, rfl⟩
        rintro rfl
        refine ⟨⟨secret, hsecret, hhash.symm⟩, hstored, henabled, hexpired, hmatched, ?_, ?_⟩
        · simpa [permissionsAllow, SyncPermission.asStr] using hpermitted
        · simpa using hactive

/-- Either the payload tables are as they were, or the request was let in and went on within
its namespace. -/
theorem serve_sync_cases (c : Crates) (state : AppState) (amb : Ambient) (hd : TokensIndexed db)
    (hr : r.endpoint.syncTarget = some (rawNs, permission)) :
    SamePayload db (serve c state amb r db).2 ∨
    ∃ ns token, decodeNamespace c rawNs = .ok ns ∧
      (permission = .write → AllowsWrite c amb r ns db token) ∧
      KeepsOthers r.endpoint ns db (serve c state amb r db).2 := by
  obtain ⟨f, hf, hserve⟩ := serve_sync c state amb hr
  rw [hserve db]
  cases hns : decodeNamespace c rawNs with
  | error e => exact .inl ⟨rfl, rfl, rfl, rfl⟩
  | ok ns =>
    dsimp only
    cases hauthorized : (authorizeSyncRequestWithPermission c state amb r.headers ns permission
        r.peer).alone (DbCall.exec c) db with
    | mk result db' =>
      cases result with
      | error e =>
        have hrefused := authorize_refused hd (congrArg Prod.fst hauthorized)
        rw [hauthorized] at hrefused
        rcases hrefused with h | ⟨_, _, _, _, h⟩
        · exact .inl ⟨by rw [h], by rw [h], by rw [h], by rw [h]⟩
        · exact .inl ⟨by rw [h], by rw [h], by rw [h], by rw [h]⟩
      | ok token =>
        obtain ⟨hallows, husage⟩ := authorize_granted hd hauthorized
        refine .inr ⟨ns, token, rfl, hallows, ?_⟩
        have hstart : KeepsOthers r.endpoint ns db db' := husage ▸ keepsOthers_withUsage _ _ _ _
        exact Program.run_invariant (J := KeepsOthers r.endpoint ns db)
          (fun _ _ hcall hkept => hkept.trans (keepsOthers_call hcall)) (hf ns) hstart

end Serve

/-- In a reachable database a sync request changes only what its token allows. -/
theorem sync_confined {db : Db} (hdb : Reachable c db) {r : Request} (hsync : r.endpoint.isSync = true) :
    SyncConfined c state amb r db (serve c state amb r db).2 := by
  obtain ⟨rawNs, permission, hr⟩ := (Endpoint.isSync_iff _).mp hsync
  have hd := hdb.tokensIndexed
  have hcases := serve_sync_cases c state amb hd hr
  refine ⟨fun key hne => ?_, fun key hne => ?_, fun key hne => ?_, fun ns' hvalid hother => ?_, ?_⟩
  · rcases hcases with hsame | ⟨ns, token, hns, hallows, hkeeps⟩
    · exact absurd (by rw [hsame.metadata]) hne
    · obtain ⟨hw, hkey⟩ := hkeeps.metadata key hne
      have hwrite := Endpoint.permission_of_writes hr (.inl hw)
      exact ⟨ns, token, ⟨rawNs, permission, hr, hns⟩, hallows hwrite, hw, hkey⟩
  · rcases hcases with hsame | ⟨ns, token, hns, hallows, hkeeps⟩
    · exact absurd (by rw [hsame.blobs]) hne
    · obtain ⟨hw, hkey⟩ := hkeeps.blobs key hne
      have hwrite := Endpoint.permission_of_writes hr (.inr (.inl hw))
      exact ⟨ns, token, ⟨rawNs, permission, hr, hns⟩, hallows hwrite, hw, hkey⟩
  · rcases hcases with hsame | ⟨ns, token, hns, hallows, hkeeps⟩
    · exact absurd (by rw [Db.objectRow, Db.objectRow, hsame.objects, hsame.objectMetadata]) hne
    · obtain ⟨rawPath, path, hw, hpath, hkey⟩ := hkeeps.objects key hne
      have hwrite := Endpoint.permission_of_writes hr (.inr (.inr (by rw [hw]; exact Option.some_ne_none _)))
      exact ⟨ns, token, rawPath, path, ⟨rawNs, permission, hr, hns⟩, hallows hwrite, hw, hpath, hkey⟩
  · rcases hcases with hsame | ⟨ns, token, hns, -, hkeeps⟩
    · exact hsame.sameContents
    · -- A changed row would have a key of `ns`, and keys tell their namespace.
      have hne : ns' ≠ ns := by
        rintro rfl
        exact hother ⟨rawNs, permission, hr, hns⟩
      constructor
      · refine Prod.ext ?_ ?_
        · by_contra hchanged
          exact hne (metadataKey_injective (hkeeps.metadata _ hchanged).2)
        · by_contra hchanged
          exact hne (blobKey_injective (hkeeps.blobs _ hchanged).2)
      · intro path
        by_contra hchanged
        obtain ⟨_, _, _, _, hkey⟩ := hkeeps.objects _ hchanged
        exact hne (objectKey_inj (slash_notMem hvalid) (slash_notMem (decodeNamespace_valid hns)) hkey).1
  · intro rawNs' permission' ns e hr' hns hrefused
    rw [hr] at hr'
    cases hr'
    obtain ⟨f, -, hserve⟩ := serve_sync c state amb hr
    have hstate := authorize_refused hd hrefused
    have hdb' : (serve c state amb r db).2 = ((authorizeSyncRequestWithPermission c state amb r.headers
        ns permission r.peer).alone (DbCall.exec c) db).2 := by
      rw [hserve db, hns]
      dsimp only
      generalize (authorizeSyncRequestWithPermission c state amb r.headers ns permission
        r.peer).alone (DbCall.exec c) db = authorized at hrefused
      obtain ⟨result, db'⟩ := authorized
      obtain rfl : result = .error e := hrefused
      rfl
    rw [hdb']
    exact hstate

/-- After the first token has been issued, its client writes an object. -/
def issuedDb : Db := (playFresh [issueRequest "*" "write" none] (inTurn 1)).2.1

theorem issuedDb_eq : issuedDb = dbAfter [issueRequest "*" "write" none] (inTurn 1) := rfl

theorem reachable_issuedDb : Reachable freshCrates issuedDb := by
  rw [issuedDb_eq]
  exact reachable_dbAfter _ _

theorem issuedDb_short : issuedDb = (playShortened freshCrates freshState
    (Traffic.ofList [issueRequest "*" "write" none]) freshDb (inTurn 1)).2.1 := by
  rw [issuedDb_eq, dbAfter_short (Scripted.issue _ _ _).only]

def notesRequest : Request := issuedRequest (.putObject "work" "notes" [1]) []

set_option maxRecDepth 10000 in
theorem sync_confined_notes : ∃ ns token rawPath path,
    notesRequest.Addresses freshCrates ns ∧
      AllowsWrite freshCrates (numberedAmbient (fun _ => "") 1) notesRequest ns issuedDb token ∧
      notesRequest.endpoint.objectWritten = some rawPath ∧ decodeObjectPath rawPath = .ok path ∧
      objectKey "work" "notes" = objectKey ns path := by
  have hplay : (serve freshCrates freshState (numberedAmbient (fun _ => "") 1) notesRequest
      issuedDb).2.objectRow (objectKey "work" "notes") ≠
        issuedDb.objectRow (objectKey "work" "notes") := by
    rw [issuedDb_short]
    decide +kernel
  exact (sync_confined reachable_issuedDb (r := notesRequest) rfl).objects _ hplay

end CloudSync
