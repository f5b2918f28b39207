import CloudSync.Listing
import CloudSync.SyncFrame
import CloudSync.Transactions.TwoRuns

/-!
# What a token lets its holder see

Two databases with the same tokens and devices and the same rows in the namespaces
of a token answer its holder alike, as long as they agree on which of the
namespaces that are asked for are soft-deleted. The last proviso is needed: the
server looks for the tombstone before it looks at the credential.
-/

namespace CloudSync

open Rust Redb Transactions Transactions.Fallible

set_option autoImplicit false

/-- The databases agree on tokens and devices, on the rows of the namespaces that match
`pattern`, and on the tombstones of these namespaces and of the `named` ones. -/
structure SameView (c : Crates) (pattern : String) (named : String → Prop) (s s' : Db) : Prop where
  tokens : s'.tokens = s.tokens
  tokenHashes : s'.tokenHashes = s.tokenHashes
  devices : s'.devices = s.devices
  contents : ∀ ns, ValidNamespaceName c ns → namespaceMatches ns pattern = true → SameContents ns s s'
  usage : ∀ ns, ValidNamespaceName c ns → namespaceMatches ns pattern = true →
    s'.getNamespaceUsage ns = s.getNamespaceUsage ns
  tombstones : ∀ ns, ValidNamespaceName c ns → namespaceMatches ns pattern = true ∨ named ns →
    s'.isNamespaceDeleted ns = s.isNamespaceDeleted ns

/-- The request presents the token `t`, or no token that is in force. -/
def PresentsAtMost (c : Crates) (amb : Ambient) (t : ApiToken) (r : Request) (s : Db) : Prop :=
  ∀ token, presentedApiToken c r.headers s = .ok token →
    token = t ∨ ensureTokenActive c token (amb.now 0) ≠ .ok ()

section Calls
variable {c : Crates} {pattern ns : String} {named : String → Prop} {s s' : Db}

theorem SameContents.getMetadata (h : SameContents ns s s') : s'.getMetadata ns = s.getMetadata ns :=
  congrArg Prod.fst h.snapshot

theorem SameContents.getBlob (h : SameContents ns s s') : s'.getBlob ns = s.getBlob ns :=
  congrArg Prod.snd h.snapshot

theorem SameContents.getObject (h : SameContents ns s s') (path : String) :
    s'.getObject ns path = s.getObject ns path := congrArg Prod.fst (h.objects path)

theorem SameContents.getObjectMetadata (h : SameContents ns s s') (path : String) :
    s'.getObjectMetadata ns path = s.getObjectMetadata ns path := congrArg Prod.snd (h.objects path)

/-- The tables that no sync request writes once it is authorized. -/
structure SameGuards (s s₁ : Db) : Prop where
  tokens : s₁.tokens = s.tokens
  tokenHashes : s₁.tokenHashes = s.tokenHashes
  devices : s₁.devices = s.devices
  deletedNamespaces : s₁.deletedNamespaces = s.deletedNamespaces

/-- Databases in which only rows of namespaces have changed, and in the same way. -/
theorem SameView.of_rows {s₁ s₁' : Db} (h : SameView c pattern named s s') (hguards : SameGuards s s₁)
    (hguards' : SameGuards s' s₁')
    (hcontents : ∀ ns, SameContents ns s s' → SameContents ns s₁ s₁')
    (husage : ∀ ns, s'.getNamespaceUsage ns = s.getNamespaceUsage ns →
      s₁'.getNamespaceUsage ns = s₁.getNamespaceUsage ns) :
    SameView c pattern named s₁ s₁' where
  tokens := by rw [hguards.tokens, hguards'.tokens, h.tokens]
  tokenHashes := by rw [hguards.tokenHashes, hguards'.tokenHashes, h.tokenHashes]
  devices := by rw [hguards.devices, hguards'.devices, h.devices]
  contents ns hvalid hmatch := hcontents ns (h.contents ns hvalid hmatch)
  usage ns hvalid hmatch := husage ns (h.usage ns hvalid hmatch)
  tombstones ns hvalid hns := by
    rw [Db.isNamespaceDeleted, Db.isNamespaceDeleted, hguards.deletedNamespaces,
      hguards'.deletedNamespaces]
    exact h.tombstones ns hvalid hns

/-- What the precondition of a blob upload says, by the row of metadata it finds. -/
def blobVerdict (expectedEtag : Option String) (requireAbsent : Bool) (row : Option SyncMetadata) :
    Except ConditionalWriteError Unit :=
  let check (currentMeta : Option SyncMetadata) : Except ConditionalWriteError Unit :=
    match expectedEtag with
    | some expected =>
      if (currentMeta.bind (·.etag)).getD "" ≠ expected then
        .error (.conflict (currentMeta.bind (·.revision)) (currentMeta.bind (·.etag))
          "Remote snapshot changed before upload completed")
      else .ok ()
    | none =>
      if requireAbsent && currentMeta.any (·.exists) then
        .error (.conflict (currentMeta.bind (·.revision)) (currentMeta.bind (·.etag))
          "Remote snapshot already exists")
      else .ok ()
  match row with
  | none => check none
  | some row =>
    match row.fromSlice with
    | none => .error (.serialization "recursion limit exceeded")
    | some current => check (some current)

theorem putBlobIfMatches_eq (db : Db) (ns : String) (expectedEtag : Option String) (requireAbsent : Bool)
    (blob : Bytes) (m : SyncMetadata) :
    db.putBlobIfMatches ns expectedEtag requireAbsent blob m =
      (blobVerdict expectedEtag requireAbsent (db.getMetadata ns),
        match blobVerdict expectedEtag requireAbsent (db.getMetadata ns) with
        | .ok _ => { db with
            blobs := db.blobs.insert (blobKey ns) blob
            metadata := db.metadata.insert (metadataKey ns) m }
        | .error _ => db) := by
  unfold Db.putBlobIfMatches blobVerdict Db.getMetadata
  cases db.metadata[metadataKey ns]? with
  | none => cases expectedEtag <;> dsimp only <;> split <;> rfl
  | some row =>
    dsimp only
    cases row.fromSlice with
    | none => rfl
    | some current => cases expectedEtag <;> dsimp only <;> split <;> rfl

/-- The same for an object, by its row of metadata. -/
def objectVerdict (expectedEtag : Option String) (requireAbsent : Bool)
    (row : Option StoredObjectMetadata) : Except ConditionalWriteError Unit :=
  match expectedEtag with
  | some expected =>
    if (row.map (·.etag)).getD "" ≠ expected then
      .error (.conflict none (row.map (·.etag)) "Remote object changed before upload completed")
    else .ok ()
  | none =>
    if requireAbsent && row.isSome then
      .error (.conflict none (row.map (·.etag)) "Remote object already exists")
    else .ok ()

theorem putObjectIfMatches_eq (db : Db) (ns path : String) (expectedEtag : Option String)
    (requireAbsent : Bool) (data : Bytes) (m : StoredObjectMetadata) :
    db.putObjectIfMatches ns path expectedEtag requireAbsent data m =
      (objectVerdict expectedEtag requireAbsent (db.getObjectMetadata ns path),
        match objectVerdict expectedEtag requireAbsent (db.getObjectMetadata ns path) with
        | .ok _ => { db with
            objects := db.objects.insert (objectKey ns path) data
            objectMetadata := db.objectMetadata.insert (objectMetaKey ns path) m }
        | .error _ => db) := by
  unfold Db.putObjectIfMatches objectVerdict Db.getObjectMetadata
  cases expectedEtag <;> dsimp only <;> split <;> rfl

/-- Once a request is authorized in its namespace, it gets the same replies. -/
theorem mayCall_alike {endpoint : Endpoint} (hvalid : ValidNamespaceName c ns)
    (hmatch : namespaceMatches ns pattern = true) {call : DbCall} (hcall : endpoint.MayCall ns call) :
    RepliesAlike (S := databaseSignature) (DbCall.exec c) (DbCall.exec c) (SameView c pattern named)
      call := by
  intro s s' h
  have hns := h.contents ns hvalid hmatch
  cases call with
  | getMetadata ns' =>
    obtain rfl : ns' = ns := hcall
    exact ⟨hns.getMetadata.symm, h⟩
  | getBlob ns' =>
    obtain rfl : ns' = ns := hcall
    exact ⟨hns.getBlob.symm, h⟩
  | getObject ns' path =>
    obtain rfl : ns' = ns := hcall
    exact ⟨(hns.getObject path).symm, h⟩
  | getObjectMetadata ns' path =>
    obtain rfl : ns' = ns := hcall
    exact ⟨(hns.getObjectMetadata path).symm, h⟩
  | blobSize ns' =>
    obtain rfl : ns' = ns := hcall
    have hblob : s'.blobs[blobKey ns']? = s.blobs[blobKey ns']? := hns.getBlob
    refine ⟨?_, h⟩
    simp only [DbCall.exec, Db.blobSize, hblob]
  | namespaceObjectStats ns' =>
    obtain rfl : ns' = ns := hcall
    exact ⟨(namespaceObjectStats_congr hns.objects).symm, h⟩
  | getNamespaceUsage ns' =>
    obtain rfl : ns' = ns := hcall
    exact ⟨(h.usage ns' hvalid hmatch).symm, h⟩
  | listObjectPaths ns' pre after limit =>
    obtain ⟨rfl, hafter⟩ := hcall
    exact ⟨(listObjectPaths_congr (fun path => hns.getObject path) hafter limit).symm, h⟩
  | setNamespaceUsage usage =>
    refine ⟨rfl, h.of_rows ⟨rfl, rfl, rfl, rfl⟩ ⟨rfl, rfl, rfl, rfl⟩ ?_ ?_⟩
    · intro m hsame
      exact ⟨hsame.snapshot, hsame.objects⟩
    · intro m husage
      simp only [Db.getNamespaceUsage] at husage
      simp only [DbCall.exec, Db.setNamespaceUsage, Db.getNamespaceUsage, Table.get_insert, husage]
  | addSyncConflict conflict maxRecords =>
    refine ⟨rfl, h.of_rows ⟨rfl, rfl, rfl, rfl⟩ ⟨rfl, rfl, rfl, rfl⟩ ?_ ?_⟩
    · intro m hsame
      exact ⟨hsame.snapshot, hsame.objects⟩
    · intro m husage
      exact husage
  | setMetadata ns' data =>
    refine ⟨rfl, h.of_rows ⟨rfl, rfl, rfl, rfl⟩ ⟨rfl, rfl, rfl, rfl⟩ ?_ ?_⟩
    · intro m hsame
      refine ⟨Prod.ext ?_ hsame.getBlob, hsame.objects⟩
      have hmetadata : s'.metadata[metadataKey m]? = s.metadata[metadataKey m]? := hsame.getMetadata
      simp only [Db.snapshot, DbCall.exec, Db.setMetadata, Db.getMetadata, Table.get_insert, hmetadata]
    · intro m husage
      exact husage
  | putBlobIfMatches ns' expectedEtag requireAbsent blob data =>
    obtain ⟨rfl, _⟩ := hcall
    simp only [DbCall.exec, putBlobIfMatches_eq, hns.getMetadata]
    refine ⟨trivial, ?_⟩
    cases blobVerdict expectedEtag requireAbsent (s.getMetadata ns') with
    | error e => exact h
    | ok _ =>
      refine h.of_rows ⟨rfl, rfl, rfl, rfl⟩ ⟨rfl, rfl, rfl, rfl⟩ ?_ ?_
      · intro m hsame
        have hmetadata : s'.metadata[metadataKey m]? = s.metadata[metadataKey m]? := hsame.getMetadata
        have hblob : s'.blobs[blobKey m]? = s.blobs[blobKey m]? := hsame.getBlob
        refine ⟨?_, hsame.objects⟩
        simp only [Db.snapshot, Db.getMetadata, Db.getBlob, Table.get_insert, hmetadata, hblob]
      · intro m husage
        exact husage
  | deleteObject ns' path =>
    obtain ⟨rfl, _⟩ := hcall
    have hobject : s'.objects[objectKey ns' path]? = s.objects[objectKey ns' path]? := hns.getObject path
    refine ⟨by simp only [DbCall.exec, Db.deleteObject, hobject], ?_⟩
    refine h.of_rows ⟨rfl, rfl, rfl, rfl⟩ ⟨rfl, rfl, rfl, rfl⟩ ?_ ?_
    · intro m hsame
      refine ⟨hsame.snapshot, fun path' => ?_⟩
      have hrow := hsame.objects path'
      simp only [Db.objectRow, Prod.mk.injEq] at hrow
      simp only [Db.objectRow, DbCall.exec, Db.deleteObject, Table.get_erase, hrow.1, hrow.2]
    · intro m husage
      exact husage
  | putObjectIfMatches ns' path expectedEtag requireAbsent data record =>
    obtain ⟨rfl, _⟩ := hcall
    simp only [DbCall.exec, putObjectIfMatches_eq, hns.getObjectMetadata]
    refine ⟨trivial, ?_⟩
    cases objectVerdict expectedEtag requireAbsent (s.getObjectMetadata ns' path) with
    | error e => exact h
    | ok _ =>
      refine h.of_rows ⟨rfl, rfl, rfl, rfl⟩ ⟨rfl, rfl, rfl, rfl⟩ ?_ ?_
      · intro m hsame
        refine ⟨hsame.snapshot, fun path' => ?_⟩
        have hrow := hsame.objects path'
        simp only [Db.objectRow, Prod.mk.injEq] at hrow
        simp only [Db.objectRow, Table.get_insert, hrow.1, hrow.2]
      · intro m husage
        exact husage
  | _ => exact absurd hcall id

end Calls

/-! ## Who a credential belongs to -/

/-- What decides where a token is accepted, as long as the permissions allow it. -/
def ApiToken.reach (token : ApiToken) : Bool × Option String × String :=
  (token.enabled, token.expiresAt, token.namespacePattern)

/-- Credentials lead to tokens of the same reach. -/
structure SameReach (s s₁ : Db) : Prop where
  tokenHashes : s₁.tokenHashes = s.tokenHashes
  tokens : ∀ id, (s₁.getToken id).map ApiToken.reach = (s.getToken id).map ApiToken.reach

section Reach
variable {c : Crates} {s s₁ : Db} {amb : Ambient} {r : Request} {t : ApiToken}

theorem SameReach.refl (s : Db) : SameReach s s := ⟨rfl, fun _ => rfl⟩

theorem SameReach.trans {s₂ : Db} (h : SameReach s s₁) (h' : SameReach s₁ s₂) : SameReach s s₂ where
  tokenHashes := h'.tokenHashes.trans h.tokenHashes
  tokens id := (h'.tokens id).trans (h.tokens id)

theorem SameReach.of_tables (hhashes : s₁.tokenHashes = s.tokenHashes) (htokens : s₁.tokens = s.tokens) :
    SameReach s s₁ := ⟨hhashes, fun id => by rw [Db.getToken, Db.getToken, htokens]⟩

/-- One token rewritten under its key, with the same reach. -/
theorem SameReach.of_insert {id : String} {token token' : ApiToken} (hstored : s.getToken id = some token)
    (hhashes : s₁.tokenHashes = s.tokenHashes)
    (htokens : s₁.tokens = s.tokens.insert (tokenKey id) token') (hreach : token'.reach = token.reach) :
    SameReach s s₁ := by
  refine ⟨hhashes, fun id' => ?_⟩
  rw [Db.getToken, htokens, Table.get_insert]
  split
  · rename_i hkey
    obtain rfl := tokenKey_injective hkey
    rw [hstored, Option.map_some, Option.map_some, hreach]
  · rfl

theorem sameReach_recordTokenFailure (s : Db) (id : String) : SameReach s (s.recordTokenFailure id) := by
  unfold Db.recordTokenFailure
  split
  · exact .refl s
  · rename_i token htoken
    exact .of_insert htoken rfl rfl rfl

theorem sameReach_recordTokenUsage (s : Db) (id ns permission clientIp : String)
    (clientVersion : Option String) (observedAt : String) :
    SameReach s (s.recordTokenUsage id ns permission clientIp clientVersion observedAt) := by
  unfold Db.recordTokenUsage
  split
  · exact .refl s
  · rename_i token htoken
    dsimp only
    split
    · exact .of_insert htoken rfl rfl rfl
    · split
      · exact .of_insert htoken rfl rfl rfl
      · exact .of_insert htoken rfl rfl rfl

/-- A call outside the tables of tokens. -/
theorem sameReach_call {call : DbCall} (hcall : Within (some .data) call) :
    SameReach s (call.exec c s).2 := by
  cases call with
  | recordTokenUsage id ns permission clientIp clientVersion observedAt =>
    exact sameReach_recordTokenUsage s id ns permission clientIp clientVersion observedAt
  | recordTokenFailure id => exact sameReach_recordTokenFailure s id
  | putBlobIfMatches ns expectedEtag requireAbsent blob m =>
    simp only [DbCall.exec, putBlobIfMatches_eq]
    cases blobVerdict expectedEtag requireAbsent (s.getMetadata ns) with
    | error e => exact .refl s
    | ok _ => exact .of_tables rfl rfl
  | putObjectIfMatches ns path expectedEtag requireAbsent data m =>
    simp only [DbCall.exec, putObjectIfMatches_eq]
    cases objectVerdict expectedEtag requireAbsent (s.getObjectMetadata ns path) with
    | error e => exact .refl s
    | ok _ => exact .of_tables rfl rfl
  | setToken _ | deleteToken _ => simp at hcall
  | _ => exact .of_tables rfl rfl

theorem serve_sameReach {state : AppState} (hsync : r.endpoint.isSync = true) :
    SameReach s (serve c state amb r s).2 := by
  have hcalls : Calls (Within (some .data)) (handle c state amb r) := by
    have harea : r.endpoint.area = some .data ∨ r.endpoint.area = none := by
      cases hr : r.endpoint <;> rw [hr] at hsync <;> first | exact .inl rfl | exact .inr rfl | cases hsync
    have h : Calls (Within r.endpoint.area) (handle c state amb r) := handle_calls r
    rcases harea with harea | harea
    · rwa [harea] at h
    · rw [harea] at h
      exact calls_weaken h
  apply Program.run_invariant (J := SameReach s) _ hcalls (.refl s)
  intro call s₁ hcall hs₁
  exact hs₁.trans (sameReach_call hcall)

/-- The tokens that the request can present reach no further than `pattern`. -/
def WithinReach (c : Crates) (amb : Ambient) (pattern : String) (r : Request) (s : Db) : Prop :=
  ∀ token, presentedApiToken c r.headers s = .ok token →
    token.namespacePattern = pattern ∨ ensureTokenActive c token (amb.now 0) ≠ .ok ()

theorem SameReach.presented (h : SameReach s s₁) {headers : HeaderMap} {token₁ : ApiToken}
    (hpresented : presentedApiToken c headers s₁ = .ok token₁) :
    ∃ token, presentedApiToken c headers s = .ok token ∧ token₁.reach = token.reach := by
  obtain ⟨secret, hsecret, htoken₁⟩ := presentedApiToken_eq_ok hpresented
  obtain ⟨id, hid, hstored⟩ := Option.bind_eq_some_iff.mp htoken₁
  have hreach := h.tokens id
  rw [hstored, Option.map_some] at hreach
  obtain ⟨token, htoken, hsame⟩ := Option.map_eq_some_iff.mp hreach.symm
  refine ⟨token, ?_, hsame.symm⟩
  have hfound : s.tokenByHash (hashApiToken c secret) = some token := by
    rw [Db.getTokenIdByHash, h.tokenHashes] at hid
    rw [Db.tokenByHash, Db.getTokenIdByHash, hid]
    exact htoken
  rw [presentedApiToken, hsecret]
  simp only [hfound]

theorem WithinReach.later {pattern : String} (h : WithinReach c amb pattern r s) (hreach : SameReach s s₁) :
    WithinReach c amb pattern r s₁ := by
  intro token₁ hpresented
  obtain ⟨token, htoken, hsame⟩ := hreach.presented hpresented
  simp only [ApiToken.reach, Prod.mk.injEq] at hsame
  obtain ⟨henabled, hexpires, hpattern⟩ := hsame
  have hactive : ensureTokenActive c token₁ (amb.now 0) = ensureTokenActive c token (amb.now 0) := by
    rw [ensureTokenActive, ensureTokenActive, tokenExpired, tokenExpired, henabled, hexpires]
  rw [hpattern, hactive]
  exact h token htoken

end Reach


/-! ## Two databases -/

section TwoRuns
variable {c : Crates} {state : AppState} {amb : Ambient} {pattern ns : String} {named : String → Prop}
  {s s' : Db} {r : Request}

theorem SameView.of_guards {s₁ s₁' : Db} (h : SameView c pattern named s s')
    (htokens : s₁'.tokens = s₁.tokens) (hdevices : s₁'.devices = s₁.devices)
    (hs : s₁ = { s with tokens := s₁.tokens, devices := s₁.devices })
    (hs' : s₁' = { s' with tokens := s₁'.tokens, devices := s₁'.devices }) :
    SameView c pattern named s₁ s₁' := by
  rw [hs, hs']
  refine ⟨htokens, h.tokenHashes, hdevices, ?_, h.usage, h.tombstones⟩
  intro m hvalid hmatch
  have hsame := h.contents m hvalid hmatch
  exact ⟨hsame.snapshot, hsame.objects⟩

theorem SameView.recordTokenFailure (h : SameView c pattern named s s') (id : String) :
    SameView c pattern named (s.recordTokenFailure id) (s'.recordTokenFailure id) := by
  unfold Db.recordTokenFailure
  rw [h.tokens]
  cases s.tokens[tokenKey id]? with
  | none => exact h
  | some token => exact h.of_guards rfl h.devices rfl rfl

theorem SameView.recordTokenUsage (h : SameView c pattern named s s') (id ns' permission clientIp : String)
    (clientVersion : Option String) (observedAt : String) :
    SameView c pattern named (s.recordTokenUsage id ns' permission clientIp clientVersion observedAt)
      (s'.recordTokenUsage id ns' permission clientIp clientVersion observedAt) := by
  unfold Db.recordTokenUsage
  rw [h.tokens]
  cases s.tokens[tokenKey id]? with
  | none => exact h
  | some token =>
    dsimp only
    cases token.deviceId with
    | none => exact h.of_guards rfl h.devices rfl rfl
    | some deviceId =>
      dsimp only
      rw [h.devices]
      cases s.devices[deviceKey deviceId]? with
      | none => exact h.of_guards rfl rfl rfl rfl
      | some device => exact h.of_guards rfl rfl rfl rfl

theorem SameView.withUsage (h : SameView c pattern named s s') (headers : HeaderMap) (ns' : String)
    (permission : SyncPermission) (peer : IpAddr) (token : ApiToken) :
    SameView c pattern named (withUsage c state amb headers ns' permission peer token s)
      (withUsage c state amb headers ns' permission peer token s') := by
  unfold CloudSync.withUsage
  split
  · exact h.recordTokenUsage _ _ _ _ _ _
  · exact h

theorem SameView.presentedApiToken (h : SameView c pattern named s s') (headers : HeaderMap) :
    presentedApiToken c headers s' = presentedApiToken c headers s := by
  unfold CloudSync.presentedApiToken Db.tokenByHash Db.getTokenIdByHash Db.getToken
  rw [h.tokens, h.tokenHashes]

theorem authorize_alike (h : SameView c pattern named s s') (hvalid : ValidNamespaceName c ns)
    (hnamed : named ns) (state : AppState) (amb : Ambient) (headers : HeaderMap)
    (permission : SyncPermission) (peer : IpAddr) :
    let authorize := authorizeSyncRequestWithPermission c state amb headers ns permission peer
    (authorize.alone (DbCall.exec c) s).1 = (authorize.alone (DbCall.exec c) s').1 ∧
      SameView c pattern named (authorize.alone (DbCall.exec c) s).2
        (authorize.alone (DbCall.exec c) s').2 := by
  dsimp only
  rw [alone_authorize, alone_authorize, h.tombstones ns hvalid (.inr hnamed), h.presentedApiToken]
  split
  · exact ⟨rfl, h⟩
  · cases CloudSync.presentedApiToken c headers s with
    | error e => exact ⟨rfl, h⟩
    | ok token =>
      dsimp only
      cases checkToken c amb token ns permission with
      | error e => exact ⟨rfl, h.recordTokenFailure token.id⟩
      | ok _ => exact ⟨rfl, h.withUsage headers ns permission peer token⟩

theorem authorize_ok {token : ApiToken} {permission : SyncPermission} {s₁ : Db}
    (h : (authorizeSyncRequestWithPermission c state amb r.headers ns permission r.peer).alone
      (DbCall.exec c) s = (.ok token, s₁)) :
    presentedApiToken c r.headers s = .ok token ∧ checkToken c amb token ns permission = .ok () := by
  rw [alone_authorize] at h
  split at h
  · cases h
  · cases hpresented : presentedApiToken c r.headers s with
    | error e =>
      rw [hpresented] at h
      cases h
    | ok token' =>
      rw [hpresented] at h
      dsimp only at h
      cases hcheck : checkToken c amb token' ns permission with
      | error e =>
        rw [hcheck] at h
        cases h
      | ok _ =>
        rw [hcheck] at h
        cases h
        exact ⟨rfl, hcheck⟩

theorem active_of_checkToken {token : ApiToken} {permission : SyncPermission}
    (h : checkToken c amb token ns permission = .ok ()) :
    ensureTokenActive c token (amb.now 0) = .ok () := by
  unfold checkToken at h
  split at h
  · cases h
  · rename_i hactive
    exact hactive

/-- A request is answered alike. -/
theorem serve_alike (h : SameView c pattern named s s') (hsync : r.endpoint.isSync = true)
    (hreach : WithinReach c amb pattern r s) (hnamed : ∀ ns, r.Addresses c ns → named ns) :
    (serve c state amb r s).1 = (serve c state amb r s').1 ∧
      SameView c pattern named (serve c state amb r s).2 (serve c state amb r s').2 := by
  obtain ⟨rawNs, permission, hr⟩ := (Endpoint.isSync_iff _).mp hsync
  obtain ⟨f, hf, hserve⟩ := serve_sync c state amb hr
  rw [hserve s, hserve s']
  cases hns : decodeNamespace c rawNs with
  | error e => exact ⟨rfl, h⟩
  | ok ns =>
    have hvalid := decodeNamespace_valid hns
    have halike := authorize_alike h hvalid (hnamed ns ⟨rawNs, permission, hr, hns⟩) state amb r.headers
      permission r.peer
    dsimp only at halike ⊢
    cases hauthorized : (authorizeSyncRequestWithPermission c state amb r.headers ns permission
        r.peer).alone (DbCall.exec c) s with
    | mk result s₁ =>
      cases hauthorized' : (authorizeSyncRequestWithPermission c state amb r.headers ns permission
          r.peer).alone (DbCall.exec c) s' with
      | mk result' s₁' =>
        rw [hauthorized, hauthorized'] at halike
        obtain ⟨rfl, hview⟩ := halike
        cases result with
        | error e => exact ⟨rfl, hview⟩
        | ok token =>
          obtain ⟨hpresented, hcheck⟩ := authorize_ok hauthorized
          have hmatch : namespaceMatches ns pattern = true := by
            rcases hreach token hpresented with rfl | hinactive
            · exact (checkToken_eq_ok hcheck).2.2.1
            · exact absurd (active_of_checkToken hcheck) hinactive
          apply alone_alike _ hview
          exact (hf ns).mono fun call hcall => mayCall_alike hvalid hmatch hcall

theorem serveAll_alike {requests : List (Ambient × Request)} (h : SameView c pattern named s s')
    (hsync : ∀ p ∈ requests, p.2.endpoint.isSync = true)
    (hreach : ∀ p ∈ requests, WithinReach c p.1 pattern p.2 s)
    (hnamed : ∀ p ∈ requests, ∀ ns, p.2.Addresses c ns → named ns) :
    (serveAll c state requests s).1 = (serveAll c state requests s').1 := by
  induction requests generalizing s s' with
  | nil => rfl
  | cons head rest ih =>
    obtain ⟨amb, r⟩ := head
    have hhead : (amb, r) ∈ (amb, r) :: rest := by simp
    obtain ⟨hanswer, hview⟩ : (serve c state amb r s).1 = (serve c state amb r s').1 ∧
        SameView c pattern named (serve c state amb r s).2 (serve c state amb r s').2 :=
      serve_alike h (hsync _ hhead) (hreach _ hhead) (hnamed _ hhead)
    have hlater : SameReach s (serve c state amb r s).2 := serve_sameReach (hsync _ hhead)
    have hrest := ih hview (fun p hp => hsync p (by simp [hp]))
      (fun p hp => (hreach p (by simp [hp])).later hlater) fun p hp => hnamed p (by simp [hp])
    exact congrArg₂ List.cons hanswer hrest

/-- Whoever presents `t` or nothing valid learns nothing about other namespaces, but for the
tombstones of those that the requests name. -/
theorem scope_blind {t : ApiToken} {requests : List (Ambient × Request)}
    (hsync : ∀ p ∈ requests, p.2.endpoint.isSync = true)
    (hpresents : ∀ p ∈ requests, PresentsAtMost c p.1 t p.2 s)
    (hview : SameView c t.namespacePattern (fun ns => ∃ p ∈ requests, p.2.Addresses c ns) s s') :
    (serveAll c state requests s).1 = (serveAll c state requests s').1 := by
  apply serveAll_alike hview hsync
  · intro p hp token hpresented
    rcases hpresents p hp token hpresented with rfl | hinactive
    · exact .inl rfl
    · exact .inr hinactive
  · intro p hp ns haddresses
    exact ⟨p, hp, haddresses⟩

end TwoRuns

/-! ## A token for one namespace, and another namespace -/

def scopeTraffic : List Request :=
  [issueRequest "work" "read" none, panelRequest (.adminCreateNamespace "other"),
   panelRequest (.adminDeleteNamespace "other" none)]

/-- The database after the first `n` requests. -/
def scopeDb (n : Nat) : Db := (playFresh scopeTraffic (inTurn n)).2.1

theorem scripted_scopeTraffic : scopeTraffic.Forall Scripted :=
  ⟨.issue _ _ _, .panel _ rfl, .panel _ rfl⟩

theorem scopeDb_short (n : Nat) : scopeDb n =
    (playShortened freshCrates freshState (Traffic.ofList scopeTraffic) freshDb (inTurn n)).2.1 := by
  rw [scopeDb, playFresh_short scripted_scopeTraffic]

theorem reachable_scopeDb (n : Nat) : Reachable freshCrates (scopeDb n) :=
  .served reachable_freshDb (playFresh_run scopeTraffic (inTurn n))

def scopeToken : ApiToken := ((scopeDb 1).getToken (numberedUuid 0 1)).getD clientToken

/-- Requests with the token and one without a credential, to its namespace and to the other one. -/
def scopeRequests : List (Ambient × Request) :=
  [issuedRequest (.getMetadata "other") [],
   issuedRequest (.listObjects "work" { pre := "", cursor := none, limit := none }) [],
   { endpoint := .getBlob "other", peer := "127.0.0.1", headers := [] }].mapIdx fun i r =>
    (numberedAmbient (fun _ => "") (i + 3), r)

/-- Databases that differ at most in the records and the tombstones of other namespaces. -/
theorem sameView_of_toList {s s' : Db} {named : String → Prop}
    (htables : s'.tokens.toList = s.tokens.toList ∧ s'.tokenHashes.toList = s.tokenHashes.toList ∧
      s'.devices.toList = s.devices.toList ∧ s'.blobs.toList = s.blobs.toList ∧
      s'.objects.toList = s.objects.toList ∧ s'.objectMetadata.toList = s.objectMetadata.toList)
    (hrecord : s'.getMetadata "work" = s.getMetadata "work")
    (husage : s'.getNamespaceUsage "work" = s.getNamespaceUsage "work")
    (htombstones : ∀ ns, ns = "work" ∨ named ns → s'.isNamespaceDeleted ns = s.isNamespaceDeleted ns) :
    SameView freshCrates "work" named s s' := by
  simp only [Std.ExtTreeMap.toList_inj] at htables
  obtain ⟨htokens, hhashes, hdevices, hblobs, hobjects, hmetas⟩ := htables
  have hwork (ns : String) (hmatch : namespaceMatches ns "work" = true) : ns = "work" := by
    have hexact : namespaceMatches ns "work" = (ns == "work") := rfl
    rw [hexact] at hmatch
    exact eq_of_beq hmatch
  constructor
  · exact htokens
  · exact hhashes
  · exact hdevices
  · intro ns _ hmatch
    obtain rfl := hwork ns hmatch
    constructor
    · exact Prod.ext hrecord (by simp only [Db.snapshot, Db.getBlob, hblobs])
    · intro path
      simp only [Db.objectRow, hobjects, hmetas]
  · intro ns _ hmatch
    obtain rfl := hwork ns hmatch
    exact husage
  · intro ns _ hns
    apply htombstones
    rcases hns with hmatch | hnamed
    · exact .inl (hwork ns hmatch)
    · exact .inr hnamed

/-- Every request presents the token or nothing that is found. -/
theorem presents_scopeRequests {s : Db} (h : ∀ p ∈ scopeRequests, ∀ token ∈
      (presentedApiToken freshCrates p.2.headers s).toOption, token = scopeToken) :
    ∀ p ∈ scopeRequests, PresentsAtMost freshCrates p.1 scopeToken p.2 s := by
  intro p hp token hpresented
  left
  apply h p hp
  rw [hpresented]
  rfl

set_option maxRecDepth 10000 in
/-- The other namespace is created, and the answers stay the same. -/
theorem scope_blind_created :
    (serveAll freshCrates freshState scopeRequests (scopeDb 1)).1 =
      (serveAll freshCrates freshState scopeRequests (scopeDb 2)).1 := by
  have hplay : ((scopeDb 2).tokens.toList = (scopeDb 1).tokens.toList ∧
        (scopeDb 2).tokenHashes.toList = (scopeDb 1).tokenHashes.toList ∧
        (scopeDb 2).devices.toList = (scopeDb 1).devices.toList ∧
        (scopeDb 2).blobs.toList = (scopeDb 1).blobs.toList ∧
        (scopeDb 2).objects.toList = (scopeDb 1).objects.toList ∧
        (scopeDb 2).objectMetadata.toList = (scopeDb 1).objectMetadata.toList) ∧
      (scopeDb 2).getMetadata "work" = (scopeDb 1).getMetadata "work" ∧
      (scopeDb 2).getNamespaceUsage "work" = (scopeDb 1).getNamespaceUsage "work" ∧
      (scopeDb 2).deletedNamespaces.toList = (scopeDb 1).deletedNamespaces.toList ∧
      scopeToken.namespacePattern = "work" ∧
      (∀ p ∈ scopeRequests, p.2.endpoint.isSync = true) ∧
      ∀ p ∈ scopeRequests, ∀ token ∈ (presentedApiToken freshCrates p.2.headers (scopeDb 1)).toOption,
        token = scopeToken := by
    simp only [scopeToken, scopeDb_short]
    decide +kernel
  obtain ⟨htables, hrecord, husage, hdeleted, hpattern, hsync, hpresents⟩ := hplay
  rw [Std.ExtTreeMap.toList_inj] at hdeleted
  apply scope_blind hsync (presents_scopeRequests hpresents)
  rw [hpattern]
  apply sameView_of_toList htables hrecord husage
  intro ns _
  rw [Db.isNamespaceDeleted, Db.isNamespaceDeleted, hdeleted]

def refusal : Answer → Option AppError
  | .error e => some e
  | .ok _ => none

set_option maxRecDepth 10000 in
/-- The other namespace is soft-deleted, and the token is told. -/
theorem foreign_tombstone_is_visible :
    Reachable freshCrates (scopeDb 2) ∧ Reachable freshCrates (scopeDb 3) ∧
      (∀ p ∈ scopeRequests, p.2.endpoint.isSync = true) ∧
      (∀ p ∈ scopeRequests, PresentsAtMost freshCrates p.1 scopeToken p.2 (scopeDb 2)) ∧
      SameView freshCrates scopeToken.namespacePattern (fun _ => False) (scopeDb 2) (scopeDb 3) ∧
      (serveAll freshCrates freshState scopeRequests (scopeDb 2)).1 ≠
        (serveAll freshCrates freshState scopeRequests (scopeDb 3)).1 := by
  have hplay : ((scopeDb 3).tokens.toList = (scopeDb 2).tokens.toList ∧
        (scopeDb 3).tokenHashes.toList = (scopeDb 2).tokenHashes.toList ∧
        (scopeDb 3).devices.toList = (scopeDb 2).devices.toList ∧
        (scopeDb 3).blobs.toList = (scopeDb 2).blobs.toList ∧
        (scopeDb 3).objects.toList = (scopeDb 2).objects.toList ∧
        (scopeDb 3).objectMetadata.toList = (scopeDb 2).objectMetadata.toList) ∧
      (scopeDb 3).getMetadata "work" = (scopeDb 2).getMetadata "work" ∧
      (scopeDb 3).getNamespaceUsage "work" = (scopeDb 2).getNamespaceUsage "work" ∧
      (scopeDb 3).isNamespaceDeleted "work" = (scopeDb 2).isNamespaceDeleted "work" ∧
      scopeToken.namespacePattern = "work" ∧
      (∀ p ∈ scopeRequests, p.2.endpoint.isSync = true) ∧
      (∀ p ∈ scopeRequests, ∀ token ∈ (presentedApiToken freshCrates p.2.headers (scopeDb 2)).toOption,
        token = scopeToken) ∧
      (serveAll freshCrates freshState scopeRequests (scopeDb 2)).1.map refusal ≠
        (serveAll freshCrates freshState scopeRequests (scopeDb 3)).1.map refusal := by
    simp only [scopeToken, scopeDb_short]
    decide +kernel
  obtain ⟨htables, hrecord, husage, hdeleted, hpattern, hsync, hpresents, hanswers⟩ := hplay
  refine ⟨reachable_scopeDb 2, reachable_scopeDb 3, hsync, presents_scopeRequests hpresents, ?_, ?_⟩
  · rw [hpattern]
    apply sameView_of_toList htables hrecord husage
    rintro ns (rfl | hnone)
    · exact hdeleted
    · exact hnone.elim
  · intro hsame
    exact hanswers (congrArg (List.map refusal) hsame)

end CloudSync
