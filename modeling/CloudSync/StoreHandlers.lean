import CloudSync.StoreContents

/-!
# The handlers follow the store

Alone on the database, each handler answers and leaves what its operation says.
-/

namespace CloudSync

open Rust Redb Transactions Transactions.Fallible

set_option autoImplicit false

variable {c : Crates} {state : AppState} {amb : Ambient}

/-! ## Books that are kept beside the contents -/

section Books
variable {ns : String} {db : Db} {err : AppError → Db → Prop}

theorem unchanged_setNamespaceUsage (usage : NamespaceUsageRecord) :
    Unchanged ns db (db.setNamespaceUsage usage) := ⟨⟨rfl, fun _ => rfl⟩, rfl⟩

theorem leaves_refreshNamespaceUsage {ok : NamespaceUsageRecord → Db → Prop}
    (hok : ∀ usage db', Unchanged ns db db' → ok usage db') (observedAt : String) (softDeleted : Bool)
    (other : String) :
    Leaves (DbCall.exec c) (orDatabaseError (refreshNamespaceUsage other observedAt softDeleted)) db ok err := by
  apply (leaves_mapError _ _).mpr
  exact hok _ _ (unchanged_setNamespaceUsage _)

theorem leaves_refreshUsageAfterWrite {ok : Unit → Db → Prop} (hok : ∀ db', Unchanged ns db db' → ok () db')
    (other : String) (now : Instant) :
    Leaves (DbCall.exec c) (refreshUsageAfterWrite c state other now) db ok err := by
  have hrefresh {ok' : Option NamespaceUsageRecord → Db → Prop} {err' : String → Db → Prop}
      (hok' : ∀ usage db', Unchanged ns db db' → ok' usage db') (observedAt : String) :
      Leaves (DbCall.exec c) (some <$> refreshNamespaceUsage other observedAt false) db ok' err' :=
    (leaves_map _ _).mpr (hok' _ _ (unchanged_setNamespaceUsage _))
  unfold refreshUsageAfterWrite
  rw [leaves_bind]
  apply (leaves_mapError _ _).mpr
  unfold refreshNamespaceUsageIfStale
  split
  · apply (leaves_bind _ _).mpr
    dsimp only
    change Leaves _ (ite _ _ _) _ _ _
    split
    · exact hrefresh (fun _ db' h => hok db' h) _
    · exact hok db .refl
  · exact hrefresh (fun _ db' h => hok db' h) _

theorem leaves_recordConditionalWriteConflict {ok : Unit → Db → Prop}
    (hok : ∀ db', Unchanged ns db db' → ok () db') (observation : ConflictObservation)
    (error : ConditionalWriteError) :
    Leaves (DbCall.exec c) (recordConditionalWriteConflict c state amb observation error) db ok err := by
  unfold recordConditionalWriteConflict
  split
  · exact hok db .refl
  · cases error with
    | conflict remoteRevision remoteEtag message => exact hok _ ⟨⟨rfl, fun _ => rfl⟩, rfl⟩
    | storage error => exact hok db .refl
    | serialization error => exact hok db .refl

end Books

/-! ## Writes -/

section Writes
variable {ns : String} {db : Db} {contents : Contents}

theorem Holds.existing (h : Holds c state contents ns db) :
    (db.getMetadata ns).bind (·.fromSlice) = contents.metadata := by
  rw [h.metadata]
  cases hm : contents.metadata with
  | none => rfl
  | some m => exact h.readable m hm

theorem Holds.setMetadata (h : Holds c state contents ns db) {m : SyncMetadata}
    (hm : m.fromSlice = some m) :
    Holds c state { contents with metadata := some m } ns (db.setMetadata ns m) where
  metadata := by simp [Db.setMetadata, Db.getMetadata]
  readable m' hm' := by
    obtain rfl := Option.some.inj hm'
    exact hm
  blob := h.blob
  objects := h.objects
  etags := h.etags
  deleted := h.deleted

theorem Holds.putBlob (h : Holds c state contents ns db) {m : SyncMetadata} {encrypted body : Bytes}
    (hm : m.fromSlice = some m) (hbody : decryptIfNeeded c state encrypted = .ok body) :
    Holds c state { contents with metadata := some m, blob := some body } ns
      { db with
        blobs := db.blobs.insert (blobKey ns) encrypted
        metadata := db.metadata.insert (metadataKey ns) m } where
  metadata := by simp [Db.getMetadata]
  readable m' hm' := by
    obtain rfl := Option.some.inj hm'
    exact hm
  blob := by simpa [Db.getBlob] using Option.Rel.some hbody
  objects := h.objects
  etags := h.etags
  deleted := h.deleted

theorem objectKey_eq_iff {path path' : String} : objectKey ns path = objectKey ns path' ↔ path = path' := by
  rw [objectKey, objectKey, String.append_right_inj]

theorem Holds.putObject (h : Holds c state contents ns db) {path etag updatedAt : String}
    {encrypted body : Bytes} (hbody : decryptIfNeeded c state encrypted = .ok body) :
    Holds c state { contents with objects := contents.objects.insert path ⟨body, etag⟩ } ns
      { db with
        objects := db.objects.insert (objectKey ns path) encrypted
        objectMetadata := db.objectMetadata.insert (objectMetaKey ns path) ⟨etag, updatedAt⟩ } where
  metadata := h.metadata
  readable := h.readable
  blob := h.blob
  objects path' := by
    by_cases hpath : path = path'
    · subst hpath
      simpa [Db.getObject] using Option.Rel.some hbody
    · simpa [Db.getObject, objectKey_eq_iff, hpath] using h.objects path'
  etags path' := by
    by_cases hpath : path = path'
    · subst hpath
      simp [Db.getObjectMetadata]
    · simpa [Db.getObjectMetadata, objectMetaKey, objectKey_eq_iff, hpath] using h.etags path'
  deleted := h.deleted

theorem Holds.deleteObject (h : Holds c state contents ns db) (path : String) :
    Holds c state { contents with objects := contents.objects.erase path } ns (db.deleteObject ns path).2 where
  metadata := h.metadata
  readable := h.readable
  blob := h.blob
  objects path' := by
    by_cases hpath : path = path'
    · subst hpath
      simp [Db.deleteObject, Db.getObject]
    · simpa [Db.deleteObject, Db.getObject, objectKey_eq_iff, hpath] using h.objects path'
  etags path' := by
    by_cases hpath : path = path'
    · subst hpath
      simp [Db.deleteObject, Db.getObjectMetadata]
    · simpa [Db.deleteObject, Db.getObjectMetadata, objectMetaKey, objectKey_eq_iff, hpath] using h.etags path'
  deleted := h.deleted

theorem Holds.softDelete (h : Holds c state contents ns db) (deletedAt : String) :
    Holds c state { contents with deleted := true } ns (db.softDeleteNamespace ns deletedAt) where
  metadata := h.metadata
  readable := h.readable
  blob := h.blob
  objects := h.objects
  etags := h.etags
  deleted := by simp [Db.softDeleteNamespace, Db.isNamespaceDeleted]

theorem Holds.restore (h : Holds c state contents ns db) :
    Holds c state { contents with deleted := false } ns (db.restoreNamespace ns) where
  metadata := h.metadata
  readable := h.readable
  blob := h.blob
  objects := h.objects
  etags := h.etags
  deleted := by simp [Db.restoreNamespace, Db.isNamespaceDeleted]

/-- A purge leaves nothing. -/
theorem Holds.purge (h : Holds c state contents ns db) : Holds c state {} ns (db.hardDeleteNamespace ns) := by
  have hrow (path : String) : (db.hardDeleteNamespace ns).objectRow (objectKey ns path) = (none, none) := by
    by_cases hkey : objectKey ns path ∈ db.purgedKeys ns
    · simp [Db.objectRow, Db.hardDeleteNamespace, hkey]
    · -- There was no object, hence no metadata for it.
      have hobject : db.getObject ns path = none := by
        by_contra hne
        exact hkey (mem_purgedKeys.mpr ⟨hne, startsWith_own ns path⟩)
      have hpayload : contents.objects[path]? = none := by
        have hrel := h.objects path
        rw [hobject] at hrel
        cases hpayload : contents.objects[path]? with
        | none => rfl
        | some payload =>
          rw [hpayload] at hrel
          cases hrel
      have hmeta : db.getObjectMetadata ns path = none := by
        have hetag := h.etags path
        rw [hpayload, Option.map_none, Option.map_eq_none_iff] at hetag
        exact hetag
      rw [Db.getObject] at hobject
      rw [Db.getObjectMetadata, objectMetaKey] at hmeta
      simp [Db.objectRow, Db.hardDeleteNamespace, hkey, hobject, hmeta]
  constructor
  · simp [Db.hardDeleteNamespace, Db.getMetadata]
  · intro m hm
    cases hm
  · simp [Db.hardDeleteNamespace, Db.getBlob]
  · intro path
    have hobject : (db.hardDeleteNamespace ns).getObject ns path = none := congrArg Prod.fst (hrow path)
    simp [hobject]
  · intro path
    have hmeta : (db.hardDeleteNamespace ns).getObjectMetadata ns path = none :=
      congrArg Prod.snd (hrow path)
    simp [hmeta]
  · simp [Db.hardDeleteNamespace, Db.isNamespaceDeleted]

end Writes

/-! ## Preconditions -/

section Preconditions
variable {ns path : String} {db : Db} {headers : HeaderMap}

theorem check_ok {ok : Bool} {e : AppError} (h : ok = true) : check ok e = .ok () := if_pos h

theorem check_error {ok : Bool} {e : AppError} (h : ok = false) : check ok e = .error e := by
  rw [check, h]
  rfl

/-- The write transaction of an object decides as the store does. -/
theorem putObjectIfMatches_decides (data : Bytes) (m : StoredObjectMetadata) (etag : Option String)
    (hetag : (db.getObjectMetadata ns path).map (·.etag) = etag) :
    (precondition headers etag etag.isSome
        (remoteConflict none etag "Remote object changed before upload completed")
        (remoteConflict none etag "Remote object already exists") = .ok () ∧
      db.putObjectIfMatches ns path (headers.getStr "if-match") (headers.getStr "if-none-match" == some "*")
        data m = (.ok (), { db with
          objects := db.objects.insert (objectKey ns path) data
          objectMetadata := db.objectMetadata.insert (objectMetaKey ns path) m })) ∨
    ∃ error, precondition headers etag etag.isSome
        (remoteConflict none etag "Remote object changed before upload completed")
        (remoteConflict none etag "Remote object already exists") = .error (mapConditionalWriteError error) ∧
      db.putObjectIfMatches ns path (headers.getStr "if-match") (headers.getStr "if-none-match" == some "*")
        data m = (.error error, db) := by
  subst hetag
  unfold precondition Db.putObjectIfMatches Db.getObjectMetadata
  cases headers.getStr "if-match" with
  | some expected =>
    dsimp only
    split
    · next hne => exact .inr ⟨.conflict _ _ _, check_error (beq_eq_false_iff_ne.mpr hne), rfl⟩
    · next heq => exact .inl ⟨check_ok (beq_iff_eq.mpr (not_not.mp heq)), rfl⟩
  | none =>
    dsimp only
    rw [Option.isSome_map]
    split
    · next hpresent => exact .inr ⟨.conflict _ _ _, check_error (by rw [hpresent]; rfl), rfl⟩
    · next habsent => exact .inl ⟨check_ok (by rw [Bool.eq_false_iff.mpr habsent]; rfl), rfl⟩

/-- What the write transaction of a snapshot does with an expected tag, where the stored record
can be read. -/
theorem putBlobIfMatches_some {blob : Bytes} {m : SyncMetadata} {current : Option SyncMetadata}
    (hcurrent : db.getMetadata ns = current) (hreadable : ∀ m ∈ current, m.fromSlice = some m)
    (expected : String) (requireAbsent : Bool) :
    db.putBlobIfMatches ns (some expected) requireAbsent blob m =
      if (current.bind (·.etag)).getD "" ≠ expected then
        (.error (.conflict (current.bind (·.revision)) (current.bind (·.etag))
          "Remote snapshot changed before upload completed"), db)
      else (.ok (), { db with
        blobs := db.blobs.insert (blobKey ns) blob
        metadata := db.metadata.insert (metadataKey ns) m }) := by
  rw [Db.getMetadata] at hcurrent
  unfold Db.putBlobIfMatches
  rw [hcurrent]
  cases current with
  | none => rfl
  | some row =>
    have hslice : row.fromSlice = some row := hreadable row rfl
    simp only [hslice]

theorem putBlobIfMatches_none {blob : Bytes} {m : SyncMetadata} {current : Option SyncMetadata}
    (hcurrent : db.getMetadata ns = current) (hreadable : ∀ m ∈ current, m.fromSlice = some m)
    (requireAbsent : Bool) :
    db.putBlobIfMatches ns none requireAbsent blob m =
      if requireAbsent && current.any (·.exists) then
        (.error (.conflict (current.bind (·.revision)) (current.bind (·.etag))
          "Remote snapshot already exists"), db)
      else (.ok (), { db with
        blobs := db.blobs.insert (blobKey ns) blob
        metadata := db.metadata.insert (metadataKey ns) m }) := by
  rw [Db.getMetadata] at hcurrent
  unfold Db.putBlobIfMatches
  rw [hcurrent]
  cases current with
  | none => rfl
  | some row =>
    have hslice : row.fromSlice = some row := hreadable row rfl
    simp only [hslice]

/-- And so does the one of a snapshot, whose record can be read. -/
theorem putBlobIfMatches_decides (blob : Bytes) (m : SyncMetadata) (current : Option SyncMetadata)
    (hcurrent : db.getMetadata ns = current) (hreadable : ∀ m ∈ current, m.fromSlice = some m) :
    (precondition headers (current.bind (·.etag)) (current.any (·.exists))
        (remoteConflict (current.bind (·.revision)) (current.bind (·.etag))
          "Remote snapshot changed before upload completed")
        (remoteConflict (current.bind (·.revision)) (current.bind (·.etag))
          "Remote snapshot already exists") = .ok () ∧
      db.putBlobIfMatches ns (headers.getStr "if-match") (headers.getStr "if-none-match" == some "*")
        blob m = (.ok (), { db with
          blobs := db.blobs.insert (blobKey ns) blob
          metadata := db.metadata.insert (metadataKey ns) m })) ∨
    ∃ error, precondition headers (current.bind (·.etag)) (current.any (·.exists))
        (remoteConflict (current.bind (·.revision)) (current.bind (·.etag))
          "Remote snapshot changed before upload completed")
        (remoteConflict (current.bind (·.revision)) (current.bind (·.etag))
          "Remote snapshot already exists") = .error (mapConditionalWriteError error) ∧
      db.putBlobIfMatches ns (headers.getStr "if-match") (headers.getStr "if-none-match" == some "*")
        blob m = (.error error, db) := by
  unfold precondition
  cases headers.getStr "if-match" with
  | some expected =>
    rw [putBlobIfMatches_some hcurrent hreadable]
    dsimp only
    split
    · next hne => exact .inr ⟨.conflict _ _ _, check_error (beq_eq_false_iff_ne.mpr hne), rfl⟩
    · next heq => exact .inl ⟨check_ok (beq_iff_eq.mpr (not_not.mp heq)), rfl⟩
  | none =>
    rw [putBlobIfMatches_none hcurrent hreadable]
    dsimp only
    split
    · next hpresent => exact .inr ⟨.conflict _ _ _, check_error (by rw [hpresent]; rfl), rfl⟩
    · next habsent => exact .inl ⟨check_ok (by rw [Bool.eq_false_iff.mpr habsent]; rfl), rfl⟩

end Preconditions

/-! ## The handlers -/

/-- The cipher seals what fits into a request, and opens it again. -/
def Crates.SealsPayloads (c : Crates) (state : AppState) : Prop :=
  ∀ nonce data : Bytes, nonce.length = 12 → data.length ≤ max state.maxBlobSize state.maxObjectSize →
    ∃ encrypted, encryptIfNeeded c state nonce data = .ok encrypted ∧
      decryptIfNeeded c state encrypted = .ok data

section Sync
variable {ns rawNs : String} {db : Db} {contents : Contents} {headers : HeaderMap} {peer : IpAddr}

/-- The credential of the request is good for the namespace now. -/
def Granted (c : Crates) (amb : Ambient) (headers : HeaderMap) (ns : String) (permission : SyncPermission)
    (db : Db) : Prop :=
  ∃ token, presentedApiToken c headers db = .ok token ∧ checkToken c amb token ns permission = .ok ()

theorem granted_iff {permission : SyncPermission} :
    Granted c amb headers ns permission db ↔
      (presentedApiToken c headers db >>= fun token => checkToken c amb token ns permission) = .ok () := by
  constructor
  · rintro ⟨token, htoken, hcheck⟩
    rw [htoken]
    exact hcheck
  · intro h
    unfold Granted
    cases htoken : presentedApiToken c headers db with
    | error e =>
      rw [htoken] at h
      cases h
    | ok token =>
      rw [htoken] at h
      exact ⟨token, rfl, h⟩

instance {permission : SyncPermission} :
    Decidable (Granted c amb headers ns permission db) := decidable_of_iff _ granted_iff.symm

theorem follows_done {α : Type} {wrap : α → Response} {contents' : Contents} {outcome : Contents.Outcome}
    {x : Handler α} {a : α} (houtcome : outcome = .ok (wrap a, contents'))
    (hx : Leaves (DbCall.exec c) x db (fun a' db' => a' = a ∧ Holds c state contents' ns db')
      fun _ _ => False) : Follows c state wrap x outcome contents ns db := by
  refine hx.mono (fun a' db' h => ⟨contents', ?_, h.2⟩) fun _ _ h => h.elim
  rw [houtcome, h.1]

theorem refreshed {α : Type} {a : α} (h : Holds c state contents ns db) (now : Instant) :
    Leaves (DbCall.exec c) (do refreshUsageAfterWrite c state ns now; pure a) db
      (fun a' db' => a' = a ∧ Holds c state contents ns db') fun _ _ => False := by
  apply (leaves_bind _ _).mpr
  exact leaves_refreshUsageAfterWrite (fun db' hsame => ⟨rfl, h.of_unchanged hsame⟩) ns now

theorem getMetadata_follows (hns : decodeNamespace c rawNs = .ok ns)
    (hgranted : Granted c amb headers ns .read db) (h : Holds c state contents ns db) :
    Follows c state Response.metadata (getMetadata c state amb rawNs peer headers)
      (contents.ifActive ns contents.getMetadata) contents ns db := by
  refine follows_sync hns hgranted h fun token db h => follows_read rfl ?_
  rw [h.metadata, Contents.getMetadata]
  cases hm : contents.metadata with
  | none => exact ⟨contents, rfl, h⟩
  | some m =>
    dsimp only
    rw [h.readable m hm]
    exact ⟨contents, rfl, h⟩

theorem putMetadata_follows (hns : decodeNamespace c rawNs = .ok ns)
    (hgranted : Granted c amb headers ns .write db) (h : Holds c state contents ns db)
    {body : MetadataWriteRequest}
    (hbody : ∀ existing etag now, (metadataFromBody state existing body etag now).depth ≤ jsonRecursionLimit) :
    Follows c state Response.written (putMetadata c state amb rawNs peer headers body)
      (contents.ifActive ns (contents.putMetadata c state amb body)) contents ns db := by
  refine follows_sync hns hgranted h fun token db h => follows_diskSpace h ?_
  refine follows_done rfl ?_
  rw [leaves_bind, leaves_db, leaves_bind, leaves_db]
  simp only [DbCall.exec, h.existing]
  exact refreshed (h.setMetadata (SyncMetadata.fromSlice_eq_some.mpr ⟨rfl, hbody _ _ _⟩)) _

theorem getBlob_follows (hns : decodeNamespace c rawNs = .ok ns)
    (hgranted : Granted c amb headers ns .read db) (h : Holds c state contents ns db) :
    Follows c state Response.payload (getBlob c state amb rawNs peer headers)
      (contents.ifActive ns contents.getBlob) contents ns db := by
  refine follows_sync hns hgranted h fun token db h => follows_read rfl ?_
  rw [Contents.getBlob]
  rcases rel_cases h.blob with ⟨hrow, hcontents⟩ | ⟨encrypted, body, hrow, hcontents, hbody⟩
  · rw [hrow, hcontents]
    exact ⟨rfl, h⟩
  · rw [hcontents]
    refine follows_some hrow (follows_value hbody (follows_read rfl ⟨contents, ?_, h⟩))
    rw [h.existing]

/-- Behind a conditional write that the store decides in the same way. -/
theorem follows_conditionally {α : Type} {wrap : α → Response} {decision : Except AppError Unit}
    {outcome : Unit → Contents.Outcome} {a : α} {result : Except ConditionalWriteError Unit × Db}
    {write : DbProgram (Except ConditionalWriteError Unit)}
    (hwrite : write.alone (DbCall.exec c) db = (.ok result.1, result.2))
    {observation : ConflictObservation} {now : Instant}
    (h : Holds c state contents ns db)
    (hdecides : (decision = .ok () ∧ ∃ contents' db', result = (.ok (), db') ∧
        Holds c state contents' ns db' ∧ outcome () = .ok (wrap a, contents')) ∨
      ∃ error, decision = .error (mapConditionalWriteError error) ∧ result = (.error error, db)) :
    Follows c state wrap (do
      let result ← conditionally write
      match result with
      | .error error => do
        recordConditionalWriteConflict c state amb observation error
        throw (mapConditionalWriteError error)
      | .ok () => do
        refreshUsageAfterWrite c state ns now
        pure a) (decision >>= outcome) contents ns db := by
  apply (leaves_bind _ _).mpr
  have hconditionally : (conditionally write).alone (DbCall.exec c) db = (.ok result.1, result.2) := by
    rw [conditionally, alone_bind, alone_attempt, hwrite]
    rfl
  unfold Leaves
  rw [hconditionally]
  rcases hdecides with ⟨hdecision, contents', db', hresult, hholds, houtcome⟩ | ⟨error, hdecision, hresult⟩
  · rw [hresult, hdecision]
    exact follows_done houtcome (refreshed hholds now)
  · rw [hresult, hdecision]
    dsimp only
    change Leaves (S := databaseSignature) (DbCall.exec c) _ db _ _
    apply (leaves_bind _ _).mpr
    exact leaves_recordConditionalWriteConflict (fun db' hsame => ⟨rfl, h.of_unchanged hsame⟩) _ _

/-- A record that has kept its nested fields can be read back if it could be before. -/
theorem metadataForBlob_depth {existing : Option SyncMetadata} (h : ∀ m ∈ existing, m.fromSlice = some m)
    {sectionRevisions : Option SectionRevisions}
    (hdepth : sectionRevisions.elim 0 SectionRevisions.depth < jsonRecursionLimit) (body : Bytes)
    (revision deviceId : Option String) (etag now : String) :
    (metadataForBlob c state existing body revision deviceId sectionRevisions etag now).depth ≤
      jsonRecursionLimit := by
  unfold SyncMetadata.depth metadataForBlob
  cases existing with
  | none =>
    simp only [Option.bind_none, Option.elim_none]
    omega
  | some m =>
    have hm := (SyncMetadata.fromSlice_eq_some.mp (h m rfl)).2
    unfold SyncMetadata.depth at hm
    simp only [Option.bind_some]
    omega

theorem putBlob_follows (hns : decodeNamespace c rawNs = .ok ns)
    (hgranted : Granted c amb headers ns .write db) (h : Holds c state contents ns db)
    (hseals : c.SealsPayloads state) (hnonce : (amb.nonce 0).length = 12)
    {sectionRevisions : Option SectionRevisions} {body : Bytes}
    (hdepth : sectionRevisions.elim 0 SectionRevisions.depth < jsonRecursionLimit) :
    Follows c state Response.written (putBlob c state amb rawNs peer headers sectionRevisions body)
      (contents.ifActive ns (contents.putBlob c state amb headers sectionRevisions body)) contents ns db := by
  refine follows_sync hns hgranted h fun token db h => follows_ensure h fun hsize => follows_diskSpace h
    (follows_read rfl ?_)
  obtain ⟨encrypted, hencrypted, hdecrypted⟩ := hseals (amb.nonce 0) body hnonce
    (le_max_of_le_left (by simpa using hsize))
  refine follows_value hencrypted ?_
  rw [h.existing]
  refine follows_conditionally (alone_redb c _ _) h ?_
  rcases putBlobIfMatches_decides encrypted _ contents.metadata h.metadata h.readable with
    ⟨hdecision, hput⟩ | ⟨error, hdecision, hput⟩
  · exact .inl ⟨hdecision, _, _, hput, h.putBlob (SyncMetadata.fromSlice_eq_some.mpr
      ⟨rfl, metadataForBlob_depth h.readable hdepth _ _ _ _ _⟩) hdecrypted, rfl⟩
  · exact .inr ⟨error, hdecision, hput⟩

theorem putObject_follows (hns : decodeNamespace c rawNs = .ok ns)
    (hgranted : Granted c amb headers ns .write db) (h : Holds c state contents ns db)
    (hseals : c.SealsPayloads state) (hnonce : (amb.nonce 0).length = 12) {rawPath : String} {body : Bytes} :
    Follows c state Response.objectWritten (putObject c state amb rawNs rawPath peer headers body)
      (contents.ifActive ns (contents.putObject state amb headers rawPath body)) contents ns db := by
  refine follows_sync hns hgranted h fun token db h => follows_liftResult h fun path _ =>
    follows_ensure h fun hsize => follows_diskSpace h ?_
  obtain ⟨encrypted, hencrypted, hdecrypted⟩ := hseals (amb.nonce 0) body hnonce
    (le_max_of_le_right (by simpa using hsize))
  refine follows_value hencrypted (follows_conditionally (alone_redb c _ _) h ?_)
  rcases putObjectIfMatches_decides encrypted _ _ (h.etags path) with
    ⟨hdecision, hput⟩ | ⟨error, hdecision, hput⟩
  · exact .inl ⟨hdecision, _, _, hput, h.putObject hdecrypted, rfl⟩
  · exact .inr ⟨error, hdecision, hput⟩

theorem deleteObject_follows (hns : decodeNamespace c rawNs = .ok ns)
    (hgranted : Granted c amb headers ns .write db) (h : Holds c state contents ns db) {rawPath : String} :
    Follows c state (fun _ => Response.done) (deleteObject c state amb rawNs rawPath peer headers)
      (contents.ifActive ns (contents.deleteObject rawPath)) contents ns db := by
  refine follows_sync hns hgranted h fun token db h => follows_liftResult h fun path _ => ?_
  refine follows_done (a := ()) rfl ?_
  rw [leaves_bind, leaves_db]
  have hdeleted := h.deleteObject path
  apply (leaves_runIf _ _).mpr
  exact ⟨fun _ => leaves_refreshUsageAfterWrite (fun db' hsame => ⟨rfl, hdeleted.of_unchanged hsame⟩) ns _,
    fun _ => ⟨rfl, hdeleted⟩⟩

theorem getObject_follows (hns : decodeNamespace c rawNs = .ok ns)
    (hgranted : Granted c amb headers ns .read db) (h : Holds c state contents ns db) {rawPath : String} :
    Follows c state Response.object (getObject c state amb rawNs rawPath peer headers)
      (contents.ifActive ns (contents.getObject rawPath)) contents ns db := by
  refine follows_sync hns hgranted h fun token db h => follows_liftResult h fun path _ => follows_read rfl ?_
  rcases rel_cases (h.objects path) with ⟨hrow, hcontents⟩ | ⟨encrypted, payload, hrow, hcontents, hbody⟩
  · rw [hrow, hcontents]
    exact ⟨contents, rfl, h⟩
  · rw [hrow, hcontents]
    refine follows_value hbody (follows_read rfl ⟨contents, ?_, h⟩)
    have hetag := h.etags path
    rw [hcontents, Option.map_some] at hetag
    obtain ⟨m, hm, hetag⟩ := Option.map_eq_some_iff.mp hetag
    rw [hm, Option.map_some, ← hetag]
    rfl

theorem mem_paths {pre path : String} :
    path ∈ contents.paths pre ↔ startsWith path pre = true ∧ contents.objects[path]? ≠ none := by
  rw [Contents.paths, List.mem_filter, Std.ExtTreeMap.mem_keys,
    Std.ExtTreeMap.mem_iff_isSome_getElem?, Option.isSome_iff_ne_none, and_comm]

theorem sorted_paths (pre : String) : (contents.paths pre).Pairwise (· < ·) := by
  have hkeys : contents.objects.keys.Pairwise (· < ·) :=
    Std.ExtTreeMap.ordered_keys.imp fun h => compare_lt_iff_lt.mp h
  exact hkeys.filter _

theorem Holds.stored_iff (h : Holds c state contents ns db) (path : String) :
    db.getObject ns path ≠ none ↔ contents.objects[path]? ≠ none := by
  rcases rel_cases (h.objects path) with ⟨hrow, hcontents⟩ | ⟨encrypted, payload, hrow, hcontents, _⟩
  · simp [hrow, hcontents]
  · simp [hrow, hcontents]

/-- The keys of the objects table tell the paths of the contents. -/
theorem Holds.pathsWith_eq (h : Holds c state contents ns db) (pre : String) :
    db.pathsWith ns pre = contents.paths pre := by
  apply sorted_pathsWith.eq_of_mem_iff (sorted_paths pre)
  intro path
  rw [mem_pathsWith, mem_paths, h.stored_iff]

theorem listObjects_follows (hns : decodeNamespace c rawNs = .ok ns)
    (hgranted : Granted c amb headers ns .read db) (h : Holds c state contents ns db)
    {query : ObjectListQuery} :
    Follows c state Response.listing (listObjects c state amb rawNs peer query headers)
      (contents.ifActive ns (contents.listObjects query)) contents ns db := by
  refine follows_sync hns hgranted h fun token db h => follows_ensure h fun hvalid => follows_read rfl ?_
  refine ⟨contents, ?_, h⟩
  rw [← h.pathsWith_eq, ← listingOf_eq_page (cursor_of_valid hvalid)]
  rfl

end Sync

section Panel
variable {ns : String} {db : Db} {contents : Contents} {headers : HeaderMap}

/-- The request is an administrator's, and carries the panel's CSRF token. -/
def MayManage (c : Crates) (state : AppState) (amb : Ambient) (headers : HeaderMap) (db : Db) : Prop :=
  ((verifyAdminMutation c state headers (amb.now 0)).alone (DbCall.exec c) db).1 = .ok ()

theorem MayManage.alone (h : MayManage c state amb headers db) :
    (verifyAdminMutation c state headers (amb.now 0)).alone (DbCall.exec c) db = (.ok (), db) := by
  have hreads : Calls (fun call : DbCall => ∃ username, call = .getAdminUser username)
      (verifyAdminMutation c state headers (amb.now 0)) :=
    verifyAdminMutation_reads (fun username => ⟨username, rfl⟩) _ _
  have hkeep : ((verifyAdminMutation c state headers (amb.now 0)).alone (DbCall.exec c) db).2 = db := by
    refine Program.run_invariant (J := fun s => s = db) ?_ hreads rfl
    intro call s hcall hs
    obtain ⟨username, rfl⟩ := hcall
    exact hs
  exact Prod.ext h hkeep

theorem follows_guarded {α : Type} {wrap : α → Response} {x : Unit → Handler α} {outcome : Contents.Outcome}
    (hadmin : MayManage c state amb headers db)
    (hx : Follows c state wrap (x ()) outcome contents ns db) :
    Follows c state wrap (verifyAdminMutation c state headers (amb.now 0) >>= x) outcome contents ns db := by
  apply (leaves_bind _ _).mpr
  unfold Leaves
  rw [hadmin.alone]
  exact hx

/-- The listing of one path tells whether there is any. -/
theorem Holds.listObjectPaths_isEmpty (h : Holds c state contents ns db) :
    (db.listObjectPaths ns "" none 1).isEmpty = contents.objects.isEmpty := by
  have hpaths : contents.paths "" = contents.objects.keys :=
    List.filter_eq_self.mpr fun path _ => by simp [startsWith]
  have hbehind : Paging.behind none contents.objects.keys = contents.objects.keys :=
    List.filter_eq_self.mpr fun path _ => rfl
  rw [listObjectPaths_eq_behind (by simp), h.pathsWith_eq, hpaths, hbehind,
    ← Std.ExtTreeMap.isEmpty_keys]
  cases contents.objects.keys <;> rfl

theorem adminCreateNamespace_follows {requested : String} (hadmin : MayManage c state amb headers db)
    (hvalid : ValidNamespaceName c (trim requested)) (h : Holds c state contents (trim requested) db) :
    Follows c state Response.namespaceCreated (adminCreateNamespace c state amb headers requested)
      (contents.create state amb (trim requested)) contents (trim requested) db := by
  refine follows_guarded hadmin (follows_diskSpace h (follows_value hvalid (follows_read rfl ?_)))
  rw [h.deleted]
  refine follows_ensure h fun _ => follows_read rfl ?_
  rw [h.metadata]
  cases hm : contents.metadata with
  | some m => exact ⟨rfl, h⟩
  | none =>
    refine follows_read rfl ?_
    rw [h.listObjectPaths_isEmpty]
    refine follows_ensure h fun _ => follows_done rfl ?_
    rw [leaves_bind, leaves_db]
    exact ⟨rfl, h.setMetadata SyncMetadata.fromSlice_empty⟩

theorem adminDeleteNamespace_follows {hard : Option Bool} (hadmin : MayManage c state amb headers db)
    (h : Holds c state contents ns db) :
    Follows c state Response.namespaceDeleted (adminDeleteNamespace c state amb ns hard headers)
      (contents.delete state amb ns (hard.getD false)) contents ns db := by
  refine follows_guarded hadmin ?_
  unfold Contents.delete
  split
  · refine follows_done rfl ?_
    rw [leaves_bind, leaves_db]
    exact ⟨rfl, h.purge⟩
  · refine follows_read rfl ?_
    rw [h.deleted]
    refine follows_ensure h fun _ => follows_read rfl ?_
    rw [h.metadata]
    have hrest : Follows c state Response.namespaceDeleted (do
        ensureDiskCapacity state amb (256 * 1024)
        CloudSync.db (.softDeleteNamespace ns (c.toRfc3339 (amb.now 1)))
        let _ ← orDatabaseError (refreshNamespaceUsage ns (c.toRfc3339 (amb.now 2)) true)
        pure DeleteMode.soft) (do
        diskSpace state amb (256 * 1024)
        pure (.namespaceDeleted .soft, { contents with deleted := true })) contents ns db := by
      refine follows_diskSpace h (follows_done rfl ?_)
      rw [leaves_bind, leaves_db, leaves_bind]
      exact leaves_refreshNamespaceUsage
        (fun _ db' hsame => ⟨rfl, (h.softDelete _).of_unchanged hsame⟩) _ _ _
    cases hm : contents.metadata with
    | some m =>
      rw [hm] at hrest
      exact hrest
    | none =>
      rw [hm] at hrest
      rw [Option.isNone_none, runIf, if_pos rfl, bind_assoc]
      refine follows_read rfl ?_
      rw [h.listObjectPaths_isEmpty]
      exact follows_ensure h fun _ => hrest

theorem adminRestoreNamespace_follows (hadmin : MayManage c state amb headers db)
    (h : Holds c state contents ns db) :
    Follows c state (fun _ => Response.done) (adminRestoreNamespace c state amb ns headers)
      (contents.restore state amb ns) contents ns db := by
  refine follows_guarded hadmin (follows_diskSpace h (follows_read rfl ?_))
  rw [h.deleted]
  refine follows_ensure h fun _ => follows_done (a := ()) rfl ?_
  rw [leaves_bind, leaves_db, leaves_bind]
  exact leaves_refreshNamespaceUsage (fun _ db' hsame => ⟨rfl, h.restore.of_unchanged hsame⟩) _ _ _

end Panel

end CloudSync
