import CloudSync.Server
import CloudSync.Tagged.Cell
import CloudSync.Transactions.Recording

/-!
# Payloads and their ETags as tagged cells

An object path has one cell, a namespace has one for its snapshot. Every
transaction acts on every cell as one `Change`.
-/

namespace CloudSync

open Rust Redb Transactions Tagged

set_option autoImplicit false

/-- The key of a payload, as the tables spell it. -/
inductive Key where
  | object (key : String)
  | snapshot (key : String)
  deriving Repr, DecidableEq

def Key.ofObject (ns path : String) : Key := .object (objectKey ns path)

def Key.ofSnapshot (ns : String) : Key := .snapshot (blobKey ns)

def Key.cell : Key → Db → Cell String Bytes
  | .object key, db =>
    { tag := (db.objectMetadata[key]?).map (·.etag), payload := db.objects[key]? }
  | .snapshot key, db => { tag := (db.metadata[key]?).bind (·.etag), payload := db.blobs[key]? }

/-- What `If-None-Match: *` looks at. -/
def Key.present : Key → Db → Bool
  | .object key, db => (db.objectMetadata[key]?).isSome
  | .snapshot key, db => (db.metadata[key]?).any (·.exists)

/-- What a committed call does to one cell. -/
def DbCall.change (key : Key) (db : Db) :
    (call : DbCall) → databaseSignature.Reply call → Change String Bytes
  | .putObjectIfMatches ns path _ _ data m, .ok (.ok ()) =>
    if Key.ofObject ns path = key then .put (some m.etag) data else .idle
  | .deleteObject ns path, .ok _ => if Key.ofObject ns path = key then .clear else .idle
  | .putBlobIfMatches ns _ _ blob m, .ok (.ok ()) =>
    if Key.ofSnapshot ns = key then .put m.etag blob else .idle
  | .setMetadata ns data, .ok _ => if Key.ofSnapshot ns = key then .retag data.etag else .idle
  | .hardDeleteNamespace ns, .ok _ =>
    if Key.ofSnapshot ns = key ∨ key ∈ (db.purgedKeys ns).map .object then .clear else .idle
  | _, _ => .idle

def Key.change (key : Key) (e : DbEvent) : Change String Bytes := e.op.change key e.pre e.reply

/-! ## What the conditional writes do -/

section Conditional
variable (db : Db) (ns path : String) (expectedEtag : Option String) (requireAbsent : Bool)

/-- The precondition of a conditional write on the tag it finds; `present` is what
`If-None-Match: *` asks about. -/
def PreconditionHolds (tag : Option String) (present : Bool) (expectedEtag : Option String)
    (requireAbsent : Bool) : Prop :=
  match expectedEtag with
  | some expected => tag.getD "" = expected
  | none => requireAbsent = true → present = false

theorem putObjectIfMatches_cases (data : Bytes) (metadata : StoredObjectMetadata) :
    (∃ message, db.putObjectIfMatches ns path expectedEtag requireAbsent data metadata =
      (.error (.conflict none ((Key.ofObject ns path).cell db).tag message), db)) ∨
    PreconditionHolds ((Key.ofObject ns path).cell db).tag ((Key.ofObject ns path).present db)
        expectedEtag requireAbsent ∧
      db.putObjectIfMatches ns path expectedEtag requireAbsent data metadata =
        (.ok (), { db with
          objects := db.objects.insert (objectKey ns path) data
          objectMetadata := db.objectMetadata.insert (objectKey ns path) metadata }) := by
  unfold Db.putObjectIfMatches
  cases expectedEtag with
  | some expected =>
    dsimp only
    split
    · exact .inl ⟨_, rfl⟩
    · rename_i h
      exact .inr ⟨not_not.mp h, rfl⟩
  | none =>
    dsimp only
    split
    · exact .inl ⟨_, rfl⟩
    · rename_i h
      refine .inr ⟨fun hr => ?_, rfl⟩
      rw [hr, Bool.true_and, Bool.not_eq_true] at h
      exact h

theorem putBlobIfMatches_cases (blob : Bytes) (metadata : SyncMetadata) :
    (∃ message, db.putBlobIfMatches ns expectedEtag requireAbsent blob metadata =
      (.error (.serialization message), db)) ∨
    (∃ revision message, db.putBlobIfMatches ns expectedEtag requireAbsent blob metadata =
      (.error (.conflict revision ((Key.ofSnapshot ns).cell db).tag message), db)) ∨
    PreconditionHolds ((Key.ofSnapshot ns).cell db).tag ((Key.ofSnapshot ns).present db)
        expectedEtag requireAbsent ∧
      db.putBlobIfMatches ns expectedEtag requireAbsent blob metadata =
        (.ok (), { db with
          blobs := db.blobs.insert (blobKey ns) blob
          metadata := db.metadata.insert (metadataKey ns) metadata }) := by
  have htag : ((Key.ofSnapshot ns).cell db).tag = (db.metadata[metadataKey ns]?).bind (·.etag) := rfl
  have hpresent : (Key.ofSnapshot ns).present db = (db.metadata[metadataKey ns]?).any (·.exists) := rfl
  -- Either there is no row, or it decodes to itself.
  rw [htag, hpresent]
  unfold Db.putBlobIfMatches
  cases hrow : db.metadata[metadataKey ns]? with
  | none =>
    cases expectedEtag with
    | some expected =>
      dsimp only
      split
      · exact .inr (.inl ⟨_, _, rfl⟩)
      · rename_i h
        exact .inr (.inr ⟨not_not.mp h, rfl⟩)
    | none =>
      dsimp only
      split
      · exact .inr (.inl ⟨_, _, rfl⟩)
      · exact .inr (.inr ⟨fun _ => rfl, rfl⟩)
  | some row =>
    cases hslice : row.fromSlice with
    | none =>
      refine .inl ⟨"recursion limit exceeded", ?_⟩
      simp only [hslice]
    | some current =>
      obtain ⟨rfl, _⟩ := SyncMetadata.fromSlice_eq_some.mp hslice
      cases expectedEtag with
      | some expected =>
        simp only [hslice]
        split
        · exact .inr (.inl ⟨_, _, rfl⟩)
        · rename_i h
          exact .inr (.inr ⟨not_not.mp h, rfl⟩)
      | none =>
        simp only [hslice]
        split
        · exact .inr (.inl ⟨_, _, rfl⟩)
        · rename_i h
          refine .inr (.inr ⟨fun hr => ?_, rfl⟩)
          simpa [hr] using h

end Conditional

/-! ## Every call acts on every cell as its change -/

section Cells
variable {c : Crates} (key : Key)

theorem cell_putObject (db : Db) (ns path : String) (data : Bytes) (m : StoredObjectMetadata) :
    key.cell { db with
      objects := db.objects.insert (objectKey ns path) data
      objectMetadata := db.objectMetadata.insert (objectKey ns path) m } =
      (if Key.ofObject ns path = key then Change.put (some m.etag) data else .idle).apply
        (key.cell db) := by
  cases key with
  | object key =>
    by_cases h : objectKey ns path = key <;>
      simp [Key.cell, Key.ofObject, Change.apply, h]
  | snapshot key => rfl

theorem cell_putBlob (db : Db) (ns : String) (blob : Bytes) (m : SyncMetadata) :
    key.cell { db with
      blobs := db.blobs.insert (blobKey ns) blob
      metadata := db.metadata.insert (metadataKey ns) m } =
      (if Key.ofSnapshot ns = key then Change.put m.etag blob else .idle).apply (key.cell db) := by
  cases key with
  | object key => rfl
  | snapshot key =>
    by_cases h : blobKey ns = key
    · simp [Key.cell, Key.ofSnapshot, Change.apply, h, show metadataKey ns = key from h]
    · simp [Key.cell, Key.ofSnapshot, Change.apply, h, show metadataKey ns ≠ key from h]

theorem cell_setMetadata (db : Db) (ns : String) (m : SyncMetadata) :
    key.cell (db.setMetadata ns m) =
      (if Key.ofSnapshot ns = key then Change.retag m.etag else .idle).apply (key.cell db) := by
  cases key with
  | object key => rfl
  | snapshot key =>
    by_cases h : blobKey ns = key
    · simp [Db.setMetadata, Key.cell, Key.ofSnapshot, Change.apply, h,
        show metadataKey ns = key from h]
    · simp [Db.setMetadata, Key.cell, Key.ofSnapshot, Change.apply, h,
        show metadataKey ns ≠ key from h]

theorem cell_deleteObject (db : Db) (ns path : String) :
    key.cell (db.deleteObject ns path).2 =
      (if Key.ofObject ns path = key then Change.clear else .idle).apply (key.cell db) := by
  cases key with
  | object key =>
    by_cases h : objectKey ns path = key <;>
      simp [Db.deleteObject, objectMetaKey, Key.cell, Key.ofObject, Change.apply, h]
  | snapshot key => rfl

theorem cell_hardDeleteNamespace (db : Db) (ns : String) :
    key.cell (db.hardDeleteNamespace ns) =
      (if Key.ofSnapshot ns = key ∨ key ∈ (db.purgedKeys ns).map .object then Change.clear
        else .idle).apply (key.cell db) := by
  cases key with
  | object key =>
    by_cases h : key ∈ db.purgedKeys ns <;>
      simp [Db.hardDeleteNamespace, Key.cell, Key.ofSnapshot, Change.apply, h]
  | snapshot key =>
    by_cases h : blobKey ns = key
    · simp [Db.hardDeleteNamespace, Key.cell, Key.ofSnapshot, Change.apply, h,
        show metadataKey ns = key from h]
    · simp [Db.hardDeleteNamespace, Key.cell, Key.ofSnapshot, Change.apply, h,
        show metadataKey ns ≠ key from h]

theorem cell_change {call : DbCall} {r : databaseSignature.Reply call} {db db' : Db}
    (h : Effect (S := databaseSignature) (DbCall.exec c) call r db db') :
    key.cell db' = (call.change key db r).apply (key.cell db) := by
  cases h with
  | fail f => cases call <;> rfl
  | commit =>
    cases call with
    | putObjectIfMatches ns path expectedEtag requireAbsent data m =>
      rcases putObjectIfMatches_cases db ns path expectedEtag requireAbsent data m with
        ⟨message, h⟩ | ⟨_, h⟩
      · simp only [DbCall.exec, h]
        rfl
      · simp only [DbCall.exec, h]
        exact cell_putObject key db ns path data m
    | putBlobIfMatches ns expectedEtag requireAbsent blob m =>
      rcases putBlobIfMatches_cases db ns expectedEtag requireAbsent blob m with
        ⟨message, h⟩ | ⟨revision, message, h⟩ | ⟨_, h⟩
      · simp only [DbCall.exec, h]
        rfl
      · simp only [DbCall.exec, h]
        rfl
      · simp only [DbCall.exec, h]
        exact cell_putBlob key db ns blob m
    | setMetadata ns m => exact cell_setMetadata key db ns m
    | deleteObject ns path => exact cell_deleteObject key db ns path
    | hardDeleteNamespace ns => exact cell_hardDeleteNamespace key db ns
    | recordTokenUsage id ns permission clientIp clientVersion observedAt =>
      obtain ⟨tokens, devices, h⟩ :=
        db.recordTokenUsage_eq id ns permission clientIp clientVersion observedAt
      rw [DbCall.exec, h]
      cases key <;> rfl
    | recordTokenFailure id =>
      obtain ⟨tokens, h⟩ := db.recordTokenFailure_eq id
      rw [DbCall.exec, h]
      cases key <;> rfl
    | _ => cases key <;> rfl

/-- The record and the blob of a namespace. -/
def Db.snapshot (db : Db) (ns : String) : Option SyncMetadata × Option Bytes :=
  (db.getMetadata ns, db.getBlob ns)

/-- All that a call can do to the snapshot of a namespace. -/
inductive SnapshotStep (ns : String) (db : Db) (call : databaseSignature.Call) (db' : Db) : Prop where
  | same (hidle : call.1.change (.ofSnapshot ns) db call.2 = .idle)
      (h : db'.snapshot ns = db.snapshot ns)
  | upload (expectedEtag : Option String) (requireAbsent : Bool) (blob : Bytes) (m : SyncMetadata)
      (hcall : call = ⟨.putBlobIfMatches ns expectedEtag requireAbsent blob m, .ok (.ok ())⟩)
      (h : db'.snapshot ns = (some m, some blob))
  | describe (data : SyncMetadata) (hcall : call = ⟨.setMetadata ns data, .ok ()⟩)
      (h : db'.snapshot ns = (some data, (db.snapshot ns).2))
  | purge (hcall : call = ⟨.hardDeleteNamespace ns, .ok ()⟩) (h : db'.snapshot ns = (none, none))

theorem snapshotStep (ns : String) {call : DbCall} {r : databaseSignature.Reply call} {db db' : Db}
    (h : Effect (S := databaseSignature) (DbCall.exec c) call r db db') :
    SnapshotStep ns db ⟨call, r⟩ db' := by
  have hkeys : ∀ {ns' : String}, ns' ≠ ns →
      metadataKey ns' ≠ metadataKey ns ∧ blobKey ns' ≠ blobKey ns ∧ Key.ofSnapshot ns' ≠ .ofSnapshot ns :=
    fun hne => ⟨fun h => hne (metadataKey_injective h), fun h => hne (blobKey_injective h),
      fun h => hne (blobKey_injective (Key.snapshot.inj h))⟩
  cases h with
  | fail f => exact .same (by cases call <;> rfl) rfl
  | commit =>
    cases call with
    | putBlobIfMatches ns' expectedEtag requireAbsent blob m =>
      rcases putBlobIfMatches_cases db ns' expectedEtag requireAbsent blob m with
        ⟨message, h⟩ | ⟨revision, message, h⟩ | ⟨_, h⟩
      · simp only [DbCall.exec, h]
        exact .same rfl rfl
      · simp only [DbCall.exec, h]
        exact .same rfl rfl
      · simp only [DbCall.exec, h]
        by_cases hns : ns' = ns
        · subst hns
          exact .upload expectedEtag requireAbsent blob m rfl (by
            simp [Db.snapshot, Db.getMetadata, Db.getBlob])
        · obtain ⟨hm, hb, hk⟩ := hkeys hns
          exact .same (by simp [DbCall.change, hk]) (by
            simp [Db.snapshot, Db.getMetadata, Db.getBlob, hm, hb])
    | setMetadata ns' data =>
      by_cases hns : ns' = ns
      · subst hns
        exact .describe data rfl (by
          simp [DbCall.exec, Db.setMetadata, Db.snapshot, Db.getMetadata, Db.getBlob])
      · obtain ⟨hm, _, hk⟩ := hkeys hns
        exact .same (by simp [DbCall.change, hk]) (by
          simp [DbCall.exec, Db.setMetadata, Db.snapshot, Db.getMetadata, Db.getBlob, hm])
    | hardDeleteNamespace ns' =>
      by_cases hns : ns' = ns
      · subst hns
        exact .purge rfl (by
          simp [DbCall.exec, Db.hardDeleteNamespace, Db.snapshot, Db.getMetadata, Db.getBlob])
      · obtain ⟨hm, hb, hk⟩ := hkeys hns
        exact .same (by simp [DbCall.change, hk]; simp [Key.ofSnapshot]) (by
          simp [DbCall.exec, Db.hardDeleteNamespace, Db.snapshot, Db.getMetadata, Db.getBlob, hm, hb])
    | putObjectIfMatches ns' path expectedEtag requireAbsent data m =>
      rcases putObjectIfMatches_cases db ns' path expectedEtag requireAbsent data m with
        ⟨message, h⟩ | ⟨_, h⟩
      · simp only [DbCall.exec, h]
        exact .same rfl rfl
      · simp only [DbCall.exec, h]
        exact .same (by simp [DbCall.change, Key.ofObject, Key.ofSnapshot]) rfl
    | recordTokenUsage id ns' permission clientIp clientVersion observedAt =>
      obtain ⟨tokens, devices, h⟩ :=
        db.recordTokenUsage_eq id ns' permission clientIp clientVersion observedAt
      rw [DbCall.exec, h]
      exact .same rfl rfl
    | recordTokenFailure id =>
      obtain ⟨tokens, h⟩ := db.recordTokenFailure_eq id
      rw [DbCall.exec, h]
      exact .same rfl rfl
    | _ => exact .same rfl rfl

/-- The cell at the end of a log is the cell at its start with all changes replayed. -/
theorem cell_replay {log : List DbEvent} {db db' : Db}
    (h : Linked (S := databaseSignature) (DbCall.exec c) db log db') :
    key.cell db' = replay (key.cell db) (log.map key.change) := by
  induction log generalizing db with
  | nil => rw [show db' = db from h]; rfl
  | cons e log ih =>
    obtain ⟨rfl, he, ht⟩ := h
    rw [List.map_cons, replay_cons, ih ht, cell_change key he]
    rfl

end Cells

end CloudSync
