import CloudSync.Reachable

/-!
# Tables in step

The four payload tables keep step with each other in every reachable database:
object rows come in pairs, a blob has its record, and every key is made from a
valid name. This is why a purge, which scans the object table only, leaves
nothing of its namespace behind.
-/

namespace CloudSync

open Rust Redb Transactions

set_option autoImplicit false

variable {c : Crates} {state : AppState}

def ValidNamespaceName (c : Crates) (ns : String) : Prop := validateNamespace c ns = .ok ()

theorem decodeNamespace_valid {raw ns : String} (h : decodeNamespace c raw = .ok ns) :
    ValidNamespaceName c ns := by
  unfold decodeNamespace at h
  split at h
  · cases h
  · rename_i decoded _
    unfold ValidNamespaceName
    cases hv : validateNamespace c decoded with
    | error e =>
      rw [hv] at h
      cases h
    | ok u =>
      rw [hv] at h
      cases h
      exact hv

theorem decodeObjectPath_valid {raw path : String} (h : decodeObjectPath raw = .ok path) :
    validObjectPath path = true := by
  unfold decodeObjectPath at h
  split at h
  · cases h
  · split at h
    · rename_i hvalid
      cases h
      exact hvalid
    · cases h

/-- A key made by `metadata_key` and `blob_key` from a valid namespace. -/
def SnapshotKey (c : Crates) (key : String) : Prop :=
  ∃ ns, ValidNamespaceName c ns ∧ key = metadataKey ns ∧ key = blobKey ns

/-- A key made by `object_key` from a valid namespace and a valid path. -/
def ObjectKey (c : Crates) (key : String) : Prop :=
  ∃ ns path, ValidNamespaceName c ns ∧ validObjectPath path = true ∧ key = objectKey ns path

structure Aligned (c : Crates) (db : Db) : Prop where
  /-- The object tables have the same keys. -/
  paired : ∀ key : String, db.objects[key]? = none ↔ db.objectMetadata[key]? = none
  described : ∀ ns, db.getBlob ns ≠ none → db.getMetadata ns ≠ none
  metadataKeys : ∀ key : String, db.metadata[key]? ≠ none → SnapshotKey c key
  blobKeys : ∀ key : String, db.blobs[key]? ≠ none → SnapshotKey c key
  objectKeys : ∀ key : String, db.objects[key]? ≠ none → ObjectKey c key

theorem Aligned.objectMetadataKeys {db : Db} (hd : Aligned c db) (key : String)
    (h : db.objectMetadata[key]? ≠ none) : ObjectKey c key :=
  hd.objectKeys key fun hnone => h ((hd.paired key).mp hnone)

/-! ## Steps -/

/-- The namespace in whose snapshot tables the call puts a row. -/
def DbCall.snapshotTarget : DbCall → Option String
  | .setMetadata ns _ => some ns
  | .putBlobIfMatches ns _ _ _ _ => some ns
  | _ => none

/-- No row appears in the snapshot tables but that of the target. -/
theorem snapshotKeys_step (key : String) {call : DbCall} {r : databaseSignature.Reply call}
    {db db' : Db} (h : Effect (S := databaseSignature) (DbCall.exec c) call r db db') :
    (db'.metadata[key]? ≠ none →
      db.metadata[key]? ≠ none ∨ ∃ ns ∈ call.snapshotTarget, key = metadataKey ns) ∧
    (db'.blobs[key]? ≠ none →
      db.blobs[key]? ≠ none ∨ ∃ ns ∈ call.snapshotTarget, key = blobKey ns) := by
  cases h with
  | fail f => exact ⟨.inl, .inl⟩
  | commit =>
    cases call with
    | setMetadata ns data =>
      refine ⟨fun h => ?_, .inl⟩
      by_cases hkey : metadataKey ns = key
      · exact .inr ⟨ns, rfl, hkey.symm⟩
      · exact .inl (by simpa [DbCall.exec, Db.setMetadata, hkey] using h)
    | putBlobIfMatches ns expectedEtag requireAbsent blob m =>
      rcases putBlobIfMatches_cases db ns expectedEtag requireAbsent blob m with
        ⟨message, h⟩ | ⟨revision, message, h⟩ | ⟨_, h⟩
      · simp only [DbCall.exec, h]
        exact ⟨.inl, .inl⟩
      · simp only [DbCall.exec, h]
        exact ⟨.inl, .inl⟩
      · simp only [DbCall.exec, h]
        by_cases hkey : metadataKey ns = key
        · exact ⟨fun _ => .inr ⟨ns, rfl, hkey.symm⟩, fun _ => .inr ⟨ns, rfl, hkey.symm⟩⟩
        · refine ⟨fun h => .inl ?_, fun h => .inl ?_⟩
          · simpa [hkey] using h
          · simpa [show blobKey ns ≠ key from hkey] using h
    | putObjectIfMatches ns path expectedEtag requireAbsent data m =>
      rcases putObjectIfMatches_cases db ns path expectedEtag requireAbsent data m with
        ⟨message, h⟩ | ⟨_, h⟩ <;>
      · simp only [DbCall.exec, h]
        exact ⟨.inl, .inl⟩
    | hardDeleteNamespace ns =>
      constructor <;>
      · intro h
        refine .inl fun hnone => h ?_
        simp [DbCall.exec, Db.hardDeleteNamespace, hnone]
    | recordTokenUsage id ns permission clientIp clientVersion observedAt =>
      obtain ⟨tokens, devices, h⟩ :=
        db.recordTokenUsage_eq id ns permission clientIp clientVersion observedAt
      rw [DbCall.exec, h]
      exact ⟨.inl, .inl⟩
    | recordTokenFailure id =>
      obtain ⟨tokens, h⟩ := db.recordTokenFailure_eq id
      rw [DbCall.exec, h]
      exact ⟨.inl, .inl⟩
    | _ => exact ⟨.inl, .inl⟩

section Origin
variable {amb : Ambient} {r : Request} {calls : RecordedCalls} {call : DbCall}

theorem snapshotTarget_valid (ho : dataCall call = true → Originates c state amb r calls call)
    {ns : String} (h : ns ∈ call.snapshotTarget) : ValidNamespaceName c ns := by
  cases call with
  | setMetadata ns' data =>
    cases h
    rcases ho rfl with ⟨_, _, _, _, _, hns, _⟩ | ⟨_, _, _, _, hvalid, _⟩
    · exact decodeNamespace_valid hns
    · exact hvalid
  | putBlobIfMatches ns' expectedEtag requireAbsent blob m =>
    cases h
    obtain ⟨_, _, _, _, _, _, hns, _⟩ := ho rfl
    exact decodeNamespace_valid hns
  | _ => cases h

/-- Every transaction of a handler keeps the tables aligned. -/
theorem Aligned.step {reply : databaseSignature.Reply call} {db db' : Db} (hd : Aligned c db)
    (h : Effect (S := databaseSignature) (DbCall.exec c) call reply db db')
    (ho : dataCall call = true → Originates c state amb r calls call) : Aligned c db' where
  paired key := by
    have hrow : ∀ {stored : Option Bytes} {m : Option StoredObjectMetadata},
        db'.objectRow key = (stored, m) → db'.objects[key]? = stored ∧ db'.objectMetadata[key]? = m :=
      fun h => Prod.mk.inj h
    cases objectStep key h with
    | same h =>
      obtain ⟨hs, hm⟩ := hrow h
      rw [hs, hm]
      exact hd.paired key
    | store _ _ _ _ _ _ _ _ h =>
      obtain ⟨hs, hm⟩ := hrow h
      simp [hs, hm]
    | remove _ _ _ _ _ h =>
      obtain ⟨hs, hm⟩ := hrow h
      simp [hs, hm]
    | purge _ _ _ h =>
      obtain ⟨hs, hm⟩ := hrow h
      simp [hs, hm]
  described ns := by
    have hsnapshot : ∀ {row : Option SyncMetadata} {blob : Option Bytes},
        db'.snapshot ns = (row, blob) → db'.getMetadata ns = row ∧ db'.getBlob ns = blob :=
      fun h => Prod.mk.inj h
    cases snapshotStep ns h with
    | same _ h =>
      obtain ⟨hm, hb⟩ := hsnapshot h
      rw [hm, hb]
      exact hd.described ns
    | upload _ _ _ _ _ h =>
      rw [(hsnapshot h).1]
      exact fun _ => Option.some_ne_none _
    | describe _ _ h =>
      rw [(hsnapshot h).1]
      exact fun _ => Option.some_ne_none _
    | purge _ h =>
      rw [(hsnapshot h).2]
      exact fun hne => absurd rfl hne
  metadataKeys key hkey := by
    rcases (snapshotKeys_step key h).1 hkey with hkey | ⟨ns, hns, rfl⟩
    · exact hd.metadataKeys key hkey
    · exact ⟨ns, snapshotTarget_valid ho hns, rfl, rfl⟩
  blobKeys key hkey := by
    rcases (snapshotKeys_step key h).2 hkey with hkey | ⟨ns, hns, rfl⟩
    · exact hd.blobKeys key hkey
    · exact ⟨ns, snapshotTarget_valid ho hns, rfl, rfl⟩
  objectKeys key hkey := by
    cases objectStep key h with
    | same h =>
      rw [(Prod.mk.inj h).1] at hkey
      exact hd.objectKeys key hkey
    | store ns path _ _ _ _ hcall hobject _ =>
      obtain ⟨rfl, -⟩ := Sigma.mk.inj hcall
      obtain ⟨_, _, _, _, _, hns, hpath, _⟩ := ho rfl
      exact ⟨ns, path, decodeNamespace_valid hns, decodeObjectPath_valid hpath, hobject.symm⟩
    | remove _ _ _ _ _ h => exact absurd (Prod.mk.inj h).1 hkey
    | purge _ _ _ h => exact absurd (Prod.mk.inj h).1 hkey

end Origin

/-! ## Runs -/

theorem aligned_run {t : Traffic} {start s : Db} {log : List DbEvent}
    {ps : Nat → Program databaseSignature Answer} (hd : Aligned c start)
    (h : ServerRun c state t start log s ps) :
    Aligned c s ∧ ∀ e ∈ log, Aligned c e.pre ∧ Aligned c e.post := by
  have hstep : ∀ before e after, log = before ++ e :: after → Aligned c e.pre → Aligned c e.post := by
    rintro before e after rfl hpre
    exact hpre.step (h.linked.effect (by simp)) (originates h)
  exact ⟨h.linked.history (I := fun _ => Aligned c) hd hstep,
    h.linked.kept (J := Aligned c) hd hstep⟩

theorem aligned_new : Aligned c {} where
  paired key := by simp
  described ns h := absurd (by simp [Db.getBlob]) h
  metadataKeys key h := absurd (by simp) h
  blobKeys key h := absurd (by simp) h
  objectKeys key h := absurd (by simp) h

theorem Reachable.aligned {s : Db} (h : Reachable c s) : Aligned c s :=
  h.invariant aligned_new (fun _ _ hd => ⟨hd.1, hd.2, hd.3, hd.4, hd.5⟩)
    fun hd hrun => (aligned_run hd hrun).1

/-! ## Purges -/

/-- No row of the namespace is left in any table. -/
structure Erased (ns : String) (db : Db) : Prop where
  snapshot : db.snapshot ns = (none, none)
  objects : ∀ path, db.objectRow (objectKey ns path) = (none, none)
  tombstone : db.isNamespaceDeleted ns = false
  usage : db.getNamespaceUsage ns = none

theorem startsWith_own (ns path : String) :
    startsWith (objectKey ns path) ("ns:" ++ ns ++ "/obj:") := startsWith_append _ _

theorem Aligned.erased {db : Db} (hd : Aligned c db) (ns : String) :
    Erased ns (db.hardDeleteNamespace ns) where
  snapshot := by simp [Db.snapshot, Db.getMetadata, Db.getBlob, Db.hardDeleteNamespace]
  objects path := by
    by_cases hkey : objectKey ns path ∈ db.purgedKeys ns
    · simp [Db.objectRow, Db.hardDeleteNamespace, hkey]
    · -- There was no object, hence no metadata for it.
      have hnone : db.objects[objectKey ns path]? = none := by
        by_contra hne
        exact hkey (mem_purgedKeys.mpr ⟨hne, startsWith_own ns path⟩)
      simp [Db.objectRow, Db.hardDeleteNamespace, hkey, hnone, (hd.paired _).mp hnone]
  tombstone := by simp [Db.isNamespaceDeleted, Db.hardDeleteNamespace]
  usage := by simp [Db.getNamespaceUsage, Db.hardDeleteNamespace]

/-- In every state of every server on a reachable database the tables are in step, and
a committed purge leaves nothing behind. -/
theorem tables_keepStep {t : Traffic} {start s : Db} {log : List DbEvent}
    {ps : Nat → Program databaseSignature Answer} (hstart : Reachable c start)
    (h : ServerRun c state t start log s ps) :
    Aligned c s ∧ ∀ e ∈ log, Aligned c e.post ∧
      ∀ ns, e.call = ⟨.hardDeleteNamespace ns, .ok ()⟩ → Erased ns e.post := by
  obtain ⟨hs, hlog⟩ := aligned_run hstart.aligned h
  refine ⟨hs, fun e he => ⟨(hlog e he).2, fun ns hcall => ?_⟩⟩
  obtain ⟨hpre, -⟩ := hlog e he
  have heffect := h.linked.effect he
  obtain ⟨tid, op, reply, pre, post⟩ := e
  obtain ⟨rfl, hreply⟩ := Sigma.mk.inj hcall
  obtain rfl := eq_of_heq hreply
  rw [show post = _ from heffect.of_ok.2]
  exact hpre.erased ns

/-- A client stores an object and a snapshot, then the namespace is purged. -/
def purgeTraffic : List Request :=
  [issueRequest "*" "write" none,
   issuedRequest (.putObject "work" "notes" [1]) [],
   issuedRequest (.putBlob "work" none [2]) [],
   panelRequest (.adminDeleteNamespace "work" (some true))]

def purgeOf : databaseSignature.Call → Option String
  | ⟨.hardDeleteNamespace ns, .ok ()⟩ => some ns
  | _ => none

theorem purgeOf_eq_some {call : databaseSignature.Call} {ns : String} (h : purgeOf call = some ns) :
    call = ⟨.hardDeleteNamespace ns, .ok ()⟩ := by
  unfold purgeOf at h
  split at h
  · cases h
    rfl
  · cases h

theorem scripted_purgeTraffic : purgeTraffic.Forall Scripted :=
  ⟨.issue _ _ _, .issued _ _ rfl, .issued _ _ rfl, .panel _ rfl⟩

set_option maxRecDepth 10000 in
theorem tables_keepStep_purged :
    ∃ e ∈ (playFresh purgeTraffic (inTurn 4)).1,
      e.pre.objectRow (objectKey "work" "notes") ≠ (none, none) ∧ Erased "work" e.post := by
  have hplay : ∃ e ∈ (playFresh purgeTraffic (inTurn 4)).1, purgeOf e.call = some "work" ∧
      e.pre.objectRow (objectKey "work" "notes") ≠ (none, none) := by
    rw [playFresh_short scripted_purgeTraffic]
    decide +kernel
  obtain ⟨e, he, hpurge, hstored⟩ := hplay
  have hkept := (tables_keepStep reachable_freshDb (playFresh_run purgeTraffic (inTurn 4))).2 e he
  exact ⟨e, he, hstored, hkept.2 "work" (purgeOf_eq_some hpurge)⟩

end CloudSync
