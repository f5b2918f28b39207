import CloudSync.Accounting.Totals
import CloudSync.InTurn
import CloudSync.Scans

/-!
# The listing of the namespaces

The listing merges the names from the metadata, those read off the keys of the
objects, and the tombstones. Every row of the payload tables belongs to exactly one
entry, so the figures of the entries add up to the tables.
-/

namespace CloudSync

open Rust Redb Transactions Transactions.Fallible

set_option autoImplicit false

variable {c : Crates} {state : AppState} {amb : Ambient} {db : Db}

/-! ## Tombstones -/

/-- Only what is named validly gets a tombstone. -/
@[simp] def DbCall.BuriesValid (c : Crates) (call : DbCall) : Prop :=
  ∀ ns, call.buries = some ns → ValidNamespaceName c ns

theorem buriesValid_of_buries {call : DbCall} (h : call.buries = none) : call.BuriesValid c := by
  intro ns hns
  rw [h] at hns
  cases hns

theorem buriesValid_of_keepsBooks {call : DbCall} (h : call.keepsBooks = false) :
    call.BuriesValid c := by
  apply buriesValid_of_buries
  cases call with
  | softDeleteNamespace => cases h
  | _ => rfl

theorem buriesValid_of_mayCall {endpoint : Endpoint} {ns : String} {call : DbCall}
    (h : endpoint.MayCall ns call) : call.BuriesValid c := by
  apply buriesValid_of_buries
  cases call with
  | softDeleteNamespace => cases h
  | _ => rfl

theorem refreshNamespaceUsage_buriesValid (ns observedAt : String) (softDeleted : Bool) :
    Calls (DbCall.BuriesValid c) (refreshNamespaceUsage ns observedAt softDeleted) :=
  .bind (by simp [DbCall.buries]) fun _ => .bind (by simp [DbCall.buries]) fun _ =>
    .bind (by simp [DbCall.buries]) fun _ => .bind (by simp [DbCall.buries]) fun _ => by simp

theorem adminDeleteNamespace_buriesValid {ns : String} (hns : ValidNamespaceName c ns)
    (hard : Option Bool) (headers : HeaderMap) :
    Calls (DbCall.BuriesValid c) (adminDeleteNamespace c state amb ns hard headers) := by
  refine .bind (verifyAdminMutation_reads (by simp [DbCall.buries]) ..) fun _ => .ite ?_ ?_
  · exact .bind (by simp [DbCall.buries]) fun _ => by simp
  · refine .bind (by simp [DbCall.buries]) fun _ => .bind (by simp) fun _ =>
      .bind (by simp [DbCall.buries]) fun _ => .bind (calls_runIf.mpr fun _ => ?_) fun _ =>
      .bind (ensureDiskCapacity_calls _ _) fun _ =>
      .bind ((calls_db _).mpr fun _ hburied => Option.some.inj hburied ▸ hns) fun _ =>
      .bind (calls_orDatabaseError (refreshNamespaceUsage_buriesValid ..)) fun _ => by simp
    exact .bind (by simp [DbCall.buries]) fun _ => by simp

theorem adminRestoreNamespace_buriesValid (ns : String) (headers : HeaderMap) :
    Calls (DbCall.BuriesValid c) (adminRestoreNamespace c state amb ns headers) :=
  .bind (verifyAdminMutation_reads (by simp [DbCall.buries]) ..) fun _ =>
    .bind (ensureDiskCapacity_calls _ _) fun _ => .bind (by simp [DbCall.buries]) fun _ =>
    .bind (by simp) fun _ => .bind (by simp [DbCall.buries]) fun _ =>
    .bind (calls_orDatabaseError (refreshNamespaceUsage_buriesValid ..)) fun _ => by simp

theorem handle_buriesValid {r : Request} (h : r.NamesValid c) :
    Calls (DbCall.BuriesValid c) (handle c state amb r) := by
  by_cases hpanel : r.endpoint.leavesBooks = true
  · exact Program.Calls.mono (fun _ hcall => buriesValid_of_keepsBooks hcall.2)
      (handle_panel_calls r hpanel)
  by_cases hsync : r.endpoint.isSync = true
  · obtain ⟨rawNs, permission, htarget⟩ := r.endpoint.isSync_iff.mp hsync
    obtain ⟨f, hhandle, hf⟩ := handle_sync c state amb htarget
    rw [hhandle]
    refine .bind (by simp) fun ns => .bind ?_ fun _ => ?_
    · exact authorize_reads (by simp [DbCall.buries]) (by simp [DbCall.buries]) _ _ _ _
        (by simp [DbCall.buries]) (by simp [DbCall.buries]) (by simp [DbCall.buries])
    · exact Program.Calls.mono (fun _ => buriesValid_of_mayCall) (hf ns)
  obtain ⟨endpoint, peer, headers⟩ := r
  cases endpoint with
  | adminDeleteNamespace ns hard =>
    exact .bind (adminDeleteNamespace_buriesValid (h ns hard rfl) ..) fun _ => by simp
  | adminRestoreNamespace ns => exact .bind (adminRestoreNamespace_buriesValid ..) fun _ => by simp
  | _ => simp [Endpoint.leavesBooks, Endpoint.isSync] at hpanel hsync

/-- Every tombstone stands for a valid name. -/
def Db.TombstonesValid (c : Crates) (db : Db) : Prop :=
  ∀ ns, db.isNamespaceDeleted ns = true → ValidNamespaceName c ns

theorem TombstonesValid.exec {call : DbCall} (hcall : call.BuriesValid c)
    (h : db.TombstonesValid c) : (call.exec c db).2.TombstonesValid c := by
  intro ns hns
  rw [isNamespaceDeleted_exec] at hns
  by_cases hburies : call.buries = some ns
  · exact hcall ns hburies
  rw [if_neg hburies] at hns
  by_cases hreopens : call.reopens = some ns
  · rw [if_pos hreopens] at hns
    cases hns
  · rw [if_neg hreopens] at hns
    exact h ns hns

theorem InTurn.tombstonesValid {P : AppState → Request → Prop} (hP : ∀ state r, P state r → r.NamesValid c)
    {s : Recorded} (h : InTurn c P s) : s.1.TombstonesValid c := by
  refine InTurn.invariant (J := fun s => s.1.TombstonesValid c) ?_ (fun _ _ _ hdb => hdb) ?_ h
  · intro ns hns
    simp [Db.isNamespaceDeleted] at hns
  · intro s state amb r _ hr hs
    rw [(serveRecorded_eq state amb r).2]
    exact Program.run_invariant (J := fun db : Db => db.TombstonesValid c)
      (fun call db hcall hdb => TombstonesValid.exec hcall hdb) (handle_buriesValid (hP state r hr)) hs

/-! ## Names -/

section Names
variable {ns path : String}

theorem stripPrefix_eq_some {s pre rest : String} : stripPrefix s pre = some rest ↔ s = pre ++ rest := by
  unfold stripPrefix
  constructor
  · intro h
    split at h
    · rename_i hstarts
      obtain ⟨tail, htail⟩ := startsWith_iff.mp hstarts
      have hs : s = pre ++ String.ofList tail := by
        apply String.toList_injective
        rw [String.toList_append, String.toList_ofList, htail]
      rw [hs, dropChars_append] at h
      rw [hs, Option.some.inj h]
    · cases h
  · intro h
    rw [h, if_pos (startsWith_append pre rest), dropChars_append]

/-- Splitting the key of an object finds the separator behind the namespace, not one in the path. -/
theorem splitAtObj_append {before after : List Char} (h : '/' ∉ before) :
    splitAtObj (before ++ '/' :: ['o', 'b', 'j', ':'] ++ after) = some (before, after) := by
  induction before with
  | nil => rfl
  | cons ch rest ih =>
    have hch : '/' ≠ ch := fun hsame => h (hsame ▸ List.mem_cons_self)
    rw [List.append_assoc, List.cons_append, ← List.append_assoc, splitAtObj, if_neg, ih]
    · rfl
    · intro hrest
      exact h (by simp [hrest])
    · simp [List.isPrefixOf, hch]

theorem nameOf_objectKey (hns : '/' ∉ ns.toList) :
    (stripPrefix (objectKey ns path) "ns:").bind (fun rest =>
      (splitAtObj (chars rest)).map fun parts => String.ofList parts.1) = some ns := by
  have hkey : objectKey ns path = "ns:" ++ (ns ++ "/obj:" ++ path) := by
    simp [objectKey, String.append_assoc]
  have hsplit : splitAtObj (chars (ns ++ "/obj:" ++ path)) = some (ns.toList, path.toList) := by
    rw [chars_eq, String.toList_append, String.toList_append, toList_separator]
    exact splitAtObj_append hns
  rw [stripPrefix_eq_some.mpr hkey, Option.bind_some, hsplit, Option.map_some, String.ofList_toList]

theorem mem_foldl_insert {names : List String} {set : Std.ExtTreeSet String} {name : String} :
    name ∈ names.foldl (fun set name => set.insert name) set ↔ name ∈ set ∨ name ∈ names := by
  induction names generalizing set with
  | nil => simp
  | cons first rest ih =>
    rw [List.foldl_cons, ih, Std.ExtTreeSet.mem_insert, Std.compare_eq_iff_eq, List.mem_cons]
    tauto

/-- The namespace has a row in a payload table. -/
def Db.HoldsRows (db : Db) (ns : String) : Prop :=
  db.getMetadata ns ≠ none ∨ db.getBlob ns ≠ none ∨ ∃ path, db.getObject ns path ≠ none

theorem mem_keys {V : Type} {t : Table V} {key : String} : key ∈ t.keys ↔ t[key]? ≠ none := by
  rw [Std.ExtTreeMap.mem_keys, Std.ExtTreeMap.mem_iff_isSome_getElem?, Option.isSome_iff_ne_none]

theorem mem_listNamespaces (hd : Aligned c db) :
    ns ∈ db.listNamespaces ↔
      ValidNamespaceName c ns ∧ db.isNamespaceDeleted ns = false ∧ db.HoldsRows ns := by
  unfold Db.listNamespaces
  dsimp only
  rw [Std.ExtTreeSet.mem_toList, mem_foldl_insert, List.mem_filter, List.mem_append,
    List.mem_filterMap, List.mem_filterMap]
  have hlive : (db.deletedNamespaces[ns]?).isNone = true ↔ db.isNamespaceDeleted ns = false := by
    rw [Db.isNamespaceDeleted, Option.isNone_iff_eq_none, Option.isSome_eq_false_iff,
      Option.isNone_iff_eq_none]
  rw [hlive]
  constructor
  · intro h
    rcases h with h | ⟨h, hactive⟩
    · simp at h
    rcases h with ⟨key, hkey, hname⟩ | ⟨key, hkey, hname⟩
    · have hrow := mem_keys.mp hkey
      obtain ⟨name, hvalid, hmeta, _⟩ := hd.metadataKeys key hrow
      rw [stripPrefix_eq_some] at hname
      obtain rfl := metadataKey_injective (hmeta.symm.trans hname)
      rw [hmeta] at hrow
      exact ⟨hvalid, hactive, .inl hrow⟩
    · have hrow := mem_keys.mp hkey
      obtain ⟨name, path, hvalid, _, rfl⟩ := hd.objectKeys key hrow
      rw [nameOf_objectKey (slash_notMem hvalid)] at hname
      obtain rfl := Option.some.inj hname
      exact ⟨hvalid, hactive, .inr (.inr ⟨path, hrow⟩)⟩
  · intro h
    obtain ⟨hvalid, hactive, hrows⟩ := h
    have hmeta (hrow : db.getMetadata ns ≠ none) : ∃ key ∈ db.metadata.keys, stripPrefix key "ns:" = some ns :=
      ⟨metadataKey ns, mem_keys.mpr hrow, stripPrefix_eq_some.mpr rfl⟩
    refine .inr ⟨?_, hactive⟩
    rcases hrows with hrow | hrow | ⟨path, hrow⟩
    · exact .inl (hmeta hrow)
    · exact .inl (hmeta (hd.described ns hrow))
    · exact .inr ⟨objectKey ns path, mem_keys.mpr hrow, nameOf_objectKey (slash_notMem hvalid)⟩

theorem sorted_listNamespaces : db.listNamespaces.Pairwise (· < ·) := by
  unfold Db.listNamespaces
  exact Std.ExtTreeSet.ordered_toList.imp fun h => compare_lt_iff_lt.mp h

theorem mem_listDeletedNamespaces {record : DeletedNamespaceRecord} :
    (ns, record) ∈ db.listDeletedNamespaces ↔ db.deletedNamespaces[ns]? = some record := by
  simp [Db.listDeletedNamespaces]

end Names

/-! ## Figures -/

section Figures
variable {ns : String}

/-- All that the table stores. -/
def storedBytes (t : Table Bytes) : Nat := (t.toList.map fun entry => entry.2.length).sum

theorem toList_filter_key {V : Type} (t : Table V) (key : String) :
    t.toList.filter (fun entry => entry.1 = key) = (t[key]?).toList.map fun value => (key, value) := by
  cases hrow : t[key]? with
  | none =>
    rw [Option.toList_none, List.map_nil, List.filter_eq_nil_iff]
    intro entry hentry hkey
    obtain ⟨other, value⟩ := entry
    obtain rfl : other = key := of_decide_eq_true hkey
    have hvalue : t[other]? = some value := by simpa using hentry
    rw [hrow] at hvalue
    cases hvalue
  | some value =>
    have hmem : (key, value) ∈ t.toList.filter fun entry => entry.1 = key := by
      rw [List.mem_filter]
      exact ⟨by simpa using hrow, decide_eq_true rfl⟩
    have honly : ∀ entry ∈ t.toList.filter (fun entry => entry.1 = key), entry.1 = key := by
      intro entry hentry
      exact of_decide_eq_true (List.mem_filter.mp hentry).2
    have hsorted := t.sorted_toList.filter fun entry => entry.1 = key
    rw [Option.toList_some, List.map_singleton]
    generalize t.toList.filter (fun entry => decide (entry.1 = key)) = rows at hmem honly hsorted ⊢
    match rows with
    | [] => cases hmem
    | [row] => rw [List.mem_singleton.mp hmem]
    | first :: second :: rest =>
      have hlt := (List.pairwise_cons.mp hsorted).1 second (by simp)
      rw [honly first (by simp), honly second (by simp)] at hlt
      exact absurd hlt (lt_irrefl _)

theorem blobSize_eq :
    db.blobSize ns =
      ((db.blobs.toList.filter fun entry => entry.1 = blobKey ns).map fun entry => entry.2.length).sum := by
  rw [toList_filter_key, Db.blobSize]
  cases db.blobs[blobKey ns]? with
  | none => rfl
  | some blob => simp

theorem objectCount_eq :
    (db.namespaceObjectStats c ns).1 =
      ((db.objects.toList.filter fun entry => startsWith entry.1 (objectKey ns "")).map fun _ => 1).sum := by
  rw [stats_count, Db.pathsWith, List.length_map, List.map_const', List.sum_replicate, smul_eq_mul,
    Nat.mul_one]

/-- The names of a listing: all that are held or buried, and no others. -/
structure ListsAll (c : Crates) (db : Db) (names : List String) : Prop where
  nodup : names.Nodup
  mem_iff : ∀ ns, ns ∈ names ↔
    ValidNamespaceName c ns ∧ (db.HoldsRows ns ∨ db.isNamespaceDeleted ns = true)

/-- An object row belongs to one of the names alone. -/
theorem ListsAll.object {names : List String} (h : ListsAll c db names) (hd : Aligned c db)
    {entry : String × Bytes} (hentry : entry ∈ db.objects.toList) :
    ∃ ns ∈ names, ∀ other ∈ names, startsWith entry.1 (objectKey other "") = true ↔ other = ns := by
  obtain ⟨key, bytes⟩ := entry
  have hrow : db.objects[key]? = some bytes := by simpa using hentry
  obtain ⟨ns, path, hvalid, _, rfl⟩ := hd.objectKeys key (by simp [hrow])
  refine ⟨ns, (h.mem_iff ns).mpr ⟨hvalid, .inl (.inr (.inr ⟨path, ?_⟩))⟩, fun other hother => ?_⟩
  · simp [Db.getObject, hrow]
  constructor
  · intro hstarts
    obtain ⟨path', hkey⟩ := eq_objectKey_of_startsWith hstarts
    exact (objectKey_inj (slash_notMem hvalid)
      (slash_notMem ((h.mem_iff other).mp hother).1) hkey).1.symm
  · intro hsame
    rw [hsame, startsWith_objectKey]
    simp

theorem ListsAll.blob {names : List String} (h : ListsAll c db names) (hd : Aligned c db)
    {entry : String × Bytes} (hentry : entry ∈ db.blobs.toList) :
    ∃ ns ∈ names, ∀ other ∈ names, decide (entry.1 = blobKey other) = true ↔ other = ns := by
  obtain ⟨key, bytes⟩ := entry
  have hrow : db.blobs[key]? = some bytes := by simpa using hentry
  obtain ⟨ns, hvalid, _, rfl⟩ := hd.blobKeys key (by simp [hrow])
  refine ⟨ns, (h.mem_iff ns).mpr ⟨hvalid, .inl (.inr (.inl ?_))⟩, fun other _ => ?_⟩
  · simp [Db.getBlob, hrow]
  rw [decide_eq_true_iff, eq_comm]
  exact blobKey_injective.eq_iff

end Figures

/-! ## The listing -/

/-- What the listing says of a namespace. -/
def Db.infoOf (c : Crates) (db : Db) (ns : String) (deleted : Option DeletedNamespaceRecord) :
    NamespaceInfo :=
  let data := (db.getMetadata ns).bind (·.fromSlice)
  let stats := db.namespaceObjectStats c ns
  let totalBytes := saturatingAdd (db.blobSize ns) stats.2.1
  { «namespace» := ns
    revision := data.bind (·.revision)
    uploadedAt := data.bind (·.uploadedAt)
    deviceId := data.bind (·.deviceId)
    blobSize := db.blobSize ns
    objectCount := stats.1
    objectBytes := stats.2.1
    totalBytes := totalBytes
    growthBytes := (db.getNamespaceUsage ns).elim 0 (·.growthBytes)
    lastWriteAt := timestampMax c (data.bind (·.uploadedAt)) stats.2.2
    storageObservedAt := (db.getNamespaceUsage ns).map (·.observedAt)
    deletedBytes := if deleted.isSome then totalBytes else 0
    format := data.bind (·.format)
    deletedAt := deleted.map (·.deletedAt) }

/-- The entries, each with the tombstone that is there. -/
def Db.namespaceInfos (c : Crates) (db : Db) : List NamespaceInfo :=
  (db.listNamespaces.map (fun ns => db.infoOf c ns none) ++
    db.listDeletedNamespaces.map fun entry => db.infoOf c entry.1 (some entry.2)).mergeSort
      fun a b => a.namespace ≤ b.namespace

/-- The request comes with the session of an admin. -/
def Admitted (c : Crates) (state : AppState) (amb : Ambient) (headers : HeaderMap) (db : Db) : Prop :=
  ((verifyAdmin c state headers (amb.now 0)).alone (DbCall.exec c) db).1 = .ok ()

theorem admitted_short (endpoint : Endpoint) :
    Admitted freshCrates state amb (panelRequest endpoint).headers db ↔
      Admitted freshCrates.shortened state amb (sessionRequest shortJwt endpoint).headers db := by
  rw [Admitted, Admitted, (sameSession_panel knowsAdmin_freshCrates endpoint).verifyAdmin, exec_shortened]

theorem Admitted.alone {headers : HeaderMap} (h : Admitted c state amb headers db) :
    (verifyAdmin c state headers (amb.now 0)).alone (DbCall.exec c) db = (.ok (), db) := by
  have hreads : Calls (fun call : DbCall => ∃ username, call = .getAdminUser username)
      (verifyAdmin c state headers (amb.now 0)) := verifyAdmin_reads (fun username => ⟨username, rfl⟩) _ _
  have hkeep : ((verifyAdmin c state headers (amb.now 0)).alone (DbCall.exec c) db).2 = db := by
    refine Program.run_invariant (J := fun s => s = db) ?_ hreads rfl
    intro call s hcall hs
    obtain ⟨username, rfl⟩ := hcall
    exact hs
  exact Prod.ext h hkeep

theorem alone_namespaceInfo (ns : String) (deleted : Option DeletedNamespaceRecord) :
    (namespaceInfo c ns deleted).alone (DbCall.exec c) db = (.ok (db.infoOf c ns deleted), db) := rfl

theorem alone_adminListNamespaces {headers : HeaderMap} (h : Admitted c state amb headers db) :
    (adminListNamespaces c state amb headers).alone (DbCall.exec c) db =
      (.ok (db.namespaceInfos c), db) := by
  unfold adminListNamespaces
  have hdeleted (entry : String × DeletedNamespaceRecord) :
      (namespaceInfo c entry.1 (some entry.2)).alone (DbCall.exec c) db =
        (.ok (db.infoOf c entry.1 (some entry.2)), db) := alone_namespaceInfo entry.1 (some entry.2)
  simp only [alone_bind, h.alone, alone_db, DbCall.exec,
    alone_mapM _ (fun ns => alone_namespaceInfo ns none), alone_mapM _ hdeleted]
  rfl

theorem mem_namespaceInfos {info : NamespaceInfo} :
    info ∈ db.namespaceInfos c ↔
      (∃ ns ∈ db.listNamespaces, db.infoOf c ns none = info) ∨
        ∃ ns record, db.deletedNamespaces[ns]? = some record ∧ db.infoOf c ns (some record) = info := by
  unfold Db.namespaceInfos
  rw [List.mem_mergeSort, List.mem_append, List.mem_map, List.mem_map]
  refine or_congr Iff.rfl ?_
  constructor
  · intro h
    obtain ⟨⟨ns, record⟩, hentry, hinfo⟩ := h
    exact ⟨ns, record, mem_listDeletedNamespaces.mp hentry, hinfo⟩
  · intro h
    obtain ⟨ns, record, hrecord, hinfo⟩ := h
    exact ⟨(ns, record), mem_listDeletedNamespaces.mpr hrecord, hinfo⟩

theorem sorted_namespaceInfos :
    (db.namespaceInfos c).Pairwise fun a b => a.namespace ≤ b.namespace := by
  unfold Db.namespaceInfos
  generalize db.listNamespaces.map _ ++ db.listDeletedNamespaces.map _ = infos
  have htrans (a b d : NamespaceInfo) (hab : decide (a.namespace ≤ b.namespace) = true)
      (hbd : decide (b.namespace ≤ d.namespace) = true) : decide (a.namespace ≤ d.namespace) = true :=
    decide_eq_true (le_trans (of_decide_eq_true hab) (of_decide_eq_true hbd))
  have htotal (a b : NamespaceInfo) :
      (decide (a.namespace ≤ b.namespace) || decide (b.namespace ≤ a.namespace)) = true := by
    rw [Bool.or_eq_true, decide_eq_true_iff, decide_eq_true_iff]
    exact le_total a.namespace b.namespace
  exact (List.pairwise_mergeSort htrans htotal infos).imp of_decide_eq_true

theorem nodup_namespaceInfos (hd : Aligned c db) : ((db.namespaceInfos c).map (·.namespace)).Nodup := by
  have hperm : ((db.namespaceInfos c).map (·.namespace)).Perm
      (db.listNamespaces ++ db.listDeletedNamespaces.map (·.1)) := by
    have hnames : (db.listNamespaces.map (fun ns => db.infoOf c ns none) ++
        db.listDeletedNamespaces.map fun entry => db.infoOf c entry.1 (some entry.2)).map (·.namespace) =
          db.listNamespaces ++ db.listDeletedNamespaces.map (·.1) := by
      rw [List.map_append, List.map_map, List.map_map]
      exact congrArg₂ (· ++ ·) (List.map_id _) rfl
    rw [← hnames]
    exact (List.mergeSort_perm _ _).map _
  rw [hperm.nodup_iff, List.nodup_append']
  refine ⟨sorted_listNamespaces.imp ne_of_lt, ?_, ?_⟩
  · rw [Db.listDeletedNamespaces, List.Nodup, List.pairwise_map]
    exact db.deletedNamespaces.sorted_toList.imp ne_of_lt
  · intro ns hlive hdeleted
    obtain ⟨⟨name, record⟩, hentry, rfl⟩ := List.mem_map.mp hdeleted
    have hactive := ((mem_listNamespaces hd).mp hlive).2.1
    rw [Db.isNamespaceDeleted, mem_listDeletedNamespaces.mp hentry] at hactive
    cases hactive

theorem listsAll_namespaceInfos (hd : Aligned c db) (ht : db.TombstonesValid c) :
    ListsAll c db ((db.namespaceInfos c).map (·.namespace)) where
  nodup := nodup_namespaceInfos hd
  mem_iff ns := by
    rw [List.mem_map]
    constructor
    · intro h
      obtain ⟨info, hinfo, rfl⟩ := h
      rcases mem_namespaceInfos.mp hinfo with ⟨ns, hns, rfl⟩ | ⟨ns, record, hrecord, rfl⟩
      · obtain ⟨hvalid, _, hrows⟩ := (mem_listNamespaces hd).mp hns
        exact ⟨hvalid, .inl hrows⟩
      · have hdeleted : db.isNamespaceDeleted ns = true := by simp [Db.isNamespaceDeleted, hrecord]
        exact ⟨ht ns hdeleted, .inr hdeleted⟩
    · intro h
      obtain ⟨hvalid, hkept⟩ := h
      cases hrecord : db.deletedNamespaces[ns]? with
      | some record =>
        exact ⟨_, mem_namespaceInfos.mpr (.inr ⟨ns, record, hrecord, rfl⟩), rfl⟩
      | none =>
        have hactive : db.isNamespaceDeleted ns = false := by rw [Db.isNamespaceDeleted, hrecord]; rfl
        rw [hactive] at hkept
        have hns := (mem_listNamespaces hd).mpr ⟨hvalid, hactive, hkept.resolve_right Bool.false_ne_true⟩
        exact ⟨_, mem_namespaceInfos.mpr (.inl ⟨ns, hns, rfl⟩), rfl⟩

/-- A figure that each entry takes from the rows of its namespace. -/
theorem sum_figures {infos : List NamespaceInfo} (hnodup : (infos.map (·.namespace)).Nodup)
    {rows : List (String × Bytes)} {figure : NamespaceInfo → Nat} (booked : String → String × Bytes → Bool)
    (weight : String × Bytes → Nat)
    (hfigure : ∀ info ∈ infos,
      figure info = ((rows.filter (booked info.namespace)).map weight).sum)
    (hone : ∀ row ∈ rows, ∃ ns ∈ infos.map (·.namespace),
      ∀ other ∈ infos.map (·.namespace), booked other row = true ↔ other = ns) :
    (infos.map figure).sum = (rows.map weight).sum := by
  have hnames : infos.map figure =
      (infos.map (·.namespace)).map fun ns => ((rows.filter (booked ns)).map weight).sum := by
    rw [List.map_map]
    exact List.map_congr_left hfigure
  rw [hnames, Accounting.sum_accounts hnodup booked weight hone]

/-- The entries are those of the namespaces with a row or a tombstone, each once, and their
figures add up to what the tables hold. -/
structure Db.AccountsOnce (c : Crates) (db : Db) (infos : List NamespaceInfo) : Prop where
  names : ∀ ns, (∃ info ∈ infos, info.namespace = ns) ↔
    ValidNamespaceName c ns ∧ (db.HoldsRows ns ∨ db.isNamespaceDeleted ns = true)
  increasing : infos.Pairwise fun a b => asBytes a.namespace < asBytes b.namespace
  deleted : ∀ info ∈ infos, info.deletedAt.isSome = db.isNamespaceDeleted info.namespace
  objectCount : (infos.map (·.objectCount)).sum = db.objects.size
  objectBytes : (∀ ns, db.objectBytes ns ≤ u64Max) →
    (infos.map (·.objectBytes)).sum = storedBytes db.objects
  blobSize : (infos.map (·.blobSize)).sum = storedBytes db.blobs

theorem accountsOnce (hd : Aligned c db) (ht : db.TombstonesValid c) :
    db.AccountsOnce c (db.namespaceInfos c) := by
  have hall := listsAll_namespaceInfos hd ht
  have hfigures : ∀ info ∈ db.namespaceInfos c,
      info.objectCount = (db.namespaceObjectStats c info.namespace).1 ∧
        info.objectBytes = (db.namespaceObjectStats c info.namespace).2.1 ∧
        info.blobSize = db.blobSize info.namespace := by
    intro info hinfo
    rcases mem_namespaceInfos.mp hinfo with ⟨ns, hns, rfl⟩ | ⟨ns, record, hrecord, rfl⟩
    · exact ⟨rfl, rfl, rfl⟩
    · exact ⟨rfl, rfl, rfl⟩
  constructor
  · intro ns
    rw [← hall.mem_iff, List.mem_map]
  · have hdistinct := List.pairwise_map.mp hall.nodup
    apply (sorted_namespaceInfos.and hdistinct).imp
    intro a b h
    exact asBytes_lt_asBytes_iff.mpr (lt_of_le_of_ne h.1 h.2)
  · intro info hinfo
    rcases mem_namespaceInfos.mp hinfo with ⟨ns, hns, rfl⟩ | ⟨ns, record, hrecord, rfl⟩
    · exact ((mem_listNamespaces hd).mp hns).2.1.symm
    · simp [Db.infoOf, Db.isNamespaceDeleted, hrecord]
  · rw [sum_figures hall.nodup (fun ns entry => startsWith entry.1 (objectKey ns "")) (fun _ => 1)
      (fun info hinfo => (hfigures info hinfo).1.trans objectCount_eq) fun entry => hall.object hd]
    simp
  · intro hsmall
    exact sum_figures hall.nodup (fun ns entry => startsWith entry.1 (objectKey ns ""))
      (fun entry => entry.2.length)
      (fun info hinfo => (hfigures info hinfo).2.1.trans ((stats_bytes (hsmall _)).trans objectBytes_eq))
      fun entry => hall.object hd
  · exact sum_figures hall.nodup (fun ns entry => decide (entry.1 = blobKey ns))
      (fun entry => entry.2.length)
      (fun info hinfo => (hfigures info hinfo).2.2.trans blobSize_eq) fun entry => hall.blob hd

/-- Whatever requests came before, one after the other and with valid names. -/
theorem namespaces_accountedOnce {s : Recorded} (h : InTurn c (fun _ r => r.NamesValid c) s)
    {peer : IpAddr} {headers : HeaderMap} (hadmin : Admitted c state amb headers s.1) :
    ∃ infos, serve c state amb ⟨.adminListNamespaces, peer, headers⟩ s.1 = (.ok (.namespaces infos), s.1) ∧
      s.1.AccountsOnce c infos := by
  refine ⟨s.1.namespaceInfos c, ?_, accountsOnce h.reachable.aligned ?_⟩
  · rw [serve]
    simp only [handle, alone_bind, alone_adminListNamespaces hadmin]
    rfl
  · exact h.tombstonesValid fun _ _ hr => hr

/-- An object with the separator in its path, a snapshot, and the namespace is deleted. -/
def buriedTraffic : List Request :=
  [issueRequest "*" "write" none,
   issuedRequest (.putObject "work" "a/obj:b" [1, 2]) [],
   issuedRequest (.putBlob "home" none [3]) [],
   panelRequest (.adminDeleteNamespace "work" none)]

theorem scripted_buriedTraffic : buriedTraffic.Forall Scripted :=
  ⟨.issue _ _ _, .issued _ _ rfl, .issued _ _ rfl, .panel _ rfl⟩

set_option maxRecDepth 10000 in
theorem namespaces_accountedOnce_buried :
    ∃ infos, serve freshCrates freshState (numberedAmbient (fun _ => "") 4)
        (panelRequest .adminListNamespaces)
        (servedInTurn freshState 0 buriedTraffic (freshDb, [])).1 =
          (.ok (.namespaces infos), (servedInTurn freshState 0 buriedTraffic (freshDb, [])).1) ∧
      (servedInTurn freshState 0 buriedTraffic (freshDb, [])).1.AccountsOnce freshCrates infos := by
  have hnames : ∀ r ∈ buriedTraffic, r.NamesValid freshCrates := by
    have hwork : ValidNamespaceName freshCrates "work" := by
      unfold ValidNamespaceName
      decide +kernel
    intro r hr ns hard hdelete
    simp only [buriedTraffic, List.mem_cons, List.not_mem_nil, or_false] at hr
    rcases hr with rfl | rfl | rfl | rfl <;> cases hdelete
    exact hwork
  refine namespaces_accountedOnce (inTurn_freshDb.servedInTurn hnames 0)
    ((admitted_short .adminListNamespaces).mpr ?_)
  rw [servedInTurn_short scripted_buriedTraffic]
  unfold Admitted
  decide +kernel

end CloudSync
