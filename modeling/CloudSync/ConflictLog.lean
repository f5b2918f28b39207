import CloudSync.Retention.Newest
import CloudSync.Rust.Timestamp
import CloudSync.Database

/-!
# The log of conflicts

The keys of the log begin with texts of points of time, so the order of the keys is
the order of time, and the log keeps the newest conflicts of all that were recorded.
-/

namespace CloudSync

open Rust Redb Retention

set_option autoImplicit false

/-- A conflict and the point of time whose text it carries. -/
structure RecordedConflict where
  time : Timestamp
  record : SyncConflictRecord
  occurredAt_eq : record.occurredAt = time.toRfc3339

namespace RecordedConflict
variable {c c' : RecordedConflict}

def key (c : RecordedConflict) : String := syncConflictKey c.record.occurredAt c.record.id

/-- Ties are broken by the id. -/
def Newer (c c' : RecordedConflict) : Prop :=
  c'.time.instant < c.time.instant ∨ c'.time.instant = c.time.instant ∧ c'.record.id < c.record.id

instance : Decidable (c.Newer c') := by
  unfold Newer
  infer_instance

theorem key_toList (c : RecordedConflict) : c.key.toList =
    "conflict:".toList ++ (c.time.toRfc3339.toList ++ (":".toList ++ c.record.id.toList)) := by
  simp [key, syncConflictKey, c.occurredAt_eq, String.toList_append, List.append_assoc]

theorem key_lt_of_newer (h : c.Newer c') : c'.key < c.key := by
  rw [String.lt_iff_toList_lt, key_toList, key_toList]
  rcases h with hlt | ⟨heq, hid⟩
  · exact (((Timestamp.earlier_iff.mpr hlt).text_below.append _ _).prepend _).lt
  · rw [Timestamp.eq_of_instant_eq heq]
    exact List.append_left_lt (List.append_left_lt (List.append_left_lt
      (String.lt_iff_toList_lt.mp hid)))

theorem newer_trichotomy (c c' : RecordedConflict) :
    c.Newer c' ∨ c'.Newer c ∨ c.time.instant = c'.time.instant ∧ c.record.id = c'.record.id := by
  unfold Newer
  rcases lt_trichotomy c.time.instant c'.time.instant with hlt | heq | hgt
  · exact .inr (.inl (.inl hlt))
  · rcases lt_trichotomy c.record.id c'.record.id with hid | hid | hid
    · exact .inr (.inl (.inr ⟨heq, hid⟩))
    · exact .inr (.inr ⟨heq, hid⟩)
    · exact .inl (.inr ⟨heq.symm, hid⟩)
  · exact .inl (.inl hgt)

theorem newer_iff : c.Newer c' ↔ c'.key < c.key := by
  constructor
  · exact key_lt_of_newer
  · intro hlt
    rcases newer_trichotomy c c' with h | h | ⟨htime, hid⟩
    · exact h
    · exact absurd hlt (lt_asymm (key_lt_of_newer h))
    · have hkey : c.key = c'.key := by
        unfold key
        rw [c.occurredAt_eq, c'.occurredAt_eq, Timestamp.eq_of_instant_eq htime, hid]
      exact absurd hlt (hkey ▸ lt_irrefl _)

theorem key_ne (hne : c.record.id ≠ c'.record.id) : c.key ≠ c'.key := by
  rcases newer_trichotomy c c' with h | h | ⟨_, hid⟩
  · exact (key_lt_of_newer h).ne'
  · exact (key_lt_of_newer h).ne
  · exact absurd hid hne

/-- Newest first, and the smaller id first at one point of time. -/
def ListedBefore (c c' : RecordedConflict) : Prop :=
  c'.time.instant < c.time.instant ∨ c'.time.instant = c.time.instant ∧ c.record.id < c'.record.id

end RecordedConflict

def Db.recordConflicts (db : Db) (maxRecords : Nat) (log : List RecordedConflict) : Db :=
  log.foldl (fun db c => db.addSyncConflict c.record maxRecords) db

/-- How many conflicts are newer. -/
def RecordedConflict.rank (log : List RecordedConflict) (c : RecordedConflict) : Nat :=
  (log.filter fun c' => c'.Newer c).length

/-! ## What the log keeps -/

/-- The keys of the table. -/
def keySet {V : Type} (t : Table V) : Finset String := t.keys.toFinset

section KeySet
variable {V : Type} {t : Table V}

theorem mem_keySet {key : String} : key ∈ keySet t ↔ ∃ v, t[key]? = some v := by
  unfold keySet
  rw [List.mem_toFinset, Std.ExtTreeMap.mem_keys, Std.ExtTreeMap.mem_iff_isSome_getElem?,
    Option.isSome_iff_exists]

theorem card_keySet (t : Table V) : (keySet t).card = t.size := by
  unfold keySet
  rw [List.toFinset_card_of_nodup t.nodup_keys, Std.ExtTreeMap.length_keys]

theorem keySet_insert (key : String) (v : V) : keySet (t.insert key v) = insert key (keySet t) := by
  ext key'
  rw [mem_keySet, Finset.mem_insert, mem_keySet, Table.get_insert]
  by_cases heq : key = key'
  · simp [heq]
  · simp [heq, Ne.symm heq]

theorem keySet_eraseAll (keys : List String) :
    keySet (t.eraseAll keys) = keySet t \ keys.toFinset := by
  ext key
  rw [mem_keySet, Finset.mem_sdiff, mem_keySet, Table.get_eraseAll, List.mem_toFinset]
  by_cases hmem : key ∈ keys
  · simp [hmem]
  · simp [hmem]

/-- The first keys are the smallest. -/
theorem take_keys_lt {n : Nat} {a b : String} (ha : a ∈ (t.keys.take n).toFinset)
    (hb : b ∈ keySet t) (hout : b ∉ (t.keys.take n).toFinset) : a < b := by
  unfold keySet at hb
  rw [List.mem_toFinset] at ha hb hout
  have hsorted : t.keys.Pairwise fun a b => a < b :=
    t.ordered_keys.imp fun h => compare_lt_iff_lt.mp h
  rw [← List.take_append_drop n t.keys] at hb hsorted
  rcases List.mem_append.mp hb with hb | hb
  · exact absurd hb hout
  · exact (List.pairwise_append.mp hsorted).2.2 a ha b hb

end KeySet

/-- What the table holds after the conflicts in `log`. -/
structure HoldsNewest (maxRecords : Nat) (log : List RecordedConflict)
    (t : Table SyncConflictRecord) : Prop where
  rows : ∀ key record, t[key]? = some record → ∃ c ∈ log, key = c.key ∧ record = c.record
  newest : Newest maxRecords (keySet t) (log.map (·.key)).toFinset

section Holding
variable {maxRecords : Nat} {log : List RecordedConflict} {c : RecordedConflict} {db : Db}

theorem holdsNewest_add (h : HoldsNewest maxRecords log db.syncConflicts)
    (hnew : ∀ c' ∈ log, c'.record.id ≠ c.record.id) :
    HoldsNewest maxRecords (log ++ [c]) (db.addSyncConflict c.record maxRecords).syncConflicts := by
  have hkey : c.key ∉ (log.map (·.key)).toFinset := by
    rw [List.mem_toFinset, List.mem_map]
    rintro ⟨c', hc', heq⟩
    exact RecordedConflict.key_ne (hnew c' hc') heq
  have hafter : (db.addSyncConflict c.record maxRecords).syncConflicts =
      Table.eraseAll (db.syncConflicts.insert c.key c.record)
        ((db.syncConflicts.insert c.key c.record).keys.take
          ((db.syncConflicts.insert c.key c.record).size - maxRecords)) := rfl
  rw [hafter]
  refine ⟨?_, ?_⟩
  · intro key record hrow
    rw [Table.get_eraseAll, Table.get_insert] at hrow
    split at hrow
    · cases hrow
    split at hrow
    · next heq =>
      cases hrow
      exact ⟨c, by simp, heq.symm, rfl⟩
    · obtain ⟨c', hc', heq⟩ := h.rows key record hrow
      exact ⟨c', by simp [hc'], heq⟩
  · have hlog : ((log ++ [c]).map (·.key)).toFinset =
        insert c.key (log.map (·.key)).toFinset := by
      ext key
      simp
    have hset : keySet (db.syncConflicts.insert c.key c.record) =
        insert c.key (keySet db.syncConflicts) := keySet_insert _ _
    rw [hlog, keySet_eraseAll, hset]
    apply h.newest.add hkey
    · intro key hin
      rw [← hset]
      rw [List.mem_toFinset] at hin
      exact List.mem_toFinset.mpr (List.mem_of_mem_take hin)
    · rw [← hset, card_keySet, List.toFinset_card_of_nodup
        ((List.take_sublist _ _).nodup (Std.ExtTreeMap.nodup_keys)), List.length_take,
        Std.ExtTreeMap.length_keys]
      omega
    · intro a ha b hb hout
      rw [← hset] at hb
      exact take_keys_lt ha hb hout

theorem holdsNewest_recordConflicts (hempty : db.syncConflicts = ∅)
    (hids : (log.map (·.record.id)).Nodup) :
    HoldsNewest maxRecords log (db.recordConflicts maxRecords log).syncConflicts := by
  induction log using List.reverseRecOn with
  | nil =>
    refine ⟨?_, ?_⟩
    · intro key record hrow
      simp [Db.recordConflicts, hempty] at hrow
    · have hset : keySet (∅ : Table SyncConflictRecord) = ∅ := rfl
      simp only [Db.recordConflicts, List.foldl_nil, hempty, hset]
      exact newest_empty _
  | append_singleton log c ih =>
    rw [List.map_append, List.nodup_append] at hids
    have hstep := ih hids.1
    have hfold : db.recordConflicts maxRecords (log ++ [c]) =
        (db.recordConflicts maxRecords log).addSyncConflict c.record maxRecords := by
      simp [Db.recordConflicts]
    rw [hfold]
    apply holdsNewest_add hstep
    intro c' hc'
    exact hids.2.2 _ (List.mem_map_of_mem hc') _ (by simp)

theorem keys_nodup (hids : (log.map (·.record.id)).Nodup) : (log.map (·.key)).Nodup := by
  unfold List.Nodup at hids ⊢
  rw [List.pairwise_map] at hids ⊢
  exact hids.imp fun h => RecordedConflict.key_ne h

theorem card_newer (hids : (log.map (·.record.id)).Nodup) :
    ((log.map (·.key)).toFinset.filter (c.key < ·)).card = c.rank log := by
  have hfilter : (log.map (·.key)).toFinset.filter (c.key < ·) =
      ((log.filter fun c' => c'.Newer c).map (·.key)).toFinset := by
    ext key
    simp only [Finset.mem_filter, List.mem_toFinset, List.mem_map, List.mem_filter,
      decide_eq_true_eq, RecordedConflict.newer_iff]
    constructor
    · rintro ⟨⟨c', hc', rfl⟩, hlt⟩
      exact ⟨c', ⟨hc', hlt⟩, rfl⟩
    · rintro ⟨c', ⟨hc', hlt⟩, rfl⟩
      exact ⟨⟨c', hc', rfl⟩, hlt⟩
  rw [hfilter, List.toFinset_card_of_nodup, List.length_map]
  · rfl
  · exact ((List.filter_sublist).map _).nodup (keys_nodup hids)

theorem HoldsNewest.row_iff {t : Table SyncConflictRecord} (h : HoldsNewest maxRecords log t)
    (hids : (log.map (·.record.id)).Nodup) (key : String) (record : SyncConflictRecord) :
    t[key]? = some record ↔
      ∃ c ∈ log, key = c.key ∧ record = c.record ∧ c.rank log < maxRecords := by
  have hkept (c : RecordedConflict) (hc : c ∈ log) :
      c.key ∈ keySet t ↔ c.rank log < maxRecords := by
    rw [h.newest.mem_iff (List.mem_toFinset.mpr (List.mem_map_of_mem hc)), card_newer hids]
  constructor
  · intro hrow
    obtain ⟨c, hc, rfl, rfl⟩ := h.rows key record hrow
    exact ⟨c, hc, rfl, rfl, (hkept c hc).mp (mem_keySet.mpr ⟨_, hrow⟩)⟩
  · rintro ⟨c, hc, rfl, rfl, hrank⟩
    obtain ⟨record, hrow⟩ := mem_keySet.mp ((hkept c hc).mpr hrank)
    obtain ⟨c', hc', hkey, rfl⟩ := h.rows c.key record hrow
    -- the row belongs to a conflict with the same key, which is this one
    have hsame : c = c' := by
      by_contra hne
      have hid := (List.inj_on_of_nodup_map hids) hc hc'
      exact RecordedConflict.key_ne (fun heq => hne (hid heq)) hkey
    rw [hrow, hsame]

end Holding

/-! ## What is listed -/

theorem pair_sublist_or {α : Type} {l : List α} {a b : α} (ha : a ∈ l) (hb : b ∈ l) (hne : a ≠ b) :
    [a, b].Sublist l ∨ [b, a].Sublist l := by
  induction l with
  | nil => cases ha
  | cons x l ih =>
    rcases List.mem_cons.mp ha with rfl | ha'
    · rcases List.mem_cons.mp hb with rfl | hb'
      · exact absurd rfl hne
      · exact .inl ((List.singleton_sublist.mpr hb').cons_cons a)
    · rcases List.mem_cons.mp hb with rfl | hb'
      · exact .inr ((List.singleton_sublist.mpr ha').cons_cons b)
      · rcases ih ha' hb' with h | h
        · exact .inl (h.cons x)
        · exact .inr (h.cons x)

theorem not_sublist_swap {α : Type} {l : List α} {a b : α} (hnodup : l.Nodup)
    (h : [a, b].Sublist l) : ¬ [b, a].Sublist l := by
  intro hswap
  induction l with
  | nil => cases h
  | cons x l ih =>
    obtain ⟨hx, hl⟩ := List.nodup_cons.mp hnodup
    cases h with
    | cons _ h =>
      cases hswap with
      | cons _ hswap => exact ih hl h hswap
      | cons_cons _ hswap => exact hx (h.subset (by simp))
    | cons_cons _ h =>
      cases hswap with
      | cons _ hswap => exact hx (hswap.subset (by simp))
      | cons_cons _ hswap => exact hx (h.subset (by simp))

/-- A stable sort leaves equals in the order in which they were. -/
theorem pairwise_mergeSort_stable {α : Type} {le : α → α → Bool} {R : α → α → Prop} {l : List α}
    (htrans : ∀ a b c, le a b → le b c → le a c) (htotal : ∀ a b, le a b || le b a)
    (hR : l.Pairwise R) (hnodup : l.Nodup) :
    (l.mergeSort le).Pairwise fun a b => le a b ∧ (le b a → R a b) := by
  have hsorted := List.pairwise_mergeSort htrans htotal l
  have hnodup' : (l.mergeSort le).Nodup := (List.mergeSort_perm l le).nodup_iff.mpr hnodup
  rw [List.pairwise_iff_forall_sublist] at hR hsorted ⊢
  intro a b hab
  refine ⟨hsorted hab, ?_⟩
  intro hba
  have ha : a ∈ l := List.mem_mergeSort.mp (hab.subset (by simp))
  have hb : b ∈ l := List.mem_mergeSort.mp (hab.subset (by simp))
  have hne : a ≠ b := by
    intro heq
    have hpair := hab.nodup hnodup'
    simp [heq] at hpair
  rcases pair_sublist_or ha hb hne with h | h
  · exact hR h
  · exact absurd (List.pair_sublist_mergeSort htrans htotal hba h)
      (not_sublist_swap hnodup' hab)

section Listing
variable {maxRecords : Nat} {log : List RecordedConflict} {t : Table SyncConflictRecord}

/-- The conflicts that are kept, in the order of their keys. -/
def inKeyOrder (maxRecords : Nat) (log : List RecordedConflict) : List RecordedConflict :=
  (log.filter fun c => c.rank log < maxRecords).mergeSort fun c c' => c.key ≤ c'.key

theorem mem_inKeyOrder {c : RecordedConflict} :
    c ∈ inKeyOrder maxRecords log ↔ c ∈ log ∧ c.rank log < maxRecords := by
  simp [inKeyOrder]

theorem sorted_inKeyOrder (hids : (log.map (·.record.id)).Nodup) :
    (inKeyOrder maxRecords log).Pairwise fun c c' => c.key < c'.key := by
  have hsorted : (inKeyOrder maxRecords log).Pairwise fun c c' => decide (c.key ≤ c'.key) := by
    apply List.pairwise_mergeSort
    · simp only [decide_eq_true_eq]
      intro a b c hab hbc
      exact hab.trans hbc
    · intro a b
      simpa using le_total a.key b.key
  have hne : (inKeyOrder maxRecords log).Pairwise fun c c' => c.key ≠ c'.key := by
    have hlog : log.Pairwise fun c c' => c.key ≠ c'.key := List.pairwise_map.mp (keys_nodup hids)
    exact (List.mergeSort_perm _ _).symm.pairwise (hlog.filter _) fun h => h.symm
  refine (hsorted.and hne).imp ?_
  intro c c' h
  exact lt_of_le_of_ne (of_decide_eq_true h.1) h.2

theorem HoldsNewest.values_eq (h : HoldsNewest maxRecords log t)
    (hids : (log.map (·.record.id)).Nodup) :
    t.values = (inKeyOrder maxRecords log).map (·.record) := by
  have hlist : t.toList = (inKeyOrder maxRecords log).map fun c => (c.key, c.record) := by
    apply t.sorted_toList.eq_of_mem_iff
    · rw [List.pairwise_map]
      exact sorted_inKeyOrder hids
    · intro entry
      rw [Std.ExtTreeMap.mem_toList_iff_getElem?_eq_some, h.row_iff hids, List.mem_map]
      constructor
      · rintro ⟨c, hc, hkey, hrecord, hrank⟩
        exact ⟨c, mem_inKeyOrder.mpr ⟨hc, hrank⟩, Prod.ext hkey.symm hrecord.symm⟩
      · rintro ⟨c, hc, rfl⟩
        obtain ⟨hmem, hrank⟩ := mem_inKeyOrder.mp hc
        exact ⟨c, hmem, rfl, rfl, hrank⟩
  rw [Table.values_eq, hlist, List.map_map]
  rfl

/-- The conflicts that are kept, as they are listed. -/
def inListOrder (maxRecords : Nat) (log : List RecordedConflict) : List RecordedConflict :=
  (inKeyOrder maxRecords log).mergeSort fun c c' => c'.record.occurredAt ≤ c.record.occurredAt

theorem sorted_inListOrder (hids : (log.map (·.record.id)).Nodup) :
    (inListOrder maxRecords log).Pairwise RecordedConflict.ListedBefore := by
  have hkeys : (inKeyOrder maxRecords log).Pairwise fun c c' => c.key < c'.key :=
    sorted_inKeyOrder hids
  refine (pairwise_mergeSort_stable ?_ ?_ hkeys ?_).imp ?_
  · simp only [decide_eq_true_eq]
    intro a b c hab hbc
    exact hbc.trans hab
  · intro a b
    simpa using le_total b.record.occurredAt a.record.occurredAt
  · refine hkeys.imp ?_
    intro c c' hlt heq
    rw [heq] at hlt
    exact lt_irrefl _ hlt
  · intro c c' h
    obtain ⟨hle, hties⟩ := h
    rw [decide_eq_true_eq, c.occurredAt_eq, c'.occurredAt_eq] at hle
    rcases lt_trichotomy c'.time.instant c.time.instant with hlt | heq | hgt
    · exact .inl hlt
    · right
      refine ⟨heq, ?_⟩
      have hkey := hties (by simp [c.occurredAt_eq, c'.occurredAt_eq, Timestamp.eq_of_instant_eq heq])
      rcases RecordedConflict.newer_iff.mpr hkey with hlt | ⟨_, hid⟩
      · omega
      · exact hid
    · have htext := (Timestamp.earlier_iff.mpr hgt).text_below.lt
      exact absurd hle (not_le.mpr (String.lt_iff_toList_lt.mpr htext))

end Listing

/-- The log holds the newest of all conflicts that were ever recorded, however they came, and
the list shows the newest of those. -/
theorem newest_conflicts_kept {db : Db} (hempty : db.syncConflicts = ∅) (maxRecords : Nat)
    {log : List RecordedConflict} (hids : (log.map (·.record.id)).Nodup) :
    (∀ key record, (db.recordConflicts maxRecords log).syncConflicts[key]? = some record ↔
      ∃ c ∈ log, key = c.key ∧ record = c.record ∧ c.rank log < maxRecords) ∧
    (db.recordConflicts maxRecords log).syncConflicts.size = min log.length maxRecords ∧
    ∀ limit, ∃ listed leftOut : List RecordedConflict,
      (db.recordConflicts maxRecords log).listSyncConflicts limit = listed.map (·.record) ∧
      listed.length = min limit (db.recordConflicts maxRecords log).syncConflicts.size ∧
      (∀ c, c ∈ listed ++ leftOut ↔ c ∈ log ∧ c.rank log < maxRecords) ∧
      (listed ++ leftOut).Pairwise RecordedConflict.ListedBefore := by
  have hholds : HoldsNewest maxRecords log (db.recordConflicts maxRecords log).syncConflicts :=
    holdsNewest_recordConflicts hempty hids
  have hvalues := hholds.values_eq hids
  have hsize : (inListOrder maxRecords log).length =
      (db.recordConflicts maxRecords log).syncConflicts.size := by
    unfold inListOrder
    rw [List.length_mergeSort, ← List.length_map (·.record), ← hvalues, Table.values_eq,
      List.length_map, Std.ExtTreeMap.length_toList]
  refine ⟨hholds.row_iff hids, ?_, ?_⟩
  · have hcard := hholds.newest.card
    rw [card_keySet, List.toFinset_card_of_nodup, List.length_map] at hcard
    · omega
    · exact keys_nodup hids
  · intro limit
    refine ⟨(inListOrder maxRecords log).take limit, (inListOrder maxRecords log).drop limit,
      ?_, ?_, ?_, ?_⟩
    · have hmap : (inListOrder maxRecords log).map (·.record) =
          ((inKeyOrder maxRecords log).map (·.record)).mergeSort
            fun a b => b.occurredAt ≤ a.occurredAt := List.map_mergeSort fun _ _ _ _ => rfl
      rw [Db.listSyncConflicts, hvalues, List.map_take, hmap]
    · rw [List.length_take, hsize]
    · intro c
      rw [List.take_append_drop, inListOrder, List.mem_mergeSort, mem_inKeyOrder]
    · rw [List.take_append_drop]
      exact sorted_inListOrder hids

/-- A conflict on the first of January 2024, right after midnight. -/
def conflictAt (nanos : Nat) (hnanos : nanos < 1000000000) (id : String) : RecordedConflict where
  time := ⟨2024, 1, 1, 0, 0, 0, nanos, by decide, by decide, by decide, by decide, by decide,
    by decide, by decide, by decide, hnanos⟩
  record :=
    { id := id
      occurredAt := Timestamp.toRfc3339 ⟨2024, 1, 1, 0, 0, 0, nanos, by decide, by decide,
        by decide, by decide, by decide, by decide, by decide, by decide, hnanos⟩
      «namespace» := "notes"
      operation := "write_blob"
      objectPath := none
      deviceId := none
      requestedRevision := none
      requestedEtag := none
      remoteRevision := none
      remoteEtag := none
      message := "" }
  occurredAt_eq := rfl

example : (conflictAt 500000000 (by decide) "a").record.occurredAt =
    "2024-01-01T00:00:00.500+00:00" := by decide +kernel

/-- The conflict with a fraction is newer, and stays though the other one comes after it. -/
theorem newest_conflicts_kept_out_of_order :
    (Db.recordConflicts {} 1 [conflictAt 500000000 (by decide) "a", conflictAt 0 (by decide) "b"]
      ).syncConflicts[(conflictAt 500000000 (by decide) "a").key]? =
        some (conflictAt 500000000 (by decide) "a").record ∧
    (Db.recordConflicts {} 1 [conflictAt 500000000 (by decide) "a", conflictAt 0 (by decide) "b"]
      ).syncConflicts.size = 1 := by
  have hids : ([conflictAt 500000000 (by decide) "a", conflictAt 0 (by decide) "b"].map
      (·.record.id)).Nodup := by decide
  have hempty : (({} : Db).syncConflicts) = ∅ := rfl
  obtain ⟨hrows, hsize, _⟩ := newest_conflicts_kept hempty 1 hids
  refine ⟨(hrows _ _).mpr ?_, hsize⟩
  exact ⟨conflictAt 500000000 (by decide) "a", by simp, rfl, rfl, by decide +kernel⟩

end CloudSync
