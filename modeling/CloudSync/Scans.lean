import CloudSync.Pagination

/-!
# The scans of a namespace's objects

A listing, the count of the objects and a purge each go through the object table
in their own way. All three meet the same rows.
-/

namespace CloudSync

open Rust Redb

set_option autoImplicit false

variable {c : Crates} {db : Db} {ns path : String}

/-- The bytes of all objects of the namespace. -/
def Db.objectBytes (db : Db) (ns : String) : Nat :=
  ((db.pathsWith ns "").map fun path => (db.getObject ns path).elim 0 List.length).sum

/-- `last` is the latest time of a write among the object rows of the namespace. -/
inductive Db.LatestWrite (c : Crates) (db : Db) (ns : String) : Option String → Prop where
  | none : (∀ path, db.getObject ns path = none) → LatestWrite c db ns none
  | some {path : String} {m : StoredObjectMetadata} {latest : Instant} :
      db.getObjectMetadata ns path = some m → c.parseFromRfc3339 m.updatedAt = some latest →
      (∀ path' m' instant, db.getObjectMetadata ns path' = some m' →
        c.parseFromRfc3339 m'.updatedAt = some instant → instant ≤ latest) →
      LatestWrite c db ns (some m.updatedAt)

theorem foldl_saturatingAdd {α : Type} (size : α → Nat) (rows : List α) {start : Nat}
    (h : start ≤ u64Max) :
    rows.foldl (fun total row => saturatingAdd total (size row)) start =
      min (start + (rows.map size).sum) u64Max := by
  induction rows generalizing start with
  | nil =>
    rw [List.foldl_nil, List.map_nil, List.sum_nil]
    omega
  | cons row rest ih =>
    have hadd : saturatingAdd start (size row) ≤ u64Max := min_le_right _ _
    rw [List.foldl_cons, ih hadd, List.map_cons, List.sum_cons]
    unfold saturatingAdd
    omega

theorem mem_rows {V : Type} {t : Table V} {entry : String × V} :
    entry ∈ t.toList.filter (fun entry => startsWith entry.1 (objectKey ns "")) ↔
      ∃ path value, entry = (objectKey ns path, value) ∧ t[objectKey ns path]? = some value := by
  rw [List.mem_filter]
  constructor
  · intro h
    obtain ⟨key, value⟩ := entry
    obtain ⟨path, rfl⟩ := eq_objectKey_of_startsWith h.2
    exact ⟨path, value, rfl, by simpa using h.1⟩
  · intro h
    obtain ⟨path, value, rfl, hvalue⟩ := h
    refine ⟨by simpa using hvalue, ?_⟩
    rw [startsWith_objectKey]
    simp

theorem objectBytes_eq :
    db.objectBytes ns =
      ((db.objects.toList.filter fun entry => startsWith entry.1 (objectKey ns "")).map
        fun entry => entry.2.length).sum := by
  unfold Db.objectBytes Db.pathsWith
  rw [List.map_map]
  congr 1
  apply List.map_congr_left
  intro entry hentry
  obtain ⟨path, bytes, rfl, hbytes⟩ := mem_rows.mp hentry
  simp only [Function.comp_apply, dropChars_objectKey, Db.getObject, hbytes, Option.elim_some]

theorem stats_count : (db.namespaceObjectStats c ns).1 = (db.pathsWith ns "").length := by
  unfold Db.namespaceObjectStats
  dsimp only
  rw [rangeScan_eq, Db.pathsWith, List.length_map]

theorem stats_bytes_min : (db.namespaceObjectStats c ns).2.1 = min (db.objectBytes ns) u64Max := by
  unfold Db.namespaceObjectStats
  dsimp only
  rw [rangeScan_eq, objectBytes_eq,
    foldl_saturatingAdd (fun entry : String × Bytes => entry.2.length) _ (Nat.zero_le _), Nat.zero_add]

theorem stats_bytes (h : db.objectBytes ns ≤ u64Max) :
    (db.namespaceObjectStats c ns).2.1 = db.objectBytes ns := by
  rw [stats_bytes_min, min_eq_left h]

/-- `last` is a latest one of the times and of `earlier`. -/
structure LatestOf (c : Crates) (times : List String) (earlier last : Option String) : Prop where
  known : ∀ time ∈ last, time ∈ times ∨ earlier = some time
  covers : ∀ time, (time ∈ times ∨ earlier = some time) →
    ∃ latest ∈ last, ∀ instant ∈ c.parseFromRfc3339 time, ∃ instant' ∈ c.parseFromRfc3339 latest,
      instant ≤ instant'

theorem foldl_timestampIsAfter {times : List String} {earlier : Option String}
    (htimes : ∀ time ∈ times, c.parseFromRfc3339 time ≠ none)
    (hearlier : ∀ time ∈ earlier, c.parseFromRfc3339 time ≠ none) :
    LatestOf c times earlier (times.foldl (fun last time =>
      if timestampIsAfter c last time then some time else last) earlier) := by
  induction times generalizing earlier with
  | nil =>
    constructor
    · intro time htime
      exact .inr htime
    · intro time htime
      rcases htime with htime | htime
      · cases htime
      · exact ⟨time, htime, fun instant hinstant => ⟨instant, hinstant, le_rfl⟩⟩
  | cons first rest ih =>
    obtain ⟨now, hnow⟩ := Option.ne_none_iff_exists'.mp (htimes first (by simp))
    have hrest : ∀ time ∈ rest, c.parseFromRfc3339 time ≠ none := by
      intro time htime
      exact htimes time (by simp [htime])
    rw [List.foldl_cons]
    by_cases hafter : timestampIsAfter c earlier first = true
    · rw [if_pos hafter]
      have hfirst : ∀ time ∈ some first, c.parseFromRfc3339 time ≠ none := by
        intro time htime
        obtain rfl := Option.some.inj htime
        exact htimes first (by simp)
      have hlatest := ih hrest hfirst
      constructor
      · intro time htime
        rcases hlatest.known time htime with hmem | hfirst
        · exact .inl (by simp [hmem])
        · exact .inl (by simp [Option.some.inj hfirst])
      · intro time htime
        obtain ⟨latest, hlast, hcovers⟩ := hlatest.covers first (.inr rfl)
        obtain ⟨instant', hinstant', hle⟩ := hcovers now hnow
        rcases htime with hmem | hbefore
        · rcases List.mem_cons.mp hmem with rfl | hmem
          · exact ⟨latest, hlast, hcovers⟩
          · exact hlatest.covers time (.inl hmem)
        · refine ⟨latest, hlast, fun instant hinstant => ⟨instant', hinstant', ?_⟩⟩
          rw [hbefore] at hafter
          simp only [timestampIsAfter, hnow, Option.mem_def.mp hinstant, decide_eq_true_eq] at hafter
          exact le_trans (le_of_lt hafter) hle
    · rw [if_neg hafter]
      have hlatest := ih hrest hearlier
      obtain ⟨before, rfl⟩ : ∃ before, earlier = some before := by
        cases earlier with
        | none => exact absurd rfl hafter
        | some before => exact ⟨before, rfl⟩
      obtain ⟨instant, hinstant⟩ := Option.ne_none_iff_exists'.mp (hearlier before rfl)
      simp only [timestampIsAfter, hnow, hinstant, decide_eq_true_eq, not_lt] at hafter
      constructor
      · intro time htime
        rcases hlatest.known time htime with hmem | hbefore
        · exact .inl (by simp [hmem])
        · exact .inr hbefore
      · intro time htime
        rcases htime with hmem | hbefore
        · rcases List.mem_cons.mp hmem with rfl | hmem
          · obtain ⟨latest, hlast, hcovers⟩ := hlatest.covers before (.inr rfl)
            obtain ⟨instant', hinstant', hle⟩ := hcovers instant hinstant
            refine ⟨latest, hlast, fun now' hnow' => ⟨instant', hinstant', ?_⟩⟩
            rw [hnow] at hnow'
            obtain rfl := Option.some.inj hnow'
            exact le_trans hafter hle
          · exact hlatest.covers time (.inl hmem)
        · exact hlatest.covers time (.inr hbefore)

/-- The count goes by every row of the namespace in the table of records. -/
theorem stats_latest (hpaired : ∀ path, db.getObject ns path = none ↔ db.getObjectMetadata ns path = none)
    (htimes : ∀ path m, db.getObjectMetadata ns path = some m → c.parseFromRfc3339 m.updatedAt ≠ none) :
    db.LatestWrite c ns (db.namespaceObjectStats c ns).2.2 := by
  have hstats : (db.namespaceObjectStats c ns).2.2 =
      ((db.objectMetadata.toList.filter fun entry => startsWith entry.1 (objectKey ns "")).map
        fun entry => entry.2.updatedAt).foldl (fun last time =>
          if timestampIsAfter c last time then some time else last) none := by
    unfold Db.namespaceObjectStats
    dsimp only
    rw [rangeScan_eq, List.foldl_map]
  rw [hstats]
  generalize htimes' : (db.objectMetadata.toList.filter fun entry =>
    startsWith entry.1 (objectKey ns "")).map (fun entry => entry.2.updatedAt) = times
  have hmem (time : String) :
      time ∈ times ↔ ∃ path m, db.getObjectMetadata ns path = some m ∧ m.updatedAt = time := by
    rw [← htimes', List.mem_map]
    constructor
    · intro h
      obtain ⟨entry, hentry, rfl⟩ := h
      obtain ⟨path, m, rfl, hm⟩ := mem_rows.mp hentry
      exact ⟨path, m, hm, rfl⟩
    · intro h
      obtain ⟨path, m, hm, rfl⟩ := h
      exact ⟨(objectKey ns path, m), mem_rows.mpr ⟨path, m, rfl, hm⟩, rfl⟩
  have hvalid : ∀ time ∈ times, c.parseFromRfc3339 time ≠ none := by
    intro time htime
    obtain ⟨path, m, hm, rfl⟩ := (hmem time).mp htime
    exact htimes path m hm
  have hlatest := foldl_timestampIsAfter (c := c) hvalid (by simp : ∀ time ∈ none, _)
  generalize times.foldl (fun last time => if timestampIsAfter c last time then some time else last)
    none = last at hlatest
  cases last with
  | none =>
    apply Db.LatestWrite.none
    intro path
    rw [hpaired]
    cases hm : db.getObjectMetadata ns path with
    | none => rfl
    | some m =>
      obtain ⟨latest, hlast, _⟩ := hlatest.covers m.updatedAt (.inl ((hmem _).mpr ⟨path, m, hm, rfl⟩))
      cases hlast
  | some last =>
    rcases hlatest.known last rfl with htime | hnone
    · obtain ⟨path, m, hm, rfl⟩ := (hmem last).mp htime
      obtain ⟨latest, hparsed⟩ := Option.ne_none_iff_exists'.mp (htimes path m hm)
      apply Db.LatestWrite.some hm hparsed
      intro path' m' instant hm' hinstant
      obtain ⟨last', hlast', hcovers⟩ :=
        hlatest.covers m'.updatedAt (.inl ((hmem _).mpr ⟨path', m', hm', rfl⟩))
      obtain rfl := Option.some.inj hlast'
      obtain ⟨instant', hinstant', hle⟩ := hcovers instant hinstant
      rw [hparsed] at hinstant'
      obtain rfl := Option.some.inj hinstant'
      exact hle
    · cases hnone

/-- Listings, counts and purges meet the rows of the paths that the table holds. -/
structure ScansAgree (c : Crates) (db : Db) (ns : String) : Prop where
  paths : ∀ pre, (db.pathsWith ns pre).Pairwise (fun a b => asBytes a < asBytes b) ∧
    ∀ path, path ∈ db.pathsWith ns pre ↔ startsWith path pre = true ∧ db.getObject ns path ≠ none
  listing : ∀ (pre : String) (after : Option String) (limit : Nat),
    (∀ cursor ∈ after, startsWith cursor pre = true) →
      db.listObjectPaths ns pre after limit =
        ((db.pathsWith ns pre).filter fun path => after.all (· < path)).take limit
  count : (db.namespaceObjectStats c ns).1 = (db.pathsWith ns "").length
  bytes : db.objectBytes ns ≤ u64Max → (db.namespaceObjectStats c ns).2.1 = db.objectBytes ns
  latest : (∀ path, db.getObject ns path = none ↔ db.getObjectMetadata ns path = none) →
    (∀ path m, db.getObjectMetadata ns path = some m → c.parseFromRfc3339 m.updatedAt ≠ none) →
      db.LatestWrite c ns (db.namespaceObjectStats c ns).2.2
  purged : ∀ key : String, (db.hardDeleteNamespace ns).objects[key]? =
    if ∃ path ∈ db.pathsWith ns "", key = objectKey ns path then none else db.objects[key]?
  others : ∀ m path, ValidNamespaceName c m → m ≠ ns →
    (db.hardDeleteNamespace ns).getObject m path = db.getObject m path

theorem mem_pathsWith_empty : path ∈ db.pathsWith ns "" ↔ db.getObject ns path ≠ none := by
  rw [mem_pathsWith, and_iff_right]
  simp

theorem purged_objects (key : String) :
    (db.hardDeleteNamespace ns).objects[key]? =
      if ∃ path ∈ db.pathsWith ns "", key = objectKey ns path then none else db.objects[key]? := by
  have hpurged : key ∈ db.purgedKeys ns ↔ ∃ path ∈ db.pathsWith ns "", key = objectKey ns path := by
    have hprefix : "ns:" ++ ns ++ "/obj:" = objectKey ns "" := by simp [objectKey]
    rw [mem_purgedKeys, hprefix]
    constructor
    · intro h
      obtain ⟨path, rfl⟩ := eq_objectKey_of_startsWith h.2
      exact ⟨path, mem_pathsWith_empty.mpr h.1, rfl⟩
    · intro h
      obtain ⟨path, hpath, rfl⟩ := h
      refine ⟨mem_pathsWith_empty.mp hpath, ?_⟩
      rw [startsWith_objectKey]
      simp
  unfold Db.hardDeleteNamespace
  dsimp only
  rw [Table.get_eraseAll]
  simp only [hpurged]

/-- A range scan that stops early and a filter of the whole table see the same objects. -/
theorem scansAgree (hns : ValidNamespaceName c ns) : ScansAgree c db ns where
  paths pre := by
    refine ⟨sorted_pathsWith.imp asBytes_lt_asBytes_iff.mpr, fun path => ?_⟩
    exact mem_pathsWith
  listing pre after limit hafter := listObjectPaths_eq_behind hafter limit
  count := stats_count
  bytes := stats_bytes
  latest := stats_latest
  purged := purged_objects
  others m path hm hne := by
    unfold Db.getObject
    rw [purged_objects, if_neg]
    intro h
    obtain ⟨path', _, hkey⟩ := h
    exact hne (objectKey_inj (slash_notMem hm) (slash_notMem hns) hkey).1

set_option maxRecDepth 10000 in
theorem scansAgree_shelf : ScansAgree freshCrates shelfDb "work" := by
  have hvalid : validateNamespace freshCrates "work" = .ok () := by decide +kernel
  exact scansAgree hvalid

end CloudSync
