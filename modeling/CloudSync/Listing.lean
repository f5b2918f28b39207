import CloudSync.NamespaceRows

/-!
# The objects of a namespace, listed

All objects stand in one table, ordered by key. The rows that a listing or a
count goes through are those whose key starts as the keys of the namespace do,
so both depend on the objects of the namespace only.
-/

namespace CloudSync

open Rust Redb Transactions

set_option autoImplicit false

variable {c : Crates} {ns pre path : String} {after : Option String}

theorem objectKey_append (ns pre path : String) :
    objectKey ns (pre ++ path) = objectKey ns pre ++ path := by
  simp [objectKey, String.append_assoc]

theorem startsWith_objectKey : startsWith (objectKey ns path) (objectKey ns pre) = startsWith path pre := by
  rw [Bool.eq_iff_iff, startsWith_iff, startsWith_iff, toList_objectKey, toList_objectKey,
    List.prefix_append_right_inj, List.prefix_append_right_inj, List.prefix_append_right_inj]

/-- A key that starts as the keys of the namespace do is one of them. -/
theorem eq_objectKey_of_startsWith {key : String} (h : startsWith key (objectKey ns "") = true) :
    ∃ path, key = objectKey ns path := by
  obtain ⟨rest, hrest⟩ := startsWith_iff.mp h
  refine ⟨String.ofList rest, ?_⟩
  apply String.toList_injective
  rw [← hrest, toList_objectKey, toList_objectKey, String.toList_ofList]
  simp

theorem startsWith_empty_of_startsWith {key : String} (h : startsWith key (objectKey ns pre) = true) :
    startsWith key (objectKey ns "") = true := by
  rw [startsWith_iff] at h ⊢
  apply List.IsPrefix.trans _ h
  rw [toList_objectKey, toList_objectKey]
  simp

/-- Where a listing begins. -/
def listingBound (ns pre : String) (after : Option String) : Bound :=
  match after with
  | some path => .excluded (objectKey ns path)
  | none => .included (objectKey ns pre)

theorem le_of_listingBound (hafter : ∀ cursor ∈ after, startsWith cursor pre = true) (key : String)
    (h : (listingBound ns pre after).admits key = true) : objectKey ns pre ≤ key := by
  cases after with
  | none => exact of_decide_eq_true h
  | some cursor =>
    have hcursor : startsWith (objectKey ns cursor) (objectKey ns pre) = true := by
      rw [startsWith_objectKey]
      exact hafter cursor rfl
    exact le_trans (le_of_startsWith hcursor) (le_of_lt (of_decide_eq_true h))

/-- The early stop of a listing loses nothing. -/
theorem listObjectPaths_eq (db : Db) (hafter : ∀ cursor ∈ after, startsWith cursor pre = true)
    (limit : Nat) :
    db.listObjectPaths ns pre after limit =
      ((db.objects.toList.filter fun entry => startsWith entry.1 (objectKey ns pre) &&
        (listingBound ns pre after).admits entry.1).take limit).map
          fun entry => dropChars entry.1 (objectKey ns "").length := by
  have hbound : db.listObjectPaths ns pre after limit =
      (((db.objects.rangeFrom (listingBound ns pre after)).take limit).takeWhile
          fun entry => startsWith entry.1 (objectKey ns pre)).map
        fun entry => dropChars entry.1 (objectKey ns "").length := by
    cases after <;> rfl
  rw [hbound, ← List.take_takeWhile, Table.rangeFrom_takeWhile _ (le_of_listingBound hafter),
    Table.rangeFrom, List.filter_filter]

section Congr
variable {db db' : Db}

/-- A listing depends on the objects of its namespace only. -/
theorem listObjectPaths_congr (h : ∀ path, db'.objects[objectKey ns path]? = db.objects[objectKey ns path]?)
    (hafter : ∀ cursor ∈ after, startsWith cursor pre = true) (limit : Nat) :
    db'.listObjectPaths ns pre after limit = db.listObjectPaths ns pre after limit := by
  rw [listObjectPaths_eq db hafter, listObjectPaths_eq db' hafter]
  have hrows : (db'.objects.toList.filter fun entry => startsWith entry.1 (objectKey ns pre) &&
        (listingBound ns pre after).admits entry.1) =
      db.objects.toList.filter fun entry => startsWith entry.1 (objectKey ns pre) &&
        (listingBound ns pre after).admits entry.1 := by
    apply Table.toList_filter_congr (p := fun key =>
      startsWith key (objectKey ns pre) && (listingBound ns pre after).admits key)
    intro key hkey
    obtain ⟨path, rfl⟩ := eq_objectKey_of_startsWith
      (startsWith_empty_of_startsWith (Bool.and_eq_true_iff.mp hkey).1)
    exact h path
  rw [hrows]

/-- The rows that a range scan of a namespace goes through. -/
theorem rangeScan_eq {V : Type} (t : Table V) (ns : String) :
    (t.rangeFrom (.included (objectKey ns ""))).takeWhile
        (fun entry => startsWith entry.1 (objectKey ns "")) =
      t.toList.filter fun entry => startsWith entry.1 (objectKey ns "") := by
  have hle (key : String) (hkey : (Bound.included (objectKey ns "")).admits key = true) :
      objectKey ns "" ≤ key := of_decide_eq_true hkey
  rw [Table.rangeFrom_takeWhile _ hle, Table.rangeFrom, List.filter_filter]
  apply List.filter_congr
  intro entry _
  rw [Bool.and_eq_left_iff_imp]
  intro hstarts
  exact decide_eq_true (le_of_startsWith hstarts)

theorem rowsOf_congr {V : Type} {t t' : Table V}
    (h : ∀ path, t'[objectKey ns path]? = t[objectKey ns path]?) :
    (t'.rangeFrom (.included (objectKey ns ""))).takeWhile
        (fun entry => startsWith entry.1 (objectKey ns "")) =
      (t.rangeFrom (.included (objectKey ns ""))).takeWhile
        fun entry => startsWith entry.1 (objectKey ns "") := by
  rw [rangeScan_eq, rangeScan_eq]
  apply Table.toList_filter_congr (p := fun key => startsWith key (objectKey ns ""))
  intro key hkey
  obtain ⟨path, rfl⟩ := eq_objectKey_of_startsWith hkey
  exact h path

theorem namespaceObjectStats_congr
    (h : ∀ path, db'.objectRow (objectKey ns path) = db.objectRow (objectKey ns path)) :
    db'.namespaceObjectStats c ns = db.namespaceObjectStats c ns := by
  unfold Db.namespaceObjectStats
  dsimp only
  rw [rowsOf_congr (t := db.objects) fun path => congrArg Prod.fst (h path),
    rowsOf_congr (t := db.objectMetadata) fun path => congrArg Prod.snd (h path)]

end Congr

end CloudSync
