import CloudSync.StoredCells

/-!
# The rows of one namespace

Object rows of all namespaces share one table, so which rows belong to a
namespace is a question about keys. A valid name has no slash; therefore the key
of an object tells its namespace, and a purge of another name finds the key only
if that name continues with `/obj:`.
-/

namespace CloudSync

open Rust Redb Transactions

set_option autoImplicit false

/-! ## Keys -/

section Keys
variable {c : Crates} {ns ns' path path' : String}

theorem nameChar_slash (c : Crates) : nameChar c '/' = false := by
  have h : c.isAlphanumeric '/' = false := c.isAlphanumeric_ascii '/' (by decide)
  simp [nameChar, h]

theorem nameChar_of_valid (h : validateNamespace c ns = .ok ()) {ch : Char} (hch : ch ∈ ns.toList) :
    nameChar c ch = true := by
  have hall : (chars ns).all (nameChar c) = true := by
    unfold validateNamespace at h
    split at h
    · cases h
    · split at h
      · cases h
      · rename_i hall
        simpa using hall
  rw [chars_eq] at hall
  exact List.all_eq_true.mp hall ch hch

/-- A valid namespace has no slash. -/
theorem slash_notMem (h : validateNamespace c ns = .ok ()) : '/' ∉ ns.toList := by
  intro hmem
  have hslash := nameChar_of_valid h hmem
  rw [nameChar_slash] at hslash
  cases hslash

theorem toList_separator : "/obj:".toList = '/' :: ['o', 'b', 'j', ':'] := rfl

theorem toList_objectKey (ns path : String) :
    (objectKey ns path).toList =
      "ns:".toList ++ (ns.toList ++ ('/' :: ['o', 'b', 'j', ':'] ++ path.toList)) := by
  rw [objectKey, String.toList_append, String.toList_append, String.toList_append, toList_separator,
    List.append_assoc, List.append_assoc]

/-- The key of an object tells its namespace and its path. -/
theorem objectKey_inj (hns : '/' ∉ ns.toList) (hns' : '/' ∉ ns'.toList)
    (h : objectKey ns path = objectKey ns' path') : ns = ns' ∧ path = path' := by
  have hlist := congrArg String.toList h
  rw [toList_objectKey, toList_objectKey, List.append_cancel_left_eq] at hlist
  obtain ⟨hl, hr⟩ := append_cons_inj_of_notMem hns hns' hlist
  exact ⟨String.toList_injective hl,
    String.toList_injective (List.append_cancel_left (show ['o', 'b', 'j', ':'] ++ _ = _ ++ _ from hr))⟩

/-- A purge of `n` looks for keys that start as those of its own objects do. An object of a
namespace `m` has such a key if `n` is `m`, or if `n` goes on where the path begins. -/
theorem startsWith_objectKey_iff {m n path : String} (hm : '/' ∉ m.toList) :
    startsWith (objectKey m path) ("ns:" ++ n ++ "/obj:") ↔
      n = m ∨ ∃ q rest, n = m ++ "/obj:" ++ q ∧ path = q ++ "/obj:" ++ rest := by
  rw [startsWith_iff, toList_objectKey, String.toList_append, String.toList_append, toList_separator,
    List.append_assoc, List.prefix_append_right_inj]
  constructor
  · intro h
    rcases eq_or_of_separated_prefix (by decide) hm h with h | ⟨q, rest, hn, hpath⟩
    · exact .inl (String.toList_injective h)
    · refine .inr ⟨String.ofList q, String.ofList rest, ?_, ?_⟩
      · apply String.toList_injective
        rw [hn, String.toList_append, String.toList_append, toList_separator, String.toList_ofList,
          List.append_assoc]
      · apply String.toList_injective
        rw [hpath, String.toList_append, String.toList_append, toList_separator,
          String.toList_ofList, String.toList_ofList, List.append_assoc]
  · rintro (rfl | ⟨q, rest, rfl, rfl⟩)
    · exact ⟨path.toList, by simp⟩
    · refine ⟨rest.toList, ?_⟩
      simp only [String.toList_append, toList_separator, List.append_assoc]

end Keys

/-! ## Rows -/

section Rows
variable {c : Crates} {ns : String}

/-- What is stored under the key of an object, in both tables. -/
def Db.objectRow (db : Db) (key : String) : Option Bytes × Option StoredObjectMetadata :=
  (db.objects[key]?, db.objectMetadata[key]?)

theorem mem_purgedKeys {db : Db} {key : String} :
    key ∈ db.purgedKeys ns ↔
      db.objects[key]? ≠ none ∧ startsWith key ("ns:" ++ ns ++ "/obj:") := by
  rw [Db.purgedKeys, List.mem_filter, Std.ExtTreeMap.mem_keys,
    Std.ExtTreeMap.mem_iff_isSome_getElem?, Option.isSome_iff_ne_none]

/-- All that a call can do to the rows of an object. -/
inductive ObjectStep (key : String) (db : Db) (call : databaseSignature.Call) (db' : Db) : Prop where
  | same (h : db'.objectRow key = db.objectRow key)
  | store (ns path : String) (expectedEtag : Option String) (requireAbsent : Bool) (data : Bytes)
      (m : StoredObjectMetadata)
      (hcall : call = ⟨.putObjectIfMatches ns path expectedEtag requireAbsent data m, .ok (.ok ())⟩)
      (hkey : objectKey ns path = key) (h : db'.objectRow key = (some data, some m))
  | remove (ns path : String) (existed : Bool) (hcall : call = ⟨.deleteObject ns path, .ok existed⟩)
      (hkey : objectKey ns path = key) (h : db'.objectRow key = (none, none))
  | purge (ns : String) (hcall : call = ⟨.hardDeleteNamespace ns, .ok ()⟩)
      (hkey : key ∈ db.purgedKeys ns) (h : db'.objectRow key = (none, none))

theorem objectStep (key : String) {call : DbCall} {r : databaseSignature.Reply call} {db db' : Db}
    (h : Effect (S := databaseSignature) (DbCall.exec c) call r db db') :
    ObjectStep key db ⟨call, r⟩ db' := by
  cases h with
  | fail f => exact .same rfl
  | commit =>
    cases call with
    | putObjectIfMatches ns path expectedEtag requireAbsent data m =>
      rcases putObjectIfMatches_cases db ns path expectedEtag requireAbsent data m with
        ⟨message, h⟩ | ⟨_, h⟩
      · simp only [DbCall.exec, h]
        exact .same rfl
      · simp only [DbCall.exec, h]
        by_cases hkey : objectKey ns path = key
        · exact .store ns path expectedEtag requireAbsent data m rfl hkey (by
            simp [Db.objectRow, hkey])
        · exact .same (by simp [Db.objectRow, hkey])
    | putBlobIfMatches ns expectedEtag requireAbsent blob m =>
      rcases putBlobIfMatches_cases db ns expectedEtag requireAbsent blob m with
        ⟨message, h⟩ | ⟨revision, message, h⟩ | ⟨_, h⟩ <;>
      · simp only [DbCall.exec, h]
        exact .same rfl
    | deleteObject ns path =>
      by_cases hkey : objectKey ns path = key
      · exact .remove ns path _ rfl hkey (by
          simp [DbCall.exec, Db.deleteObject, Db.objectRow, objectMetaKey, hkey])
      · exact .same (by simp [DbCall.exec, Db.deleteObject, Db.objectRow, objectMetaKey, hkey])
    | hardDeleteNamespace ns =>
      by_cases hkey : key ∈ db.purgedKeys ns
      · exact .purge ns rfl hkey (by
          simp [DbCall.exec, Db.hardDeleteNamespace, Db.objectRow, hkey])
      · exact .same (by simp [DbCall.exec, Db.hardDeleteNamespace, Db.objectRow, hkey])
    | recordTokenUsage id ns permission clientIp clientVersion observedAt =>
      obtain ⟨tokens, devices, h⟩ :=
        db.recordTokenUsage_eq id ns permission clientIp clientVersion observedAt
      rw [DbCall.exec, h]
      exact .same rfl
    | recordTokenFailure id =>
      obtain ⟨tokens, h⟩ := db.recordTokenFailure_eq id
      rw [DbCall.exec, h]
      exact .same rfl
    | _ => exact .same rfl

/-- The metadata, the blob and the objects of a namespace are the same in both databases. -/
structure SameContents (ns : String) (db db' : Db) : Prop where
  snapshot : db'.snapshot ns = db.snapshot ns
  objects : ∀ path, db'.objectRow (objectKey ns path) = db.objectRow (objectKey ns path)

theorem SameContents.refl (ns : String) (db : Db) : SameContents ns db db := ⟨rfl, fun _ => rfl⟩

theorem SameContents.trans {db db' db'' : Db} (h : SameContents ns db db')
    (h' : SameContents ns db' db'') : SameContents ns db db'' :=
  ⟨h'.snapshot.trans h.snapshot, fun path => (h'.objects path).trans (h.objects path)⟩

end Rows

/-! ## Tombstones -/

/-- The namespace that the call gives a tombstone. -/
def DbCall.buries : DbCall → Option String
  | .softDeleteNamespace ns _ => some ns
  | _ => none

/-- The namespace whose tombstone the call takes away. -/
def DbCall.reopens : DbCall → Option String
  | .restoreNamespace ns | .hardDeleteNamespace ns => some ns
  | _ => none

theorem isNamespaceDeleted_exec (c : Crates) (call : DbCall) (db : Db) (ns : String) :
    (call.exec c db).2.isNamespaceDeleted ns =
      if call.buries = some ns then true
      else if call.reopens = some ns then false else db.isNamespaceDeleted ns := by
  cases call with
  | softDeleteNamespace ns' deletedAt =>
    by_cases hsame : ns' = ns <;>
    simp [DbCall.exec, Db.softDeleteNamespace, Db.isNamespaceDeleted, DbCall.buries, DbCall.reopens, hsame]
  | restoreNamespace ns' =>
    by_cases hsame : ns' = ns <;>
    simp [DbCall.exec, Db.restoreNamespace, Db.isNamespaceDeleted, DbCall.buries, DbCall.reopens, hsame]
  | hardDeleteNamespace ns' =>
    by_cases hsame : ns' = ns <;>
    simp [DbCall.exec, Db.hardDeleteNamespace, Db.isNamespaceDeleted, DbCall.buries, DbCall.reopens, hsame]
  | putObjectIfMatches ns' path expectedEtag requireAbsent data m =>
    rcases putObjectIfMatches_cases db ns' path expectedEtag requireAbsent data m with
      ⟨message, h⟩ | ⟨_, h⟩ <;>
    · simp only [DbCall.exec, h]
      rfl
  | putBlobIfMatches ns' expectedEtag requireAbsent blob m =>
    rcases putBlobIfMatches_cases db ns' expectedEtag requireAbsent blob m with
      ⟨message, h⟩ | ⟨revision, message, h⟩ | ⟨_, h⟩ <;>
    · simp only [DbCall.exec, h]
      rfl
  | recordTokenUsage id ns' permission clientIp clientVersion observedAt =>
    obtain ⟨tokens, devices, h⟩ :=
      db.recordTokenUsage_eq id ns' permission clientIp clientVersion observedAt
    rw [DbCall.exec, h]
    rfl
  | recordTokenFailure id =>
    obtain ⟨tokens, h⟩ := db.recordTokenFailure_eq id
    rw [DbCall.exec, h]
    rfl
  | _ => rfl

end CloudSync
