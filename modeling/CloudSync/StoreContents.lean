import CloudSync.AbstractStore
import CloudSync.SyncFrame

/-!
# Contents of a namespace, and where they are stored

The tables hold the contents of each namespace. A call changes the rows of one namespace only,
and a program follows an operation if it answers and leaves what the operation says.
-/

namespace CloudSync

open Rust Redb Transactions Transactions.Fallible

set_option autoImplicit false

variable {c : Crates} {state : AppState} {amb : Ambient}

/-! ## One namespace at a time -/

/-- The namespace whose contents the call is about. -/
def DbCall.altered : DbCall → Option String
  | .setMetadata ns _ | .putBlobIfMatches ns _ _ _ _ => some ns
  | .deleteObject ns _ | .putObjectIfMatches ns _ _ _ _ _ => some ns
  | .softDeleteNamespace ns _ | .restoreNamespace ns | .hardDeleteNamespace ns => some ns
  | _ => none

/-- The namespace has the same contents, and is hidden or not as before. -/
structure Unchanged (ns : String) (db db' : Db) : Prop where
  contents : SameContents ns db db'
  deleted : db'.isNamespaceDeleted ns = db.isNamespaceDeleted ns

section Frame
variable {ns : String} {db db' db'' : Db}

theorem Unchanged.refl : Unchanged ns db db := ⟨.refl ns db, rfl⟩

theorem Unchanged.trans (h : Unchanged ns db db') (h' : Unchanged ns db' db'') : Unchanged ns db db'' :=
  ⟨h.contents.trans h'.contents, h'.deleted.trans h.deleted⟩

/-- A call that is about another namespace, or about none. -/
theorem unchanged_exec {call : DbCall} (hns : ValidNamespaceName c ns)
    (hcall : ∀ other ∈ call.altered, ValidNamespaceName c other ∧ other ≠ ns) :
    Unchanged ns db (call.exec c db).2 := by
  have heffect : Effect (S := databaseSignature) (DbCall.exec c) call (.ok (call.exec c db).1) db
      (call.exec c db).2 := Effect.commit (S := databaseSignature) call db
  refine ⟨⟨?_, fun path => ?_⟩, ?_⟩
  · cases snapshotStep ns heffect with
    | same _ h => exact h
    | upload expectedEtag requireAbsent blob m h =>
      rw [(Sigma.mk.inj h).1] at hcall
      exact absurd rfl (hcall ns rfl).2
    | describe data h =>
      rw [(Sigma.mk.inj h).1] at hcall
      exact absurd rfl (hcall ns rfl).2
    | purge h =>
      rw [(Sigma.mk.inj h).1] at hcall
      exact absurd rfl (hcall ns rfl).2
  · cases objectStep (objectKey ns path) heffect with
    | same h => exact h
    | store other path' expectedEtag requireAbsent data m h hkey =>
      rw [(Sigma.mk.inj h).1] at hcall
      obtain ⟨hother, hne⟩ := hcall other rfl
      exact absurd (objectKey_inj (slash_notMem hother) (slash_notMem hns) hkey).1 hne
    | remove other path' existed h hkey =>
      rw [(Sigma.mk.inj h).1] at hcall
      obtain ⟨hother, hne⟩ := hcall other rfl
      exact absurd (objectKey_inj (slash_notMem hother) (slash_notMem hns) hkey).1 hne
    | purge other h hkey =>
      rw [(Sigma.mk.inj h).1] at hcall
      obtain ⟨hother, hne⟩ := hcall other rfl
      rcases (startsWith_objectKey_iff (slash_notMem hns)).mp (mem_purgedKeys.mp hkey).2 with
        hsame | ⟨q, rest, hcut, _⟩
      · exact absurd hsame hne
      · -- The name of `other` would go on behind the one of `ns` with a slash.
        have hslash : '/' ∈ other.toList := by
          rw [hcut, String.toList_append, String.toList_append, toList_separator]
          simp
        exact absurd hslash (slash_notMem hother)
  · have hbooks : call.buries = some ns ∨ call.reopens = some ns → call.altered = some ns := by
      intro h
      cases call <;> simp_all [DbCall.buries, DbCall.reopens, DbCall.altered]
    have hnot : ¬ call.altered = some ns := fun h => (hcall ns h).2 rfl
    rw [isNamespaceDeleted_exec, if_neg fun h => hnot (hbooks (.inl h)),
      if_neg fun h => hnot (hbooks (.inr h))]

theorem unchanged_run {ε α : Type} {x : Fallible databaseSignature ε α} (hns : ValidNamespaceName c ns)
    (hx : Calls (fun call : DbCall => ∀ other ∈ call.altered, ValidNamespaceName c other ∧ other ≠ ns) x) :
    Unchanged ns db (x.alone (DbCall.exec c) db).2 :=
  Program.run_invariant (J := Unchanged ns db) (fun _ _ hcall h => h.trans (unchanged_exec hns hcall)) hx
    .refl

end Frame

/-! ## What the tables say -/

/-- The tables hold these contents, encrypted or not. -/
structure Holds (c : Crates) (state : AppState) (contents : Contents) (ns : String) (db : Db) : Prop where
  metadata : db.getMetadata ns = contents.metadata
  readable : ∀ m ∈ contents.metadata, m.fromSlice = some m
  blob : Option.Rel (fun encrypted body => decryptIfNeeded c state encrypted = .ok body)
    (db.getBlob ns) contents.blob
  objects : ∀ path, Option.Rel
    (fun encrypted (payload : Payload) => decryptIfNeeded c state encrypted = .ok payload.body)
    (db.getObject ns path) contents.objects[path]?
  etags : ∀ path, (db.getObjectMetadata ns path).map (·.etag) = contents.objects[path]?.map (·.etag)
  deleted : db.isNamespaceDeleted ns = contents.deleted

section Holds
variable {ns : String} {db db' : Db} {contents : Contents}

theorem Holds.of_unchanged (h : Holds c state contents ns db) (hsame : Unchanged ns db db') :
    Holds c state contents ns db' where
  metadata := (congrArg Prod.fst hsame.contents.snapshot).trans h.metadata
  readable := h.readable
  blob := by
    have hblob : db'.getBlob ns = db.getBlob ns := congrArg Prod.snd hsame.contents.snapshot
    rw [hblob]
    exact h.blob
  objects path := by
    have hobject : db'.getObject ns path = db.getObject ns path :=
      congrArg Prod.fst (hsame.contents.objects path)
    rw [hobject]
    exact h.objects path
  etags path := by
    have hmeta : db'.getObjectMetadata ns path = db.getObjectMetadata ns path :=
      congrArg Prod.snd (hsame.contents.objects path)
    rw [hmeta]
    exact h.etags path
  deleted := hsame.deleted.trans h.deleted

theorem rel_cases {α β : Type} {R : α → β → Prop} {a : Option α} {b : Option β} (h : Option.Rel R a b) :
    (a = none ∧ b = none) ∨ ∃ x y, a = some x ∧ b = some y ∧ R x y := by
  cases h with
  | none => exact .inl ⟨rfl, rfl⟩
  | some hR => exact .inr ⟨_, _, rfl, rfl, hR⟩

end Holds

/-- Alone on the database, the program answers as `outcome` says, and leaves what it says. -/
def Follows (c : Crates) (state : AppState) {α : Type} (wrap : α → Response) (x : Handler α)
    (outcome : Contents.Outcome) (contents : Contents) (ns : String) (db : Db) : Prop :=
  Leaves (DbCall.exec c) x db
    (fun a db' => ∃ contents', outcome = .ok (wrap a, contents') ∧ Holds c state contents' ns db')
    (fun e db' => outcome = .error e ∧ Holds c state contents ns db')

section Follows
variable {α β : Type} {wrap : α → Response} {contents : Contents} {ns : String} {db : Db}

theorem follows_ensure {ok : Bool} {e : AppError} {x : Unit → Handler α} {outcome : Unit → Contents.Outcome}
    (h : Holds c state contents ns db)
    (hx : ok = true → Follows c state wrap (x ()) (outcome ()) contents ns db) :
    Follows c state wrap (ensure ok e >>= x) (check ok e >>= outcome) contents ns db := by
  apply (leaves_bind _ _).mpr
  rw [leaves_ensure]
  refine ⟨fun hok => ?_, fun hok => ?_⟩
  · rw [check, if_pos hok]
    exact hx hok
  · rw [check, hok]
    exact ⟨rfl, h⟩

theorem follows_liftResult {a : Except AppError β} {x : β → Handler α} {outcome : β → Contents.Outcome}
    (h : Holds c state contents ns db)
    (hx : ∀ v, a = .ok v → Follows c state wrap (x v) (outcome v) contents ns db) :
    Follows c state wrap (liftResult a >>= x) (a >>= outcome) contents ns db := by
  apply (leaves_bind _ _).mpr
  rw [leaves_liftResult]
  refine ⟨fun v hv => ?_, fun e he => ?_⟩
  · rw [hv]
    exact hx v hv
  · rw [he]
    exact ⟨rfl, h⟩

theorem follows_read {call : DbCall} {out : call.Out} {x : call.Out → Handler α} {outcome : Contents.Outcome}
    (hread : call.exec c db = (out, db)) (hx : Follows c state wrap (x out) outcome contents ns db) :
    Follows c state wrap (CloudSync.db call >>= x) outcome contents ns db := by
  apply (leaves_bind _ _).mpr
  rw [leaves_db, hread]
  exact hx

theorem follows_value {a : Except AppError β} {v : β} {x : β → Handler α} {outcome : Contents.Outcome}
    (ha : a = .ok v) (hx : Follows c state wrap (x v) outcome contents ns db) :
    Follows c state wrap (liftResult a >>= x) outcome contents ns db := by
  rw [ha]
  exact hx

theorem follows_some {a : Option β} {v : β} {e : AppError} {x : β → Handler α} {outcome : Contents.Outcome}
    (ha : a = some v) (hx : Follows c state wrap (x v) outcome contents ns db) :
    Follows c state wrap (okOr a e >>= x) outcome contents ns db := by
  rw [ha]
  exact hx

theorem follows_diskSpace {bytes : Nat} {x : Unit → Handler α} {outcome : Unit → Contents.Outcome}
    (h : Holds c state contents ns db)
    (hx : Follows c state wrap (x ()) (outcome ()) contents ns db) :
    Follows c state wrap (ensureDiskCapacity state amb bytes >>= x) (diskSpace state amb bytes >>= outcome)
      contents ns db := by
  unfold ensureDiskCapacity diskSpace
  split
  · exact hx
  · cases amb.diskFreeBytes with
    | none => exact hx
    | some freeBytes => exact follows_ensure h fun _ => hx

/-- The part of a sync request that comes before its own work. -/
theorem follows_sync {rawNs : String} {headers : HeaderMap} {permission : SyncPermission} {peer : IpAddr}
    {x : String → ApiToken → Handler α} {outcome : Contents.Outcome} (hvalid : decodeNamespace c rawNs = .ok ns)
    (hgranted : ∃ token, presentedApiToken c headers db = .ok token ∧
      checkToken c amb token ns permission = .ok ())
    (h : Holds c state contents ns db)
    (hx : ∀ token db', Holds c state contents ns db' →
      Follows c state wrap (x ns token) outcome contents ns db') :
    Follows c state wrap (do
      let ns ← liftResult (decodeNamespace c rawNs)
      let token ← authorizeSyncRequestWithPermission c state amb headers ns permission peer
      x ns token) (contents.ifActive ns outcome) contents ns db := by
  obtain ⟨token, htoken, hcheck⟩ := hgranted
  have hsame : Unchanged ns db
      ((authorizeSyncRequestWithPermission c state amb headers ns permission peer).alone
        (DbCall.exec c) db).2 :=
    unchanged_run (decodeNamespace_valid hvalid) (authorize_reads (by simp [DbCall.altered])
      (by simp [DbCall.altered]) _ _ _ _ (by simp [DbCall.altered]) (by simp [DbCall.altered])
      (by simp [DbCall.altered]))
  unfold Follows
  rw [hvalid, leaves_bind, leaves_liftResult]
  refine ⟨fun ns' hns' => ?_, fun e he => by cases he⟩
  obtain rfl := Except.ok.inj hns'
  rw [leaves_bind]
  unfold Leaves Contents.ifActive
  rw [alone_authorize] at hsame ⊢
  rw [← h.deleted]
  cases hdeleted : db.isNamespaceDeleted ns with
  | true => exact ⟨rfl, h⟩
  | false =>
    rw [hdeleted, htoken] at hsame
    simp only [hcheck, Bool.false_eq_true, if_false] at hsame
    simp only [htoken, hcheck, Bool.false_eq_true, if_false]
    exact hx token _ (h.of_unchanged hsame)

end Follows

end CloudSync
