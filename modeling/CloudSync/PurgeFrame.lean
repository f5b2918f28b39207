import CloudSync.Alignment

/-!
# What a purge leaves alone

`hard_delete_namespace` removes four rows by their exact key and all objects whose
key starts with `ns:{namespace}/obj:`. The route does not validate the name it is
given, so the name may contain the separator itself.
-/

namespace CloudSync

open Rust Redb Transactions

set_option autoImplicit false

variable {c : Crates} {state : AppState}

/-- All rows of a namespace are the same in both databases. -/
structure SameRows (ns : String) (db db' : Db) : Prop extends SameContents ns db db' where
  tombstone : db'.isNamespaceDeleted ns = db.isNamespaceDeleted ns
  usage : db'.getNamespaceUsage ns = db.getNamespaceUsage ns

/-- No object of `m` is stored at a path under which a purge of `n` would look for it:
one that goes on with `/obj:` behind what `n` has behind `m` and a separator. -/
def OutOfReach (n m : String) (db : Db) : Prop :=
  ∀ q rest, n = m ++ "/obj:" ++ q → db.getObject m (q ++ "/obj:" ++ rest) = none

theorem namespaceUsageKey_injective : Function.Injective namespaceUsageKey :=
  fun _ _ h => (String.append_right_inj _).mp h

theorem sameRows_hardDelete_iff {m n : String} (hm : ValidNamespaceName c m) (hne : m ≠ n) (db : Db) :
    SameRows m db (db.hardDeleteNamespace n) ↔ OutOfReach n m db := by
  have hslash : '/' ∉ m.toList := slash_notMem hm
  have hpurged : ∀ path, objectKey m path ∈ db.purgedKeys n ↔
      db.getObject m path ≠ none ∧ ∃ q rest, n = m ++ "/obj:" ++ q ∧ path = q ++ "/obj:" ++ rest := by
    intro path
    rw [mem_purgedKeys, startsWith_objectKey_iff hslash, or_iff_right hne.symm]
    rfl
  constructor
  · rintro hsame q rest hn
    by_contra hstored
    have hkey := (hpurged (q ++ "/obj:" ++ rest)).mpr ⟨hstored, q, rest, hn, rfl⟩
    have hrow : (db.hardDeleteNamespace n).getObject m (q ++ "/obj:" ++ rest) =
        db.getObject m (q ++ "/obj:" ++ rest) := congrArg Prod.fst (hsame.objects _)
    have hgone : (db.hardDeleteNamespace n).getObject m (q ++ "/obj:" ++ rest) = none := by
      simp [Db.getObject, Db.hardDeleteNamespace, hkey]
    exact hstored (hrow.symm.trans hgone)
  · intro hreach
    have hkeep : ∀ path, objectKey m path ∉ db.purgedKeys n := by
      intro path hkey
      obtain ⟨hstored, q, rest, hn, rfl⟩ := (hpurged path).mp hkey
      exact hstored (hreach q rest hn)
    constructor
    · constructor
      · simp [Db.snapshot, Db.getMetadata, Db.getBlob, Db.hardDeleteNamespace,
          metadataKey_injective.eq_iff, blobKey_injective.eq_iff, hne.symm]
      · intro path
        simp [Db.objectRow, Db.hardDeleteNamespace, hkeep path]
    · simp [Db.isNamespaceDeleted, Db.hardDeleteNamespace, hne.symm]
    · simp [Db.getNamespaceUsage, Db.hardDeleteNamespace, namespaceUsageKey_injective.eq_iff, hne.symm]

/-- A purge that a request has committed leaves the rows of another namespace alone if and
only if none of its objects was in reach. -/
theorem purge_sameRows_iff {t : Traffic} {start s : Db} {log : List DbEvent}
    {ps : Nat → Program databaseSignature Answer} (h : ServerRun c state t start log s ps)
    {e : DbEvent} (he : e ∈ log) {m n : String} (hcall : e.call = ⟨.hardDeleteNamespace n, .ok ()⟩)
    (hm : ValidNamespaceName c m) (hne : m ≠ n) :
    SameRows m e.pre e.post ↔ OutOfReach n m e.pre := by
  have heffect := h.linked.effect he
  obtain ⟨tid, op, reply, pre, post⟩ := e
  obtain ⟨rfl, hreply⟩ := Sigma.mk.inj hcall
  obtain rfl := eq_of_heq hreply
  rw [show post = _ from heffect.of_ok.2]
  exact sameRows_hardDelete_iff hm hne pre

/-! ## A name that is none -/

/-- A client stores one object of `work`, then an administrator purges `purged`. -/
def reachTraffic (purged : String) : List Request :=
  [issueRequest "*" "write" none,
   issuedRequest (.putObject "work" "a/obj:b" [1]) [],
   panelRequest (.adminDeleteNamespace purged (some true))]

theorem scripted_reachTraffic (purged : String) : (reachTraffic purged).Forall Scripted :=
  ⟨.issue _ _ _, .issued _ _ rfl, .panel _ rfl⟩

set_option maxRecDepth 10000 in
theorem purge_sameRows_other :
    ∃ e ∈ (playFresh (reachTraffic "home") (inTurn 3)).1, SameRows "work" e.pre e.post := by
  have hplay : ∃ e ∈ (playFresh (reachTraffic "home") (inTurn 3)).1,
      purgeOf e.call = some "home" := by
    rw [playFresh_short (scripted_reachTraffic _)]
    decide +kernel
  obtain ⟨e, he, hpurge⟩ := hplay
  have hiff := purge_sameRows_iff (m := "work") (playFresh_run (reachTraffic "home") (inTurn 3)) he
    (purgeOf_eq_some hpurge) (by decide +kernel : validateNamespace freshCrates "work" = .ok ())
    (by decide)
  refine ⟨e, he, hiff.mpr fun q rest h => ?_⟩
  -- `home` does not begin with `work`.
  have hhead := congrArg (fun s : String => s.toList.head?) h
  rw [String.toList_append, String.toList_append] at hhead
  simp at hhead

set_option maxRecDepth 10000 in
/-- The purge of `work/obj:a`, which is no valid name, removes an object of `work`. -/
theorem purge_reaches_other_namespace :
    ∃ (log : List DbEvent) (s : Db) (ps : Nat → Program databaseSignature Answer),
      Reachable freshCrates freshDb ∧
      ServerRun freshCrates freshState (Traffic.ofList (reachTraffic "work/obj:a")) freshDb log s ps ∧
      ∃ e ∈ log, e.call = ⟨.hardDeleteNamespace "work/obj:a", .ok ()⟩ ∧
        ValidNamespaceName freshCrates "work" ∧ ¬ SameRows "work" e.pre e.post := by
  refine ⟨_, _, _, reachable_freshDb, playFresh_run (reachTraffic "work/obj:a") (inTurn 3), ?_⟩
  have hplay : validateNamespace freshCrates "work" = .ok () ∧
      ∃ e ∈ (playFresh (reachTraffic "work/obj:a") (inTurn 3)).1,
        purgeOf e.call = some "work/obj:a" ∧ e.pre.getObject "work" "a/obj:b" = some [1] ∧
        e.post.getObject "work" "a/obj:b" = none := by
    rw [playFresh_short (scripted_reachTraffic _)]
    decide +kernel
  obtain ⟨hvalid, e, he, hpurge, hpre, hpost⟩ := hplay
  refine ⟨e, he, purgeOf_eq_some hpurge, hvalid, fun hsame => ?_⟩
  have hrow : e.post.getObject "work" "a/obj:b" = e.pre.getObject "work" "a/obj:b" :=
    congrArg Prod.fst (hsame.objects "a/obj:b")
  rw [hpre, hpost] at hrow
  cases hrow

end CloudSync
