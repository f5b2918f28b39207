import CloudSync.NamespaceListing
import CloudSync.Timeline.Latest

/-!
# The last write of a namespace

The listing merges the time that the record names with the latest time of an object
row. Of the object rows the scan keeps the latest, and a text that is no RFC 3339
time is compared with nothing.
-/

namespace CloudSync

open Rust Redb Transactions Transactions.Fallible

set_option autoImplicit false

variable {c : Crates} {state : AppState} {amb : Ambient} {db : Db}

/-- The `uploadedAt` of the record, whatever text the client has sent. -/
def Db.uploadedAt (db : Db) (ns : String) : Option String :=
  ((db.getMetadata ns).bind (·.fromSlice)).bind (·.uploadedAt)

/-- The times of the object rows of the namespace, in the order of their keys. -/
def Db.objectTimes (db : Db) (ns : String) : List String :=
  (db.objectMetadata.toList.filter fun entry => startsWith entry.1 (objectKey ns "")).map
    fun entry => entry.2.updatedAt

/-- The scan of the object times, in any order, and the merge with `uploadedAt`. -/
def lastWriteAmong (c : Crates) (uploadedAt : Option String) (times : List String) : Option String :=
  timestampMax c uploadedAt
    (times.foldl (fun last time => if timestampIsAfter c last time then some time else last) none)

/-- The text that is shown denotes the latest known time. -/
structure LatestKnown (c : Crates) (uploadedAt : Option String) (times : List String)
    (shown : Option String) : Prop where
  latest : ∀ instant, shown.bind c.parseFromRfc3339 = some instant ↔
    IsGreatest {known | ∃ time ∈ uploadedAt.toList ++ times, c.parseFromRfc3339 time = some known} instant
  absent : shown = none → ∀ time ∈ uploadedAt.toList ++ times, c.parseFromRfc3339 time = none
  anyOrder : ∀ times', times'.Perm times →
    (lastWriteAmong c uploadedAt times').bind c.parseFromRfc3339 = shown.bind c.parseFromRfc3339

/-- No object time is later than `uploadedAt`; where that denotes no time, no object time can
be read. -/
def NoneLater (c : Crates) (uploadedAt : Option String) (times : List String) : Prop :=
  ∀ time ∈ times, ∀ instant, c.parseFromRfc3339 time = some instant →
    ∃ uploaded ∈ uploadedAt.bind c.parseFromRfc3339, instant ≤ uploaded

/-- All the times can be read. -/
structure AllRead (c : Crates) (uploadedAt : Option String) (times : List String) : Prop where
  uploaded : ∀ time ∈ uploadedAt, c.parseFromRfc3339 time ≠ none
  objects : ∀ time ∈ times, c.parseFromRfc3339 time ≠ none

theorem timestampIsAfter_eq : timestampIsAfter c = Timeline.isAfter c.parseFromRfc3339 := by
  funext current candidate
  cases current with
  | none => rfl
  | some current =>
    unfold timestampIsAfter Timeline.isAfter
    dsimp only
    cases c.parseFromRfc3339 candidate with
    | none => rfl
    | some candidate => cases c.parseFromRfc3339 current <;> rfl

theorem timestampMax_eq : timestampMax c = Timeline.merge c.parseFromRfc3339 := by
  funext left right
  cases left with
  | none => rfl
  | some left =>
    cases right with
    | none => rfl
    | some right =>
      unfold timestampMax Timeline.merge
      dsimp only
      cases c.parseFromRfc3339 right with
      | none => rfl
      | some rightDt => cases c.parseFromRfc3339 left <;> rfl

theorem lastWriteAmong_eq (uploadedAt : Option String) (times : List String) :
    lastWriteAmong c uploadedAt times = Timeline.merge c.parseFromRfc3339 uploadedAt
      (Timeline.scan c.parseFromRfc3339 times none) := by
  rw [lastWriteAmong, timestampMax_eq, timestampIsAfter_eq]
  rfl

theorem latestKnown_iff (uploadedAt : Option String) (times : List String) :
    LatestKnown c uploadedAt times (lastWriteAmong c uploadedAt times) ↔
      NoneLater c uploadedAt times ∨ AllRead c uploadedAt times := by
  have hrule : NoneLater c uploadedAt times ∨ AllRead c uploadedAt times ↔ _ :=
    (or_congr_right ⟨fun h => ⟨h.uploaded, h.objects⟩, fun h => ⟨h.1, h.2⟩⟩).trans
      Timeline.latest_in_any_order_iff.symm
  rw [hrule]
  simp only [← lastWriteAmong_eq]
  constructor
  · intro h
    exact ⟨h.latest, h.anyOrder⟩
  · intro h
    obtain ⟨hlatest, hordered⟩ := h
    refine ⟨hlatest, fun hnone time htime => ?_, hordered⟩
    have hempty := Timeline.Latest.unread hlatest (by rw [hnone]; rfl)
    by_contra hread
    obtain ⟨instant, hinstant⟩ := Option.ne_none_iff_exists'.mp hread
    have hmem : instant ∈ Timeline.points c.parseFromRfc3339 (uploadedAt.toList ++ times) :=
      ⟨time, htime, hinstant⟩
    rw [hempty] at hmem
    exact absurd hmem (Set.notMem_empty instant)

/-- What an entry of the listing shows. -/
theorem lastWriteAt_infoOf (ns : String) (deleted : Option DeletedNamespaceRecord) :
    (db.infoOf c ns deleted).lastWriteAt = lastWriteAmong c (db.uploadedAt ns) (db.objectTimes ns) := by
  have hstats : (db.namespaceObjectStats c ns).2.2 = (db.objectTimes ns).foldl
      (fun last time => if timestampIsAfter c last time then some time else last) none := by
    unfold Db.namespaceObjectStats Db.objectTimes
    dsimp only
    rw [rangeScan_eq, List.foldl_map]
  rw [lastWriteAmong, ← hstats]
  rfl

theorem serve_adminListNamespaces {headers : HeaderMap} (hadmin : Admitted c state amb headers db)
    (peer : IpAddr) :
    serve c state amb ⟨.adminListNamespaces, peer, headers⟩ db =
      (.ok (.namespaces (db.namespaceInfos c)), db) := by
  rw [serve]
  simp only [handle, alone_bind, alone_adminListNamespaces hadmin]
  rfl

/-- In every database the listing shows the latest known time, whatever the order of the rows,
exactly if all times can be read or no object time is later than `uploadedAt`. -/
theorem lastWriteAt_latestKnown_iff {headers : HeaderMap} (hadmin : Admitted c state amb headers db)
    (peer : IpAddr) :
    ∃ infos, serve c state amb ⟨.adminListNamespaces, peer, headers⟩ db = (.ok (.namespaces infos), db) ∧
      ∀ info ∈ infos,
        LatestKnown c (db.uploadedAt info.namespace) (db.objectTimes info.namespace) info.lastWriteAt ↔
          NoneLater c (db.uploadedAt info.namespace) (db.objectTimes info.namespace) ∨
            AllRead c (db.uploadedAt info.namespace) (db.objectTimes info.namespace) := by
  refine ⟨_, serve_adminListNamespaces hadmin peer, fun info hinfo => ?_⟩
  have hshown : info.lastWriteAt =
      lastWriteAmong c (db.uploadedAt info.namespace) (db.objectTimes info.namespace) := by
    rcases mem_namespaceInfos.mp hinfo with ⟨ns, _, rfl⟩ | ⟨ns, record, _, rfl⟩
    · exact lastWriteAt_infoOf ns none
    · exact lastWriteAt_infoOf ns (some record)
  rw [hshown]
  exact latestKnown_iff _ _

/-- A record whose `uploadedAt` is no time, and an object behind it. -/
def undatedTraffic : List Request :=
  [issueRequest "*" "write" none,
   issuedRequest (.putMetadata "work"
    { format := none
      revision := "r1"
      uploadedAt := some "yesterday"
      deviceId := none
      contentType := none
      scope := none
      sections := none
      sectionRevisions := none }) [],
   issuedRequest (.putObject "work" "notes" [1]) []]

def undatedDb : Db := (servedInTurn freshState 0 undatedTraffic (freshDb, [])).1

theorem scripted_undatedTraffic : undatedTraffic.Forall Scripted :=
  ⟨.issue _ _ _, .issued _ _ rfl, .issued _ _ rfl⟩

theorem undatedDb_eq : undatedDb = servedDb freshState undatedTraffic := rfl

set_option maxRecDepth 10000 in
theorem undatedDb_rows :
    Admitted freshCrates freshState (numberedAmbient (fun _ => "") 3)
      (panelRequest .adminListNamespaces).headers undatedDb ∧
    "work" ∈ undatedDb.listNamespaces ∧ undatedDb.uploadedAt "work" = some "yesterday" ∧
    undatedDb.objectTimes "work" = [epoch] := by
  rw [admitted_short, undatedDb_eq, servedDb, servedInTurn_short scripted_undatedTraffic]
  unfold Admitted
  decide +kernel

theorem lastWriteAt_latestKnown_undated :
    ∃ infos, serve freshCrates freshState (numberedAmbient (fun _ => "") 3)
        (panelRequest .adminListNamespaces) undatedDb = (.ok (.namespaces infos), undatedDb) ∧
      ∀ info ∈ infos,
        LatestKnown freshCrates (undatedDb.uploadedAt info.namespace)
            (undatedDb.objectTimes info.namespace) info.lastWriteAt ↔
          NoneLater freshCrates (undatedDb.uploadedAt info.namespace)
              (undatedDb.objectTimes info.namespace) ∨
            AllRead freshCrates (undatedDb.uploadedAt info.namespace)
              (undatedDb.objectTimes info.namespace) :=
  lastWriteAt_latestKnown_iff undatedDb_rows.1 _

/-- The object was written at the epoch, and the listing shows `yesterday`. -/
theorem unread_uploadedAt_shown :
    ∃ infos, (serve freshCrates freshState (numberedAmbient (fun _ => "") 3)
        (panelRequest .adminListNamespaces) undatedDb).1 = .ok (.namespaces infos) ∧
      ∃ info ∈ infos, info.namespace = "work" ∧ info.lastWriteAt = some "yesterday" ∧
        undatedDb.objectTimes "work" = [epoch] ∧
        ¬ LatestKnown freshCrates (undatedDb.uploadedAt "work") (undatedDb.objectTimes "work")
          info.lastWriteAt := by
  obtain ⟨hadmin, hlisted, huploaded, htimes⟩ := undatedDb_rows
  have hunread : freshCrates.parseFromRfc3339 "yesterday" = none := by decide +kernel
  have hshown : (undatedDb.infoOf freshCrates "work" none).lastWriteAt = some "yesterday" := by
    rw [lastWriteAt_infoOf, huploaded, htimes]
    decide +kernel
  refine ⟨_, congrArg Prod.fst (serve_adminListNamespaces hadmin _),
    undatedDb.infoOf freshCrates "work" none, mem_namespaceInfos.mpr (.inl ⟨"work", hlisted, rfl⟩), rfl,
    hshown, htimes, ?_⟩
  intro h
  rw [hshown, huploaded, htimes] at h
  have hepoch : IsGreatest {known | ∃ time ∈ (some "yesterday").toList ++ [epoch],
      freshCrates.parseFromRfc3339 time = some known} 0 := by
    constructor
    · exact ⟨epoch, by simp, by decide +kernel⟩
    · intro known hknown
      obtain ⟨time, _, hread⟩ := hknown
      -- These crates read the epoch and nothing else.
      have honly : freshCrates.parseFromRfc3339 time = if time = epoch then some 0 else none := rfl
      rw [honly] at hread
      split at hread
      · exact le_of_eq (Option.some.inj hread).symm
      · cases hread
  have hread := (h.latest 0).mpr hepoch
  rw [Option.bind_some, hunread] at hread
  cases hread

end CloudSync
