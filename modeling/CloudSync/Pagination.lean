import CloudSync.Alignment
import CloudSync.Listing
import CloudSync.Paging.Traversal
import CloudSync.Rust.ByteOrder
import CloudSync.Serial

/-!
# Following the cursors of a listing

A client asks for the objects of a namespace page by page, while objects are
written and deleted. Its requests are all accepted, and it is told of every object
that is there all the time, once and in the order of the bytes.
-/

namespace CloudSync

open Rust Redb Transactions Transactions.Fallible

set_option autoImplicit false

/-- The paths of the objects of the namespace that start with `pre`, in order. -/
def Db.pathsWith (db : Db) (ns pre : String) : List String :=
  (db.objects.toList.filter fun entry => startsWith entry.1 (objectKey ns pre)).map
    fun entry => dropChars entry.1 (objectKey ns "").length

section Paths
variable {ns pre path : String} {db : Db}

theorem dropChars_objectKey : dropChars (objectKey ns path) (objectKey ns "").length = path := by
  have hkey := objectKey_append ns "" path
  rw [String.empty_append] at hkey
  rw [hkey]
  exact dropChars_append _ _

theorem objectKey_lt_iff {path' : String} : objectKey ns path < objectKey ns path' ↔ path < path' := by
  have hmono {path path' : String} (h : path < path') : objectKey ns path < objectKey ns path' := by
    rw [String.lt_iff_toList_lt] at h ⊢
    rw [toList_objectKey, toList_objectKey]
    exact List.append_left_lt (List.append_left_lt (List.append_left_lt h))
  constructor
  · intro h
    rcases lt_trichotomy path path' with hlt | rfl | hgt
    · exact hlt
    · exact absurd h (lt_irrefl _)
    · exact absurd (lt_trans h (hmono hgt)) (lt_irrefl _)
  · exact hmono

theorem mem_pathsWith :
    path ∈ db.pathsWith ns pre ↔ startsWith path pre = true ∧ db.getObject ns path ≠ none := by
  unfold Db.pathsWith Db.getObject
  rw [List.mem_map]
  constructor
  · rintro ⟨⟨key, bytes⟩, hentry, rfl⟩
    obtain ⟨hmem, hstarts⟩ := List.mem_filter.mp hentry
    obtain ⟨path, rfl⟩ := eq_objectKey_of_startsWith (startsWith_empty_of_startsWith hstarts)
    have hstored : db.objects[objectKey ns path]? = some bytes := by simpa using hmem
    rw [startsWith_objectKey] at hstarts
    simp only [dropChars_objectKey, hstored]
    exact ⟨hstarts, by simp⟩
  · rintro ⟨hstarts, hstored⟩
    obtain ⟨bytes, hbytes⟩ := Option.ne_none_iff_exists'.mp hstored
    refine ⟨(objectKey ns path, bytes), List.mem_filter.mpr ⟨?_, ?_⟩, dropChars_objectKey⟩
    · simpa using hbytes
    · rwa [startsWith_objectKey]

theorem sorted_pathsWith : (db.pathsWith ns pre).Pairwise (· < ·) := by
  unfold Db.pathsWith
  rw [List.pairwise_map]
  apply (db.objects.sorted_toList.filter _).imp_of_mem
  intro entry entry' hentry hentry' hlt
  obtain ⟨path, hpath⟩ := eq_objectKey_of_startsWith
    (startsWith_empty_of_startsWith (List.mem_filter.mp hentry).2)
  obtain ⟨path', hpath'⟩ := eq_objectKey_of_startsWith
    (startsWith_empty_of_startsWith (List.mem_filter.mp hentry').2)
  rw [hpath, hpath'] at hlt ⊢
  rw [dropChars_objectKey, dropChars_objectKey]
  exact objectKey_lt_iff.mp hlt

/-- A listing from a cursor on. -/
theorem listObjectPaths_eq_behind {after : Option String}
    (hafter : ∀ cursor ∈ after, startsWith cursor pre = true) (limit : Nat) :
    db.listObjectPaths ns pre after limit = (Paging.behind after (db.pathsWith ns pre)).take limit := by
  rw [listObjectPaths_eq db hafter, List.map_take, Db.pathsWith, Paging.behind, List.filter_map,
    List.filter_filter]
  congr 2
  apply List.filter_congr
  intro entry hentry
  simp only [Function.comp_apply]
  cases hstarts : startsWith entry.1 (objectKey ns pre) with
  | false => simp
  | true =>
    obtain ⟨path, hpath⟩ := eq_objectKey_of_startsWith (startsWith_empty_of_startsWith hstarts)
    rw [hpath, startsWith_objectKey] at hstarts
    rw [hpath, dropChars_objectKey]
    cases after with
    | none =>
      have hle : objectKey ns pre ≤ objectKey ns path := by
        apply le_of_startsWith
        rwa [startsWith_objectKey]
      simp [listingBound, Bound.admits, hle]
    | some cursor =>
      rw [Bool.true_and, Bool.and_true]
      exact decide_eq_decide.mpr objectKey_lt_iff

end Paths

/-! ## A client that follows the cursors -/

/-- Transactions of `put_object` and `delete_object`, and any that leave the objects alone. -/
inductive ObjectWrites (c : Crates) (db : Db) : Db → Prop where
  | refl : ObjectWrites c db db
  | put {db' : Db} (ns path : String) (expectedEtag : Option String) (requireAbsent : Bool)
      (data : Bytes) (m : StoredObjectMetadata) : ObjectWrites c db db' → ValidNamespaceName c ns →
      validObjectPath path = true →
      ObjectWrites c db (db'.putObjectIfMatches ns path expectedEtag requireAbsent data m).2
  | delete {db' : Db} (ns path : String) : ObjectWrites c db db' →
      ObjectWrites c db (db'.deleteObject ns path).2
  | other {db' db'' : Db} : ObjectWrites c db db' → db''.objects = db'.objects → ObjectWrites c db db''

/-- The answers to the client, with the database and the limit of each request. -/
def traverse (c : Crates) (ns pre : String) :
    Option String → List (Db × Nat) → List (Except AppError ObjectListing)
  | _, [] => []
  | cursor, (db, limit) :: rest =>
    match ((listObjectsPage ns { pre := pre, cursor := cursor, limit := some limit }).alone
        (DbCall.exec c) db).1 with
    | .error e => [.error e]
    | .ok listing =>
      .ok listing ::
        match listing.nextCursor with
        | none => []
        | some next => traverse c ns pre (some next) rest

def ObjectListing.ofPage (page : List String × Option String) : ObjectListing where
  paths := page.1
  nextCursor := page.2

def listedPaths (answers : List (Except AppError ObjectListing)) : List String :=
  answers.flatMap fun answer => answer.toOption.elim [] (·.paths)

/-- The client is told that there is no other page. -/
def Completed (answers : List (Except AppError ObjectListing)) : Prop :=
  ∃ paths, answers.getLast? = some (.ok { paths := paths, nextCursor := none })

def KeysValid (c : Crates) (db : Db) : Prop := ∀ key : String, db.objects[key]? ≠ none → ObjectKey c key

section Traverse
variable {c : Crates} {ns pre path : String} {db db' : Db} {cursor : Option String} {limit : Nat}
  {visits : List (Db × Nat)}

theorem ObjectWrites.keysValid (h : ObjectWrites c db db') (hdb : KeysValid c db) : KeysValid c db' := by
  induction h with
  | refl => exact hdb
  | @put db' ns path expectedEtag requireAbsent data m _ hns hpath ih =>
    rcases putObjectIfMatches_cases db' ns path expectedEtag requireAbsent data m with
      ⟨message, h⟩ | ⟨_, h⟩
    · rw [h]
      exact ih
    · rw [h]
      intro key hkey
      by_cases hnew : objectKey ns path = key
      · exact ⟨ns, path, hns, hpath, hnew.symm⟩
      · apply ih key
        simpa [hnew] using hkey
  | @delete db' ns path _ ih =>
    intro key hkey
    apply ih key
    intro hnone
    apply hkey
    simp [Db.deleteObject, hnone]
  | other _ hsame ih =>
    unfold KeysValid
    rw [hsame]
    exact ih

theorem validObjectPath_of_stored (hdb : KeysValid c db) (hns : ValidNamespaceName c ns)
    (h : db.getObject ns path ≠ none) : validObjectPath path = true := by
  obtain ⟨ns', path', hns', hpath', hkey⟩ := hdb (objectKey ns path) h
  obtain ⟨rfl, rfl⟩ := objectKey_inj (slash_notMem hns) (slash_notMem hns') hkey
  exact hpath'

/-- The checks of the handler accept what a client sends that follows the cursors. -/
theorem valid_query (hpre : len pre ≤ 1024) (hcontrol : (chars pre).any isControl = false)
    (hlimit : 1 ≤ limit ∧ limit ≤ 256)
    (hcursor : ∀ b ∈ cursor, validObjectPath b = true ∧ startsWith b pre = true) :
    ObjectListQuery.valid { pre := pre, cursor := cursor, limit := some limit } = true := by
  have hcheck : cursor.all (fun b => !b.isEmpty && decide (len b ≤ 1024) && !(chars b).any isControl &&
      startsWith b pre) = true := by
    cases cursor with
    | none => rfl
    | some b =>
      obtain ⟨hvalid, hstarts⟩ := hcursor b rfl
      rw [Option.all_some, hstarts, Bool.and_true]
      exact hvalid
  simp only [ObjectListQuery.valid, ObjectListQuery.effectiveLimit, Option.getD_some, hcheck, hcontrol,
    hlimit.1, hlimit.2, hpre, decide_true, Bool.and_self, Bool.not_false]

theorem alone_listObjectsPage {query : ObjectListQuery} (hvalid : query.valid = true) :
    (listObjectsPage ns query).alone (DbCall.exec c) db =
      (.ok (listingOf (db.listObjectPaths ns query.pre query.cursor (query.effectiveLimit + 1))
        query.effectiveLimit), db) := by
  unfold listObjectsPage
  rw [alone_bind, alone_ensure, if_pos hvalid]
  rfl

/-- A page of the handler is a page of the sorted paths. -/
theorem listingOf_eq_page (hcursor : ∀ b ∈ cursor, startsWith b pre = true) :
    listingOf (db.listObjectPaths ns pre cursor (limit + 1)) limit =
      .ofPage (Paging.page (db.pathsWith ns pre) cursor limit) := by
  rw [listObjectPaths_eq_behind hcursor]
  unfold listingOf Paging.page
  rw [List.length_take, List.take_take, Nat.min_eq_left (Nat.le_succ limit)]
  by_cases hlong : limit < (Paging.behind cursor (db.pathsWith ns pre)).length
  · rw [if_pos (by omega), if_pos hlong]
    rfl
  · rw [if_neg (by omega), if_neg hlong, List.take_of_length_le (by omega)]
    rfl

/-- The sorted paths and the limit that each request meets. -/
def pagesMet (ns pre : String) (visits : List (Db × Nat)) : List (List String × Nat) :=
  visits.map fun v => (v.1.pathsWith ns pre, v.2)

theorem traverse_eq_pages (hns : ValidNamespaceName c ns) (hpre : len pre ≤ 1024)
    (hcontrol : (chars pre).any isControl = false) (hlimits : ∀ v ∈ visits, 1 ≤ v.2 ∧ v.2 ≤ 256)
    (hkeys : ∀ v ∈ visits, KeysValid c v.1)
    (hcursor : ∀ b ∈ cursor, validObjectPath b = true ∧ startsWith b pre = true) :
    traverse c ns pre cursor visits =
      (Paging.pages cursor (pagesMet ns pre visits)).map fun page => .ok (.ofPage page) := by
  induction visits generalizing cursor with
  | nil => rfl
  | cons v rest ih =>
    obtain ⟨db, limit⟩ := v
    have hvalid := valid_query hpre hcontrol (hlimits (db, limit) (by simp)) hcursor
    have hanswer : (listObjectsPage ns { pre := pre, cursor := cursor, limit := some limit }).alone
        (DbCall.exec c) db = (.ok (.ofPage (Paging.page (db.pathsWith ns pre) cursor limit)), db) := by
      rw [alone_listObjectsPage hvalid, ← listingOf_eq_page fun b hb => (hcursor b hb).2]
      rfl
    unfold traverse
    simp only [hanswer, pagesMet, List.map_cons, Paging.pages, List.cons.injEq, true_and,
      ObjectListing.ofPage]
    cases hnext : (Paging.page (db.pathsWith ns pre) cursor limit).2 with
    | none => rfl
    | some next =>
      apply ih
      · intro v hv
        exact hlimits v (by simp [hv])
      · intro v hv
        exact hkeys v (by simp [hv])
      · rintro b ⟨⟩
        have hmem := (Paging.mem_page (Paging.page_of_some sorted_pathsWith hnext).mem).1
        obtain ⟨hstarts, hstored⟩ := mem_pathsWith.mp hmem
        exact ⟨validObjectPath_of_stored (hkeys (db, limit) (by simp)) hns hstored, hstarts⟩

/-- What a client gets that follows the cursors. -/
structure ListedOnce (ns pre : String) (visits : List (Db × Nat))
    (answers : List (Except AppError ObjectListing)) : Prop where
  accepted : ∀ answer ∈ answers, ∃ listing, answer = .ok listing
  increasing : (listedPaths answers).Pairwise fun a b => asBytes a < asBytes b
  present : ∀ (k : Nat) (listing : ObjectListing) (path : String), answers[k]? = some (.ok listing) →
    path ∈ listing.paths →
    startsWith path pre = true ∧ ∃ v, visits[k]? = some v ∧ v.1.getObject ns path ≠ none
  complete : Completed answers → ∀ path, startsWith path pre = true →
    (∀ v ∈ visits.take answers.length, v.1.getObject ns path ≠ none) →
      (listedPaths answers).count path = 1

/-- Where the requests find one database after another. -/
structure Visited (c : Crates) (visits : List (Db × Nat)) : Prop where
  limits : ∀ v ∈ visits, 1 ≤ v.2 ∧ v.2 ≤ 256
  start : ∀ v ∈ visits.head?, Reachable c v.1
  between : visits.IsChain fun v v' => ObjectWrites c v.1 v'.1

theorem Visited.keysValid (h : Visited c visits) : ∀ v ∈ visits, KeysValid c v.1 := by
  apply h.between.induction (fun v => KeysValid c v.1) visits
  · intro v v' hwrites hv
    exact hwrites.keysValid hv
  · intro hne
    have hhead := h.start (visits.head hne) (by rw [List.head?_eq_some_head hne]; rfl)
    exact hhead.aligned.objectKeys

theorem listedPaths_map (pages : List (List String × Option String)) :
    listedPaths (pages.map fun page => .ok (.ofPage page)) = Paging.listed pages := by
  unfold listedPaths Paging.listed
  rw [List.flatMap_map]
  rfl

theorem completed_map (pages : List (List String × Option String)) :
    Completed (pages.map fun page => .ok (.ofPage page)) ↔ Paging.Ended pages := by
  unfold Completed Paging.Ended
  rw [List.getLast?_map]
  constructor
  · rintro ⟨paths, hlast⟩
    obtain ⟨page, hpage, hlisting⟩ := Option.map_eq_some_iff.mp hlast
    obtain ⟨items, next⟩ := page
    cases hlisting
    exact ⟨_, hpage⟩
  · rintro ⟨items, hlast⟩
    exact ⟨items, by rw [hlast]; rfl⟩

/-- Following the cursors from the first page on. -/
theorem listedOnce (hns : ValidNamespaceName c ns) (hpre : len pre ≤ 1024)
    (hcontrol : (chars pre).any isControl = false) (hvisited : Visited c visits) :
    ListedOnce ns pre visits (traverse c ns pre none visits) := by
  have hsorted : ∀ v ∈ pagesMet ns pre visits, v.1.Pairwise (· < ·) := by
    intro v hv
    obtain ⟨visit, _, rfl⟩ := List.mem_map.mp hv
    exact sorted_pathsWith
  have hlimits : ∀ v ∈ pagesMet ns pre visits, 0 < v.2 := by
    intro v hv
    obtain ⟨visit, hvisit, rfl⟩ := List.mem_map.mp hv
    exact (hvisited.limits visit hvisit).1
  have hlisted : (Paging.listed (Paging.pages none (pagesMet ns pre visits))).Pairwise (· < ·) :=
    (Paging.listed_sorted hsorted).1
  rw [traverse_eq_pages hns hpre hcontrol hvisited.limits hvisited.keysValid (by simp)]
  constructor
  · intro answer hanswer
    obtain ⟨page, _, rfl⟩ := List.mem_map.mp hanswer
    exact ⟨_, rfl⟩
  · rw [listedPaths_map]
    exact hlisted.imp asBytes_lt_asBytes_iff.mpr
  · intro k listing path hanswer hpath
    rw [List.getElem?_map] at hanswer
    obtain ⟨page, hpage, hlisting⟩ := Option.map_eq_some_iff.mp hanswer
    cases hlisting
    obtain ⟨met, hmet, hmem⟩ := Paging.mem_of_listed hpage hpath
    rw [pagesMet, List.getElem?_map] at hmet
    obtain ⟨v, hv, rfl⟩ := Option.map_eq_some_iff.mp hmet
    obtain ⟨hstarts, hstored⟩ := mem_pathsWith.mp hmem
    exact ⟨hstarts, v, hv, hstored⟩
  · intro hcompleted path hstarts halways
    rw [completed_map] at hcompleted
    rw [List.length_map] at halways
    rw [listedPaths_map]
    have hmem : path ∈ Paging.listed (Paging.pages none (pagesMet ns pre visits)) := by
      apply Paging.listed_of_always hsorted hlimits hcompleted (by simp)
      intro v hv
      rw [pagesMet, ← List.map_take] at hv
      obtain ⟨visit, hvisit, rfl⟩ := List.mem_map.mp hv
      exact mem_pathsWith.mpr ⟨hstarts, halways visit hvisit⟩
    have hnodup : (Paging.listed (Paging.pages none (pagesMet ns pre visits))).Nodup :=
      hlisted.imp ne_of_lt
    exact List.count_eq_one_of_mem hnodup hmem

/-- How many pages `n` paths fill, at least one. -/
def pagesNeeded (n limit : Nat) : Nat := (max 1 n + limit - 1) / limit

theorem le_pagesNeeded {n limit : Nat} (hlimit : 1 ≤ limit) :
    max 1 n ≤ pagesNeeded n limit * limit := by
  have hdiv := Nat.div_add_mod' (max 1 n + limit - 1) limit
  have hmod := Nat.mod_lt (max 1 n + limit - 1) hlimit
  unfold pagesNeeded
  omega

theorem completed_of_unchanged (hns : ValidNamespaceName c ns) (hpre : len pre ≤ 1024)
    (hcontrol : (chars pre).any isControl = false) (hlimit : 1 ≤ limit ∧ limit ≤ 256)
    (hdb : Reachable c db) :
    Completed (traverse c ns pre none
      (List.replicate (pagesNeeded (db.pathsWith ns pre).length limit) (db, limit))) := by
  have hlimits : ∀ v ∈ List.replicate (pagesNeeded (db.pathsWith ns pre).length limit) (db, limit),
      1 ≤ v.2 ∧ v.2 ≤ 256 := by
    intro v hv
    obtain rfl := List.eq_of_mem_replicate hv
    exact hlimit
  have hkeys : ∀ v ∈ List.replicate (pagesNeeded (db.pathsWith ns pre).length limit) (db, limit),
      KeysValid c v.1 := by
    intro v hv
    obtain rfl := List.eq_of_mem_replicate hv
    exact hdb.aligned.objectKeys
  rw [traverse_eq_pages hns hpre hcontrol hlimits hkeys (by simp), completed_map, pagesMet,
    List.map_replicate]
  have hneeded := le_pagesNeeded (n := (db.pathsWith ns pre).length) hlimit.1
  apply Paging.ended_of_length_le sorted_pathsWith
  · rcases Nat.eq_zero_or_pos (pagesNeeded (db.pathsWith ns pre).length limit) with hzero | hpos
    · rw [hzero] at hneeded
      omega
    · exact hpos
  · have hlength : (Paging.behind none (db.pathsWith ns pre)).length ≤ (db.pathsWith ns pre).length :=
      List.length_filter_le _ _
    dsimp only
    omega

/-- Whatever is written between the pages, and in how many pages a listing ends that nobody disturbs. -/
theorem cursors_followed (hns : ValidNamespaceName c ns) (hpre : len pre ≤ 1024)
    (hcontrol : (chars pre).any isControl = false) (hvisited : Visited c visits)
    (hdb : Reachable c db) (hlimit : 1 ≤ limit ∧ limit ≤ 256) :
    ListedOnce ns pre visits (traverse c ns pre none visits) ∧
      Completed (traverse c ns pre none
        (List.replicate (pagesNeeded (db.pathsWith ns pre).length limit) (db, limit))) :=
  ⟨listedOnce hns hpre hcontrol hvisited, completed_of_unchanged hns hpre hcontrol hlimit hdb⟩

end Traverse

/-! ## Three objects, of which one is deleted while a client is at it -/

def shelfTraffic : List Request :=
  [issueRequest "work" "write" none,
   issuedRequest (.putObject "work" "b/1" [1]) [],
   issuedRequest (.putObject "work" "b/2" [2]) [],
   issuedRequest (.putObject "work" "c" [3]) []]

def shelfDb : Db := (playFresh shelfTraffic (inTurn 4)).2.1

/-- A page with one object, and another one when an object has been deleted. -/
theorem visited_deletion {c : Crates} {db : Db} (hdb : Reachable c db) (ns path : String) :
    Visited c [(db, 1), ((db.deleteObject ns path).2, 1)] := by
  constructor
  · intro v hv
    simp only [List.mem_cons, List.not_mem_nil, or_false] at hv
    rcases hv with rfl | rfl <;> simp
  · intro v hv
    obtain rfl := Option.some.inj hv
    exact hdb
  · simp only [List.isChain_cons_cons, List.isChain_singleton, and_true]
    exact .delete ns path .refl

/-- The object of the first page is deleted behind the client. -/
def shelfVisits : List (Db × Nat) := [(shelfDb, 1), ((shelfDb.deleteObject "work" "b/1").2, 1)]

theorem shelfDb_eq : shelfDb = dbAfter shelfTraffic (inTurn 4) := rfl

theorem reachable_shelfDb : Reachable freshCrates shelfDb := by
  rw [shelfDb_eq]
  exact reachable_dbAfter _ _

set_option maxRecDepth 10000 in
theorem cursors_followed_shelf :
    ListedOnce "work" "b/" shelfVisits (traverse freshCrates "work" "b/" none shelfVisits) ∧
      Completed (traverse freshCrates "work" "b/" none
        (List.replicate (pagesNeeded (shelfDb.pathsWith "work" "b/").length 1) (shelfDb, 1))) := by
  have hvalid : validateNamespace freshCrates "work" = .ok () ∧ len "b/" ≤ 1024 ∧
      (chars "b/").any isControl = false := by decide +kernel
  have hvisited : Visited freshCrates shelfVisits := visited_deletion reachable_shelfDb "work" "b/1"
  exact cursors_followed hvalid.1 hvalid.2.1 hvalid.2.2 hvisited reachable_shelfDb (by omega)

end CloudSync
