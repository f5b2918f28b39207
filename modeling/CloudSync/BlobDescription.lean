import CloudSync.CreateOnly

/-!
# The record of a stored blob

`put_metadata` and `admin_create_namespace` write a record whose length and hash
come from a record read in an earlier transaction. The stored record describes
the stored blob in every state of a run exactly when none of them ever overwrites
a record that says something else about its blob.
-/

namespace CloudSync

open Rust Transactions Tagged

set_option autoImplicit false

def Request.blobBody (r : Request) : Option Bytes :=
  match r.endpoint with
  | .putBlob _ _ body => some body
  | _ => none

/-- The plaintext of the upload that stored what is now stored for a namespace. -/
def uploadedBody (t : Traffic) (ns : String) (log : List DbEvent) : Option Bytes :=
  log.foldl (fun body e =>
    match (Key.ofSnapshot ns).change e with
    | .put _ _ => (t.request e.tid).blobBody
    | .clear => none
    | _ => body) none

variable (c : Crates) (state : AppState)

/-- What a record should say about the blob with this plaintext: length and hash. -/
def description (body : Bytes) : Nat × Option String :=
  (body.length, retainMetadataValue state.metadataRetention.storeContentHash (some (sha256Hex c body)))

def SyncMetadata.description (m : SyncMetadata) : Nat × Option String :=
  (m.contentLength, m.contentHash)

/-- What a handler that has read this row writes about the blob. -/
def carriedDescription (row : Option SyncMetadata) : Nat × Option String :=
  let existing := row.bind (·.fromSlice)
  (existing.elim 0 (·.contentLength),
    retainMetadataValue state.metadataRetention.storeContentHash (existing.bind (·.contentHash)))

/-- A stored blob has a record, and the record describes what was uploaded. -/
def BlobDescribed (t : Traffic) (ns : String) (log : List DbEvent) (db : Db) : Prop :=
  db.getBlob ns ≠ none → ∃ m body, db.getMetadata ns = some m ∧ uploadedBody t ns log = some body ∧
    m.description = description c state body

/-- In every state of the run, for every namespace. -/
def AlwaysDescribed (t : Traffic) (log : List DbEvent) : Prop :=
  ∀ before e after, log = before ++ e :: after → ∀ ns, BlobDescribed c state t ns (before ++ [e]) e.post

def recordRead : DbCall → Option String
  | .getMetadata ns => some ns
  | _ => none

/-- A record that is written over that of a stored blob carries the same description
on from the record that its request has read. -/
def CarriesOn (log : List DbEvent) : Prop :=
  ∀ before e after, log = before ++ e :: after → ∀ ns ∈ recordWritten e.call,
    e.pre.getBlob ns ≠ none → ∀ m ∈ e.pre.getMetadata ns,
      ∀ e₀ ∈ before, e₀.tid = e.tid → recordRead e₀.op = some ns →
        carriedDescription state (e₀.pre.getMetadata ns) = m.description

variable {c state} {t : Traffic} {start s : Db} {ps : Nat → Program databaseSignature Answer}
  {log before after : List DbEvent} {e : DbEvent} {ns : String}

theorem uploadedBody_concat (t : Traffic) (ns : String) (log : List DbEvent) (e : DbEvent) :
    uploadedBody t ns (log ++ [e]) =
      match (Key.ofSnapshot ns).change e with
      | .put _ _ => (t.request e.tid).blobBody
      | .clear => none
      | _ => uploadedBody t ns log := by
  rw [uploadedBody, List.foldl_append]
  rfl

/-- A record is written after one read of its row, and carries on what that read saw. -/
theorem written_description (h : ServerRun c state t start (before ++ e :: after) s ps)
    {data : SyncMetadata} (hcall : e.call = ⟨.setMetadata ns data, .ok ()⟩) :
    ∃ e₀ ∈ before, e₀.tid = e.tid ∧ recordRead e₀.op = some ns ∧
      data.description = carriedDescription state (e₀.pre.getMetadata ns) ∧
      ∀ e₁ ∈ before, e₁.tid = e.tid → recordRead e₁.op = some ns →
        e₁.pre.getMetadata ns = e₀.pre.getMetadata ns := by
  have hop : e.op = .setMetadata ns data := congrArg Sigma.fst hcall
  have ho := originates h (show dataCall e.op = true by rw [hop]; rfl)
  rw [hop] at ho
  obtain ⟨row, hcalls, hdata⟩ : ∃ row,
      ownCalls dataCall e.tid before = [⟨.getMetadata ns, .ok row⟩] ∧
        data.description = carriedDescription state row := by
    rcases ho with ⟨_, body, row, _, hcalls, _, rfl⟩ | ⟨_, _, _, hcalls, _, rfl⟩
    · exact ⟨row, hcalls, rfl⟩
    · refine ⟨none, hcalls, ?_⟩
      simp [SyncMetadata.description, SyncMetadata.empty, carriedDescription, retainMetadataValue]
  -- Every read of the row by this request is the recorded one.
  have hread : ∀ e₁ ∈ before, e₁.tid = e.tid → recordRead e₁.op = some ns →
      e₁.pre.getMetadata ns = row := by
    intro e₁ he₁ htid hop₁
    obtain ⟨l, l', rfl⟩ := List.append_of_mem he₁
    have heff := h.linked.effect (e := e₁) (by simp)
    obtain ⟨tid, op, reply, pre, post⟩ := e₁
    dsimp only at htid hop₁ heff ⊢
    cases op <;> try cases hop₁
    have hmem : _ ∈ ownCalls dataCall _ _ := mem_ownCalls.mpr ⟨_, he₁, htid, rfl, rfl⟩
    rw [hcalls] at hmem
    cases List.mem_singleton.mp hmem
    exact heff.of_ok.1.symm
  have hmem : (⟨.getMetadata ns, .ok row⟩ : databaseSignature.Call) ∈
      ownCalls dataCall e.tid before := by simp [hcalls]
  obtain ⟨e₀, he₀, htid, _, hcall₀⟩ := mem_ownCalls.mp hmem
  have hop₀ : recordRead e₀.op = some ns := by
    rw [show e₀.op = .getMetadata ns from congrArg Sigma.fst hcall₀]
    rfl
  refine ⟨e₀, he₀, htid, hop₀, ?_, fun e₁ he₁ htid₁ hop₁ => ?_⟩
  · rw [hread e₀ he₀ htid hop₀, hdata]
  · rw [hread e₀ he₀ htid hop₀, hread e₁ he₁ htid₁ hop₁]

/-- An upload stores a record that describes it. -/
theorem upload_description (h : ServerRun c state t start (before ++ e :: after) s ps)
    {expectedEtag : Option String} {requireAbsent : Bool} {blob : Bytes} {m : SyncMetadata}
    (hcall : e.call = ⟨.putBlobIfMatches ns expectedEtag requireAbsent blob m, .ok (.ok ())⟩) :
    ∃ body, (t.request e.tid).blobBody = some body ∧ m.description = description c state body := by
  have hop : e.op = .putBlobIfMatches ns expectedEtag requireAbsent blob m := congrArg Sigma.fst hcall
  have ho := originates h (show dataCall e.op = true by rw [hop]; rfl)
  rw [hop] at ho
  obtain ⟨_, _, body, row, hr, _, _, _, _, _, revision, deviceId, rfl⟩ := ho
  exact ⟨body, by rw [Request.blobBody, hr], rfl⟩

theorem rewrite_effect (he : Effect (S := databaseSignature) (DbCall.exec c) e.op e.reply e.pre e.post)
    {data : SyncMetadata} (hcall : e.call = ⟨.setMetadata ns data, .ok ()⟩) :
    e.post.getMetadata ns = some data ∧ e.post.getBlob ns = e.pre.getBlob ns ∧
      (Key.ofSnapshot ns).change e = .retag data.etag := by
  obtain ⟨tid, op, reply, pre, post⟩ := e
  cases hcall
  dsimp only at he
  obtain ⟨_, rfl⟩ := he.of_ok
  simp [DbCall.exec, Db.setMetadata, Db.getMetadata, Db.getBlob, Key.change, DbCall.change]

/-- Every transaction leaves the blob described; a rewritten record only if it carries on. -/
theorem blobDescribed_step (h : ServerRun c state t start (before ++ e :: after) s ps)
    (hcarries : ∀ data, e.call = ⟨.setMetadata ns data, .ok ()⟩ → ∀ m ∈ e.pre.getMetadata ns,
      e.pre.getBlob ns ≠ none → data.description = m.description)
    (hpre : BlobDescribed c state t ns before e.pre) :
    BlobDescribed c state t ns (before ++ [e]) e.post := by
  have hsnapshot : ∀ {row : Option SyncMetadata} {blob : Option Bytes},
      e.post.snapshot ns = (row, blob) → e.post.getMetadata ns = row ∧ e.post.getBlob ns = blob :=
    fun h => Prod.mk.inj h
  intro hblob
  rw [uploadedBody_concat]
  cases snapshotStep ns (h.linked.effect (e := e) (by simp)) with
  | same hidle hs =>
    obtain ⟨hm, hb⟩ := hsnapshot hs
    rw [show (Key.ofSnapshot ns).change e = .idle from hidle, hm]
    exact hpre (hb ▸ hblob)
  | upload expectedEtag requireAbsent blob m hcall hs =>
    obtain ⟨body, hbody, hdesc⟩ := upload_description h hcall
    obtain ⟨tag, payload, hput⟩ : ∃ tag payload, (Key.ofSnapshot ns).change e = .put tag payload := by
      refine ⟨m.etag, blob, ?_⟩
      obtain ⟨tid, op, reply, pre, post⟩ := e
      cases hcall
      simp [Key.change, DbCall.change]
    rw [hput]
    exact ⟨m, body, (hsnapshot hs).1, hbody, hdesc⟩
  | describe data hcall hs =>
    obtain ⟨hm, hb, hretag⟩ := rewrite_effect (h.linked.effect (by simp)) hcall
    rw [hb] at hblob
    obtain ⟨m, body, hpm, hbody, hdesc⟩ := hpre hblob
    rw [hretag]
    exact ⟨data, body, hm, hbody, (hcarries data hcall m hpm hblob).trans hdesc⟩
  | purge hcall hs => exact absurd (hsnapshot hs).2 hblob

/-- The state before an event is the start or the state after the event before it. -/
theorem blobDescribed_before (hstart : ∀ ns, start.getBlob ns = none)
    (h : ServerRun c state t start (before ++ e :: after) s ps)
    (halways : AlwaysDescribed c state t (before ++ e :: after)) :
    BlobDescribed c state t ns before e.pre := by
  obtain ⟨hbefore, _, _⟩ := linked_middle h.linked
  rcases List.eq_nil_or_concat before with rfl | ⟨l, e', rfl⟩
  · obtain rfl : e.pre = start := hbefore
    exact fun hne => absurd (hstart ns) hne
  · rw [List.concat_eq_append] at hbefore ⊢
    obtain ⟨_, _, hpost⟩ := linked_middle hbefore
    rw [show e.pre = e'.post from hpost]
    exact halways l e' (e :: after) (by simp) ns

/-- The records describe the blobs all along exactly when every rewrite carries on. -/
theorem alwaysDescribed_iff (hstart : ∀ ns, start.getBlob ns = none)
    (h : ServerRun c state t start log s ps) :
    AlwaysDescribed c state t log ↔ CarriesOn state log := by
  constructor
  · rintro halways before e after rfl ns hwritten hstored m hm e₀ he₀ htid hread
    obtain ⟨data, hcall⟩ : ∃ data, e.call = ⟨.setMetadata ns data, .ok ()⟩ := by
      unfold recordWritten at hwritten
      split at hwritten
      · rename_i hcall
        obtain rfl := Option.some.inj hwritten
        exact ⟨_, hcall⟩
      · cases hwritten
    obtain ⟨e₁, he₁, htid₁, hread₁, hdata, hsame⟩ := written_description h hcall
    rw [hsame e₀ he₀ htid hread, ← hdata]
    -- Before and after the rewrite the record describes one and the same upload.
    obtain ⟨m', body, hm', hbody, hdesc⟩ := blobDescribed_before hstart h halways hstored
    obtain rfl : m' = m := Option.some.inj (hm'.symm.trans hm)
    have hpost := halways before e after rfl ns
    obtain ⟨hpm, hpb, hretag⟩ := rewrite_effect (h.linked.effect (by simp)) hcall
    rw [BlobDescribed, uploadedBody_concat, hretag, hpb] at hpost
    obtain ⟨m', body', hm', hbody', hdesc'⟩ := hpost hstored
    obtain rfl : m' = data := Option.some.inj (hm'.symm.trans hpm)
    obtain rfl : body' = body := Option.some.inj (hbody'.symm.trans hbody)
    exact hdesc'.trans hdesc.symm
  · intro hcarries before e after hlog ns
    subst hlog
    have hstep : ∀ l e' l', before ++ e :: after = l ++ e' :: l' →
        BlobDescribed c state t ns l e'.pre → BlobDescribed c state t ns (l ++ [e']) e'.post := by
      intro l e' l' hsplit hpre
      rw [hsplit] at h hcarries
      refine blobDescribed_step h (fun data hcall m hm hstored => ?_) hpre
      obtain ⟨e₀, he₀, htid, hread, hdata, _⟩ := written_description h hcall
      have hwritten : ns ∈ recordWritten e'.call := by
        rw [hcall]
        rfl
      rw [hdata]
      exact hcarries l e' l' rfl ns hwritten hstored m hm e₀ he₀ htid hread
    have hpre := h.linked.history_at (fun hne => absurd (hstart ns) hne) hstep
    exact hstep before e after rfl hpre

/-! ## A record and an upload at once -/

def sectionsBody : MetadataWriteRequest where
  format := none
  revision := "r1"
  uploadedAt := none
  deviceId := none
  contentType := none
  scope := none
  sections := none
  sectionRevisions := none

/-- One client describes the snapshot that another one uploads. -/
def snapshotTraffic : Traffic := Traffic.ofList
  [clientRequest (.putMetadata "work" sectionsBody) [],
   clientRequest (.putBlob "work" none [1]) []]

def playSnapshot (schedule : List (Nat × Option String)) :=
  play (S := databaseSignature) (DbCall.exec panelCrates) schedule clientDb
    (snapshotTraffic.program panelCrates plainState)

theorem playSnapshot_run (schedule : List (Nat × Option String)) :
    ServerRun panelCrates plainState snapshotTraffic clientDb (playSnapshot schedule).1
      (playSnapshot schedule).2.1 (playSnapshot schedule).2.2 := play_run _ _ _ _

/-- The upload is done before the record is read. -/
def uploadFirst : List (Nat × Option String) := steps 1 20 ++ steps 0 20

theorem alwaysDescribed_uploadFirst :
    AlwaysDescribed panelCrates plainState snapshotTraffic (playSnapshot uploadFirst).1 := by
  have hplay : ∀ e ∈ (playSnapshot uploadFirst).1, ∀ ns ∈ recordWritten e.call,
      ∀ m ∈ e.pre.getMetadata ns, ∀ e₀ ∈ (playSnapshot uploadFirst).1, e₀.tid = e.tid →
        recordRead e₀.op = some ns →
          carriedDescription plainState (e₀.pre.getMetadata ns) = m.description := by decide +kernel
  refine (alwaysDescribed_iff (fun ns => rfl) (playSnapshot_run uploadFirst)).mpr ?_
  intro before e after hlog ns hwritten _ m hm e₀ he₀
  exact hplay e (by simp [hlog]) ns hwritten m hm e₀ (by simp [hlog, he₀])

/-- The upload commits between the read of the record and its rewriting. -/
def uploadBetween : List (Nat × Option String) := steps 0 5 ++ steps 1 20 ++ steps 0 20

/-- The record of a blob of one byte says that it has none. -/
theorem rewritten_record_forgets_blob :
    ∃ (log : List DbEvent) (s : Db) (ps : Nat → Program databaseSignature Answer) (m : SyncMetadata),
      ServerRun panelCrates plainState snapshotTraffic clientDb log s ps ∧
      s.getBlob "work" = some [1] ∧ uploadedBody snapshotTraffic "work" log = some [1] ∧
      s.getMetadata "work" = some m ∧ m.contentLength = 0 ∧ m.contentHash = none := by
  have hplay : (playSnapshot uploadBetween).2.1.getBlob "work" = some [1] ∧
      uploadedBody snapshotTraffic "work" (playSnapshot uploadBetween).1 = some [1] ∧
      ∃ m ∈ (playSnapshot uploadBetween).2.1.getMetadata "work",
        m.contentLength = 0 ∧ m.contentHash = none := by decide +kernel
  obtain ⟨hblob, hbody, m, hm, hdesc⟩ := hplay
  exact ⟨_, _, _, m, playSnapshot_run uploadBetween, hblob, hbody, hm, hdesc⟩

end CloudSync
