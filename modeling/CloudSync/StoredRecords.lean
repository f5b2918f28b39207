import CloudSync.Reachable

/-!
# Records that can be read back

`serde_json` writes records of any depth but parses no more than 127 levels. The
revisions that `put_blob` parses from a header are stored one level deeper than
they were parsed; all other parts of a record keep their depth. So every record
stays readable exactly when no upload fills the last level with its header.
-/

namespace CloudSync

open Rust Transactions Transactions.Fallible

set_option autoImplicit false

/-- Nesting of the body as it is parsed. -/
def MetadataWriteRequest.depth (body : MetadataWriteRequest) : Nat :=
  1 + max (body.sectionRevisions.elim 0 SectionRevisions.depth)
    (max (body.sections.elim 0 Json.depth) (body.scope.elim 0 Json.depth))

/-- Nesting of the JSON that the request hands to the parser, in its body or in the header. -/
def Endpoint.parsedDepth : Endpoint → Nat
  | .putMetadata _ body => body.depth
  | .putBlob _ sectionRevisions _ => sectionRevisions.elim 0 SectionRevisions.depth
  | _ => 0

/-- The record a committed call has stored. -/
def recordStored : databaseSignature.Call → Option (String × SyncMetadata)
  | ⟨.setMetadata ns data, .ok ()⟩ => some (ns, data)
  | ⟨.putBlobIfMatches ns _ _ _ data, .ok (.ok ())⟩ => some (ns, data)
  | _ => none

/-- An upload that its transaction has accepted. -/
def blobStored : databaseSignature.Call → Bool
  | ⟨.putBlobIfMatches _ _ _ _ _, .ok (.ok ())⟩ => true
  | _ => false

/-- The transaction of an upload gives up because the stored record does not decode. -/
def stuckOnRecord : databaseSignature.Call → Bool
  | ⟨.putBlobIfMatches _ _ _ _ _, .ok (.error (.serialization _))⟩ => true
  | _ => false

def Db.Readable (db : Db) : Prop := ∀ ns, ∀ m ∈ db.getMetadata ns, m.fromSlice = some m

/-- What is written can be read, by all that read it. -/
structure NeverPoisoned (t : Traffic) (log : List DbEvent)
    (ps : Nat → Program databaseSignature Answer) : Prop where
  decodes : ∀ e ∈ log, ∀ ns m, recordStored e.call = some (ns, m) → m.fromSlice = some m
  readable : ∀ e ∈ log, e.post.Readable
  served : ∀ e ∈ log, ∀ rawNs ns m, (t.request e.tid).endpoint = .getMetadata rawNs →
    e.call = ⟨.getMetadata ns, .ok (some m)⟩ → ps e.tid = .ret (.ok (.metadata m))
  unstuck : ∀ e ∈ log, stuckOnRecord e.call = false

variable {c : Crates} {state : AppState} {amb : Ambient}

/-! ## Depth -/

/-- The parts that an upload keeps come from a record that has been parsed. -/
theorem kept_depth (row : Option SyncMetadata) :
    ((row.bind (·.fromSlice)).bind (·.sections)).elim 0 Json.depth < jsonRecursionLimit ∧
      ((row.bind (·.fromSlice)).bind (·.scope)).elim 0 Json.depth < jsonRecursionLimit := by
  cases hrow : row.bind (·.fromSlice) with
  | none => exact ⟨by decide, by decide⟩
  | some m =>
    obtain ⟨row', -, hm⟩ := Option.bind_eq_some_iff.mp hrow
    obtain ⟨rfl, hdepth⟩ := SyncMetadata.fromSlice_eq_some.mp hm
    unfold SyncMetadata.depth at hdepth
    constructor
    · change m.sections.elim 0 Json.depth < _
      omega
    · change m.scope.elim 0 Json.depth < _
      omega

/-- An upload stores what can be read back exactly if its header leaves a level. -/
theorem fromSlice_blob_iff (row : Option SyncMetadata) (body : Bytes)
    (revision deviceId : Option String) (sectionRevisions : Option SectionRevisions)
    (etag now : String) (m : SyncMetadata)
    (hm : m = metadataForBlob c state (row.bind (·.fromSlice)) body revision deviceId
      sectionRevisions etag now) :
    m.fromSlice = some m ↔ sectionRevisions.elim 0 SectionRevisions.depth < jsonRecursionLimit := by
  obtain ⟨hsections, hscope⟩ := kept_depth row
  have hdepth : m.depth = 1 + max (sectionRevisions.elim 0 SectionRevisions.depth)
      (max (((row.bind (·.fromSlice)).bind (·.sections)).elim 0 Json.depth)
        (((row.bind (·.fromSlice)).bind (·.scope)).elim 0 Json.depth)) := by
    rw [hm]
    rfl
  rw [SyncMetadata.fromSlice_eq_some, hdepth]
  constructor
  · intro h
    have hle := h.2
    omega
  · intro h
    exact ⟨rfl, by omega⟩

/-- A body that was parsed is stored at its own depth. -/
theorem fromSlice_body {existing : Option SyncMetadata} {body : MetadataWriteRequest}
    {etag now : String} (h : body.depth ≤ jsonRecursionLimit) :
    (metadataFromBody state existing body etag now).fromSlice =
      some (metadataFromBody state existing body etag now) :=
  SyncMetadata.fromSlice_eq_some.mpr ⟨rfl, h⟩

/-! ## Reads of a record -/

/-- A GET of a record makes no transaction after the one that found a row. -/
abbrev rowMonitor : Monitor databaseSignature :=
  recording (fun _ => true) fun calls _ => ∀ ns row, ⟨.getMetadata ns, .ok row⟩ ∉ calls

/-- The row that was found is the answer, if it can be read. -/
def AnswersRow (calls : RecordedCalls) (answer : Answer) : Prop :=
  ∀ ns m, ⟨.getMetadata ns, .ok (some m)⟩ ∈ calls → m.fromSlice = some m → answer = .ok (.metadata m)

theorem answersRow_of_unread {calls : RecordedCalls} (answer : Answer)
    (h : ∀ ns row, ⟨.getMetadata ns, .ok row⟩ ∉ calls) : AnswersRow calls answer :=
  fun ns m hmem _ => absurd hmem (h ns (some m))

theorem getMetadata_answers (rawNs : String) (peer : IpAddr) (headers : HeaderMap) :
    Triple rowMonitor (getMetadata c state amb rawNs peer headers)
      (fun calls out => AnswersRow calls (.ok (.metadata out)))
      (fun calls e => AnswersRow calls (.error e)) [] := by
  have hunread : ∀ ns row, (⟨.getMetadata ns, .ok row⟩ : databaseSignature.Call) ∉
      ([] : RecordedCalls) := fun _ _ h => nomatch h
  unfold getMetadata
  rw [triple_bind, triple_liftResult]
  refine ⟨fun ns hns => ?_, fun e _ => answersRow_of_unread _ hunread⟩
  rw [triple_bind]
  have hauth : Calls (fun call : DbCall => ∀ ns, call ≠ .getMetadata ns)
      (authorizeSyncRequestWithPermission c state amb headers ns .read peer) := by
    refine Program.Calls.mono ?_ (authorize_calls (c := c) ..)
    rintro call h ns rfl
    rcases h with h | h <;> cases h
  refine (hauth.triple_within (M := rowMonitor)
    (Q := fun calls => ∀ ns row, ⟨.getMetadata ns, .ok row⟩ ∉ calls) (fun _ _ h _ => fun _ => h) ?_
    hunread).mono ?_ fun calls e h => answersRow_of_unread _ h
  · intro calls op reply hcalls hop ns row hmem
    rcases List.mem_append.mp hmem with hmem | hmem
    · exact hcalls ns row hmem
    · cases List.mem_singleton.mp hmem
      exact hop ns rfl
  · intro calls token hcalls
    rw [triple_bind, triple_db]
    refine ⟨fun _ => hcalls, fun row => ?_, fun f => ?_⟩
    · cases row with
      | none =>
        rw [triple_pure]
        intro ns' m hmem _
        rcases List.mem_append.mp hmem with hmem | hmem
        · exact absurd hmem (hcalls ns' _)
        · cases List.mem_singleton.mp hmem
      | some data =>
        rw [triple_okOr]
        have hlast : ∀ ns' m, (⟨.getMetadata ns', .ok (some m)⟩ : databaseSignature.Call) ∈
            calls ++ [⟨.getMetadata ns, .ok (some data)⟩] → m = data := by
          intro ns' m hmem
          rcases List.mem_append.mp hmem with hmem | hmem
          · exact absurd hmem (hcalls ns' _)
          · cases List.mem_singleton.mp hmem
            rfl
        constructor
        · intro out hout ns' m hmem hm
          obtain rfl := hlast ns' m hmem
          rw [hm] at hout
          cases hout
          rfl
        · intro hnone ns' m hmem hm
          obtain rfl := hlast ns' m hmem
          rw [hm] at hnone
          cases hnone
    · apply answersRow_of_unread
      intro ns' row hmem
      rcases List.mem_append.mp hmem with hmem | hmem
      · exact hcalls ns' row hmem
      · cases List.mem_singleton.mp hmem

theorem handle_answers {r : Request} {rawNs : String} (hr : r.endpoint = .getMetadata rawNs) :
    (handle c state amb r).run.Obeys rowMonitor AnswersRow [] := by
  unfold handle
  rw [hr]
  exact obeys_wrapped (getMetadata_answers rawNs r.peer r.headers) (fun _ _ h => h) fun _ _ h => h

/-! ## Runs -/

variable {t : Traffic} {start s : Db} {ps : Nat → Program databaseSignature Answer}
  {log before after : List DbEvent} {e : DbEvent}

theorem Db.readable_new : Db.Readable {} := fun _ _ hm => nomatch hm

/-- The bootstrap of a server writes no record. -/
theorem Db.Readable.started {db : Db} (h : db.Readable) (amb : Ambient)
    (adminUsername adminPassword : String) :
    ((bootstrapAdmin c amb adminUsername adminPassword).run.run (DbCall.exec c) db).2.Readable := by
  refine Program.run_invariant ?_ (bootstrapAdmin_calls amb adminUsername adminPassword) h
  intro call db hcall hdb
  rcases hcall with ⟨username, rfl⟩ | ⟨user, rfl⟩
  · exact hdb
  · exact hdb

/-- A record that a request stores can be read back, unless it is an upload with a full header. -/
theorem recordStored_decodes (hparsed : ∀ i, (t.request i).endpoint.parsedDepth ≤ jsonRecursionLimit)
    (h : ServerRun c state t start (before ++ e :: after) s ps) {ns : String} {m : SyncMetadata}
    (hstored : recordStored e.call = some (ns, m)) :
    m.fromSlice = some m ↔ (blobStored e.call = true →
      (t.request e.tid).endpoint.parsedDepth < jsonRecursionLimit) := by
  have ho := originates h
  obtain ⟨tid, op, reply, pre, post⟩ := e
  unfold recordStored at hstored
  split at hstored
  · rename_i ns' data hcall
    cases hcall
    cases hstored
    refine iff_of_true ?_ fun hblob => nomatch hblob
    rcases ho rfl with ⟨rawNs, body, row, hr, -, -, hdata⟩ | ⟨_, _, _, _, _, rfl⟩
    · rw [hdata]
      have hbody := hparsed tid
      rw [hr] at hbody
      exact fromSlice_body hbody
    · exact SyncMetadata.fromSlice_empty
  · rename_i ns' expectedEtag requireAbsent blob data hcall
    cases hcall
    cases hstored
    obtain ⟨rawNs, sectionRevisions, body, row, hr, -, -, -, -, -, revision, deviceId, hm⟩ := ho rfl
    rw [fromSlice_blob_iff row body revision deviceId sectionRevisions _ _ m hm, hr]
    exact ⟨fun hlevel _ => hlevel, fun hlevel => hlevel rfl⟩
  · cases hstored

/-- A row is stored by the last call that wrote it. -/
theorem readable_step (he : Effect (S := databaseSignature) (DbCall.exec c) e.op e.reply e.pre e.post)
    (hdecodes : ∀ ns m, recordStored e.call = some (ns, m) → m.fromSlice = some m)
    (hpre : e.pre.Readable) : e.post.Readable := by
  intro ns m hm
  cases snapshotStep ns he with
  | same _ hs => exact hpre ns m ((Prod.mk.inj hs).1 ▸ hm)
  | upload expectedEtag requireAbsent blob data hcall hs =>
    rw [show e.post.getMetadata ns = some data from (Prod.mk.inj hs).1] at hm
    cases hm
    apply hdecodes ns
    rw [show e.call = _ from hcall]
    rfl
  | describe data hcall hs =>
    rw [show e.post.getMetadata ns = some data from (Prod.mk.inj hs).1] at hm
    cases hm
    apply hdecodes ns
    rw [show e.call = _ from hcall]
    rfl
  | purge _ hs =>
    rw [show e.post.getMetadata ns = none from (Prod.mk.inj hs).1] at hm
    cases hm

theorem unstuck_of_readable
    (he : Effect (S := databaseSignature) (DbCall.exec c) e.op e.reply e.pre e.post)
    (hpre : e.pre.Readable) : stuckOnRecord e.call = false := by
  by_contra hstuck
  obtain ⟨tid, op, reply, pre, post⟩ := e
  unfold stuckOnRecord at hstuck
  split at hstuck
  · rename_i ns expectedEtag requireAbsent blob data message hcall
    cases hcall
    have hout : _ = (pre.putBlobIfMatches ns expectedEtag requireAbsent blob data).1 := he.of_ok.1
    unfold Db.putBlobIfMatches at hout
    cases hrow : pre.metadata[metadataKey ns]? with
    | none =>
      rw [hrow] at hout
      cases expectedEtag <;> dsimp only at hout <;> split at hout <;> cases hout
    | some row =>
      have hslice := hpre ns row hrow
      rw [hrow] at hout
      dsimp only at hout
      rw [hslice] at hout
      cases expectedEtag <;> dsimp only at hout <;> split at hout <;> cases hout
  · exact hstuck rfl

/-- A request that has found a readable row has answered it. -/
theorem served_of_readable (h : ServerRun c state t start log s ps) (he : e ∈ log)
    {rawNs ns : String} {m : SyncMetadata} (hr : (t.request e.tid).endpoint = .getMetadata rawNs)
    (hcall : e.call = ⟨.getMetadata ns, .ok (some m)⟩) (hm : m.fromSlice = some m) :
    ps e.tid = .ret (.ok (.metadata m)) := by
  have hanswers : (t.program c state e.tid).Obeys rowMonitor AnswersRow [] := handle_answers hr
  have hobeys := h.obeys hanswers
  rw [after_recording, List.nil_append] at hobeys
  have hmem : (⟨.getMetadata ns, .ok (some m)⟩ : databaseSignature.Call) ∈
      ownCalls (fun _ => true) e.tid log := mem_ownCalls.mpr ⟨e, he, rfl, rfl, hcall⟩
  cases hps : ps e.tid with
  | ret answer =>
    rw [hps] at hobeys
    rw [hobeys ns m hmem hm]
  | call op next =>
    rw [hps] at hobeys
    exact absurd hmem (hobeys.1 rfl ns (some m))

/-- Nothing is ever poisoned exactly if every stored upload leaves a level around its header. -/
theorem neverPoisoned_iff (hparsed : ∀ i, (t.request i).endpoint.parsedDepth ≤ jsonRecursionLimit)
    (hstart : start.Readable) (h : ServerRun c state t start log s ps) :
    NeverPoisoned t log ps ↔
      ∀ e ∈ log, blobStored e.call = true →
        (t.request e.tid).endpoint.parsedDepth < jsonRecursionLimit := by
  constructor
  · intro hnever e he hblob
    obtain ⟨before, after, rfl⟩ := List.append_of_mem he
    obtain ⟨ns, m, hstored⟩ : ∃ ns m, recordStored e.call = some (ns, m) := by
      unfold blobStored at hblob
      split at hblob
      · rename_i hcall
        rw [hcall]
        exact ⟨_, _, rfl⟩
      · cases hblob
    exact (recordStored_decodes hparsed h hstored).mp (hnever.decodes e he ns m hstored) hblob
  · intro hlevels
    have hdecodes : ∀ e ∈ log, ∀ ns m, recordStored e.call = some (ns, m) → m.fromSlice = some m := by
      intro e he ns m hstored
      obtain ⟨before, after, rfl⟩ := List.append_of_mem he
      exact (recordStored_decodes hparsed h hstored).mpr (hlevels e he)
    have hreadable : ∀ e ∈ log, e.pre.Readable ∧ e.post.Readable :=
      h.linked.kept hstart fun before e after hlog hpre =>
        have he : e ∈ log := hlog ▸ by simp
        readable_step (h.linked.effect he) (hdecodes e he) hpre
    refine ⟨hdecodes, fun e he => (hreadable e he).2, ?_, ?_⟩
    · intro e he rawNs ns m hr hcall
      apply served_of_readable h he hr hcall
      obtain ⟨tid, op, reply, pre, post⟩ := e
      cases hcall
      exact (hreadable _ he).1 ns m (h.linked.effect he).of_ok.1.symm
    · intro e he
      exact unstuck_of_readable (h.linked.effect he) (hreadable e he).1

/-! ## A deep header -/

def nestedSettings : Nat → JsonFields
  | 0 => .nil
  | n + 1 => .cons "a" (.object (nestedSettings n)) .nil

/-- Revisions of depth `n + 2`. -/
def nestedRevisions (n : Nat) : SectionRevisions where
  connections := none
  forwards := none
  appSettings := some (nestedSettings n)
  pluginSettings := none

/-- A token for `work`, an upload with a header of depth `n + 2`, and one without. -/
def uploadsAfter (n : Nat) : List Request :=
  [issueRequest "work" "write" none,
   issuedRequest (.putBlob "work" (some (nestedRevisions n)) [1]) [],
   issuedRequest (.putBlob "work" none [2]) []]

theorem scripted_uploadsAfter (n : Nat) : (uploadsAfter n).Forall Scripted :=
  ⟨.issue _ _ _, .issued _ _ rfl, .issued _ _ rfl⟩

theorem parsed_ofList {requests : List Request}
    (h : ∀ r ∈ requests, r.endpoint.parsedDepth ≤ jsonRecursionLimit) (i : Nat) :
    ((Traffic.ofList requests).request i).endpoint.parsedDepth ≤ jsonRecursionLimit := by
  change (requests.getD i idleRequest).endpoint.parsedDepth ≤ _
  rw [List.getD_eq_getElem?_getD]
  cases hi : requests[i]? with
  | none => exact Nat.zero_le _
  | some r => exact h r (List.mem_of_getElem? hi)

theorem readable_freshDb : freshDb.Readable := Db.readable_new.started _ _ _

set_option maxRecDepth 10000 in
theorem neverPoisoned_below :
    NeverPoisoned (Traffic.ofList (uploadsAfter 124)) (playFresh (uploadsAfter 124) (inTurn 3)).1
      (playFresh (uploadsAfter 124) (inTurn 3)).2.2 := by
  have hplay : (∀ r ∈ uploadsAfter 124, r.endpoint.parsedDepth ≤ jsonRecursionLimit) ∧
      ∀ e ∈ (playFresh (uploadsAfter 124) (inTurn 3)).1, blobStored e.call = true →
        ((Traffic.ofList (uploadsAfter 124)).request e.tid).endpoint.parsedDepth <
          jsonRecursionLimit := by
    rw [playFresh_short (scripted_uploadsAfter 124)]
    decide +kernel
  exact (neverPoisoned_iff (parsed_ofList hplay.1) readable_freshDb
    (playFresh_run (uploadsAfter 124) (inTurn 3))).mpr hplay.2

set_option maxRecDepth 10000 in
/-- The record of the first upload cannot be read, and the second upload fails on it. -/
theorem full_header_poisons_namespace :
    ∃ (log : List DbEvent) (s : Db) (ps : Nat → Program databaseSignature Answer),
      Reachable freshCrates freshDb ∧
      (∀ i, ((Traffic.ofList (uploadsAfter 125)).request i).endpoint.parsedDepth ≤ jsonRecursionLimit) ∧
      ServerRun freshCrates freshState (Traffic.ofList (uploadsAfter 125)) freshDb log s ps ∧
      ¬ NeverPoisoned (Traffic.ofList (uploadsAfter 125)) log ps ∧
      ¬ s.Readable ∧ ∃ e ∈ log, stuckOnRecord e.call = true := by
  have hplay : (∀ r ∈ uploadsAfter 125, r.endpoint.parsedDepth ≤ jsonRecursionLimit) ∧
      (∃ m ∈ (playFresh (uploadsAfter 125) (inTurn 3)).2.1.getMetadata "work",
        jsonRecursionLimit < m.depth) ∧
      ∃ e ∈ (playFresh (uploadsAfter 125) (inTurn 3)).1, stuckOnRecord e.call = true := by
    rw [playFresh_short (scripted_uploadsAfter 125)]
    decide +kernel
  obtain ⟨hparsed, ⟨m, hm, hdepth⟩, e, he, hstuck⟩ := hplay
  refine ⟨_, _, _, reachable_freshDb, parsed_ofList hparsed, playFresh_run _ _, ?_, ?_, e, he, hstuck⟩
  · intro hnever
    have hunstuck := hnever.unstuck e he
    rw [hstuck] at hunstuck
    cases hunstuck
  · intro hreadable
    have hle := (SyncMetadata.fromSlice_eq_some.mp (hreadable "work" m hm)).2
    omega

end CloudSync
