import CloudSync.PayloadHistory
import CloudSync.SyncFrame
import CloudSync.Transactions.TwoRuns

/-!
# What the retention flags keep out of the database

With a flag off, neither the record that is stored nor anything else depends on what
clients send in that field. Two runs that differ in such fields only leave the same
database.
-/

namespace CloudSync

open Rust Redb Transactions Transactions.Fallible

set_option autoImplicit false

/-! ## Requests without the fields that are not kept -/

/-- The headers whose values are kept under a flag that is off. -/
def MetadataRetentionConfig.hidesHeader (retention : MetadataRetentionConfig) (name : String) : Bool :=
  (name == "x-oxideterm-revision" && !retention.storeRevision) ||
    (name == "x-oxideterm-device-id" && !retention.storeDeviceId)

def MetadataRetentionConfig.visibleHeaders (retention : MetadataRetentionConfig) (headers : HeaderMap) :
    HeaderMap :=
  headers.filter fun header => !retention.hidesHeader header.1

def MetadataRetentionConfig.visibleBody (retention : MetadataRetentionConfig) (body : MetadataWriteRequest) :
    MetadataWriteRequest :=
  { body with
    revision := if retention.storeRevision then body.revision else ""
    uploadedAt := if retention.storeUploadedAt then body.uploadedAt else none
    deviceId := if retention.storeDeviceId then body.deviceId else none }

def MetadataRetentionConfig.visibleEndpoint (retention : MetadataRetentionConfig) : Endpoint → Endpoint
  | .putMetadata ns body => .putMetadata ns (retention.visibleBody body)
  | endpoint => endpoint

/-- A sync request without the values that are not kept; other requests as they are. -/
def MetadataRetentionConfig.visible (retention : MetadataRetentionConfig) (r : Request) : Request :=
  if r.endpoint.isSync then
    { r with
      endpoint := retention.visibleEndpoint r.endpoint
      headers := retention.visibleHeaders r.headers }
  else r

/-- The record has none of the fields whose flag is off. -/
structure Minimised (retention : MetadataRetentionConfig) (m : SyncMetadata) : Prop where
  revision : retention.storeRevision = false → m.revision = none
  uploadedAt : retention.storeUploadedAt = false → m.uploadedAt = none
  deviceId : retention.storeDeviceId = false → m.deviceId = none
  contentHash : retention.storeContentHash = false → m.contentHash = none

variable {c : Crates} {state : AppState} {amb : Ambient} {retention : MetadataRetentionConfig}

theorem lookup_filter {α : Type} {keep : String × α → Bool} {name : String} (l : List (String × α))
    (h : ∀ value, keep (name, value) = true) : (l.filter keep).lookup name = l.lookup name := by
  induction l with
  | nil => rfl
  | cons entry rest ih =>
    obtain ⟨other, value⟩ := entry
    by_cases hname : name = other
    · subst hname
      rw [List.filter_cons_of_pos (h value), List.lookup_cons_self, List.lookup_cons_self]
    · have hne : (name == other) = false := beq_false_of_ne hname
      rw [List.lookup_cons, hne, List.filter_cons]
      split
      · rw [List.lookup_cons, hne]
        exact ih
      · exact ih

theorem getStr_visibleHeaders {name : String} (h : retention.hidesHeader name = false)
    (headers : HeaderMap) : (retention.visibleHeaders headers).getStr name = headers.getStr name := by
  unfold HeaderMap.getStr MetadataRetentionConfig.visibleHeaders
  rw [lookup_filter headers fun value => by simp [h]]

theorem hidesHeader_eq_false {name : String}
    (h : name ≠ "x-oxideterm-revision" ∧ name ≠ "x-oxideterm-device-id") :
    retention.hidesHeader name = false := by
  simp [MetadataRetentionConfig.hidesHeader, h.1, h.2]

/-- A hidden header is looked up for a field that is not kept. -/
theorem retain_revision (headers : HeaderMap) :
    retainMetadataValue retention.storeRevision
        ((retention.visibleHeaders headers).getStr "x-oxideterm-revision") =
      retainMetadataValue retention.storeRevision (headers.getStr "x-oxideterm-revision") := by
  unfold retainMetadataValue
  split
  · rename_i hstored
    rw [getStr_visibleHeaders (by simp [MetadataRetentionConfig.hidesHeader, hstored])]
  · rfl

theorem retain_deviceId (headers : HeaderMap) :
    retainMetadataValue retention.storeDeviceId
        ((retention.visibleHeaders headers).getStr "x-oxideterm-device-id") =
      retainMetadataValue retention.storeDeviceId (headers.getStr "x-oxideterm-device-id") := by
  unfold retainMetadataValue
  split
  · rename_i hstored
    rw [getStr_visibleHeaders (by simp [MetadataRetentionConfig.hidesHeader, hstored])]
  · rfl

section Handlers
variable (ns path : String) (peer : IpAddr) (headers : HeaderMap)

theorem authorize_visible (permission : SyncPermission) :
    authorizeSyncRequestWithPermission c state amb (retention.visibleHeaders headers) ns permission peer =
      authorizeSyncRequestWithPermission c state amb headers ns permission peer := by
  have hother (name : String) (h : name ≠ "x-oxideterm-revision" ∧ name ≠ "x-oxideterm-device-id") :
      (retention.visibleHeaders headers).getStr name = headers.getStr name :=
    getStr_visibleHeaders (hidesHeader_eq_false h) headers
  unfold authorizeSyncRequestWithPermission extractAuth presentedToken resolveClientIp syncClientVersion
  rw [hother "authorization" (by decide), hother "x-forwarded-for" (by decide),
    hother "x-real-ip" (by decide), hother "x-oxideterm-client-version" (by decide)]

theorem ifMatch_visible :
    (retention.visibleHeaders headers).getStr "if-match" = headers.getStr "if-match" :=
  getStr_visibleHeaders (hidesHeader_eq_false (by decide)) headers

theorem ifNoneMatch_visible :
    (retention.visibleHeaders headers).getStr "if-none-match" = headers.getStr "if-none-match" :=
  getStr_visibleHeaders (hidesHeader_eq_false (by decide)) headers

/-- Where no conflicts are kept, none is recorded. -/
theorem recordConditionalWriteConflict_off (h : state.maxSyncConflictRecords = 0)
    (observation : ConflictObservation) (error : ConditionalWriteError) :
    recordConditionalWriteConflict c state amb observation error = pure () := if_pos h

theorem metadataFromBody_visible (existing : Option SyncMetadata) (body : MetadataWriteRequest)
    (etag now : String) :
    metadataFromBody state existing (state.metadataRetention.visibleBody body) etag now =
      metadataFromBody state existing body etag now := by
  unfold metadataFromBody MetadataRetentionConfig.visibleBody retainMetadataValue
  cases state.metadataRetention.storeRevision <;> cases state.metadataRetention.storeUploadedAt <;>
    cases state.metadataRetention.storeDeviceId <;> rfl

theorem metadataForBlob_visible (existing : Option SyncMetadata) (body : Bytes)
    (sectionRevisions : Option SectionRevisions) (etag now : String) :
    metadataForBlob c state existing body
        ((state.metadataRetention.visibleHeaders headers).getStr "x-oxideterm-revision")
        ((state.metadataRetention.visibleHeaders headers).getStr "x-oxideterm-device-id")
        sectionRevisions etag now =
      metadataForBlob c state existing body (headers.getStr "x-oxideterm-revision")
        (headers.getStr "x-oxideterm-device-id") sectionRevisions etag now := by
  unfold metadataForBlob
  rw [retain_revision, retain_deviceId]

/-- Behind decoding and authorization, which do not look at the hidden values. -/
theorem void_authorized {α : Type} (permission : SyncPermission) {f g : String → Handler α}
    (h : ∀ ns, (f ns).run.void = (g ns).run.void) :
    (do
      let ns ← liftResult (decodeNamespace c ns)
      let _ ← authorizeSyncRequestWithPermission c state amb (retention.visibleHeaders headers) ns
        permission peer
      f ns : Handler α).run.void =
    (do
      let ns ← liftResult (decodeNamespace c ns)
      let _ ← authorizeSyncRequestWithPermission c state amb headers ns permission peer
      g ns : Handler α).run.void := by
  refine void_bind_congr _ fun ns => ?_
  rw [authorize_visible]
  exact void_bind_congr _ fun _ => h ns

theorem putMetadata_visible (body : MetadataWriteRequest) :
    (putMetadata c state amb ns peer (state.metadataRetention.visibleHeaders headers)
        (state.metadataRetention.visibleBody body)).run.void =
      (putMetadata c state amb ns peer headers body).run.void := by
  refine void_authorized ns peer headers .write fun ns => ?_
  refine void_bind_congr _ fun _ => void_bind_congr _ fun row => ?_
  dsimp only
  rw [metadataFromBody_visible]
  -- Up to the answer, which tells the client its own revision, nothing differs.
  exact void_bind_congr _ fun _ => void_bind_congr _ fun _ => rfl

theorem putBlob_visible (h : state.maxSyncConflictRecords = 0)
    (sectionRevisions : Option SectionRevisions) (body : Bytes) :
    (putBlob c state amb ns peer (state.metadataRetention.visibleHeaders headers) sectionRevisions
        body).run.void =
      (putBlob c state amb ns peer headers sectionRevisions body).run.void := by
  refine void_authorized ns peer headers .write fun ns => ?_
  refine void_bind_congr _ fun _ => void_bind_congr _ fun _ => void_bind_congr _ fun row =>
    void_bind_congr _ fun encrypted => ?_
  dsimp only
  rw [metadataForBlob_visible, ifMatch_visible, ifNoneMatch_visible]
  refine void_bind_congr _ fun result => ?_
  simp only [recordConditionalWriteConflict_off h]
  cases result with
  | error e => rfl
  | ok _ => exact void_bind_congr _ fun _ => rfl

theorem putObject_visible (h : state.maxSyncConflictRecords = 0) (body : Bytes) :
    (putObject c state amb ns path peer (retention.visibleHeaders headers) body).run.void =
      (putObject c state amb ns path peer headers body).run.void := by
  refine void_authorized ns peer headers .write fun ns => ?_
  refine void_bind_congr _ fun path => void_bind_congr _ fun _ => void_bind_congr _ fun _ =>
    void_bind_congr _ fun encrypted => ?_
  dsimp only
  rw [ifMatch_visible, ifNoneMatch_visible]
  refine void_bind_congr _ fun result => ?_
  simp only [recordConditionalWriteConflict_off h]

end Handlers

/-- The values that are not kept change no call of the request. -/
theorem handle_visible (hconflicts : state.maxSyncConflictRecords = 0) (r : Request) :
    (handle c state amb (state.metadataRetention.visible r)).run.void =
      (handle c state amb r).run.void := by
  have hwrapped {α : Type} {x y : Handler α} (h : x.run.void = y.run.void) (f : α → Response) :
      (x >>= fun a => pure (f a)).run.void = (y >>= fun a => pure (f a)).run.void := by
    rw [void_bind_pure, void_bind_pure, h]
  obtain ⟨endpoint, peer, headers⟩ := r
  cases endpoint with
  | getMetadata ns => exact hwrapped (void_authorized ns peer headers .read fun _ => rfl) _
  | putMetadata ns body => exact hwrapped (putMetadata_visible ns peer headers body) _
  | getBlob ns => exact hwrapped (void_authorized ns peer headers .read fun _ => rfl) _
  | putBlob ns sectionRevisions body =>
    exact hwrapped (putBlob_visible ns peer headers hconflicts sectionRevisions body) _
  | listObjects ns query => exact hwrapped (void_authorized ns peer headers .read fun _ => rfl) _
  | deleteObject ns path =>
    exact hwrapped (void_authorized ns peer headers .write fun _ => rfl) fun _ => Response.done
  | getObject ns path => exact hwrapped (void_authorized ns peer headers .read fun _ => rfl) _
  | putObject ns path body => exact hwrapped (putObject_visible ns path peer headers hconflicts body) _
  | _ => rfl

/-! ## What is stored -/

theorem minimised_metadataFromBody (existing : Option SyncMetadata) (body : MetadataWriteRequest)
    (etag now : String) :
    Minimised state.metadataRetention (metadataFromBody state existing body etag now) := by
  unfold metadataFromBody retainMetadataValue
  constructor
  all_goals
    intro hoff
    rw [hoff]
    rfl

theorem minimised_metadataForBlob (existing : Option SyncMetadata) (body : Bytes)
    (revision deviceId : Option String) (sectionRevisions : Option SectionRevisions) (etag now : String) :
    Minimised state.metadataRetention
      (metadataForBlob c state existing body revision deviceId sectionRevisions etag now) := by
  unfold metadataForBlob retainMetadataValue
  constructor
  all_goals
    intro hoff
    rw [hoff]
    rfl

theorem minimised_empty : Minimised retention .empty := ⟨fun _ => rfl, fun _ => rfl, fun _ => rfl, fun _ => rfl⟩

def DbCall.recordWritten : DbCall → Option (String × SyncMetadata)
  | .setMetadata ns m => some (ns, m)
  | .putBlobIfMatches ns _ _ _ m => some (ns, m)
  | _ => none

theorem minimised_of_originates {r : Request} {calls : RecordedCalls} {call : DbCall} {ns : String}
    {m : SyncMetadata} (h : Originates c state amb r calls call)
    (hwritten : call.recordWritten = some (ns, m)) : Minimised state.metadataRetention m := by
  cases call with
  | setMetadata ns' data =>
    cases hwritten
    rcases h with ⟨_, body, row, _, _, _, rfl⟩ | ⟨_, _, _, _, _, rfl⟩
    · exact minimised_metadataFromBody ..
    · exact minimised_empty
  | putBlobIfMatches ns' expectedEtag requireAbsent blob data =>
    cases hwritten
    obtain ⟨_, _, _, _, _, _, _, _, _, _, revision, deviceId, rfl⟩ := h
    exact minimised_metadataForBlob ..
  | _ => cases hwritten

/-- The committed write of a record of the namespace. -/
def DescribesNamespace (ns : String) (call : databaseSignature.Call) : Prop :=
  (∃ data, call = ⟨.setMetadata ns data, .ok ()⟩) ∨
    ∃ expectedEtag requireAbsent blob m,
      call = ⟨.putBlobIfMatches ns expectedEtag requireAbsent blob m, .ok (.ok ())⟩

section Runs
variable {t t' : Traffic} {start s : Db} {log before after : List DbEvent} {e : DbEvent}
  {ps : Nat → Program databaseSignature Answer} {ns : String}

theorem dataCall_of_recordWritten {call : DbCall} {row : String × SyncMetadata}
    (h : call.recordWritten = some row) : dataCall call = true := by
  cases call <;> first | rfl | cases h

/-- The record of a namespace stays, is taken away or has been written by the transaction. -/
theorem getMetadata_step {call : DbCall} {reply : databaseSignature.Reply call} {db db' : Db}
    (h : Effect (S := databaseSignature) (DbCall.exec c) call reply db db') (ns : String) :
    db'.getMetadata ns = db.getMetadata ns ∨ db'.getMetadata ns = none ∨
      ∃ m, db'.getMetadata ns = some m ∧ call.recordWritten = some (ns, m) := by
  rcases snapshotStep ns h with ⟨_, hsame⟩ | ⟨_, _, _, m, hcall, hnew⟩ | ⟨m, hcall, hnew⟩ | ⟨_, hnew⟩
  · exact .inl (congrArg Prod.fst hsame)
  · cases hcall
    exact .inr (.inr ⟨m, congrArg Prod.fst hnew, rfl⟩)
  · cases hcall
    exact .inr (.inr ⟨m, congrArg Prod.fst hnew, rfl⟩)
  · exact .inr (.inl (congrArg Prod.fst hnew))

theorem getMetadata_described {call : DbCall} {reply : databaseSignature.Reply call} {db db' : Db}
    (h : Effect (S := databaseSignature) (DbCall.exec c) call reply db db')
    (hdescribes : DescribesNamespace ns ⟨call, reply⟩) :
    ∃ m, db'.getMetadata ns = some m ∧ call.recordWritten = some (ns, m) := by
  rcases hdescribes with ⟨data, hcall⟩ | ⟨expectedEtag, requireAbsent, blob, m, hcall⟩
  · cases hcall
    obtain ⟨_, rfl⟩ := h.of_ok
    refine ⟨data, ?_, rfl⟩
    simp [DbCall.exec, Db.setMetadata, Db.getMetadata]
  · cases hcall
    obtain ⟨hout, rfl⟩ := h.of_ok
    refine ⟨m, ?_, rfl⟩
    rcases putBlobIfMatches_cases db ns expectedEtag requireAbsent blob m with
      ⟨message, h⟩ | ⟨revision, message, h⟩ | ⟨_, h⟩
    · simp [DbCall.exec, h] at hout
    · simp [DbCall.exec, h] at hout
    · simp [DbCall.exec, h, Db.getMetadata]

/-- No transaction puts a field into a record that is not to be kept. -/
theorem minimised_step (h : ServerRun c state t start (before ++ e :: after) s ps)
    (hpre : ∀ m, e.pre.getMetadata ns = some m → Minimised state.metadataRetention m) :
    ∀ m, e.post.getMetadata ns = some m → Minimised state.metadataRetention m := by
  intro m hm
  rcases getMetadata_step (linked_middle h.linked).2.1 ns with hsame | hnone | ⟨m', hm', hwritten⟩
  · exact hpre m (hsame.symm.trans hm)
  · cases hnone.symm.trans hm
  · obtain rfl := Option.some.inj (hm'.symm.trans hm)
    exact minimised_of_originates (originates h (dataCall_of_recordWritten hwritten)) hwritten

/-- Once a request of this server has written the record, it is and stays without the fields. -/
theorem minimised_from (h : ServerRun c state t start (before ++ e :: after) s ps)
    (hdescribes : DescribesNamespace ns e.call) :
    (e.post.getMetadata ns).isSome = true ∧ ∀ e' ∈ e :: after, ∀ m, e'.post.getMetadata ns = some m →
      Minimised state.metadataRetention m := by
  obtain ⟨_, heffect, hafter⟩ := linked_middle h.linked
  obtain ⟨written, hwritten, hrecord⟩ := getMetadata_described heffect hdescribes
  have hminimised := minimised_of_originates (originates h (dataCall_of_recordWritten hrecord)) hrecord
  have hpost : ∀ m, e.post.getMetadata ns = some m → Minimised state.metadataRetention m := by
    intro m hm
    rw [hwritten] at hm
    exact Option.some.inj hm ▸ hminimised
  refine ⟨by rw [hwritten]; rfl, ?_⟩
  intro e' he'
  rcases List.mem_cons.mp he' with rfl | he'
  · exact hpost
  · refine (hafter.kept (J := fun db => ∀ m, db.getMetadata ns = some m →
      Minimised state.metadataRetention m) hpost ?_ e' he').2
    intro before' e'' after' hsplit hpre
    have hrun : ServerRun c state t start ((before ++ e :: before') ++ e'' :: after') s ps := by
      rw [hsplit] at h
      simpa using h
    exact minimised_step hrun hpre

theorem putMetadata_describes {r : Request} {rawNs : String} {body : MetadataWriteRequest}
    (hr : r.endpoint = .putMetadata rawNs body) :
    Triple (dataMonitor c state amb r) (putMetadata c state amb rawNs r.peer r.headers body)
      (fun calls _ => ∃ ns, decodeNamespace c rawNs = .ok ns ∧ ∃ call ∈ calls, DescribesNamespace ns call)
      (fun _ _ => True) [] := by
  refine triple_authorized (fun _ _ => trivial) fun ns hns => ?_
  refine .skip (ensureDiskCapacity_calls _ _) (raises_true _) (fun _ _ => trivial) fun _ => ?_
  rw [triple_bind, triple_db]
  refine ⟨fun _ => trivial, fun row => ?_, fun _ => trivial⟩
  rw [triple_bind, triple_db]
  refine ⟨fun _ => .inl ⟨rawNs, body, row, hr, rfl, hns, rfl⟩, fun _ => ?_, fun _ => trivial⟩
  refine .skip (calls_ignored (by simp) (refreshUsageAfterWrite_calls ..)) (raises_true _)
    (fun _ _ => trivial) fun _ => ?_
  exact ⟨ns, hns, _, List.mem_append_right _ (List.mem_singleton_self _), .inl ⟨_, rfl⟩⟩

/-- What a successful answer of `put_metadata` tells about its calls. -/
def TellsDescribed (c : Crates) (rawNs : String) (calls : RecordedCalls) (answer : Answer) : Prop :=
  ∀ out, answer = .ok out →
    ∃ ns, decodeNamespace c rawNs = .ok ns ∧ ∃ call ∈ calls, DescribesNamespace ns call

theorem handle_putMetadata_describes {r : Request} {rawNs : String} {body : MetadataWriteRequest}
    (hr : r.endpoint = .putMetadata rawNs body) :
    (handle c state amb r).run.Obeys (dataMonitor c state amb r) (TellsDescribed c rawNs) [] := by
  unfold handle
  rw [hr]
  refine obeys_wrapped (putMetadata_describes hr) (fun _ _ h _ _ => h) fun _ _ _ _ he => ?_
  cases he

/-- A put that was answered with success has written the record. -/
theorem describes_of_ok (hrun : ServerRun c state t start log s ps) {i : Nat} {answer : Response}
    (hi : ps i = .ret (.ok answer)) (hwrites : (t.request i).endpoint.writesRecord = true)
    (haddresses : (t.request i).Addresses c ns) :
    ∃ before e after, log = before ++ e :: after ∧ e.tid = i ∧ DescribesNamespace ns e.call := by
  obtain ⟨rawNs, permission, htarget, hns⟩ := haddresses
  have hfound : ∃ call ∈ ownCalls dataCall i log, DescribesNamespace ns call := by
    cases hr : (t.request i).endpoint with
    | putMetadata rawNs' body =>
      rw [hr] at htarget
      cases htarget
      have hobeys : (t.program c state i).Obeys (dataMonitor c state (t.ambient i) (t.request i))
          (TellsDescribed c rawNs) [] := handle_putMetadata_describes hr
      obtain ⟨ns', hns', hcall⟩ := hrun.concluded hi hobeys answer rfl
      rw [hns] at hns'
      exact Except.ok.inj hns' ▸ hcall
    | putBlob rawNs' sectionRevisions body =>
      rw [hr] at htarget
      cases htarget
      have hconcluded := hrun.concluded hi (handle_data (t.request i))
      unfold Concludes at hconcluded
      rw [hr] at hconcluded
      obtain ⟨ns', row, expectedEtag, requireAbsent, blob, m, hcalls⟩ := hconcluded.1 answer rfl
      have hmem : (⟨.putBlobIfMatches ns' expectedEtag requireAbsent blob m, .ok (.ok ())⟩ :
          databaseSignature.Call) ∈ ownCalls dataCall i log := by simp [hcalls]
      obtain ⟨e, he, htid, hdata, hcall⟩ := mem_ownCalls.mp hmem
      obtain ⟨before, after, hsplit⟩ := List.append_of_mem he
      have horiginates := originates (hsplit ▸ hrun) hdata
      have hop : e.op = .putBlobIfMatches ns' expectedEtag requireAbsent blob m :=
        congrArg Sigma.fst hcall
      rw [hop, htid] at horiginates
      obtain ⟨rawNs'', _, _, _, hr', _, hns', _⟩ := horiginates
      rw [hr] at hr'
      cases hr'
      rw [hns] at hns'
      obtain rfl := Except.ok.inj hns'
      exact ⟨_, hmem, .inr ⟨expectedEtag, requireAbsent, blob, m, rfl⟩⟩
    | _ =>
      rw [hr] at hwrites
      cases hwrites
  obtain ⟨call, hmem, hdescribes⟩ := hfound
  obtain ⟨e, he, htid, _, rfl⟩ := mem_ownCalls.mp hmem
  obtain ⟨before, after, hsplit⟩ := List.append_of_mem he
  exact ⟨before, e, after, hsplit, htid, hdescribes⟩

end Runs

/-- With no conflicts kept, two runs that differ only in values whose flag is off, and move alike,
leave the same database; and the record that a put has written is and stays without them. -/
theorem retention_minimises (hconflicts : state.maxSyncConflictRecords = 0) {t t' : Traffic}
    (hsame : ∀ i, state.metadataRetention.visible (t'.request i) =
      state.metadataRetention.visible (t.request i))
    (hambient : t'.ambient = t.ambient) {start s : Db} {log : List DbEvent}
    {ps : Nat → Program databaseSignature Answer} (hrun : ServerRun c state t start log s ps) :
    (∃ ps', ServerRun c state t' start log s ps') ∧
    (∀ log' s' ps', ServerRun c state t' start log' s' ps' →
      log'.map Event.move = log.map Event.move → s' = s) ∧
    ∀ i answer ns, ps i = .ret (.ok answer) → (t.request i).endpoint.writesRecord = true →
      (t.request i).Addresses c ns → ∃ before e after, log = before ++ e :: after ∧ e.tid = i ∧
        (e.post.getMetadata ns).isSome = true ∧
        ∀ e' ∈ e :: after, ∀ m, e'.post.getMetadata ns = some m → Minimised state.metadataRetention m := by
  have hvoid (i : Nat) : (t.program c state i).void = (t'.program c state i).void := by
    have hfirst : (handle c state (t.ambient i) (state.metadataRetention.visible (t.request i))).run.void =
        (t.program c state i).void := handle_visible hconflicts (t.request i)
    have hsecond : (handle c state (t'.ambient i) (state.metadataRetention.visible (t'.request i))).run.void =
        (t'.program c state i).void := handle_visible hconflicts (t'.request i)
    rw [← hfirst, ← hsecond, hsame i, hambient]
  refine ⟨?_, ?_, ?_⟩
  · obtain ⟨ps', hrun', _⟩ := hrun.of_void_eq hvoid
    exact ⟨ps', hrun'⟩
  · intro log' s' ps' hrun' hmoves
    exact (hrun.same_moves hvoid hrun' hmoves).2.1
  · intro i answer ns hi hwrites haddresses
    obtain ⟨before, e, after, hsplit, htid, hdescribes⟩ := describes_of_ok hrun hi hwrites haddresses
    subst hsplit
    obtain ⟨hsome, hminimised⟩ := minimised_from hrun hdescribes
    exact ⟨before, e, after, rfl, htid, hsome, hminimised⟩

/-- A record with a revision, and a snapshot that takes its place. -/
def revisedTraffic (revision : String) : Traffic := Traffic.ofList
  [issuedRequest (.putMetadata "work"
    { format := none
      revision := revision
      uploadedAt := none
      deviceId := none
      contentType := none
      scope := none
      sections := none
      sectionRevisions := none }) [],
   issuedRequest (.putBlob "work" none [1]) [("x-oxideterm-revision", revision)]]

def minimalState : AppState :=
  { freshState with
    maxSyncConflictRecords := 0
    metadataRetention :=
      { storeRevision := false, storeUploadedAt := false, storeDeviceId := true, storeContentHash := true } }

/-- A database whose record of the namespace was written with all flags on. -/
def revisedDb : Db := (playFresh
  [issueRequest "*" "write" none, (revisedTraffic "r0").request 0] (inTurn 2)).2.1

theorem revisedDb_eq : revisedDb = dbAfter
    [issueRequest "*" "write" none, (revisedTraffic "r0").request 0] (inTurn 2) := rfl

theorem revisedDb_short : revisedDb = (playShortened freshCrates freshState
    (Traffic.ofList [issueRequest "*" "write" none, (revisedTraffic "r0").request 0]) freshDb
    (inTurn 2)).2.1 := by
  rw [revisedDb_eq, dbAfter_short]
  exact ⟨.issue _ _ _, .free _ rfl rfl⟩

def playRevised (revision : String) (schedule : List (Nat × Option String)) :=
  play (S := databaseSignature) (DbCall.exec freshCrates) schedule revisedDb
    ((revisedTraffic revision).program freshCrates minimalState)

theorem playRevised_run (revision : String) (schedule : List (Nat × Option String)) :
    ServerRun freshCrates minimalState (revisedTraffic revision) revisedDb
      (playRevised revision schedule).1 (playRevised revision schedule).2.1
      (playRevised revision schedule).2.2 := play_run _ _ _ _

def answersOk (answer : Option Answer) : Bool :=
  match answer with
  | some (.ok _) => true
  | _ => false

theorem ok_of_answersOk {p : Program databaseSignature Answer} (h : answersOk p.answer = true) :
    ∃ out, p = .ret (.ok out) := by
  cases p with
  | ret answer =>
    cases answer with
    | ok out => exact ⟨out, rfl⟩
    | error e => cases h
  | call op next => cases h

set_option maxRecDepth 10000 in
/-- The record of `revisedDb` still has the revision `r0`. -/
theorem retention_minimises_revised :
    (∃ m, revisedDb.getMetadata "work" = some m ∧ m.revision = some "r0") ∧
    (playRevised "r2" (inTurn 2)).2.1 = (playRevised "r1" (inTurn 2)).2.1 ∧
    ∃ before e after, (playRevised "r1" (inTurn 2)).1 = before ++ e :: after ∧ e.tid = 1 ∧
      (e.post.getMetadata "work").isSome = true ∧
      ∀ e' ∈ e :: after, ∀ m, e'.post.getMetadata "work" = some m →
        Minimised minimalState.metadataRetention m := by
  have hrevised : (revisedDb.getMetadata "work").map (·.revision) = some (some "r0") := by
    rw [revisedDb_short]
    decide +kernel
  have hplay : (playRevised "r2" (inTurn 2)).1.map Event.move =
        (playRevised "r1" (inTurn 2)).1.map Event.move ∧
      answersOk ((playRevised "r1" (inTurn 2)).2.2 1).answer = true ∧
      decodeNamespace freshCrates "work" = .ok "work" := by
    simp only [playRevised, revisedDb_short]
    decide +kernel
  obtain ⟨hmoves, hok, hwork⟩ := hplay
  obtain ⟨out, hout⟩ := ok_of_answersOk hok
  have hsame : ∀ i, minimalState.metadataRetention.visible ((revisedTraffic "r2").request i) =
      minimalState.metadataRetention.visible ((revisedTraffic "r1").request i) := by
    have hheaders : minimalState.metadataRetention.visibleHeaders ((revisedTraffic "r2").request 1).headers =
        minimalState.metadataRetention.visibleHeaders ((revisedTraffic "r1").request 1).headers := by
      decide +kernel
    intro i
    match i with
    | 0 => rfl
    | 1 =>
      exact congrArg (fun headers => (⟨.putBlob "work" none [1], "127.0.0.1", headers⟩ : Request)) hheaders
    | i + 2 => rfl
  obtain ⟨_, hfinal, hwritten⟩ := retention_minimises rfl hsame rfl
    (playRevised_run "r1" (inTurn 2))
  refine ⟨Option.map_eq_some_iff.mp hrevised, hfinal _ _ _ (playRevised_run "r2" (inTurn 2)) hmoves, ?_⟩
  exact hwritten 1 out "work" hout rfl ⟨"work", .write, rfl, hwork⟩

end CloudSync
