import CloudSync.Alignment
import CloudSync.SyncFrame
import CloudSync.WriteChain

/-!
# Errors behind a write

A handler that writes a payload refreshes the usage figures of the namespace
afterwards, in transactions of their own. When one of these fails, the request is
answered with an error although its write stands; every other error leaves the
payloads as they were.
-/

namespace CloudSync

open Rust Redb Transactions Transactions.Fallible Tagged

set_option autoImplicit false

/-- The requests that write payloads and their metadata. -/
def Endpoint.writesPayload : Endpoint → Bool
  | .putMetadata .. | .putBlob .. | .putObject .. | .deleteObject .. => true
  | _ => false

/-- The calls of `refresh_namespace_usage_if_stale`. -/
def usageCall : DbCall → Bool
  | .getNamespaceUsage _ | .blobSize _ | .namespaceObjectStats _ | .setNamespaceUsage _ => true
  | _ => false

def payloadWrite : DbCall → Bool
  | .setMetadata .. | .putBlobIfMatches .. | .putObjectIfMatches .. | .deleteObject .. => true
  | _ => false

/-- The call has written a row, or removed one that was there. -/
def wrotePayload : databaseSignature.Call → Bool
  | ⟨.setMetadata .., .ok _⟩ => true
  | ⟨.putBlobIfMatches .., .ok (.ok _)⟩ => true
  | ⟨.putObjectIfMatches .., .ok (.ok _)⟩ => true
  | ⟨.deleteObject .., .ok removed⟩ => removed
  | _ => false

inductive WritePhase where
  | clean
  | written
  /-- A call has failed behind the write. -/
  | torn
  deriving DecidableEq

/-- Writes come first, and the usage figures behind them. -/
abbrev writeMonitor : Monitor databaseSignature where
  State := WritePhase
  allow phase call :=
    (payloadWrite call = true → phase = .clean) ∧ (usageCall call = true → phase = .written) ∧
      ∀ ns, call ≠ .hardDeleteNamespace ns
  step phase call reply :=
    if wrotePayload ⟨call, reply⟩ then .written
    else if usageCall call && !reply.isOk then .torn
    else phase

/-- Calls that have nothing to do with payloads or usage figures. -/
def sideCall (call : DbCall) : Prop :=
  payloadWrite call = false ∧ usageCall call = false ∧ ∀ ns, call ≠ .hardDeleteNamespace ns

theorem sideCall_ignored {call : DbCall} (h : sideCall call) : writeMonitor.Ignores call := by
  obtain ⟨hpayload, husage, hpurge⟩ := h
  intro phase
  constructor
  · refine ⟨fun hwrite => ?_, fun husage' => ?_, hpurge⟩
    · rw [hpayload] at hwrite
      cases hwrite
    · rw [husage] at husage'
      cases husage'
  · intro reply
    have hwrote : wrotePayload ⟨call, reply⟩ = false := by
      cases call <;> first | rfl | cases hpayload
    simp [writeMonitor, hwrote, husage]

section Handlers
variable {c : Crates} {state : AppState} {amb : Ambient}

/-- The phase in which a request may answer with a value, and with an error. -/
def Settles {α : Type} (x : Handler α) (phase : WritePhase) : Prop :=
  Triple writeMonitor x (fun phase _ => phase ≠ .torn) (fun phase _ => phase ≠ .written) phase

theorem authorize_side (headers : HeaderMap) (ns : String) (permission : SyncPermission)
    (peer : IpAddr) :
    Calls sideCall (authorizeSyncRequestWithPermission c state amb headers ns permission peer) := by
  have hbyHash (tokenHash : String) : Calls sideCall (getTokenByHash tokenHash) := by
    refine .bind (by simp [sideCall, payloadWrite, usageCall]) fun found => ?_
    cases found with
    | none => trivial
    | some id => simp [sideCall, payloadWrite, usageCall]
  refine .bind (.bind (by simp [sideCall, payloadWrite, usageCall]) fun _ => by simp) fun _ =>
    .bind (.bind (by simp) fun _ => .bind ((hbyHash _).mapError _) fun _ => by simp) fun token => ?_
  cases checkToken c amb token ns permission with
  | error e =>
    exact .bind (by simp [recordTokenFailure, sideCall, payloadWrite, usageCall]) fun _ => by simp
  | ok _ => exact .bind (by simp [sideCall, payloadWrite, usageCall]) fun _ => by simp

/-- A part that has nothing to do with payloads may fail as long as nothing is written. -/
theorem Settles.skip {α β : Type} {x : Handler α} {f : α → Handler β} (hx : Calls sideCall x)
    (hf : ∀ a, Settles (f a) .clean) : Settles (x >>= f) .clean := by
  apply Triple.skip (E := fun _ => True) (hx.mono fun _ => sideCall_ignored) (raises_true x)
  · intro e _ h
    cases h
  · exact hf

theorem refreshNamespaceUsage_torn (ns observedAt : String) (softDeleted : Bool) :
    Triple writeMonitor (refreshNamespaceUsage ns observedAt softDeleted)
      (fun phase _ => phase = .written) (fun phase _ => phase = .torn) .written := by
  have hcall (call : DbCall) (husage : usageCall call = true) (hpayload : payloadWrite call = false)
      (hpurge : ∀ ns, call ≠ .hardDeleteNamespace ns) : writeMonitor.allow .written call :=
    ⟨fun h => absurd h (by simp [hpayload]), fun _ => rfl, hpurge⟩
  unfold refreshNamespaceUsage
  rw [triple_bind, triple_redb]
  refine ⟨hcall _ rfl rfl (by simp), fun blobBytes => ?_, fun f => rfl⟩
  rw [triple_bind, triple_redb]
  refine ⟨hcall _ rfl rfl (by simp), fun stats => ?_, fun f => rfl⟩
  rw [triple_bind, triple_redb]
  refine ⟨hcall _ rfl rfl (by simp), fun previous => ?_, fun f => rfl⟩
  rw [triple_bind, triple_redb]
  exact ⟨hcall _ rfl rfl (by simp), fun _ => rfl, fun f => rfl⟩

theorem refreshUsageAfterWrite_torn (ns : String) (now : Instant) :
    Triple writeMonitor (refreshUsageAfterWrite c state ns now)
      (fun phase _ => phase = .written) (fun phase _ => phase = .torn) .written := by
  have hrefresh : Triple writeMonitor
      (some <$> refreshNamespaceUsage ns (c.toRfc3339 now) false)
      (fun phase _ => phase = .written) (fun phase _ => phase = .torn) .written := by
    rw [← bind_pure_comp, triple_bind]
    exact refreshNamespaceUsage_torn ns _ _
  unfold refreshUsageAfterWrite orDatabaseError refreshNamespaceUsageIfStale
  rw [triple_bind, triple_mapError]
  split
  · rw [triple_bind, triple_redb]
    refine ⟨⟨by simp [payloadWrite], fun _ => rfl, by simp⟩, fun usage => ?_, fun f => rfl⟩
    dsimp only
    split
    · exact hrefresh
    · rfl
  · exact hrefresh

/-- What a handler does once its write has committed. -/
theorem settles_written {α : Type} {ns : String} {now : Instant} {answer : α} :
    Settles (do
      refreshUsageAfterWrite c state ns now
      pure answer) .written := by
  unfold Settles
  rw [triple_bind]
  apply (refreshUsageAfterWrite_torn ns now).mono
  · intro phase _ hphase
    rw [hphase]
    exact WritePhase.noConfusion
  · intro phase _ hphase
    rw [hphase]
    exact WritePhase.noConfusion

/-- What a handler does once its conditional write has not committed. -/
theorem settles_refused {α : Type} {observation : ConflictObservation}
    {error : ConditionalWriteError} :
    Settles (α := α) (do
      recordConditionalWriteConflict c state amb observation error
      throw (mapConditionalWriteError error)) .clean := by
  have hside : Calls sideCall (recordConditionalWriteConflict c state amb observation error) := by
    unfold recordConditionalWriteConflict
    refine .ite (by simp) ?_
    cases error <;> simp [sideCall, payloadWrite, usageCall]
  apply Settles.skip hside
  intro _ h
  cases h

section Parts
variable {rawNs rawPath : String} {peer : IpAddr} {headers : HeaderMap}

/-- The first part of every handler. -/
theorem settles_authorized {α : Type} {permission : SyncPermission} {f : String → Handler α}
    (hf : ∀ ns, Settles (f ns) .clean) :
    Settles (do
      let ns ← liftResult (decodeNamespace c rawNs)
      let _ ← authorizeSyncRequestWithPermission c state amb headers ns permission peer
      f ns) .clean :=
  Settles.skip (calls_liftResult _) fun ns => Settles.skip (authorize_side headers ns permission peer)
    fun _ => hf ns

theorem putMetadata_settles (body : MetadataWriteRequest) :
    Settles (putMetadata c state amb rawNs peer headers body) .clean := by
  apply settles_authorized
  intro ns
  apply Settles.skip (ensureDiskCapacity_calls _ _)
  intro _
  apply Settles.skip
  · simp [sideCall, payloadWrite, usageCall]
  intro row
  unfold Settles
  rw [triple_bind, triple_db]
  refine ⟨⟨fun _ => rfl, by simp [usageCall], by simp⟩, fun _ => ?_, fun f => ?_⟩
  · exact settles_written
  · intro h
    cases h

theorem putBlob_settles (sectionRevisions : Option SectionRevisions) (body : Bytes) :
    Settles (putBlob c state amb rawNs peer headers sectionRevisions body) .clean := by
  apply settles_authorized
  intro ns
  apply Settles.skip (calls_ensure _ _)
  intro _
  apply Settles.skip (ensureDiskCapacity_calls _ _)
  intro _
  apply Settles.skip
  · simp [sideCall, payloadWrite, usageCall]
  intro row
  apply Settles.skip (calls_liftResult _)
  intro encrypted
  unfold Settles
  rw [triple_bind, triple_conditionally, triple_redb]
  refine ⟨⟨fun _ => rfl, by simp [usageCall], by simp⟩, fun result => ?_, fun f => ?_⟩
  · cases result with
    | ok _ => exact settles_written
    | error e => exact settles_refused
  · exact settles_refused

theorem putObject_settles (body : Bytes) :
    Settles (putObject c state amb rawNs rawPath peer headers body) .clean := by
  apply settles_authorized
  intro ns
  apply Settles.skip (calls_liftResult _)
  intro path
  apply Settles.skip (calls_ensure _ _)
  intro _
  apply Settles.skip (ensureDiskCapacity_calls _ _)
  intro _
  apply Settles.skip (calls_liftResult _)
  intro data
  unfold Settles
  rw [triple_bind, triple_conditionally, triple_redb]
  refine ⟨⟨fun _ => rfl, by simp [usageCall], by simp⟩, fun result => ?_, fun f => ?_⟩
  · cases result with
    | ok _ => exact settles_written
    | error e => exact settles_refused
  · exact settles_refused

theorem deleteObject_settles : Settles (deleteObject c state amb rawNs rawPath peer headers) .clean := by
  apply settles_authorized
  intro ns
  apply Settles.skip (calls_liftResult _)
  intro path
  unfold Settles
  rw [triple_bind, triple_db]
  refine ⟨⟨fun _ => rfl, by simp [usageCall], by simp⟩, fun removed => ?_, fun f => ?_⟩
  · cases removed with
    | false =>
      intro h
      cases h
    | true =>
      apply (refreshUsageAfterWrite_torn ns (amb.now 2)).mono
      · intro phase _ hphase
        rw [hphase]
        exact WritePhase.noConfusion
      · intro phase _ hphase
        rw [hphase]
        exact WritePhase.noConfusion
  · intro h
    cases h

end Parts

/-- An answer fits the phase in which the request gives it. -/
def WritePhase.Fits (phase : WritePhase) : Answer → Prop
  | .ok _ => phase ≠ .torn
  | .error _ => phase ≠ .written

theorem handle_settles (r : Request) (hr : r.endpoint.writesPayload = true) :
    (handle c state amb r).run.Obeys writeMonitor WritePhase.Fits .clean := by
  have hsettles : Settles (handle c state amb r) .clean := by
    obtain ⟨endpoint, peer, headers⟩ := r
    unfold handle Settles
    cases endpoint with
    | putMetadata ns body =>
      dsimp only
      rw [triple_bind]
      exact putMetadata_settles body
    | putBlob ns sectionRevisions body =>
      dsimp only
      rw [triple_bind]
      exact putBlob_settles sectionRevisions body
    | deleteObject ns path =>
      dsimp only
      rw [triple_bind]
      exact deleteObject_settles
    | putObject ns path body =>
      dsimp only
      rw [triple_bind]
      exact putObject_settles body
    | _ => cases hr
  apply Program.Obeys.mono _ hsettles
  intro phase answer h
  cases answer <;> exact h

end Handlers

/-! ## What the calls do to the payloads -/

section Calls
variable {c : Crates} {state : AppState} {amb : Ambient} {r : Request} {calls : RecordedCalls}
  {call : DbCall} {reply : databaseSignature.Reply call} {db db' : Db}

theorem cell_of_sameData (h : SameData db db') (key : Key) : key.cell db' = key.cell db := by
  cases key <;> simp [Key.cell, h.metadata, h.blobs, h.objects, h.objectMetadata]

theorem SameData.trans {db'' : Db} (h : SameData db db') (h' : SameData db' db'') : SameData db db'' where
  metadata := h'.metadata.trans h.metadata
  blobs := h'.blobs.trans h.blobs
  objects := h'.objects.trans h.objects
  objectMetadata := h'.objectMetadata.trans h.objectMetadata

theorem SameData.symm (h : SameData db db') : SameData db' db where
  metadata := h.metadata.symm
  blobs := h.blobs.symm
  objects := h.objects.symm
  objectMetadata := h.objectMetadata.symm

/-- A call that has written nothing leaves the payloads alone. -/
theorem sameData_of_not_wrote (h : Effect (S := databaseSignature) (DbCall.exec c) call reply db db')
    (hpaired : ∀ key : String, db.objects[key]? = none ↔ db.objectMetadata[key]? = none)
    (hpurge : ∀ ns, call ≠ .hardDeleteNamespace ns) (hwrote : wrotePayload ⟨call, reply⟩ = false) :
    SameData db db' := by
  cases h with
  | fail f => exact .refl db
  | commit =>
    cases call with
    | setMetadata ns data => cases hwrote
    | putBlobIfMatches ns expectedEtag requireAbsent blob m =>
      rcases putBlobIfMatches_cases db ns expectedEtag requireAbsent blob m with
        ⟨message, h⟩ | ⟨revision, message, h⟩ | ⟨_, h⟩
      · simp only [DbCall.exec, h]
        exact .refl db
      · simp only [DbCall.exec, h]
        exact .refl db
      · simp only [DbCall.exec, h] at hwrote
        cases hwrote
    | putObjectIfMatches ns path expectedEtag requireAbsent data m =>
      rcases putObjectIfMatches_cases db ns path expectedEtag requireAbsent data m with
        ⟨message, h⟩ | ⟨_, h⟩
      · simp only [DbCall.exec, h]
        exact .refl db
      · simp only [DbCall.exec, h] at hwrote
        cases hwrote
    | deleteObject ns path =>
      have hnone : db.objects[objectKey ns path]? = none := by
        cases hstored : db.objects[objectKey ns path]? with
        | none => rfl
        | some bytes =>
          simp only [DbCall.exec, Db.deleteObject, hstored] at hwrote
          cases hwrote
      have hnone' := (hpaired _).mp hnone
      refine ⟨rfl, rfl, ?_, ?_⟩
      · apply Std.ExtTreeMap.ext_getElem?
        intro key
        by_cases hkey : objectKey ns path = key
        · rw [← hkey, hnone]
          simp [DbCall.exec, Db.deleteObject]
        · simp [DbCall.exec, Db.deleteObject, hkey]
      · apply Std.ExtTreeMap.ext_getElem?
        intro key
        by_cases hkey : objectKey ns path = key
        · rw [← hkey, hnone']
          simp [DbCall.exec, Db.deleteObject, objectMetaKey]
        · simp [DbCall.exec, Db.deleteObject, objectMetaKey, hkey]
    | hardDeleteNamespace ns => exact absurd rfl (hpurge ns)
    | getMetadata | getBlob | getObject | getObjectMetadata => exact .refl db
    | _ => exact sameData_of_not_dataCall (.commit _ db) rfl

/-- A write leaves something else behind, as its ETag is new. -/
theorem not_sameData_of_wrote (h : Effect (S := databaseSignature) (DbCall.exec c) call reply db db')
    (horigin : dataCall call = true → Originates c state amb r calls call)
    (hr : r.endpoint.writesPayload = true)
    (hfresh : ∀ key : Key, (key.cell db).tag ≠ some (amb.newUuid 0))
    (hwrote : wrotePayload ⟨call, reply⟩ = true) : ¬ SameData db db' := by
  intro hsame
  have hcell (key : Key) := cell_of_sameData hsame key
  simp only [cell_change _ h] at hcell
  cases call with
  | setMetadata ns data =>
    rcases reply with fault | _
    · cases hwrote
    · have hkept := hcell (.ofSnapshot ns)
      rcases horigin rfl with ⟨_, body, row, _, _, _, rfl⟩ | ⟨_, hendpoint, _⟩
      · apply hfresh (.ofSnapshot ns)
        rw [← hkept]
        simp [DbCall.change, Change.apply, metadataFromBody]
      · rw [hendpoint] at hr
        cases hr
  | putBlobIfMatches ns expectedEtag requireAbsent blob m =>
    rcases reply with fault | (error | _)
    · cases hwrote
    · cases hwrote
    · obtain ⟨_, _, _, row, _, _, _, _, _, _, revision, deviceId, rfl⟩ := horigin rfl
      apply hfresh (.ofSnapshot ns)
      rw [← hcell (.ofSnapshot ns)]
      simp [DbCall.change, Change.apply, metadataForBlob]
  | putObjectIfMatches ns path expectedEtag requireAbsent data m =>
    rcases reply with fault | (error | _)
    · cases hwrote
    · cases hwrote
    · obtain ⟨_, _, _, _, _, _, _, _, _, _, hetag⟩ := horigin rfl
      apply hfresh (.ofObject ns path)
      rw [← hcell (.ofObject ns path)]
      simp [DbCall.change, Change.apply, hetag]
  | deleteObject ns path =>
    rcases reply with fault | removed
    · cases hwrote
    · have hremoved : removed = (db.objects[objectKey ns path]?).isSome := h.of_ok.1
      have hkept := congrArg Cell.payload (hcell (.ofObject ns path))
      have hnone : db.objects[objectKey ns path]? = none := by
        rw [show db.objects[objectKey ns path]? = ((Key.ofObject ns path).cell db).payload from rfl,
          ← hkept]
        simp [DbCall.change, Change.apply]
      have htrue : removed = true := hwrote
      rw [htrue, hnone] at hremoved
      cases hremoved
  | _ => cases hwrote

end Calls

/-! ## One request -/

section Run
variable {c : Crates} {state : AppState} {t : Traffic} {start s : Db} {log : List DbEvent}
  {ps : Nat → Program databaseSignature Answer} {i : Nat} {answer : Answer}

/-- A call of the usage figures that has failed. -/
def failedUsage (e : DbEvent) : Bool := usageCall e.op && !e.reply.isOk

/-- Where the request stands, and what that says about the payloads. -/
structure WritesUpTo (start : Db) (phase : WritePhase) (log : List DbEvent) (s : Db) : Prop where
  clean : phase = .clean → SameData start s
  changed : phase ≠ .clean → ¬ SameData start s
  torn : phase = .torn ↔ ∃ e ∈ log, failedUsage e = true

theorem writesUpTo_step {before : List DbEvent} {e : DbEvent} {phase : WritePhase}
    {calls : RecordedCalls} (h : WritesUpTo start phase before e.pre)
    (heffect : Effect (S := databaseSignature) (DbCall.exec c) e.op e.reply e.pre e.post)
    (hallow : writeMonitor.allow phase e.op)
    (horigin : dataCall e.op = true → Originates c state (t.ambient i) (t.request i) calls e.op)
    (hr : (t.request i).endpoint.writesPayload = true) (haligned : Aligned c e.pre)
    (hfresh : ∀ key : Key, (key.cell start).tag ≠ some ((t.ambient i).newUuid 0)) :
    WritesUpTo start (writeMonitor.step phase e.op e.reply) (before ++ [e]) e.post := by
  obtain ⟨hwrite, husage, hpurge⟩ := hallow
  have hkept (hwrote : wrotePayload ⟨e.op, e.reply⟩ = false) : SameData e.pre e.post :=
    sameData_of_not_wrote heffect haligned.paired hpurge hwrote
  have htornAppend : (∃ e' ∈ before ++ [e], failedUsage e' = true) ↔
      (∃ e' ∈ before, failedUsage e' = true) ∨ failedUsage e = true := by
    simp [or_and_right, exists_or]
  cases hwrote : wrotePayload ⟨e.op, e.reply⟩ with
  | true =>
    have hpayload : payloadWrite e.op = true := by
      obtain ⟨tid, op, reply, pre, post⟩ := e
      cases op <;> first | rfl | cases hwrote
    have hclean := hwrite hpayload
    subst hclean
    have hstep : writeMonitor.step .clean e.op e.reply = .written := by
      simp [hwrote]
    have hnotUsage : failedUsage e = false := by
      unfold failedUsage
      rw [Bool.and_eq_false_iff]
      left
      obtain ⟨tid, op, reply, pre, post⟩ := e
      cases op <;> first | rfl | cases hpayload
    have hsame := h.clean rfl
    rw [hstep]
    constructor
    · intro hphase
      cases hphase
    · intro _ hpost
      have hcell := cell_of_sameData hsame
      apply not_sameData_of_wrote heffect horigin hr _ hwrote (hsame.symm.trans hpost)
      intro key
      rw [hcell key]
      exact hfresh key
    · rw [htornAppend, hnotUsage, ← h.torn]
      simp
  | false =>
    have hsame := hkept hwrote
    cases hfailed : failedUsage e with
    | true =>
      have hfailed' : usageCall e.op = true ∧ (!e.reply.isOk) = true := Bool.and_eq_true_iff.mp hfailed
      have hwritten := husage hfailed'.1
      subst hwritten
      have hstep : writeMonitor.step .written e.op e.reply = .torn := by
        simp [hwrote, hfailed'.1, hfailed'.2]
      rw [hstep]
      constructor
      · intro hphase
        cases hphase
      · intro _ hpost
        exact h.changed (by simp) (hpost.trans hsame.symm)
      · rw [htornAppend, hfailed]
        simp
    | false =>
      have hstep : writeMonitor.step phase e.op e.reply = phase := by
        have hfailed' : (usageCall e.op && !e.reply.isOk) = false := hfailed
        simp only [hwrote, hfailed']
        rfl
      rw [hstep]
      constructor
      · intro hphase
        exact (h.clean hphase).trans hsame
      · intro hphase hpost
        exact h.changed hphase (hpost.trans hsame.symm)
      · rw [htornAppend, hfailed, ← h.torn]
        simp

/-- An error says that nothing was written, as long as the usage figures can be refreshed. -/
theorem error_writes_nothing_iff (hstart : Reachable c start) (hrun : ServerRun c state t start log s ps)
    (halone : ∀ e ∈ log, e.tid = i) (hr : (t.request i).endpoint.writesPayload = true)
    (hfresh : ∀ key : Key, (key.cell start).tag ≠ some ((t.ambient i).newUuid 0))
    (hanswer : ps i = .ret answer) :
    ((∃ e, answer = .error e) → SameData start s) ↔ ∀ e ∈ log, failedUsage e = false := by
  have hobeys : (t.program c state i).Obeys writeMonitor WritePhase.Fits .clean :=
    handle_settles (t.request i) hr
  have hsteps : WritesUpTo start (writeMonitor.after i .clean log) log s := by
    apply hrun.linked.history (I := fun before db =>
      WritesUpTo start (writeMonitor.after i .clean before) before db)
    · constructor
      · intro _
        exact .refl start
      · intro hphase
        exact absurd rfl hphase
      · simp [Monitor.after]
    · intro before e after hsplit hbefore
      subst hsplit
      have htid := halone e (by simp)
      subst htid
      rw [Monitor.after_append, Monitor.after_cons, if_pos rfl, Monitor.after_nil]
      exact writesUpTo_step hbefore (hrun.linked.effect (by simp)) (hrun.allowed hobeys)
        (originates hrun) hr ((aligned_run hstart.aligned hrun).2 e (by simp)).1 hfresh
  have hfits := hrun.returned hanswer hobeys
  generalize writeMonitor.after i .clean log = phase at hsteps hfits
  have htorn : (∀ e ∈ log, failedUsage e = false) ↔ phase ≠ .torn := by
    rw [Ne, hsteps.torn]
    simp
  rw [htorn]
  constructor
  · intro hsame hphase
    subst hphase
    apply hsteps.changed (by simp)
    apply hsame
    cases answer with
    | ok response => exact absurd rfl hfits
    | error e => exact ⟨e, rfl⟩
  · intro hphase herror
    obtain ⟨e, rfl⟩ := herror
    cases phase with
    | clean => exact hsteps.clean rfl
    | written => exact absurd rfl hfits
    | torn => exact absurd rfl hphase

end Run

/-! ## An object written while a transaction fails -/

/-- Request 1 writes the object. -/
def noteTraffic : Traffic := Traffic.ofList [idleRequest, notesRequest]

def playNote (schedule : List (Nat × Option String)) :=
  play (S := databaseSignature) (DbCall.exec freshCrates) schedule issuedDb
    (noteTraffic.program freshCrates freshState)

theorem playNote_run (schedule : List (Nat × Option String)) :
    ServerRun freshCrates freshState noteTraffic issuedDb (playNote schedule).1
      (playNote schedule).2.1 (playNote schedule).2.2 := play_run _ _ _ _

/-- The `k`-th transaction fails. -/
def failingAt (k : Nat) : List (Nat × Option String) :=
  (steps 1 20).set k (1, some "disk full")

def answersError (answer : Option Answer) : Bool :=
  match answer with
  | some (.error _) => true
  | _ => false

theorem error_of_answersError {p : Program databaseSignature Answer} (h : answersError p.answer = true) :
    ∃ e, p = .ret (.error e) := by
  cases p with
  | ret answer =>
    cases answer with
    | ok response => cases h
    | error e => exact ⟨e, rfl⟩
  | call op next => cases h

theorem fresh_note (key : Key) :
    (key.cell issuedDb).tag ≠ some ((noteTraffic.ambient 1).newUuid 0) := by
  have htables : issuedDb.objectMetadata.toList = (∅ : Table StoredObjectMetadata).toList ∧
      issuedDb.metadata.toList = (∅ : Table SyncMetadata).toList := by
    rw [issuedDb_short]
    decide +kernel
  rw [Std.ExtTreeMap.toList_inj, Std.ExtTreeMap.toList_inj] at htables
  exact (unusedIn_of_empty noteTraffic htables.1 htables.2).unused key 1

set_option maxRecDepth 10000 in
/-- The use of the token cannot be recorded. -/
theorem error_writes_nothing_early : SameData issuedDb (playNote (failingAt 3)).2.1 := by
  have hplay : (∀ e ∈ (playNote (failingAt 3)).1, e.tid = 1) ∧
      answersError ((playNote (failingAt 3)).2.2 1).answer = true ∧
      ∀ e ∈ (playNote (failingAt 3)).1, failedUsage e = false := by
    rw [playNote, issuedDb_short]
    decide +kernel
  obtain ⟨halone, hfailed, husage⟩ := hplay
  obtain ⟨e, hanswer⟩ := error_of_answersError hfailed
  exact (error_writes_nothing_iff reachable_issuedDb (playNote_run (failingAt 3)) halone rfl fresh_note
    hanswer).mpr husage ⟨e, rfl⟩

set_option maxRecDepth 10000 in
/-- The usage figures cannot be stored, and the client is told so, but its object is there. -/
theorem error_behind_write :
    ∃ (log : List DbEvent) (s : Db) (ps : Nat → Program databaseSignature Answer),
      Reachable freshCrates issuedDb ∧ ServerRun freshCrates freshState noteTraffic issuedDb log s ps ∧
      (∀ e ∈ log, e.tid = 1) ∧ (log.filter fun e => !e.reply.isOk).length = 1 ∧
      (∃ e, ps 1 = .ret (.error e)) ∧
      issuedDb.getObject "work" "notes" = none ∧ s.getObject "work" "notes" = some [1] ∧
      ¬ SameData issuedDb s := by
  have hplay : (∀ e ∈ (playNote (failingAt 8)).1, e.tid = 1) ∧
      ((playNote (failingAt 8)).1.filter fun e => !e.reply.isOk).length = 1 ∧
      answersError ((playNote (failingAt 8)).2.2 1).answer = true ∧
      issuedDb.getObject "work" "notes" = none ∧
      (playNote (failingAt 8)).2.1.getObject "work" "notes" = some [1] := by
    rw [playNote, issuedDb_short]
    decide +kernel
  obtain ⟨halone, hone, hfailed, hbefore, hafter⟩ := hplay
  refine ⟨_, _, _, reachable_issuedDb, playNote_run (failingAt 8), halone, hone,
    error_of_answersError hfailed, hbefore, hafter, fun hsame => ?_⟩
  have hcell := congrArg Cell.payload (cell_of_sameData hsame (.ofObject "work" "notes"))
  have hstored : (playNote (failingAt 8)).2.1.getObject "work" "notes" =
      issuedDb.getObject "work" "notes" := hcell
  rw [hbefore, hafter] at hstored
  cases hstored

end CloudSync
