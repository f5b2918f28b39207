import CloudSync.Footprint
import CloudSync.Transactions.Recording

/-!
# Where writes to the payload tables come from

`Originates` says of every call that writes a payload or a metadata record which
request issues it, with which arguments and after which other calls; `Concludes`
says what the answers of the payload handlers tell about their calls. Both hold
of every request, so they hold of every event of every run.
-/

namespace CloudSync

open Rust Transactions Transactions.Fallible

set_option autoImplicit false

abbrev RecordedCalls := List databaseSignature.Call

def dataCall (call : DbCall) : Bool := call.area == some .data

variable (c : Crates) (state : AppState) (amb : Ambient)

/-- `calls` are the data calls the request has made before. -/
def Originates (r : Request) (calls : RecordedCalls) : DbCall → Prop
  | .putObjectIfMatches ns path expectedEtag requireAbsent data m =>
    ∃ rawNs rawPath body, r.endpoint = .putObject rawNs rawPath body ∧ calls = [] ∧
      decodeNamespace c rawNs = .ok ns ∧ decodeObjectPath rawPath = .ok path ∧
      expectedEtag = r.headers.getStr "if-match" ∧
      requireAbsent = (r.headers.getStr "if-none-match" == some "*") ∧
      encryptIfNeeded c state (amb.nonce 0) body = .ok data ∧ m.etag = amb.newUuid 0
  | .putBlobIfMatches ns expectedEtag requireAbsent blob m =>
    ∃ rawNs sectionRevisions body row, r.endpoint = .putBlob rawNs sectionRevisions body ∧
      calls = [⟨.getMetadata ns, .ok row⟩] ∧ decodeNamespace c rawNs = .ok ns ∧
      expectedEtag = r.headers.getStr "if-match" ∧
      requireAbsent = (r.headers.getStr "if-none-match" == some "*") ∧
      encryptIfNeeded c state (amb.nonce 0) body = .ok blob ∧
      ∃ revision deviceId, m = metadataForBlob c state (row.bind (·.fromSlice)) body revision
        deviceId sectionRevisions (amb.newUuid 0) (c.toRfc3339 (amb.now 2))
  | .setMetadata ns data =>
    (∃ rawNs body row, r.endpoint = .putMetadata rawNs body ∧
      calls = [⟨.getMetadata ns, .ok row⟩] ∧ decodeNamespace c rawNs = .ok ns ∧
      data = metadataFromBody state (row.bind (·.fromSlice)) body (amb.newUuid 0)
        (c.toRfc3339 (amb.now 2))) ∨
    (∃ requested, r.endpoint = .adminCreateNamespace requested ∧ ns = trim requested ∧
      calls = [⟨.getMetadata ns, .ok none⟩] ∧ validateNamespace c ns = .ok () ∧ data = .empty)
  | .deleteObject ns path =>
    ∃ rawNs rawPath, r.endpoint = .deleteObject rawNs rawPath ∧
      decodeNamespace c rawNs = .ok ns ∧ decodeObjectPath rawPath = .ok path
  | .hardDeleteNamespace ns => r.endpoint = .adminDeleteNamespace ns (some true)
  | _ => True

abbrev dataMonitor (r : Request) : Monitor databaseSignature :=
  recording dataCall (Originates c state amb r)

/-- What an answer tells about the data calls of its request. -/
def Concludes (r : Request) (calls : RecordedCalls) (answer : Answer) : Prop :=
  match r.endpoint with
  | .getObject rawNs rawPath =>
    ∀ payload, answer = .ok (.object (some payload)) → ∃ ns path stored m,
      decodeNamespace c rawNs = .ok ns ∧ decodeObjectPath rawPath = .ok path ∧
      calls = [⟨.getObject ns path, .ok (some stored)⟩, ⟨.getObjectMetadata ns path, .ok m⟩] ∧
      decryptIfNeeded c state stored = .ok payload.body ∧
      payload.etag = m.bind fun m => parseHeaderValue m.etag
  | .getBlob rawNs =>
    ∀ payload, answer = .ok (.payload payload) → ∃ ns stored row,
      decodeNamespace c rawNs = .ok ns ∧
      calls = [⟨.getBlob ns, .ok (some stored)⟩, ⟨.getMetadata ns, .ok row⟩] ∧
      decryptIfNeeded c state stored = .ok payload.body ∧
      payload.etag = (((row.bind (·.fromSlice)).bind (·.etag)).bind parseHeaderValue)
  | .putObject .. =>
    (∀ out, answer = .ok out → ∃ ns path expectedEtag requireAbsent data m,
      calls = [⟨.putObjectIfMatches ns path expectedEtag requireAbsent data m, .ok (.ok ())⟩]) ∧
    (∀ code message revision etag, answer = .error (.conflict code message revision etag) →
      ∃ ns path expectedEtag requireAbsent data m,
        calls = [⟨.putObjectIfMatches ns path expectedEtag requireAbsent data m,
          .ok (.error (.conflict revision etag message))⟩])
  | .putBlob .. =>
    (∀ out, answer = .ok out → ∃ ns row expectedEtag requireAbsent blob m,
      calls = [⟨.getMetadata ns, .ok row⟩,
        ⟨.putBlobIfMatches ns expectedEtag requireAbsent blob m, .ok (.ok ())⟩]) ∧
    (∀ code message revision etag, answer = .error (.conflict code message revision etag) →
      ∃ ns row expectedEtag requireAbsent blob m,
        calls = [⟨.getMetadata ns, .ok row⟩,
          ⟨.putBlobIfMatches ns expectedEtag requireAbsent blob m,
            .ok (.error (.conflict revision etag message))⟩])
  | _ => True

variable {c state amb}

/-! ## Parts the monitor does not notice -/

section Ignored
variable {allow : RecordedCalls → DbCall → Prop}

theorem within_ignores {area : Option Area} (harea : area ≠ some .data) {call : DbCall}
    (h : Within area call) : (recording (S := databaseSignature) dataCall allow).Ignores call := by
  apply recording_ignores
  rcases h with h | h
  · rw [dataCall, h]
    rfl
  · rw [dataCall, h]
    exact beq_false_of_ne harea

theorem calls_ignored {ε α : Type} {area : Option Area} (harea : area ≠ some .data)
    {x : Fallible databaseSignature ε α} (h : Calls (Within area) x) :
    Calls (recording (S := databaseSignature) dataCall allow).Ignores x :=
  Program.Calls.mono (fun _ => within_ignores harea) h

end Ignored

/-! ## Errors that are no conflicts -/

/-- Not the answer to a failed precondition. -/
def NotConflict (e : AppError) : Prop := ∀ code message revision etag,
  e ≠ .conflict code message revision etag

theorem decodeNamespace_notConflict {raw : String} {e : AppError}
    (h : decodeNamespace c raw = .error e) : NotConflict e := by
  rintro code message revision etag rfl
  unfold decodeNamespace validateNamespace at h
  split at h
  · cases h
  · split at h
    · cases h
    · split at h <;> cases h

theorem decodeObjectPath_notConflict {raw : String} {e : AppError}
    (h : decodeObjectPath raw = .error e) : NotConflict e := by
  rintro code message revision etag rfl
  unfold decodeObjectPath at h
  split at h
  · cases h
  · split at h <;> cases h

theorem encryptIfNeeded_notConflict {nonce data : Bytes} {e : AppError}
    (h : encryptIfNeeded c state nonce data = .error e) : NotConflict e := by
  rintro code message revision etag rfl
  unfold encryptIfNeeded at h
  split at h
  · generalize encrypt c _ nonce data = x at h
    cases x <;> cases h
  · cases h

theorem presentedToken_notConflict {headers : HeaderMap} {e : AppError}
    (h : presentedToken c headers = .error e) : NotConflict e := by
  rintro code message revision etag rfl
  unfold presentedToken at h
  split at h
  · cases h
  · split at h
    · cases h
    · split at h
      · cases h
      · split at h <;> cases h

theorem checkToken_notConflict {token : ApiToken} {ns : String} {permission : SyncPermission}
    {e : AppError} (h : checkToken c amb token ns permission = .error e) : NotConflict e := by
  rintro code message revision etag rfl
  unfold checkToken ensureTokenActive at h
  split at h
  · rename_i he
    split at he
    · cases he; cases h
    · split at he
      · cases he; cases h
      · cases he
  · split at h
    · cases h
    · split at h <;> cases h

theorem authorize_raises (headers : HeaderMap) (ns : String) (permission : SyncPermission)
    (peer : IpAddr) :
    Raises NotConflict
      (authorizeSyncRequestWithPermission c state amb headers ns permission peer) := by
  have hint : ∀ message, NotConflict (.internal message) := fun _ _ _ _ _ => nofun
  have hactive : Raises NotConflict (ensureNamespaceActive ns) :=
    .bind (by simp [hint]) fun _ => by simp [NotConflict]
  have hauth : Raises NotConflict (extractAuth c headers) :=
    .bind (by simpa using fun _ => presentedToken_notConflict) fun _ =>
      .bind (.mapError _ fun _ => hint _) fun _ => by simp [NotConflict]
  refine .bind hactive fun _ => .bind hauth fun token => ?_
  cases hcheck : checkToken c amb token ns permission with
  | error e =>
    exact .bind (by simp [recordTokenFailure, hint]) fun _ => by
      simpa using checkToken_notConflict hcheck
  | ok _ => exact .bind (by simp [hint]) fun _ => by simp

theorem ensureDiskCapacity_raises (incomingBytes : Nat) :
    Raises NotConflict (ensureDiskCapacity state amb incomingBytes) := by
  unfold ensureDiskCapacity
  split
  · simp
  · cases amb.diskFreeBytes <;> simp [NotConflict]

theorem refreshUsageAfterWrite_raises (ns : String) (now : Instant) :
    Raises NotConflict (refreshUsageAfterWrite c state ns now) :=
  .bind (.mapError _ fun _ _ _ _ _ => nofun) fun _ => by simp

theorem recordConditionalWriteConflict_raises (observation : ConflictObservation)
    (error : ConditionalWriteError) :
    Raises NotConflict (recordConditionalWriteConflict c state amb observation error) := by
  unfold recordConditionalWriteConflict
  refine .ite (by simp) ?_
  cases error <;> simp [NotConflict]

/-! ## The payload handlers -/

@[simp] theorem triple_conditionally {M : Monitor databaseSignature}
    {ok : M.State → Except ConditionalWriteError Unit → Prop} {err : M.State → AppError → Prop}
    {q : M.State} (write : DbProgram (Except ConditionalWriteError Unit)) :
    Triple M (conditionally write) ok err q ↔
      Triple M write ok (fun q e => ok q (.error (.storage e))) q := by
  rw [conditionally, triple_bind, triple_attempt]
  rfl

section Handlers
variable {r : Request}

/-- The first part of every payload handler leaves nothing in the record. -/
theorem triple_authorized {α : Type} {ok : RecordedCalls → α → Prop}
    {err : RecordedCalls → AppError → Prop} {rawNs : String} {permission : SyncPermission}
    {f : String → Handler α} (herr : ∀ e, NotConflict e → err [] e)
    (hf : ∀ ns, decodeNamespace c rawNs = .ok ns → Triple (dataMonitor c state amb r) (f ns) ok err []) :
    Triple (dataMonitor c state amb r) (do
      let ns ← liftResult (decodeNamespace c rawNs)
      let _ ← authorizeSyncRequestWithPermission c state amb r.headers ns permission r.peer
      f ns) ok err [] := by
  rw [triple_bind, triple_liftResult]
  refine ⟨fun ns hns => ?_, fun e he => herr e (decodeNamespace_notConflict he)⟩
  exact .skip (calls_ignored (by simp) (authorize_calls ..)) (authorize_raises _ _ _ _) herr
    fun _ => hf ns hns

theorem getObject_spec {rawNs rawPath : String} :
    Triple (dataMonitor c state amb r) (getObject c state amb rawNs rawPath r.peer r.headers)
      (fun calls answer => ∀ payload, answer = some payload → ∃ ns path stored m,
        decodeNamespace c rawNs = .ok ns ∧ decodeObjectPath rawPath = .ok path ∧
        calls = [⟨.getObject ns path, .ok (some stored)⟩, ⟨.getObjectMetadata ns path, .ok m⟩] ∧
        decryptIfNeeded c state stored = .ok payload.body ∧
        payload.etag = m.bind fun m => parseHeaderValue m.etag)
      (fun _ _ => True) [] := by
  refine triple_authorized (fun _ _ => trivial) fun ns hns => ?_
  rw [triple_bind, triple_liftResult]
  refine ⟨fun path hpath => ?_, fun _ _ => trivial⟩
  rw [triple_bind, triple_db]
  refine ⟨fun _ => trivial, fun stored => ?_, fun _ => trivial⟩
  cases stored with
  | none => exact fun _ h => nomatch h
  | some stored =>
    rw [triple_bind, triple_liftResult]
    refine ⟨fun data hdata => ?_, fun _ _ => trivial⟩
    rw [triple_bind, triple_db]
    refine ⟨fun _ => trivial, fun m => ?_, fun _ => trivial⟩
    rintro payload h
    cases h
    exact ⟨ns, path, stored, m, hns, hpath, rfl, hdata, rfl⟩

theorem getBlob_spec {rawNs : String} :
    Triple (dataMonitor c state amb r) (getBlob c state amb rawNs r.peer r.headers)
      (fun calls payload => ∃ ns stored row, decodeNamespace c rawNs = .ok ns ∧
        calls = [⟨.getBlob ns, .ok (some stored)⟩, ⟨.getMetadata ns, .ok row⟩] ∧
        decryptIfNeeded c state stored = .ok payload.body ∧
        payload.etag = (((row.bind (·.fromSlice)).bind (·.etag)).bind parseHeaderValue))
      (fun _ _ => True) [] := by
  refine triple_authorized (fun _ _ => trivial) fun ns hns => ?_
  rw [triple_bind, triple_db]
  refine ⟨fun _ => trivial, fun stored => ?_, fun _ => trivial⟩
  rw [triple_bind, triple_okOr]
  refine ⟨?_, fun _ => trivial⟩
  rintro encrypted rfl
  rw [triple_bind, triple_liftResult]
  refine ⟨fun blob hblob => ?_, fun _ _ => trivial⟩
  rw [triple_bind, triple_db]
  exact ⟨fun _ => trivial, fun row => ⟨ns, encrypted, row, hns, rfl, hblob, rfl⟩, fun _ => trivial⟩

/-- After a conditional write only bookkeeping is left, and the answer stands. -/
theorem triple_accepted {α : Type} {calls : RecordedCalls} {ok : RecordedCalls → α → Prop}
    {err : RecordedCalls → AppError → Prop} {ns : String} {now : Instant} {answer : α}
    (hok : ok calls answer) (herr : ∀ e, NotConflict e → err calls e) :
    Triple (dataMonitor c state amb r) (do
      refreshUsageAfterWrite c state ns now
      pure answer) ok err calls :=
  .skip (calls_ignored (by simp) (refreshUsageAfterWrite_calls ..))
    (refreshUsageAfterWrite_raises _ _) herr fun _ => hok

theorem triple_refused {α : Type} {calls : RecordedCalls} {ok : RecordedCalls → α → Prop}
    {err : RecordedCalls → AppError → Prop} {observation : ConflictObservation}
    {error : ConditionalWriteError} (hconflict : err calls (mapConditionalWriteError error))
    (herr : ∀ e, NotConflict e → err calls e) :
    Triple (dataMonitor c state amb r) (do
      recordConditionalWriteConflict c state amb observation error
      throw (mapConditionalWriteError error)) ok err calls :=
  .skip (calls_ignored (by simp) (recordConditionalWriteConflict_calls ..))
    (recordConditionalWriteConflict_raises _ _) herr fun _ => hconflict

/-- The answer that a conflict becomes repeats what the transaction reported. -/
theorem mapConditionalWriteError_conflict {e : ConditionalWriteError} {code message : String}
    {revision etag : Option String}
    (h : mapConditionalWriteError e = .conflict code message revision etag) :
    e = .conflict revision etag message := by
  cases e with
  | conflict remoteRevision remoteEtag text =>
    cases h
    rfl
  | storage error => cases h
  | serialization error => cases h

theorem putObject_spec {rawNs rawPath : String} {body : Bytes}
    (hr : r.endpoint = .putObject rawNs rawPath body) :
    Triple (dataMonitor c state amb r) (putObject c state amb rawNs rawPath r.peer r.headers body)
      (fun calls _ => ∃ ns path expectedEtag requireAbsent data m,
        calls = [⟨.putObjectIfMatches ns path expectedEtag requireAbsent data m, .ok (.ok ())⟩])
      (fun calls e => ∀ code message revision etag, e = .conflict code message revision etag →
        ∃ ns path expectedEtag requireAbsent data m,
          calls = [⟨.putObjectIfMatches ns path expectedEtag requireAbsent data m,
            .ok (.error (.conflict revision etag message))⟩]) [] := by
  have hearly : ∀ (calls : RecordedCalls) (e : AppError), NotConflict e →
      ∀ code message revision etag, e = .conflict code message revision etag →
        ∃ ns path expectedEtag requireAbsent data m,
          calls = [⟨.putObjectIfMatches ns path expectedEtag requireAbsent data m,
            .ok (.error (.conflict revision etag message))⟩] :=
    fun _ _ he code message revision etag h => absurd h (he code message revision etag)
  refine triple_authorized (hearly []) fun ns hns => ?_
  rw [triple_bind, triple_liftResult]
  refine ⟨fun path hpath => ?_, fun e he => hearly [] e (decodeObjectPath_notConflict he)⟩
  rw [triple_bind, triple_ensure]
  refine ⟨fun _ => ?_, fun _ => hearly [] _ fun _ _ _ _ => nofun⟩
  refine .skip (ensureDiskCapacity_calls _ _) (ensureDiskCapacity_raises _) (hearly []) fun _ => ?_
  rw [triple_bind, triple_liftResult]
  refine ⟨fun data hdata => ?_, fun e he => hearly [] e (encryptIfNeeded_notConflict he)⟩
  rw [triple_bind, triple_conditionally, triple_redb]
  refine ⟨fun _ => ?_, fun result => ?_, fun f => ?_⟩
  · exact ⟨rawNs, rawPath, body, hr, rfl, hns, hpath, rfl, rfl, hdata, rfl⟩
  · cases result with
    | ok _ => exact triple_accepted ⟨ns, path, _, _, data, _, rfl⟩ (hearly _)
    | error e =>
      refine triple_refused ?_ (hearly _)
      intro code message revision etag h
      obtain rfl := mapConditionalWriteError_conflict h
      exact ⟨ns, path, _, _, data, _, rfl⟩
  · refine triple_refused ?_ (hearly _)
    intro code message revision etag h
    cases mapConditionalWriteError_conflict h

theorem putBlob_spec {rawNs : String} {sectionRevisions : Option SectionRevisions} {body : Bytes}
    (hr : r.endpoint = .putBlob rawNs sectionRevisions body) :
    Triple (dataMonitor c state amb r)
      (putBlob c state amb rawNs r.peer r.headers sectionRevisions body)
      (fun calls _ => ∃ ns row expectedEtag requireAbsent blob m,
        calls = [⟨.getMetadata ns, .ok row⟩,
          ⟨.putBlobIfMatches ns expectedEtag requireAbsent blob m, .ok (.ok ())⟩])
      (fun calls e => ∀ code message revision etag, e = .conflict code message revision etag →
        ∃ ns row expectedEtag requireAbsent blob m,
          calls = [⟨.getMetadata ns, .ok row⟩,
            ⟨.putBlobIfMatches ns expectedEtag requireAbsent blob m,
              .ok (.error (.conflict revision etag message))⟩]) [] := by
  have hearly : ∀ (calls : RecordedCalls) (e : AppError), NotConflict e →
      ∀ code message revision etag, e = .conflict code message revision etag →
        ∃ ns row expectedEtag requireAbsent blob m,
          calls = [⟨.getMetadata ns, .ok row⟩,
            ⟨.putBlobIfMatches ns expectedEtag requireAbsent blob m,
              .ok (.error (.conflict revision etag message))⟩] :=
    fun _ _ he code message revision etag h => absurd h (he code message revision etag)
  refine triple_authorized (hearly []) fun ns hns => ?_
  rw [triple_bind, triple_ensure]
  refine ⟨fun _ => ?_, fun _ => hearly [] _ fun _ _ _ _ => nofun⟩
  refine .skip (ensureDiskCapacity_calls _ _) (ensureDiskCapacity_raises _) (hearly []) fun _ => ?_
  rw [triple_bind, triple_db]
  refine ⟨fun _ => trivial, fun row => ?_, fun f => hearly _ _ fun _ _ _ _ => nofun⟩
  rw [triple_bind, triple_liftResult]
  refine ⟨fun blob hblob => ?_, fun e he => hearly _ e (encryptIfNeeded_notConflict he)⟩
  rw [triple_bind, triple_conditionally, triple_redb]
  refine ⟨fun _ => ?_, fun result => ?_, fun f => ?_⟩
  · exact ⟨rawNs, sectionRevisions, body, row, hr, rfl, hns, rfl, rfl, hblob, _, _, rfl⟩
  · cases result with
    | ok _ => exact triple_accepted ⟨ns, row, _, _, blob, _, rfl⟩ (hearly _)
    | error e =>
      refine triple_refused ?_ (hearly _)
      intro code message revision etag h
      obtain rfl := mapConditionalWriteError_conflict h
      exact ⟨ns, row, _, _, blob, _, rfl⟩
  · refine triple_refused ?_ (hearly _)
    intro code message revision etag h
    cases mapConditionalWriteError_conflict h

theorem putMetadata_spec {rawNs : String} {body : MetadataWriteRequest}
    (hr : r.endpoint = .putMetadata rawNs body) :
    Triple (dataMonitor c state amb r) (putMetadata c state amb rawNs r.peer r.headers body)
      (fun _ _ => True) (fun _ _ => True) [] := by
  refine triple_authorized (fun _ _ => trivial) fun ns hns => ?_
  refine .skip (ensureDiskCapacity_calls _ _) (raises_true _) (fun _ _ => trivial) fun _ => ?_
  rw [triple_bind, triple_db]
  refine ⟨fun _ => trivial, fun row => ?_, fun _ => trivial⟩
  rw [triple_bind, triple_db]
  refine ⟨fun _ => .inl ⟨rawNs, body, row, hr, rfl, hns, rfl⟩, fun _ => ?_, fun _ => trivial⟩
  exact .skip (calls_ignored (by simp) (refreshUsageAfterWrite_calls ..)) (raises_true _)
    (fun _ _ => trivial) fun _ => trivial

theorem deleteObject_spec {rawNs rawPath : String}
    (hr : r.endpoint = .deleteObject rawNs rawPath) :
    Triple (dataMonitor c state amb r) (deleteObject c state amb rawNs rawPath r.peer r.headers)
      (fun _ _ => True) (fun _ _ => True) [] := by
  refine triple_authorized (fun _ _ => trivial) fun ns hns => ?_
  rw [triple_bind, triple_liftResult]
  refine ⟨fun path hpath => ?_, fun _ _ => trivial⟩
  rw [triple_bind, triple_db]
  refine ⟨fun _ => ⟨rawNs, rawPath, hr, hns, hpath⟩, fun removed => ?_, fun _ => trivial⟩
  exact (calls_runIf.mpr fun _ => calls_ignored (by simp) (refreshUsageAfterWrite_calls ..)).triple
    (raises_true _) (fun _ => trivial) fun _ _ => trivial

theorem adminCreateNamespace_spec {requested : String}
    (hr : r.endpoint = .adminCreateNamespace requested) :
    Triple (dataMonitor c state amb r) (adminCreateNamespace c state amb r.headers requested)
      (fun _ _ => True) (fun _ _ => True) [] := by
  refine .skip (calls_ignored (by simp) (verifyAdminMutation_calls ..)) (raises_true _)
    (fun _ _ => trivial) fun _ => ?_
  refine .skip (ensureDiskCapacity_calls _ _) (raises_true _) (fun _ _ => trivial) fun _ => ?_
  rw [triple_bind, triple_liftResult]
  refine ⟨fun _ hvalid => ?_, fun _ _ => trivial⟩
  refine .skip (calls_ignored (Option.some_ne_none _).symm (by simp)) (raises_true _)
    (fun _ _ => trivial) fun deleted => ?_
  rw [triple_bind, triple_ensure]
  refine ⟨fun _ => ?_, fun _ => trivial⟩
  rw [triple_bind, triple_db]
  refine ⟨fun _ => trivial, fun row => ?_, fun _ => trivial⟩
  rw [triple_bind, triple_ensure]
  refine ⟨fun hrow => ?_, fun _ => trivial⟩
  obtain rfl := Option.isNone_iff_eq_none.mp hrow
  refine .skip (calls_ignored (Option.some_ne_none _).symm (by simp)) (raises_true _)
    (fun _ _ => trivial) fun paths => ?_
  rw [triple_bind, triple_ensure]
  refine ⟨fun _ => ?_, fun _ => trivial⟩
  rw [triple_bind, triple_db]
  exact ⟨fun _ => .inr ⟨requested, hr, rfl, rfl, hvalid, rfl⟩, fun _ => trivial, fun _ => trivial⟩

/-- Handlers that look at metadata records and write none. -/
@[simp] def Inspects (call : DbCall) : Prop := Within none call ∨ ∃ ns, call = .getMetadata ns

theorem calls_inspects {ε α : Type} {x : Fallible databaseSignature ε α}
    (h : Calls (Within none) x) : Calls Inspects x := Program.Calls.mono (fun _ => .inl) h

theorem triple_inspects {α : Type} {x : Handler α} {calls : RecordedCalls}
    (h : Calls Inspects x) :
    Triple (dataMonitor c state amb r) x (fun _ _ => True) (fun _ _ => True) calls := by
  refine Calls.triple_allowed (Program.Calls.mono ?_ h) (fun _ _ => trivial) fun _ _ => trivial
  rintro call (hnone | ⟨ns, rfl⟩) calls hdata
  · rw [dataCall, hnone.elim id id] at hdata
    cases hdata
  · trivial

theorem getMetadata_inspects {rawNs : String} {peer : IpAddr} {headers : HeaderMap} :
    Calls Inspects (getMetadata c state amb rawNs peer headers) :=
  .bind (by simp) fun _ => .bind (calls_inspects (authorize_calls ..)) fun _ =>
    .bind (by simp) fun row => by cases row <;> simp

theorem namespaceInfo_inspects (ns : String) (deleted : Option DeletedNamespaceRecord) :
    Calls Inspects (namespaceInfo c ns deleted) :=
  .bind (by simp) fun _ => .bind (by simp) fun _ => .bind (by simp) fun _ =>
    .bind (by simp) fun _ => by simp

theorem adminListNamespaces_inspects {headers : HeaderMap} :
    Calls Inspects (adminListNamespaces c state amb headers) :=
  .bind (calls_inspects (verifyAdmin_calls ..)) fun _ => .bind (by simp) fun _ =>
    .bind (calls_mapM (fun _ => namespaceInfo_inspects _ _) _) fun _ => .bind (by simp) fun _ =>
    .bind (calls_mapM (fun _ => namespaceInfo_inspects _ _) _) fun _ => by simp

theorem adminDeleteNamespace_spec {ns : String} {hard : Option Bool}
    (hr : r.endpoint = .adminDeleteNamespace ns hard) :
    Triple (dataMonitor c state amb r) (adminDeleteNamespace c state amb ns hard r.headers)
      (fun _ _ => True) (fun _ _ => True) [] := by
  refine .skip (calls_ignored (by simp) (verifyAdminMutation_calls ..)) (raises_true _)
    (fun _ _ => trivial) fun _ => ?_
  split
  · rename_i hhard
    obtain rfl : hard = some true := by
      cases hard with
      | none => cases hhard
      | some b => exact congrArg some hhard
    rw [triple_bind, triple_db]
    exact ⟨fun _ => hr, fun _ => trivial, fun _ => trivial⟩
  · apply triple_inspects
    exact .bind (by simp) fun _ => .bind (by simp) fun _ => .bind (by simp) fun _ =>
      .bind (calls_runIf.mpr fun _ => .bind (by simp) fun _ => by simp) fun _ =>
      .bind (ensureDiskCapacity_calls _ _) fun _ => .bind (by simp) fun _ =>
      .bind (calls_inspects (calls_orDatabaseError (refreshNamespaceUsage_calls ..))) fun _ => by simp

end Handlers

/-! ## Every request -/

/-- What a handler returns is only wrapped. -/
theorem obeys_wrapped {M : Monitor databaseSignature} {q : M.State} {α : Type} {x : Handler α}
    {f : α → Response} {ok : M.State → α → Prop} {err : M.State → AppError → Prop}
    {post : M.State → Answer → Prop} (h : Triple M x ok err q)
    (hok : ∀ q a, ok q a → post q (.ok (f a))) (herr : ∀ q e, err q e → post q (.error e)) :
    (x >>= fun a => pure (f a)).run.Obeys M post q := by
  have ht : Triple M (x >>= fun a => pure (f a)) (fun q b => post q (.ok b))
      (fun q e => post q (.error e)) q := (triple_bind _ _).mpr (h.mono hok herr)
  apply Program.Obeys.mono _ ht
  intro q answer ha
  cases answer <;> exact ha

theorem handle_outside (r : Request) (h : r.endpoint.area ≠ some .data) :
    (handle c state amb r).run.Obeys (dataMonitor c state amb r) (fun _ _ => True) [] :=
  (calls_ignored h (handle_calls r)).obeys (Program.returns_of_forall (fun _ => trivial) _)
    fun _ _ => trivial

/-- Every request keeps to `Originates` and ends as `Concludes` says. -/
theorem handle_data (r : Request) :
    (handle c state amb r).run.Obeys (dataMonitor c state amb r) (Concludes c state r) [] := by
  have htrivial {α : Type} {x : Handler α} {f : α → Response} {post : RecordedCalls → Answer → Prop}
      (hpost : ∀ calls answer, post calls answer)
      (h : Triple (dataMonitor c state amb r) x (fun _ _ => True) (fun _ _ => True) []) :
      (x >>= fun a => pure (f a)).run.Obeys (dataMonitor c state amb r) post [] :=
    obeys_wrapped h (fun _ _ _ => hpost _ _) fun _ _ _ => hpost _ _
  obtain ⟨endpoint, peer, headers⟩ := r
  cases endpoint with
  | getMetadata => exact htrivial (fun _ _ => trivial) (triple_inspects getMetadata_inspects)
  | putMetadata => exact htrivial (fun _ _ => trivial) (putMetadata_spec rfl)
  | deleteObject => exact htrivial (fun _ _ => trivial) (deleteObject_spec rfl)
  | adminListNamespaces =>
    exact htrivial (fun _ _ => trivial) (triple_inspects adminListNamespaces_inspects)
  | adminCreateNamespace => exact htrivial (fun _ _ => trivial) (adminCreateNamespace_spec rfl)
  | adminDeleteNamespace => exact htrivial (fun _ _ => trivial) (adminDeleteNamespace_spec rfl)
  | getBlob =>
    refine obeys_wrapped getBlob_spec (fun calls a h => ?_) fun _ _ _ _ he => by cases he
    rintro payload ⟨⟩
    exact h
  | getObject =>
    refine obeys_wrapped getObject_spec (fun calls a h => ?_) fun _ _ _ _ he => by cases he
    rintro payload ⟨⟩
    exact h payload rfl
  | putBlob =>
    refine obeys_wrapped (putBlob_spec rfl) (fun calls a h => ?_) fun calls e h => ?_
    · exact ⟨fun _ _ => h, fun _ _ _ _ he => by cases he⟩
    · refine ⟨fun _ he => (by cases he), ?_⟩
      rintro code message revision etag ⟨⟩
      exact h code message revision etag rfl
  | putObject =>
    refine obeys_wrapped (putObject_spec rfl) (fun calls a h => ?_) fun calls e h => ?_
    · exact ⟨fun _ _ => h, fun _ _ _ _ he => by cases he⟩
    · refine ⟨fun _ he => (by cases he), ?_⟩
      rintro code message revision etag ⟨⟩
      exact h code message revision etag rfl
  | _ =>
    refine handle_outside _ ?_
    simp [Endpoint.area]

end CloudSync
