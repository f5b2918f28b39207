import CloudSync.PayloadHistory
import CloudSync.ShortSessions

/-!
# Conditional writes form a chain

A PUT with `If-Match` succeeds at most once for each ETag, it replaces exactly
what was stored when that ETag was installed, and a PUT that is refused changes
nothing and reports the ETag that made its transaction refuse.
-/

namespace CloudSync

open Rust Transactions Tagged

set_option autoImplicit false

variable {c : Crates} {state : AppState}

/-- The tables of payloads and their metadata are the same. -/
structure SameData (db db' : Db) : Prop where
  metadata : db'.metadata = db.metadata
  blobs : db'.blobs = db.blobs
  objects : db'.objects = db.objects
  objectMetadata : db'.objectMetadata = db.objectMetadata

theorem SameData.refl (db : Db) : SameData db db := ⟨rfl, rfl, rfl, rfl⟩

/-- Key, preconditions and reported ETag of a PUT whose write transaction refuses. -/
def refusedPut : databaseSignature.Call → Option (Key × Option String × Bool × Option String)
  | ⟨.putObjectIfMatches ns path expectedEtag requireAbsent _ _, .ok (.error (.conflict _ etag _))⟩ =>
    some (.ofObject ns path, expectedEtag, requireAbsent, etag)
  | ⟨.putBlobIfMatches ns expectedEtag requireAbsent _ _, .ok (.error (.conflict _ etag _))⟩ =>
    some (.ofSnapshot ns, expectedEtag, requireAbsent, etag)
  | _ => none

/-- Key and preconditions of a PUT of a payload. -/
def putTarget (c : Crates) (r : Request) : Option (Key × Option String × Bool) :=
  let ifMatch := r.headers.getStr "if-match"
  let requireAbsent := r.headers.getStr "if-none-match" == some "*"
  match r.endpoint with
  | .putObject rawNs rawPath _ =>
    match decodeNamespace c rawNs, decodeObjectPath rawPath with
    | .ok ns, .ok path => some (.ofObject ns path, ifMatch, requireAbsent)
    | _, _ => none
  | .putBlob rawNs _ _ =>
    match decodeNamespace c rawNs with
    | .ok ns => some (.ofSnapshot ns, ifMatch, requireAbsent)
    | _ => none
  | _ => none

/-- A call outside the payload tables leaves them alone. -/
theorem sameData_of_not_dataCall {call : DbCall} {r : databaseSignature.Reply call} {db db' : Db}
    (h : Effect (S := databaseSignature) (DbCall.exec c) call r db db')
    (hcall : dataCall call = false) : SameData db db' := by
  cases h with
  | fail f => exact .refl db
  | commit =>
    cases call with
    | recordTokenUsage id ns permission clientIp clientVersion observedAt =>
      obtain ⟨tokens, devices, h⟩ :=
        db.recordTokenUsage_eq id ns permission clientIp clientVersion observedAt
      rw [DbCall.exec, h]
      exact ⟨rfl, rfl, rfl, rfl⟩
    | recordTokenFailure id =>
      obtain ⟨tokens, h⟩ := db.recordTokenFailure_eq id
      rw [DbCall.exec, h]
      exact ⟨rfl, rfl, rfl, rfl⟩
    | setMetadata | deleteObject | putBlobIfMatches | putObjectIfMatches | hardDeleteNamespace =>
      cases hcall
    | _ => exact ⟨rfl, rfl, rfl, rfl⟩

/-- A refused PUT changes nothing and reports the ETag it found. -/
theorem refusedPut_cases {e : DbEvent} {key : Key} {expectedEtag etag : Option String}
    {requireAbsent : Bool}
    (h : refusedPut e.call = some (key, expectedEtag, requireAbsent, etag))
    (he : Effect (S := databaseSignature) (DbCall.exec c) e.op e.reply e.pre e.post) :
    SameData e.pre e.post ∧ etag = (key.cell e.pre).tag := by
  obtain ⟨tid, op, reply, pre, post⟩ := e
  dsimp only at he ⊢
  unfold refusedPut at h
  split at h
  · rename_i ns path expected absent data m revision remote message hcall
    cases hcall
    cases h
    obtain ⟨hout, rfl⟩ := he.of_ok
    rcases putObjectIfMatches_cases pre ns path expectedEtag requireAbsent data m with
      ⟨_, hc⟩ | ⟨_, hc⟩
    · simp only [DbCall.exec, hc] at hout ⊢
      cases hout
      exact ⟨.refl pre, rfl⟩
    · simp only [DbCall.exec, hc] at hout
      cases hout
  · rename_i ns expected absent blob m revision remote message hcall
    cases hcall
    cases h
    obtain ⟨hout, rfl⟩ := he.of_ok
    rcases putBlobIfMatches_cases pre ns expectedEtag requireAbsent blob m with
      ⟨_, hc⟩ | ⟨_, _, hc⟩ | ⟨_, hc⟩
    · simp only [DbCall.exec, hc] at hout
      cases hout
    · simp only [DbCall.exec, hc] at hout ⊢
      cases hout
      exact ⟨.refl pre, rfl⟩
    · simp only [DbCall.exec, hc] at hout
      cases hout
  · cases h

section Answers
variable {t : Traffic} {start s : Db} {ps : Nat → Program databaseSignature Answer}
  {log : List DbEvent}

theorem putTarget_object {amb : Ambient} {r : Request} {calls : RecordedCalls} {ns path : String}
    {expectedEtag : Option String} {requireAbsent : Bool} {data : Bytes} {m : StoredObjectMetadata}
    (h : Originates c state amb r calls
      (.putObjectIfMatches ns path expectedEtag requireAbsent data m)) :
    putTarget c r = some (.ofObject ns path, expectedEtag, requireAbsent) := by
  obtain ⟨rawNs, rawPath, body, hr, _, hns, hpath, rfl, rfl, _⟩ := h
  simp [putTarget, hr, hns, hpath]

theorem putTarget_snapshot {amb : Ambient} {r : Request} {calls : RecordedCalls} {ns : String}
    {expectedEtag : Option String} {requireAbsent : Bool} {blob : Bytes} {m : SyncMetadata}
    (h : Originates c state amb r calls (.putBlobIfMatches ns expectedEtag requireAbsent blob m)) :
    putTarget c r = some (.ofSnapshot ns, expectedEtag, requireAbsent) := by
  obtain ⟨rawNs, revisions, body, row, hr, _, hns, rfl, rfl, _⟩ := h
  simp [putTarget, hr, hns]

/-- Every relevant call of a request is an event of its own. -/
theorem event_of_call {i : Nat} {call : databaseSignature.Call}
    (h : ServerRun c state t start log s ps) (hmem : call ∈ ownCalls dataCall i log) :
    ∃ e ∈ log, e.tid = i ∧ e.call = call ∧
      ∃ calls, Originates c state (t.ambient i) (t.request i) calls call.1 := by
  obtain ⟨e, he, rfl, hdata, rfl⟩ := mem_ownCalls.mp hmem
  obtain ⟨before, after, rfl⟩ := List.append_of_mem he
  exact ⟨e, he, rfl, rfl, _, originates h hdata⟩

def answeredOk : Program databaseSignature Answer → Bool
  | .ret (.ok _) => true
  | _ => false

/-- The ETag reported by an answer `412 Precondition Failed`. -/
def reportedConflict : Program databaseSignature Answer → Option (Option String)
  | .ret (.error (.conflict _ _ _ etag)) => some etag
  | _ => none

/-- A PUT that answers with success has committed its write. -/
theorem put_answered_ok {i : Nat} {key : Key} {expectedEtag : Option String} {requireAbsent : Bool}
    (h : ServerRun c state t start log s ps)
    (hi : putTarget c (t.request i) = some (key, expectedEtag, requireAbsent))
    (ha : answeredOk (ps i) = true) :
    ∃ e ∈ log, e.tid = i ∧ succeededPut e.call = some (key, expectedEtag, requireAbsent) := by
  obtain ⟨out, ha⟩ : ∃ out, ps i = .ret (.ok out) := by
    unfold answeredOk at ha
    split at ha
    · exact ⟨_, ‹_›⟩
    · cases ha
  have hconc := h.concluded ha (handle_data (t.request i))
  cases hr : (t.request i).endpoint with
  | putObject rawNs rawPath body =>
    rw [Concludes, hr] at hconc
    obtain ⟨ns, path, expected, absent, data, m, hcalls⟩ := hconc.1 out rfl
    obtain ⟨e, he, htid, hcall, calls, ho⟩ := event_of_call h (hcalls ▸ List.mem_singleton.mpr rfl)
    refine ⟨e, he, htid, ?_⟩
    rw [hcall, ← hi, putTarget_object ho]
    rfl
  | putBlob rawNs revisions body =>
    rw [Concludes, hr] at hconc
    obtain ⟨ns, row, expected, absent, blob, m, hcalls⟩ := hconc.1 out rfl
    have hmem : (⟨.putBlobIfMatches ns expected absent blob m, .ok (.ok ())⟩ :
        databaseSignature.Call) ∈ ownCalls dataCall i log := by simp [hcalls]
    obtain ⟨e, he, htid, hcall, calls, ho⟩ := event_of_call h hmem
    refine ⟨e, he, htid, ?_⟩
    rw [hcall, ← hi, putTarget_snapshot ho]
    rfl
  | _ => simp [putTarget, hr] at hi

/-- A refused call and reads of metadata records are all a request needs to change nothing. -/
theorem sameData_of_refused {i : Nat} {call : databaseSignature.Call}
    {x : Key × Option String × Bool × Option String}
    (h : Linked (S := databaseSignature) (DbCall.exec c) start log s) (hrefused : refusedPut call = some x)
    (hcalls : ∀ other ∈ ownCalls dataCall i log,
      other = call ∨ ∃ ns row, other = ⟨.getMetadata ns, .ok row⟩) :
    ∀ e ∈ log, e.tid = i → SameData e.pre e.post := by
  intro e he htid
  obtain ⟨key, expected, absent, reported⟩ := x
  by_cases hdata : dataCall e.op = true
  · rcases hcalls e.call (mem_ownCalls.mpr ⟨e, he, htid, hdata, rfl⟩) with hcall | ⟨ns, row, hcall⟩
    · exact (refusedPut_cases (hcall ▸ hrefused) (h.effect he)).1
    · obtain ⟨tid, op, reply, pre, post⟩ := e
      cases hcall
      have hpost : post = pre := (h.effect he).of_ok.2
      subst hpost
      exact .refl post
  · exact sameData_of_not_dataCall (h.effect he) (by simpa using hdata)

/-- A PUT that answers with a conflict was refused by its transaction and has changed nothing. -/
theorem put_answered_conflict {i : Nat} {key : Key} {expectedEtag etag : Option String}
    {requireAbsent : Bool} (h : ServerRun c state t start log s ps)
    (hi : putTarget c (t.request i) = some (key, expectedEtag, requireAbsent))
    (ha : reportedConflict (ps i) = some etag) :
    (∃ e ∈ log, e.tid = i ∧ refusedPut e.call = some (key, expectedEtag, requireAbsent, etag) ∧
      etag = (key.cell e.pre).tag) ∧ ∀ e ∈ log, e.tid = i → SameData e.pre e.post := by
  obtain ⟨code, message, revision, ha⟩ :
      ∃ code message revision, ps i = .ret (.error (.conflict code message revision etag)) := by
    unfold reportedConflict at ha
    split at ha
    · obtain rfl := Option.some.inj ha
      exact ⟨_, _, _, ‹_›⟩
    · cases ha
  have hconc := h.concluded ha (handle_data (t.request i))
  cases hr : (t.request i).endpoint with
  | putObject rawNs rawPath body =>
    rw [Concludes, hr] at hconc
    obtain ⟨ns, path, expected, absent, data, m, hcalls⟩ := hconc.2 code message revision etag rfl
    obtain ⟨e, he, htid, hcall, calls, ho⟩ := event_of_call h (hcalls ▸ List.mem_singleton.mpr rfl)
    have htarget := (putTarget_object ho).symm.trans hi
    simp only [Option.some.injEq, Prod.mk.injEq] at htarget
    obtain ⟨rfl, rfl, rfl⟩ := htarget
    have hrefused : refusedPut e.call = some (.ofObject ns path, expected, absent, etag) := by
      rw [hcall]
      rfl
    refine ⟨⟨e, he, htid, hrefused, (refusedPut_cases hrefused (h.linked.effect he)).2⟩,
      sameData_of_refused h.linked hrefused fun other hother => ?_⟩
    rw [hcalls] at hother
    exact .inl ((List.mem_singleton.mp hother).trans hcall.symm)
  | putBlob rawNs revisions body =>
    rw [Concludes, hr] at hconc
    obtain ⟨ns, row, expected, absent, blob, m, hcalls⟩ := hconc.2 code message revision etag rfl
    have hmem : (⟨.putBlobIfMatches ns expected absent blob m,
        .ok (.error (.conflict revision etag message))⟩ : databaseSignature.Call) ∈
          ownCalls dataCall i log := by simp [hcalls]
    obtain ⟨e, he, htid, hcall, calls, ho⟩ := event_of_call h hmem
    have htarget := (putTarget_snapshot ho).symm.trans hi
    simp only [Option.some.injEq, Prod.mk.injEq] at htarget
    obtain ⟨rfl, rfl, rfl⟩ := htarget
    have hrefused : refusedPut e.call = some (.ofSnapshot ns, expected, absent, etag) := by
      rw [hcall]
      rfl
    refine ⟨⟨e, he, htid, hrefused, (refusedPut_cases hrefused (h.linked.effect he)).2⟩,
      sameData_of_refused h.linked hrefused fun other hother => ?_⟩
    rw [hcalls] at hother
    rcases List.mem_cons.mp hother with rfl | hother
    · exact .inr ⟨ns, row, rfl⟩
    · exact .inl ((List.mem_singleton.mp hother).trans hcall.symm)
  | _ => simp [putTarget, hr] at hi

end Answers

/-! ## The chain -/

section Chain
variable {t : Traffic} {start s : Db} {ps : Nat → Program databaseSignature Answer}
  {log before between after : List DbEvent} {key : Key} {etag : String}

/-- No two PUTs succeed with the same ETag. -/
theorem succeededPut_once (hu : t.FreshUuids) (hs : t.UnusedIn start) {e₁ e₂ : DbEvent}
    {absent₁ absent₂ : Bool}
    (h : ServerRun c state t start (before ++ e₁ :: (between ++ e₂ :: after)) s ps) (hne : etag ≠ "")
    (h₁ : succeededPut e₁.call = some (key, some etag, absent₁)) :
    succeededPut e₂.call ≠ some (key, some etag, absent₂) := by
  intro h₂
  have htag₁ := succeededPut_tag h₁ (h.linked.effect (by simp)) hne
  have htag₂ := succeededPut_tag h₂ (h.linked.effect (by simp)) hne
  have hidle := (cell_eq_of_tag_eq hu hs h htag₁ htag₂).1 e₁ List.mem_cons_self
  obtain ⟨tag, payload, hput⟩ := (succeededPut_cases h₁ (h.linked.effect (by simp))).2
  rw [hput] at hidle
  cases hidle

/-- A PUT replaces what was there when its ETag was installed; nothing happened since. -/
theorem succeededPut_replaces (hu : t.FreshUuids) (hs : t.UnusedIn start) {e₀ e : DbEvent}
    {absent : Bool}
    (h : ServerRun c state t start (before ++ e₀ :: (between ++ e :: after)) s ps)
    (h₀ : (key.change e₀).installs = some etag)
    (hput : succeededPut e.call = some (key, some etag, absent)) :
    (key.cell e.pre).payload = (key.cell e₀.post).payload ∧ ∀ e' ∈ between, key.change e' = .idle := by
  obtain ⟨hbefore, he₀, hrest⟩ := linked_middle h.linked
  obtain ⟨hbetween, he, _⟩ := linked_middle hrest
  have hinst := change_installs h₀
  have hne : etag ≠ "" := by
    rw [(originates h (dataCall_of_installs hinst)).tag_eq hinst]
    exact hu.nonempty e₀.tid 0
  have htag₀ : (key.cell e₀.post).tag = some etag := by
    rw [cell_change key he₀, Change.tag_apply, ← h₀]
    · rfl
    · intro hidle
      rw [show key.change e₀ = .idle from hidle] at h₀
      cases h₀
  have hupto : Linked (S := databaseSignature) (DbCall.exec c) start (before ++ [e₀]) e₀.post :=
    linked_append.mpr ⟨_, hbefore, rfl, he₀, rfl⟩
  have h' : ServerRun c state t start ((before ++ [e₀]) ++ between ++ e :: after) s ps := by
    simpa using h
  obtain ⟨hidle, hcell⟩ :=
    idle_while_current hu hs h' hupto hbetween htag₀ (succeededPut_tag hput he hne)
  exact ⟨by rw [hcell], hidle⟩

end Chain

/-- The conditional writes of a run form one chain on every key. -/
structure LinearChain (c : Crates) (t : Traffic) (log : List DbEvent)
    (ps : Nat → Program databaseSignature Answer) : Prop where
  once : ∀ before e₁ between e₂ after key etag absent₁ absent₂,
    log = before ++ e₁ :: (between ++ e₂ :: after) → etag ≠ "" →
      succeededPut e₁.call = some (key, some etag, absent₁) →
        succeededPut e₂.call ≠ some (key, some etag, absent₂)
  replaces : ∀ before e₀ between e after (key : Key) etag absent,
    log = before ++ e₀ :: (between ++ e :: after) → (key.change e₀).installs = some etag →
      succeededPut e.call = some (key, some etag, absent) →
        (key.cell e.pre).payload = (key.cell e₀.post).payload ∧
          ∀ e' ∈ between, key.change e' = .idle
  accepted : ∀ i key expectedEtag absent,
    putTarget c (t.request i) = some (key, expectedEtag, absent) → answeredOk (ps i) = true →
      ∃ e ∈ log, e.tid = i ∧ succeededPut e.call = some (key, expectedEtag, absent)
  refused : ∀ i key expectedEtag absent etag,
    putTarget c (t.request i) = some (key, expectedEtag, absent) →
      reportedConflict (ps i) = some etag →
        (∃ e ∈ log, e.tid = i ∧ refusedPut e.call = some (key, expectedEtag, absent, etag) ∧
          etag = (key.cell e.pre).tag) ∧ ∀ e ∈ log, e.tid = i → SameData e.pre e.post

theorem linearChain {t : Traffic} {start s : Db} {log : List DbEvent}
    {ps : Nat → Program databaseSignature Answer} (hu : t.FreshUuids) (hs : t.UnusedIn start)
    (h : ServerRun c state t start log s ps) : LinearChain c t log ps where
  once := by
    rintro before e₁ between e₂ after key etag absent₁ absent₂ rfl hne h₁
    exact succeededPut_once hu hs h hne h₁
  replaces := by
    rintro before e₀ between e after key etag absent rfl h₀ hput
    exact succeededPut_replaces hu hs h h₀ hput
  accepted := by
    intro i key expectedEtag absent hi ha
    exact put_answered_ok h hi ha
  refused := by
    intro i key expectedEtag absent etag hi ha
    exact put_answered_conflict h hi ha

/-- Request 3 comes too late: its ETag is the one of request 0, and request 2 has
replaced it by its own. -/
def lateWrite : List (Nat × Option String) := readAtOnce ++ steps 2 20 ++ steps 3 20

theorem linearChain_lateWrite :
    (∃ e ∈ (playNotes 0 lateWrite).1, e.tid = 3 ∧
      refusedPut e.call = some (notesKey, some (numberedUuid 0 0), false, some (numberedUuid 2 0)) ∧
      some (numberedUuid 2 0) = (notesKey.cell e.pre).tag) ∧
    ∀ e ∈ (playNotes 0 lateWrite).1, e.tid = 3 → SameData e.pre e.post := by
  have htarget : putTarget clientCrates ((notesTraffic 0).request 3) =
      some (notesKey, some (numberedUuid 0 0), false) := by decide +kernel
  have hconflict : reportedConflict ((playNotes 0 lateWrite).2.2 3) =
      some (some (numberedUuid 2 0)) := by decide +kernel
  exact (linearChain (freshUuids_ofList _) (unusedIn_of_empty _ rfl rfl)
    (playNotes_run 0 lateWrite)).refused 3 notesKey _ _ _ htarget hconflict

end CloudSync
