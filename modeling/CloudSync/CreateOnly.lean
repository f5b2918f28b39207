import CloudSync.WriteChain

/-!
# Create-only writes

`If-None-Match: *` asks the metadata tables whether a payload is there. The
answer is right as long as every stored payload is described by its metadata,
and `admin_create_namespace` is the one handler that can break this: it looks
for a record in one transaction and writes an empty one in a later one.
-/

namespace CloudSync

open Rust Transactions Tagged

set_option autoImplicit false

variable {c : Crates} {state : AppState}

/-- Every stored payload has the metadata that `If-None-Match: *` looks at. -/
structure Described (db : Db) : Prop where
  objects : ∀ key : String, db.objects[key]? ≠ none → (db.objectMetadata[key]?).isSome
  blobs : ∀ ns, db.getBlob ns ≠ none → (db.getMetadata ns).any (·.exists)

/-- Object payloads come and go together with their metadata. -/
theorem objectMetadata_step (key : String) {call : DbCall} {r : databaseSignature.Reply call}
    {db db' : Db} (h : Effect (S := databaseSignature) (DbCall.exec c) call r db db')
    (hkey : db.objects[key]? ≠ none → (db.objectMetadata[key]?).isSome) :
    db'.objects[key]? ≠ none → (db'.objectMetadata[key]?).isSome := by
  have hcell := cell_change (.object key) h
  have hform : call.change (.object key) db r = .idle ∨ call.change (.object key) db r = .clear ∨
      ∃ tag payload, call.change (.object key) db r = .put (some tag) payload := by
    cases call with
    | putObjectIfMatches ns path expectedEtag requireAbsent data m =>
      rcases r with fault | (error | _)
      · exact .inl rfl
      · exact .inl rfl
      · by_cases hk : Key.ofObject ns path = .object key <;> simp [DbCall.change, hk]
    | putBlobIfMatches ns expectedEtag requireAbsent blob m =>
      rcases r with fault | (error | _)
      · exact .inl rfl
      · exact .inl rfl
      · exact .inl (by simp [DbCall.change, Key.ofSnapshot])
    | setMetadata ns data =>
      rcases r with fault | _
      · exact .inl rfl
      · exact .inl (by simp [DbCall.change, Key.ofSnapshot])
    | deleteObject ns path =>
      rcases r with fault | _
      · exact .inl rfl
      · by_cases hk : Key.ofObject ns path = .object key <;> simp [DbCall.change, hk]
    | hardDeleteNamespace ns =>
      rcases r with fault | _
      · exact .inl rfl
      · by_cases hk : Key.ofSnapshot ns = .object key ∨ Key.object key ∈ (db.purgedKeys ns).map .object
        · exact .inr (.inl (by rw [DbCall.change, if_pos hk]))
        · exact .inl (by rw [DbCall.change, if_neg hk])
    | _ => exact .inl rfl
  have htag : db'.objectMetadata[key]?.map (·.etag) = ((Key.object key).cell db').tag := rfl
  have hpayload : db'.objects[key]? = ((Key.object key).cell db').payload := rfl
  rw [hpayload, ← Option.isSome_map (f := fun m : StoredObjectMetadata => m.etag), htag, hcell]
  rcases hform with hc | hc | ⟨tag, payload, hc⟩
  · rw [hc]
    simpa [Change.apply, Key.cell] using hkey
  · rw [hc]
    exact fun hne => absurd rfl hne
  · rw [hc]
    exact fun _ => rfl

/-- The namespace whose record a committed `set_metadata` has written. -/
def recordWritten : databaseSignature.Call → Option String
  | ⟨.setMetadata ns _, .ok ()⟩ => some ns
  | _ => none

def Request.createsNamespace (r : Request) : Bool :=
  match r.endpoint with
  | .adminCreateNamespace _ => true
  | _ => false

/-- `admin_create_namespace` writes its record only where no blob is stored. -/
def CreatesVacant (t : Traffic) (log : List DbEvent) : Prop :=
  ∀ e ∈ log, (t.request e.tid).createsNamespace = true →
    ∀ ns ∈ recordWritten e.call, e.pre.getBlob ns = none

instance (t : Traffic) (log : List DbEvent) : Decidable (CreatesVacant t log) :=
  inferInstanceAs (Decidable (∀ e ∈ log, _ → ∀ ns ∈ recordWritten e.call, _))

/-- A transaction keeps the tables described, unless it is `admin_create_namespace`
writing its empty record over that of a stored blob. -/
theorem Described.step {amb : Ambient} {r : Request} {calls : RecordedCalls} {call : DbCall}
    {reply : databaseSignature.Reply call} {db db' : Db} (hd : Described db)
    (h : Effect (S := databaseSignature) (DbCall.exec c) call reply db db')
    (ho : dataCall call = true → Originates c state amb r calls call)
    (hvacant : r.createsNamespace = true → ∀ ns ∈ recordWritten ⟨call, reply⟩, db.getBlob ns = none) :
    Described db' where
  objects key := objectMetadata_step key h (hd.objects key)
  blobs ns hblob := by
    have hsnapshot : ∀ {row : Option SyncMetadata} {blob : Option Bytes},
        db'.snapshot ns = (row, blob) → db'.getMetadata ns = row ∧ db'.getBlob ns = blob :=
      fun h => Prod.mk.inj h
    cases snapshotStep ns h with
    | same _ hs =>
      obtain ⟨hm, hb⟩ := hsnapshot hs
      rw [hm]
      exact hd.blobs ns (hb ▸ hblob)
    | upload expectedEtag requireAbsent blob m hcall hs =>
      obtain ⟨rfl, -⟩ := Sigma.mk.inj hcall
      obtain ⟨_, _, _, row, _, _, _, _, _, _, revision, deviceId, rfl⟩ := ho rfl
      rw [(hsnapshot hs).1]
      rfl
    | describe data hcall hs =>
      obtain ⟨rfl, -⟩ := Sigma.mk.inj hcall
      rcases ho rfl with ⟨_, _, row, _, _, _, rfl⟩ | ⟨requested, hr, _⟩
      · rw [(hsnapshot hs).1]
        rfl
      · rw [(hsnapshot hs).2] at hblob
        refine absurd (hvacant ?_ ns ?_) hblob
        · rw [Request.createsNamespace, hr]
        · rw [hcall]
          rfl
    | purge hcall hs => exact absurd (hsnapshot hs).2 hblob

section Runs
variable {t : Traffic} {start s : Db} {ps : Nat → Program databaseSignature Answer}
  {log : List DbEvent}

theorem described_at (hd : Described start) (h : ServerRun c state t start log s ps)
    (hvacant : CreatesVacant t log) {before after : List DbEvent} {e : DbEvent}
    (hlog : log = before ++ e :: after) : Described e.pre := by
  subst hlog
  refine h.linked.history_at (I := fun _ => Described) hd fun l e' l' hsplit hpre => ?_
  rw [hsplit] at h hvacant
  exact hpre.step (h.linked.effect (by simp)) (originates h) (hvacant e' (by simp))

end Runs

/-- What a create-only PUT is for. -/
structure CreatesOnly (c : Crates) (t : Traffic) (log : List DbEvent)
    (ps : Nat → Program databaseSignature Answer) : Prop where
  /-- A PUT that is answered with success has committed its write. -/
  committed : ∀ i key, putTarget c (t.request i) = some (key, none, true) →
    answeredOk (ps i) = true → ∃ e ∈ log, e.tid = i ∧ succeededPut e.call = some (key, none, true)
  absent : ∀ e ∈ log, ∀ key : Key, succeededPut e.call = some (key, none, true) →
    (key.cell e.pre).payload = none
  once : ∀ before e₁ between e₂ after (key : Key), log = before ++ e₁ :: (between ++ e₂ :: after) →
    succeededPut e₁.call = some (key, none, true) → succeededPut e₂.call = some (key, none, true) →
      ∃ e ∈ between, key.change e = .clear

theorem createsOnly {t : Traffic} {start s : Db} {log : List DbEvent}
    {ps : Nat → Program databaseSignature Answer} (hd : Described start)
    (h : ServerRun c state t start log s ps) (hvacant : CreatesVacant t log) :
    CreatesOnly c t log ps := by
  have habsent : ∀ e ∈ log, ∀ key : Key, succeededPut e.call = some (key, none, true) →
      (key.cell e.pre).payload = none := by
    intro e he key hput
    obtain ⟨before, after, hlog⟩ := List.append_of_mem he
    have hpre := described_at hd h hvacant hlog
    have hfree : key.present e.pre = false := (succeededPut_cases hput (h.linked.effect he)).1 rfl
    by_contra hne
    have hpresent : key.present e.pre = true := by
      rcases succeededPut_key hput with ⟨ns, path, rfl⟩ | ⟨ns, rfl⟩
      · exact hpre.objects _ hne
      · exact hpre.blobs ns hne
    rw [hfree] at hpresent
    cases hpresent
  refine ⟨fun i key => put_answered_ok h, habsent, ?_⟩
  rintro before e₁ between e₂ after key rfl h₁ h₂
  obtain ⟨_, he₁, hrest⟩ := linked_middle h.linked
  obtain ⟨hbetween, _, _⟩ := linked_middle hrest
  have hlost := habsent e₂ (by simp) key h₂
  rw [cell_replay key hbetween] at hlost
  obtain ⟨tag, payload, hput⟩ := (succeededPut_cases h₁ he₁).2
  have hstored : (key.cell e₁.post).payload ≠ none := by
    rw [cell_change key he₁, show e₁.op.change key e₁.pre e₁.reply = _ from hput]
    exact Option.some_ne_none payload
  obtain ⟨e, he, hclear⟩ := List.mem_map.mp (clear_of_lost hstored hlost)
  exact ⟨e, he, hclear⟩

/-! ## A namespace created twice at once -/

/-- An administrator creates the namespace `work` while two clients store its first
snapshot, each under the condition that there is none. -/
def workTraffic : Traffic := Traffic.ofList
  [panelRequest (.adminCreateNamespace "work"),
   clientRequest (.putBlob "work" none [1]) [("if-none-match", "*")],
   clientRequest (.putBlob "work" none [2]) [("if-none-match", "*")]]

def playWork (schedule : List (Nat × Option String)) :=
  play (S := databaseSignature) (DbCall.exec panelCrates) schedule panelDb
    (workTraffic.program panelCrates plainState)

theorem playWork_run (schedule : List (Nat × Option String)) :
    ServerRun panelCrates plainState workTraffic panelDb (playWork schedule).1
      (playWork schedule).2.1 (playWork schedule).2.2 := play_run _ _ _ _

theorem playWork_short (schedule : List (Nat × Option String)) :
    playWork schedule = playShortened panelCrates plainState workTraffic panelDb schedule := by
  apply play_shortened knowsAdmin_panelCrates
  exact ⟨.panel _ rfl, .client _ _ rfl, .client _ _ rfl⟩

theorem described_panelDb : Described panelDb where
  objects key := by simp [panelDb, clientDb]
  blobs ns := by simp [panelDb, clientDb, Db.getBlob]

/-- The administrator is done before the clients start. -/
def createdFirst : List (Nat × Option String) := steps 0 20 ++ steps 1 20 ++ steps 2 20

set_option maxRecDepth 10000 in
theorem createsOnly_createdFirst :
    ∃ e ∈ (playWork createdFirst).1, e.tid = 1 ∧
      succeededPut e.call = some (.ofSnapshot "work", none, true) := by
  have hplay : CreatesVacant workTraffic (playWork createdFirst).1 ∧
      putTarget panelCrates (workTraffic.request 1) = some (.ofSnapshot "work", none, true) ∧
      answeredOk ((playWork createdFirst).2.2 1) = true := by
    rw [playWork_short]
    decide +kernel
  exact (createsOnly described_panelDb (playWork_run createdFirst) hplay.1).committed 1 _ hplay.2.1 hplay.2.2

/-- The empty record is written between the two uploads. -/
def createdBetween : List (Nat × Option String) :=
  steps 0 4 ++ steps 1 20 ++ steps 0 20 ++ steps 2 20

set_option maxRecDepth 10000 in
/-- The second upload succeeds too, and destroys the first. -/
theorem create_only_overwrites :
    ∃ (log : List DbEvent) (s : Db) (ps : Nat → Program databaseSignature Answer),
      ServerRun panelCrates plainState workTraffic panelDb log s ps ∧
      putTarget panelCrates (workTraffic.request 2) = some (.ofSnapshot "work", none, true) ∧
      answeredOk (ps 1) = true ∧ answeredOk (ps 2) = true ∧
      ∃ e ∈ log, e.tid = 2 ∧ succeededPut e.call = some (.ofSnapshot "work", none, true) ∧
        ((Key.ofSnapshot "work").cell e.pre).payload = some [1] := by
  have hplay : putTarget panelCrates (workTraffic.request 2) = some (.ofSnapshot "work", none, true) ∧
      answeredOk ((playWork createdBetween).2.2 1) = true ∧
      answeredOk ((playWork createdBetween).2.2 2) = true ∧
      ∃ e ∈ (playWork createdBetween).1, e.tid = 2 ∧
        succeededPut e.call = some (.ofSnapshot "work", none, true) ∧
        ((Key.ofSnapshot "work").cell e.pre).payload = some [1] := by
    rw [playWork_short]
    decide +kernel
  exact ⟨_, _, _, playWork_run createdBetween, hplay⟩

end CloudSync
