import CloudSync.PayloadHistory
import CloudSync.Scenario

/-!
# Reading a payload with its ETag, then replacing it

A GET reads the payload and the ETag in two transactions. The pair it answers
with is good for a later `If-Match` exactly when the content stored under the
key was the same at both of them.
-/

namespace CloudSync

open Rust Transactions Tagged

set_option autoImplicit false

variable (c : Crates) (state : AppState)

/-- Key, body and ETag of a GET that has answered with all three. -/
def fetched (r : Request) (p : Program databaseSignature Answer) : Option (Key × Bytes × String) :=
  match r.endpoint, p.answer with
  | .getObject rawNs rawPath, some (.ok (.object (some payload))) =>
    match decodeNamespace c rawNs, decodeObjectPath rawPath, payload.etag with
    | .ok ns, .ok path, some etag => some (.ofObject ns path, payload.body, etag)
    | _, _, _ => none
  | .getBlob rawNs, some (.ok (.payload payload)) =>
    match decodeNamespace c rawNs, payload.etag with
    | .ok ns, some etag => some (.ofSnapshot ns, payload.body, etag)
    | _, _ => none
  | _, _ => none

/-- The two reads of a GET that finds a payload. -/
inductive Reads : Key → databaseSignature.Call → databaseSignature.Call → Bytes → Option String → Prop where
  | object (ns path : String) (stored : Bytes) (m : Option StoredObjectMetadata) :
      Reads (.ofObject ns path) ⟨.getObject ns path, .ok (some stored)⟩
        ⟨.getObjectMetadata ns path, .ok m⟩ stored (m.map (·.etag))
  | snapshot (ns : String) (stored : Bytes) (row : Option SyncMetadata) :
      Reads (.ofSnapshot ns) ⟨.getBlob ns, .ok (some stored)⟩ ⟨.getMetadata ns, .ok row⟩ stored
        (row.bind (·.etag))

/-- What a GET of the key would decrypt now. -/
def Key.content (key : Key) (db : Db) : Option (Except AppError Bytes) :=
  (key.cell db).payload.map (decryptIfNeeded c state)

/-- The content at the ETag read of GET `g` is the content at its payload read. -/
def ContentKept (log : List DbEvent) (g : Nat) (key : Key) : Prop :=
  ∀ before e₁ between e₂ after stored etag,
    log = before ++ e₁ :: (between ++ e₂ :: after) → e₁.tid = g → e₂.tid = g →
      Reads key e₁.call e₂.call stored etag → key.content c state e₂.pre = key.content c state e₁.pre

variable {c state} {t : Traffic} {start s : Db} {ps : Nat → Program databaseSignature Answer}
  {log : List DbEvent}

theorem parseHeaderValue_eq_some {value etag : String} (h : parseHeaderValue value = some etag) :
    value = etag := by
  unfold parseHeaderValue at h
  split at h
  · exact Option.some.inj h
  · cases h

theorem fetched_reads {g : Nat} {key : Key} {body : Bytes} {etag : String}
    (h : ServerRun c state t start log s ps)
    (hf : fetched c (t.request g) (ps g) = some (key, body, etag)) :
    ∃ read₁ read₂ stored, Reads key read₁ read₂ stored (some etag) ∧
      ownCalls dataCall g log = [read₁, read₂] ∧ decryptIfNeeded c state stored = .ok body := by
  unfold fetched at hf
  split at hf
  · rename_i rawNs rawPath payload hr ha
    have hconc := h.concluded (Program.answer_eq_some.mp ha) (handle_data (t.request g))
    rw [Concludes, hr] at hconc
    obtain ⟨ns, path, stored, m, hns, hpath, hcalls, hbody, hetag⟩ := hconc payload rfl
    cases hp : payload.etag with
    | none => simp [hns, hpath, hp] at hf
    | some e =>
      simp only [hns, hpath, hp, Option.some.injEq, Prod.mk.injEq] at hf
      obtain ⟨rfl, rfl, rfl⟩ := hf
      obtain ⟨row, rfl, hrow⟩ := Option.bind_eq_some_iff.mp (hetag.symm.trans hp)
      obtain rfl := parseHeaderValue_eq_some hrow
      exact ⟨_, _, stored, .object ns path stored (some row), hcalls, hbody⟩
  · rename_i rawNs payload hr ha
    have hconc := h.concluded (Program.answer_eq_some.mp ha) (handle_data (t.request g))
    rw [Concludes, hr] at hconc
    obtain ⟨ns, stored, row, hns, hcalls, hbody, hetag⟩ := hconc payload rfl
    cases hp : payload.etag with
    | none => simp [hns, hp] at hf
    | some e =>
      simp only [hns, hp, Option.some.injEq, Prod.mk.injEq] at hf
      obtain ⟨rfl, rfl, rfl⟩ := hf
      obtain ⟨e', he', hparse⟩ := Option.bind_eq_some_iff.mp (hetag.symm.trans hp)
      obtain ⟨m, hm, hme⟩ := Option.bind_eq_some_iff.mp he'
      obtain ⟨row, rfl, hslice⟩ := Option.bind_eq_some_iff.mp hm
      obtain ⟨rfl, _⟩ := SyncMetadata.fromSlice_eq_some.mp hslice
      obtain rfl := parseHeaderValue_eq_some hparse
      have hreads := Reads.snapshot ns stored (some m)
      rw [Option.bind_some, hme] at hreads
      exact ⟨_, _, stored, hreads, hcalls, hbody⟩
  · cases hf

/-- The reads see the cell of the key as it is, and leave it alone. -/
theorem reads_cell {key : Key} {e₁ e₂ : DbEvent} {stored : Bytes} {etag : Option String}
    (h : Reads key e₁.call e₂.call stored etag)
    (he₁ : Effect (S := databaseSignature) (DbCall.exec c) e₁.op e₁.reply e₁.pre e₁.post)
    (he₂ : Effect (S := databaseSignature) (DbCall.exec c) e₂.op e₂.reply e₂.pre e₂.post) :
    (key.cell e₁.pre).payload = some stored ∧ (key.cell e₂.pre).tag = etag := by
  obtain ⟨tid₁, op₁, reply₁, pre₁, post₁⟩ := e₁
  obtain ⟨tid₂, op₂, reply₂, pre₂, post₂⟩ := e₂
  generalize hc₁ : Event.call ⟨tid₁, op₁, reply₁, pre₁, post₁⟩ = call₁ at h
  generalize hc₂ : Event.call ⟨tid₂, op₂, reply₂, pre₂, post₂⟩ = call₂ at h
  cases h with
  | object ns path stored m =>
    cases hc₁
    cases hc₂
    refine ⟨he₁.of_ok.1.symm, ?_⟩
    rw [he₂.of_ok.1]
    rfl
  | snapshot ns stored row =>
    cases hc₁
    cases hc₂
    refine ⟨he₁.of_ok.1.symm, ?_⟩
    rw [he₂.of_ok.1]
    rfl

/-- A two-call record stands at two positions of the log. -/
theorem reads_position {g : Nat} {read₁ read₂ : databaseSignature.Call}
    (h : ownCalls dataCall g log = [read₁, read₂]) :
    ∃ before e₁ between e₂ after, log = before ++ e₁ :: (between ++ e₂ :: after) ∧
      e₁.tid = g ∧ e₂.tid = g ∧ e₁.call = read₁ ∧ e₂.call = read₂ := by
  obtain ⟨before, e₁, rest, rfl, htid₁, hcall₁, _, hrest⟩ := ownCalls_eq_cons h
  obtain ⟨between, e₂, after, rfl, htid₂, hcall₂, _, _⟩ := ownCalls_eq_cons hrest
  exact ⟨before, e₁, between, e₂, after, rfl, htid₁, htid₂, hcall₁, hcall₂⟩

/-- And at no two others. -/
theorem reads_unique {g : Nat} {read₁ read₂ : databaseSignature.Call}
    {before between after : List DbEvent} {e₁ e₂ : DbEvent}
    (h : ownCalls dataCall g (before ++ e₁ :: (between ++ e₂ :: after)) = [read₁, read₂])
    (htid₁ : e₁.tid = g) (htid₂ : e₂.tid = g) (hdata₁ : dataCall e₁.op = true)
    (hdata₂ : dataCall e₂.op = true) : e₁.call = read₁ ∧ e₂.call = read₂ := by
  have hcons : ∀ {e : DbEvent} {rest : List DbEvent}, e.tid = g → dataCall e.op = true →
      ownCalls dataCall g (e :: rest) = e.call :: ownCalls dataCall g rest := by
    intro e rest htid hdata
    simp [ownCalls, htid, hdata]
  rw [ownCalls_append, hcons htid₁ hdata₁, ownCalls_append, hcons htid₂ hdata₂] at h
  have hlen := congrArg List.length h
  simp only [List.length_append, List.length_cons, List.length_nil] at hlen
  have hbefore : ownCalls dataCall g before = [] := List.length_eq_zero_iff.mp (by omega)
  have hbetween : ownCalls dataCall g between = [] := List.length_eq_zero_iff.mp (by omega)
  rw [hbefore, hbetween] at h
  simp only [List.nil_append, List.cons.injEq] at h
  exact ⟨h.1, h.2.1⟩

theorem reads_dataCall {key : Key} {read₁ read₂ : databaseSignature.Call} {stored : Bytes}
    {etag : Option String} (h : Reads key read₁ read₂ stored etag) :
    dataCall read₁.1 = true ∧ dataCall read₂.1 = true := by
  cases h <;> exact ⟨rfl, rfl⟩

/-- What a later `If-Match` PUT overwrites is what the GET answered with, exactly
when the content did not change between the two reads of the GET. -/
theorem overwritten_content_iff (hu : t.FreshUuids) (hs : t.UnusedIn start)
    {before after : List DbEvent} {s₁ : Db} {ps₁ : Nat → Program databaseSignature Answer}
    {g : Nat} {key : Key} {body : Bytes} {etag : String} {requireAbsent : Bool} {e : DbEvent}
    (hget : ServerRun c state t start before s₁ ps₁)
    (hfetched : fetched c (t.request g) (ps₁ g) = some (key, body, etag))
    (hrun : ServerRun c state t start (before ++ after) s ps) (he : e ∈ after)
    (hput : succeededPut e.call = some (key, some etag, requireAbsent)) :
    key.content c state e.pre = some (.ok body) ↔ ContentKept c state before g key := by
  obtain ⟨read₁, read₂, stored, hreads, hcalls, hbody⟩ := fetched_reads hget hfetched
  obtain ⟨middle, rest, rfl⟩ := List.append_of_mem he
  -- The content the PUT overwrites is the content at the ETag read.
  have hsame : ∀ {l₀ l₁ l₂ : List DbEvent} {e₁ e₂ : DbEvent},
      before = l₀ ++ e₁ :: (l₁ ++ e₂ :: l₂) → e₁.call = read₁ → e₂.call = read₂ →
      (key.cell e₁.pre).payload = some stored ∧ key.cell e.pre = key.cell e₂.pre := by
    rintro l₀ l₁ l₂ e₁ e₂ rfl rfl rfl
    obtain ⟨_, he₁, hrest⟩ := linked_middle hget.linked
    obtain ⟨_, he₂, _⟩ := linked_middle hrest
    obtain ⟨hpayload, htag⟩ := reads_cell hreads he₁ he₂
    have hrun' : ServerRun c state t start
        ((l₀ ++ e₁ :: l₁) ++ e₂ :: ((l₂ ++ middle) ++ e :: rest)) s ps := by simpa using hrun
    obtain ⟨hpre, _, hrest'⟩ := linked_middle hrun'.linked
    obtain ⟨_, heff, _⟩ := linked_middle hrest'
    have hne : etag ≠ "" := by
      obtain ⟨s', ps', hprefix, hl⟩ := hrun'.take
      obtain rfl := hl.1
      exact tag_ne_empty hu hs hprefix htag
    exact ⟨hpayload, (cell_eq_of_tag_eq hu hs hrun' htag (succeededPut_tag hput heff hne)).2⟩
  obtain ⟨l₀, e₁, l₁, e₂, l₂, rfl, htid₁, htid₂, hcall₁, hcall₂⟩ := reads_position hcalls
  obtain ⟨hpayload, hcell⟩ := hsame rfl hcall₁ hcall₂
  have hcontent₁ : key.content c state e₁.pre = some (.ok body) := by
    rw [Key.content, hpayload, Option.map_some, hbody]
  have hcontent : key.content c state e.pre = key.content c state e₂.pre := by
    rw [Key.content, hcell, Key.content]
  constructor
  · intro hover before' e₁' between' e₂' after' stored' etag' hsplit htid₁' htid₂' hreads'
    obtain ⟨hdata₁, hdata₂⟩ := reads_dataCall hreads'
    rw [hsplit] at hcalls
    obtain ⟨hcall₁', hcall₂'⟩ := reads_unique hcalls htid₁' htid₂' hdata₁ hdata₂
    obtain ⟨hpayload', hcell'⟩ := hsame hsplit hcall₁' hcall₂'
    rw [Key.content, ← hcell', ← Key.content, hover, Key.content, hpayload', Option.map_some, hbody]
  · intro hkept
    have hreads' : Reads key e₁.call e₂.call stored (some etag) := by rw [hcall₁, hcall₂]; exact hreads
    rw [hcontent, hkept _ _ _ _ _ _ _ rfl htid₁ htid₂ hreads', hcontent₁]

/-! ## One GET between two PUTs -/

theorem overwritten_content_readAtOnce :
    ContentKept clientCrates plainState (playNotes 0 readAtOnce).1 1 notesKey := by
  have hfetched : fetched clientCrates ((notesTraffic 0).request 1) ((playNotes 0 readAtOnce).2.2 1) =
      some (notesKey, [1], numberedUuid 0 0) := by decide +kernel
  obtain ⟨e, he, hput, hover⟩ : ∃ e ∈ (playNotesOn 0 readAtOnce (steps 3 20)).1,
      succeededPut e.call = some (notesKey, some (numberedUuid 0 0), false) ∧
        notesKey.content clientCrates plainState e.pre = some (.ok [1]) := by decide +kernel
  exact (overwritten_content_iff (freshUuids_ofList _) (unusedIn_of_empty _ rfl rfl)
    (playNotes_run 0 readAtOnce) hfetched (playNotesOn_run 0 readAtOnce (steps 3 20)) he hput).mp hover

/-- The client reads the first body with the second ETag, and its conditional PUT
destroys the second body unseen. -/
theorem stale_read_loses_update :
    ∃ (before after : List DbEvent) (s₁ s : Db) (ps₁ ps : Nat → Program databaseSignature Answer)
      (etag : String), (notesTraffic 2).FreshUuids ∧ (notesTraffic 2).UnusedIn clientDb ∧
      ServerRun clientCrates plainState (notesTraffic 2) clientDb before s₁ ps₁ ∧
      ServerRun clientCrates plainState (notesTraffic 2) clientDb (before ++ after) s ps ∧
      fetched clientCrates ((notesTraffic 2).request 1) (ps₁ 1) = some (notesKey, [1], etag) ∧
      ∃ e ∈ after, succeededPut e.call = some (notesKey, some etag, false) ∧
        notesKey.content clientCrates plainState e.pre = some (.ok [2]) := by
  have hplay : fetched clientCrates ((notesTraffic 2).request 1) ((playNotes 2 readAround).2.2 1) =
        some (notesKey, [1], numberedUuid 2 0) ∧
      ∃ e ∈ (playNotesOn 2 readAround (steps 3 20)).1,
        succeededPut e.call = some (notesKey, some (numberedUuid 2 0), false) ∧
        notesKey.content clientCrates plainState e.pre = some (.ok [2]) := by decide +kernel
  exact ⟨_, _, _, _, _, _, numberedUuid 2 0, freshUuids_ofList _, unusedIn_of_empty _ rfl rfl,
    playNotes_run 2 readAround, playNotesOn_run 2 readAround (steps 3 20), hplay⟩

end CloudSync
