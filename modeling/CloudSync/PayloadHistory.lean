import CloudSync.DataWrites
import CloudSync.StoredCells

/-!
# Histories of payloads

In a run every ETag is installed once, so each key's history is a fresh sequence
of changes: while an ETag stays current nothing happens to the key.
-/

namespace CloudSync

open Rust Transactions Tagged

set_option autoImplicit false

/-! ## Installing an ETag -/

/-- The calls that can install an ETag, with the ETag. -/
inductive Installs (tag : String) : DbCall → Prop where
  | object (ns path : String) (expectedEtag : Option String) (requireAbsent : Bool) (data : Bytes)
      (m : StoredObjectMetadata) (hm : m.etag = tag) :
      Installs tag (.putObjectIfMatches ns path expectedEtag requireAbsent data m)
  | snapshot (ns : String) (expectedEtag : Option String) (requireAbsent : Bool) (blob : Bytes)
      (m : SyncMetadata) (hm : m.etag = some tag) :
      Installs tag (.putBlobIfMatches ns expectedEtag requireAbsent blob m)
  | record (ns : String) (data : SyncMetadata) (hm : data.etag = some tag) :
      Installs tag (.setMetadata ns data)

theorem dataCall_of_installs {tag : String} {call : DbCall} (h : Installs tag call) :
    dataCall call = true := by cases h <;> rfl

theorem installs_ite {p : Prop} [Decidable p] {a : Change String Bytes} {tag : String}
    (h : (if p then a else .idle).installs = some tag) : a.installs = some tag := by
  split at h
  · exact h
  · cases h

theorem change_installs {key : Key} {db : Db} {call : DbCall} {r : databaseSignature.Reply call}
    {tag : String} (h : (call.change key db r).installs = some tag) : Installs tag call := by
  cases call with
  | putObjectIfMatches ns path expectedEtag requireAbsent data m =>
    match r, h with
    | .ok (.ok ()), h => exact .object _ _ _ _ _ _ (Option.some.inj (installs_ite h))
  | putBlobIfMatches ns expectedEtag requireAbsent blob m =>
    match r, h with
    | .ok (.ok ()), h => exact .snapshot _ _ _ _ _ (installs_ite h)
  | setMetadata ns data =>
    match r, h with
    | .ok (), h => exact .record _ _ (installs_ite h)
  | deleteObject ns path =>
    match r, h with
    | .ok _, h => cases installs_ite h
  | hardDeleteNamespace ns =>
    match r, h with
    | .ok _, h => cases installs_ite h
  | _ => cases h

variable {c : Crates} {state : AppState}

/-- The ETag a request installs is its own. -/
theorem Originates.tag_eq {amb : Ambient} {r : Request} {calls : RecordedCalls} {call : DbCall}
    {tag : String} (h : Originates c state amb r calls call) (hi : Installs tag call) :
    tag = amb.newUuid 0 := by
  cases hi with
  | object ns path expectedEtag requireAbsent data m hm =>
    obtain ⟨_, _, _, _, _, _, _, _, _, _, h⟩ := h
    exact hm.symm.trans h
  | snapshot ns expectedEtag requireAbsent blob m hm =>
    obtain ⟨_, _, _, _, _, _, _, _, _, _, _, _, rfl⟩ := h
    exact (Option.some.inj hm).symm
  | record ns data hm =>
    rcases h with ⟨_, _, _, _, _, _, rfl⟩ | ⟨_, _, _, _, _, rfl⟩
    · exact (Option.some.inj hm).symm
    · cases hm

/-- A request that installs an ETag has not installed one before. -/
theorem Originates.first {amb : Ambient} {r : Request} {calls : RecordedCalls} {call : DbCall}
    {tag tag' : String} (h : Originates c state amb r calls call) (hi : Installs tag call)
    {earlier : databaseSignature.Call} (hmem : earlier ∈ calls) : ¬ Installs tag' earlier.1 := by
  have hcalls : calls = [] ∨ ∃ ns row, calls = [⟨.getMetadata ns, .ok row⟩] := by
    cases hi with
    | object =>
      obtain ⟨_, _, _, _, h, _⟩ := h
      exact .inl h
    | snapshot =>
      obtain ⟨_, _, _, row, _, h, _⟩ := h
      exact .inr ⟨_, row, h⟩
    | record =>
      rcases h with ⟨_, _, row, _, h, _⟩ | ⟨_, _, _, h, _⟩
      · exact .inr ⟨_, row, h⟩
      · exact .inr ⟨_, none, h⟩
  rcases hcalls with rfl | ⟨ns, row, rfl⟩
  · cases hmem
  · obtain rfl := List.mem_singleton.mp hmem
    rintro ⟨⟩

/-! ## Conditional writes that succeed -/

/-- Key and preconditions of a PUT whose write transaction commits. -/
def succeededPut : databaseSignature.Call → Option (Key × Option String × Bool)
  | ⟨.putObjectIfMatches ns path expectedEtag requireAbsent _ _, .ok (.ok ())⟩ =>
    some (.ofObject ns path, expectedEtag, requireAbsent)
  | ⟨.putBlobIfMatches ns expectedEtag requireAbsent _ _, .ok (.ok ())⟩ =>
    some (.ofSnapshot ns, expectedEtag, requireAbsent)
  | _ => none

theorem succeededPut_key {call : databaseSignature.Call} {key : Key} {expectedEtag : Option String}
    {requireAbsent : Bool} (h : succeededPut call = some (key, expectedEtag, requireAbsent)) :
    (∃ ns path, key = .ofObject ns path) ∨ ∃ ns, key = .ofSnapshot ns := by
  unfold succeededPut at h
  split at h
  · cases h
    exact .inl ⟨_, _, rfl⟩
  · cases h
    exact .inr ⟨_, rfl⟩
  · cases h

/-- A PUT that succeeds found its precondition to hold and replaces the payload. -/
theorem succeededPut_cases {key : Key} {e : DbEvent} {expectedEtag : Option String}
    {requireAbsent : Bool} (h : succeededPut e.call = some (key, expectedEtag, requireAbsent))
    (he : Effect (S := databaseSignature) (DbCall.exec c) e.op e.reply e.pre e.post) :
    PreconditionHolds (key.cell e.pre).tag (key.present e.pre) expectedEtag requireAbsent ∧
      ∃ tag payload, key.change e = .put tag payload := by
  obtain ⟨tid, op, reply, pre, post⟩ := e
  dsimp only at he ⊢
  unfold succeededPut at h
  split at h
  · rename_i ns path expected absent data m hcall
    cases hcall
    cases h
    rcases putObjectIfMatches_cases pre ns path expectedEtag requireAbsent data m with
      ⟨_, hc⟩ | ⟨hp, _⟩
    · have hout := he.of_ok.1
      rw [show (DbCall.exec c (.putObjectIfMatches ns path expectedEtag requireAbsent data m) pre) =
        _ from hc] at hout
      cases hout
    · exact ⟨hp, some m.etag, data, by simp [Key.change, DbCall.change]⟩
  · rename_i ns expected absent blob m hcall
    cases hcall
    cases h
    rcases putBlobIfMatches_cases pre ns expectedEtag requireAbsent blob m with
      ⟨_, hc⟩ | ⟨_, _, hc⟩ | ⟨hp, _⟩
    · have hout := he.of_ok.1
      rw [show (DbCall.exec c (.putBlobIfMatches ns expectedEtag requireAbsent blob m) pre) =
        _ from hc] at hout
      cases hout
    · have hout := he.of_ok.1
      rw [show (DbCall.exec c (.putBlobIfMatches ns expectedEtag requireAbsent blob m) pre) =
        _ from hc] at hout
      cases hout
    · exact ⟨hp, m.etag, blob, by simp [Key.change, DbCall.change]⟩
  · cases h

/-- With `If-Match` it replaces what is stored under that very ETag. -/
theorem succeededPut_tag {key : Key} {e : DbEvent} {etag : String} {requireAbsent : Bool}
    (h : succeededPut e.call = some (key, some etag, requireAbsent))
    (he : Effect (S := databaseSignature) (DbCall.exec c) e.op e.reply e.pre e.post)
    (hne : etag ≠ "") : (key.cell e.pre).tag = some etag := by
  have hp : (key.cell e.pre).tag.getD "" = etag := (succeededPut_cases h he).1
  cases htag : (key.cell e.pre).tag with
  | none =>
    rw [htag] at hp
    exact absurd hp.symm hne
  | some tag =>
    rw [htag] at hp
    exact congrArg some hp

/-! ## Every run -/

section Runs
variable {t : Traffic} {start s : Db} {ps : Nat → Program databaseSignature Answer}
  {log log' : List DbEvent}

/-- The stored ETags are non-empty, and none of them is one of those to be drawn. -/
structure Traffic.UnusedIn (t : Traffic) (start : Db) : Prop where
  unused : ∀ (key : Key) (i : Nat), (key.cell start).tag ≠ some ((t.ambient i).newUuid 0)
  nonempty : ∀ key : Key, (key.cell start).tag ≠ some ""

theorem unusedIn_of_empty (t : Traffic) {start : Db} (ho : start.objectMetadata = ∅)
    (hm : start.metadata = ∅) : t.UnusedIn start := by
  have hnone : ∀ key : Key, (key.cell start).tag = none := by
    intro key
    cases key <;> simp [Key.cell, ho, hm]
  constructor <;> simp [hnone]

theorem originates {e : DbEvent} (h : ServerRun c state t start (log ++ e :: log') s ps)
    (he : dataCall e.op = true) :
    Originates c state (t.ambient e.tid) (t.request e.tid) (ownCalls dataCall e.tid log) e.op :=
  h.recorded (handle_data (t.request e.tid)) he

/-- Two ETags that a run installs differ, on whatever keys. -/
theorem installs_ne (hu : t.FreshUuids) {e e' : DbEvent} {tag tag' : String}
    (h : ServerRun c state t start (log ++ e' :: log') s ps) (hmem : e ∈ log)
    (he : Installs tag e.op) (he' : Installs tag' e'.op) : tag ≠ tag' := by
  have ho' := originates h (dataCall_of_installs he')
  obtain ⟨before, after, rfl⟩ := List.append_of_mem hmem
  have h' : ServerRun c state t start (before ++ e :: (after ++ e' :: log')) s ps := by simpa using h
  have ho := originates h' (dataCall_of_installs he)
  intro heq
  rw [ho.tag_eq he, ho'.tag_eq he'] at heq
  have htid : e.tid = e'.tid := (hu.distinct _ _ _ _ heq).1
  refine ho'.first he' (?_ : e.call ∈ _) he
  exact mem_ownCalls.mpr ⟨e, by simp, htid, dataCall_of_installs he, rfl⟩

theorem mem_installs {key : Key} {tag : String} :
    tag ∈ (log.map key.change).filterMap Change.installs ↔
      ∃ e ∈ log, (key.change e).installs = some tag := by
  simp [List.mem_filterMap]

/-- The history of every key is fresh. -/
theorem fresh (hu : t.FreshUuids) (hs : t.UnusedIn start) (h : ServerRun c state t start log s ps)
    (key : Key) : Fresh (key.cell start) (log.map key.change) := by
  constructor
  · induction log using List.reverseRecOn generalizing s ps with
    | nil => simp
    | append_singleton log e ih =>
      obtain ⟨s', ps', h', _⟩ := h.take
      cases hi : (key.change e).installs with
      | none => simpa [hi] using ih h'
      | some tag =>
        have hnew : tag ∉ (log.map key.change).filterMap Change.installs := by
          intro hmem
          obtain ⟨e', he', hi'⟩ := mem_installs.mp hmem
          exact installs_ne hu h he' (change_installs hi') (change_installs hi) rfl
        have hconcat := (ih h').concat hnew
        simpa [List.concat_eq_append, hi] using hconcat
  · intro tag htag hmem
    obtain ⟨e, he, hi⟩ := mem_installs.mp hmem
    obtain ⟨before, after, rfl⟩ := List.append_of_mem he
    have hinst := change_installs hi
    rw [(originates h (dataCall_of_installs hinst)).tag_eq hinst] at htag
    exact hs.unused key e.tid htag

theorem tag_ne_empty (hu : t.FreshUuids) (hs : t.UnusedIn start)
    (h : ServerRun c state t start log s ps) {key : Key} {tag : String}
    (htag : (key.cell s).tag = some tag) : tag ≠ "" := by
  rw [cell_replay key h.linked] at htag
  rcases tag_origin htag with hstart | ⟨a, ha, hi⟩
  · rintro rfl
    exact hs.nonempty key hstart
  · obtain ⟨e, he, rfl⟩ := List.mem_map.mp ha
    obtain ⟨before, after, rfl⟩ := List.append_of_mem he
    have hinst := change_installs hi
    rw [(originates h (dataCall_of_installs hinst)).tag_eq hinst]
    exact hu.nonempty e.tid 0

/-- While an ETag stays current, nothing happens to its key. -/
theorem idle_while_current (hu : t.FreshUuids) (hs : t.UnusedIn start) {between rest : List DbEvent}
    {s₁ s₂ : Db} (h : ServerRun c state t start (log ++ between ++ rest) s ps)
    (h₁ : Linked (S := databaseSignature) (DbCall.exec c) start log s₁)
    (h₂ : Linked (S := databaseSignature) (DbCall.exec c) s₁ between s₂)
    {key : Key} {tag : String} (htag₁ : (key.cell s₁).tag = some tag)
    (htag₂ : (key.cell s₂).tag = some tag) :
    (∀ e ∈ between, key.change e = .idle) ∧ key.cell s₂ = key.cell s₁ := by
  have hf := (fresh hu hs h key)
  rw [List.map_append] at hf
  replace hf := hf.left
  rw [List.map_append] at hf
  rw [cell_replay key h₁] at htag₁
  have hidle := hf.idle_between htag₁ (by
    rw [replay_append, ← cell_replay key h₁, ← cell_replay key h₂, htag₂])
  refine ⟨fun e he => hidle _ (List.mem_map_of_mem he), ?_⟩
  rw [cell_replay key h₂, replay_idle hidle]

/-- Two events that find the same ETag current find the same payload. -/
theorem cell_eq_of_tag_eq (hu : t.FreshUuids) (hs : t.UnusedIn start) {between rest : List DbEvent}
    {e₁ e₂ : DbEvent} (h : ServerRun c state t start (log ++ e₁ :: (between ++ e₂ :: rest)) s ps)
    {key : Key} {tag : String} (htag₁ : (key.cell e₁.pre).tag = some tag)
    (htag₂ : (key.cell e₂.pre).tag = some tag) :
    (∀ e ∈ e₁ :: between, key.change e = .idle) ∧ key.cell e₂.pre = key.cell e₁.pre := by
  obtain ⟨h₁, he₁, hrest⟩ := linked_middle h.linked
  obtain ⟨h₂, _, _⟩ := linked_middle hrest
  have hlinked : Linked (S := databaseSignature) (DbCall.exec c) e₁.pre (e₁ :: between) e₂.pre :=
    ⟨rfl, he₁, h₂⟩
  have h' : ServerRun c state t start (log ++ e₁ :: between ++ e₂ :: rest) s ps := by simpa using h
  exact idle_while_current hu hs h' h₁ hlinked htag₁ htag₂

end Runs

end CloudSync
