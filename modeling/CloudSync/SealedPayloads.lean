import CloudSync.ObjectAddresses
import CloudSync.PayloadHistory
import CloudSync.RevealedSecrets
import CloudSync.StoreRefinement

/-!
# Payloads across restarts

As long as processes are started with the same key, a stored payload is what some `PUT`
has sent to its address, sealed with that key, whichever process has stored it. So every
process can serve it again, and serves nothing else.
-/

namespace CloudSync

open Rust Redb Transactions Transactions.Fallible Tagged

set_option autoImplicit false

/-- A process started with this key, with nonces of the length the cipher draws. -/
structure SameKey (encryptionKey : Option Bytes) (life : Life) : Prop where
  key : configuredKey life.cli = .ok encryptionKey
  nonces : ∀ i k, ((life.traffic.ambient i).nonce k).length = 12

/-- The key of the payload that a request is about. -/
def Endpoint.payloadKey (c : Crates) : Endpoint → Option Key
  | .getObject ns path | .putObject ns path _ => do
    let ns ← (decodeNamespace c ns).toOption
    let path ← (decodeObjectPath path).toOption
    return .ofObject ns path
  | .getBlob ns | .putBlob ns _ _ => (decodeNamespace c ns).toOption.map Key.ofSnapshot
  | _ => none

/-- The payload that a request uploads, and the limit for it. -/
def Endpoint.upload (cli : Cli) : Endpoint → Option (Bytes × Nat)
  | .putObject _ _ body => some (body, cli.maxObjectSize)
  | .putBlob _ _ body => some (body, cli.maxBlobSize)
  | _ => none

/-- The requests that are answered with a payload. -/
def Endpoint.downloads : Endpoint → Bool
  | .getObject .. | .getBlob _ => true
  | _ => false

/-- The payload that an answer carries. -/
def carriedPayload : Answer → Option Bytes
  | .ok (.object answer) => answer.map (·.body)
  | .ok (.payload answer) => some answer.body
  | _ => none

/-- A process with `P` was asked to store this payload, which is within its limits. -/
def Submitted (c : Crates) (P : Life → Prop) (key : Key) (body : Bytes) : Prop :=
  ∃ life i limit, P life ∧ (life.traffic.request i).endpoint.payloadKey c = some key ∧
    (life.traffic.request i).endpoint.upload life.cli = some (body, limit) ∧ body.length ≤ limit

/-- What is stored for a payload. -/
def Sealed (c : Crates) (encryptionKey : Option Bytes) (body stored : Bytes) : Prop :=
  match encryptionKey with
  | some key => ∃ nonce, nonce.length = 12 ∧ encrypt c key nonce body = .ok stored
  | none => stored = body

def PayloadsKept (c : Crates) (P : Life → Prop) (encryptionKey : Option Bytes) (db : Db) : Prop :=
  ∀ key stored, (Key.cell key db).payload = some stored →
    ∃ body, Submitted c P key body ∧ Sealed c encryptionKey body stored

/-- The call finds a stored payload. -/
inductive Finds : databaseSignature.Call → Key → Bytes → Prop where
  | object (ns path : String) (stored : Bytes) :
    Finds ⟨.getObject ns path, .ok (some stored)⟩ (.ofObject ns path) stored
  | snapshot (ns : String) (stored : Bytes) :
    Finds ⟨.getBlob ns, .ok (some stored)⟩ (.ofSnapshot ns) stored

/-- The transaction fails, and this is the answer it leads to. -/
def FailsWith (call : databaseSignature.Call) (error : AppError) : Prop :=
  ∃ fault : String, call.2 = .error fault ∧ error = .internal ("Database error: " ++ fault)

/-- What holds of a run of a process with the same key as those before it. -/
structure PayloadsServed (c : Crates) (P : Life → Prop) (encryptionKey : Option Bytes) (t : Traffic)
    (log : List DbEvent) (ps : Nat → Program databaseSignature Answer) : Prop where
  /-- Nothing is stored that was not sent to its key, and nothing that is not sealed. -/
  atRest : ∀ e ∈ log, PayloadsKept c P encryptionKey e.pre ∧ PayloadsKept c P encryptionKey e.post
  /-- A payload in an answer is what is stored under the key when the request reads it. -/
  served : ∀ i answer body, ps i = .ret answer → carriedPayload answer = some body →
    ∃ key, (t.request i).endpoint.payloadKey c = some key ∧ Submitted c P key body ∧
      ∃ e ∈ log, e.tid = i ∧ ∃ stored, (key.cell e.pre).payload = some stored ∧
        Sealed c encryptionKey body stored
  /-- Once a payload has been found, only a read that fails keeps it from being served. -/
  readable : ∀ i error, (t.request i).endpoint.downloads = true → ps i = .ret (.error error) →
    ∀ e ∈ log, e.tid = i → ∀ key stored, Finds e.call key stored →
      ∃ failed ∈ log, failed.tid = i ∧ FailsWith failed.call error

variable {c : Crates} {state : AppState} {P : Life → Prop} {encryptionKey : Option Bytes}

/-! ## What is stored -/

/-- Only a `PUT` puts a payload into a cell. -/
theorem change_put {key : Key} {db : Db} {call : DbCall} {r : databaseSignature.Reply call}
    {tag : Option String} {stored : Bytes} (h : call.change key db r = .put tag stored) :
    (∃ ns path expectedEtag requireAbsent m,
      call = .putObjectIfMatches ns path expectedEtag requireAbsent stored m ∧
        key = .ofObject ns path) ∨
    ∃ ns expectedEtag requireAbsent m,
      call = .putBlobIfMatches ns expectedEtag requireAbsent stored m ∧ key = .ofSnapshot ns := by
  have hif : ∀ {p : Prop} [Decidable p] {a : Change String Bytes},
      (if p then a else .idle) = .put tag stored → p ∧ a = .put tag stored := by
    intro p _ a h
    split at h
    · next hp => exact ⟨hp, h⟩
    · cases h
  cases call with
  | putObjectIfMatches ns path expectedEtag requireAbsent data m =>
    match r, h with
    | .ok (.ok ()), h =>
      obtain ⟨hkey, hput⟩ := hif h
      cases hput
      exact .inl ⟨_, _, _, _, _, rfl, hkey.symm⟩
  | putBlobIfMatches ns expectedEtag requireAbsent blob m =>
    match r, h with
    | .ok (.ok ()), h =>
      obtain ⟨hkey, hput⟩ := hif h
      cases hput
      exact .inr ⟨_, _, _, _, rfl, hkey.symm⟩
  | setMetadata ns data =>
    match r, h with
    | .ok (), h => cases (hif h).2
  | deleteObject ns path =>
    match r, h with
    | .ok _, h => cases (hif h).2
  | hardDeleteNamespace ns =>
    match r, h with
    | .ok _, h => cases (hif h).2
  | _ => cases h

theorem PayloadsKept.step {db db' : Db} {call : DbCall} {r : databaseSignature.Reply call}
    (h : PayloadsKept c P encryptionKey db)
    (he : Effect (S := databaseSignature) (DbCall.exec c) call r db db')
    (hput : ∀ key tag stored, call.change key db r = .put tag stored →
      ∃ body, Submitted c P key body ∧ Sealed c encryptionKey body stored) :
    PayloadsKept c P encryptionKey db' := by
  intro key stored hstored
  rw [cell_change key he] at hstored
  cases hchange : call.change key db r with
  | idle =>
    rw [hchange] at hstored
    exact h key stored hstored
  | retag tag =>
    rw [hchange] at hstored
    exact h key stored hstored
  | put tag payload =>
    rw [hchange] at hstored
    obtain rfl := Option.some.inj hstored
    exact hput key tag payload hchange
  | clear =>
    rw [hchange] at hstored
    cases hstored

theorem sealed_encryptIfNeeded {nonce body stored : Bytes} (hnonce : nonce.length = 12)
    (h : encryptIfNeeded c state nonce body = .ok stored) : Sealed c state.encryptionKey body stored := by
  unfold encryptIfNeeded at h
  unfold Sealed
  cases hkey : state.encryptionKey with
  | none =>
    rw [hkey] at h
    exact (Except.ok.inj h).symm
  | some key =>
    rw [hkey] at h
    dsimp only at h ⊢
    cases hencrypt : encrypt c key nonce body with
    | ok encrypted =>
      rw [hencrypt] at h
      exact ⟨nonce, hnonce, hencrypt.trans (congrArg Except.ok (Except.ok.inj h))⟩
    | error e =>
      rw [hencrypt] at h
      cases h

/-- What is sealed with the key of the server is opened again. -/
theorem decryptIfNeeded_sealed (hc : c.AeadInverts) {body stored : Bytes}
    (h : Sealed c state.encryptionKey body stored) : decryptIfNeeded c state stored = .ok body := by
  unfold Sealed at h
  unfold decryptIfNeeded
  cases hkey : state.encryptionKey with
  | none =>
    rw [hkey] at h
    exact congrArg Except.ok h
  | some key =>
    rw [hkey] at h
    obtain ⟨nonce, hnonce, hencrypt⟩ := h
    dsimp only
    rw [decrypt_encrypt hc hnonce hencrypt]
    rfl

/-! ## The limits -/

/-- A payload is stored only by a request that keeps to the limit. -/
def WithinLimits (state : AppState) (r : Request) : DbCall → Prop
  | .putObjectIfMatches .. => ∀ ns path body, r.endpoint = .putObject ns path body →
    body.length ≤ state.maxObjectSize
  | .putBlobIfMatches .. => ∀ ns sectionRevisions body,
    r.endpoint = .putBlob ns sectionRevisions body → body.length ≤ state.maxBlobSize
  | _ => True

section Limits
variable {r : Request} {amb : Ambient} {rawNs : String} {body : Bytes}

/-- Behind the check of the size nothing is left to show. -/
theorem limited_rest {α : Type} {x : Handler α} {limit : Nat} {e : AppError}
    (h : body.length ≤ limit → ∀ call, WithinLimits state r call) :
    Triple (recording dataCall fun _ => WithinLimits state r) (do
      ensure (body.length ≤ limit) e
      x) (fun _ _ => True) (fun _ _ => True) [] := by
  rw [triple_bind, triple_ensure]
  refine ⟨fun hsize => ?_, fun _ => trivial⟩
  have hall : ∀ call, WithinLimits state r call := h (by simpa using hsize)
  have hcalls : x.run.Calls (S := databaseSignature) fun _ => True := calls_true x
  exact Calls.triple_allowed (Program.Calls.mono (fun call _ _ _ => hall call) hcalls)
    (fun _ _ => trivial) fun _ _ => trivial

theorem authorized_limited {α : Type} {permission : SyncPermission} {f : String → Handler α}
    (h : ∀ ns, Triple (recording dataCall fun _ => WithinLimits state r) (f ns) (fun _ _ => True)
      (fun _ _ => True) []) :
    Triple (recording dataCall fun _ => WithinLimits state r) (do
      let ns ← liftResult (decodeNamespace c rawNs)
      let _ ← authorizeSyncRequestWithPermission c state amb r.headers ns permission r.peer
      f ns) (fun _ _ => True) (fun _ _ => True) [] := by
  rw [triple_bind, triple_liftResult]
  refine ⟨fun ns _ => ?_, fun _ _ => trivial⟩
  exact .skip (calls_ignored (by simp) (authorize_calls ..)) (raises_true _) (fun _ _ => trivial)
    fun _ => h ns

theorem putObject_limited {rawPath : String} (hr : r.endpoint = .putObject rawNs rawPath body) :
    Triple (recording dataCall fun _ => WithinLimits state r)
      (putObject c state amb rawNs rawPath r.peer r.headers body) (fun _ _ => True)
      (fun _ _ => True) [] := by
  refine authorized_limited fun ns => ?_
  rw [triple_bind, triple_liftResult]
  refine ⟨fun path _ => limited_rest fun hsize call => ?_, fun _ _ => trivial⟩
  cases call with
  | putObjectIfMatches =>
    intro ns' path' body' hr'
    cases hr.symm.trans hr'
    exact hsize
  | putBlobIfMatches =>
    intro ns' sectionRevisions' body' hr'
    cases hr.symm.trans hr'
  | _ => trivial

theorem putBlob_limited {sectionRevisions : Option SectionRevisions}
    (hr : r.endpoint = .putBlob rawNs sectionRevisions body) :
    Triple (recording dataCall fun _ => WithinLimits state r)
      (putBlob c state amb rawNs r.peer r.headers sectionRevisions body) (fun _ _ => True)
      (fun _ _ => True) [] := by
  refine authorized_limited fun ns => limited_rest fun hsize call => ?_
  cases call with
  | putObjectIfMatches =>
    intro ns' path' body' hr'
    cases hr.symm.trans hr'
  | putBlobIfMatches =>
    intro ns' sectionRevisions' body' hr'
    cases hr.symm.trans hr'
    exact hsize
  | _ => trivial

theorem handle_limited : (handle c state amb r).run.Obeys
    (recording dataCall fun _ => WithinLimits state r) (fun _ _ => True) [] := by
  obtain ⟨endpoint, peer, headers⟩ := r
  by_cases hput : ∃ ns path body, endpoint = .putObject ns path body
  · obtain ⟨ns, path, body, rfl⟩ := hput
    exact obeys_wrapped (putObject_limited rfl) (fun _ _ _ => trivial) fun _ _ _ => trivial
  by_cases hblob : ∃ ns sectionRevisions body, endpoint = .putBlob ns sectionRevisions body
  · obtain ⟨ns, sectionRevisions, body, rfl⟩ := hblob
    exact obeys_wrapped (putBlob_limited rfl) (fun _ _ _ => trivial) fun _ _ _ => trivial
  · -- The other requests are not limited.
    refine Program.Calls.obeys_allowed (Program.calls_of_forall (fun call _ _ => ?_) _)
      (fun _ _ => trivial) _
    cases call with
    | putObjectIfMatches =>
      intro ns path body hr
      exact absurd ⟨ns, path, body, hr⟩ hput
    | putBlobIfMatches =>
      intro ns sectionRevisions body hr
      exact absurd ⟨ns, sectionRevisions, body, hr⟩ hblob
    | _ => trivial

end Limits

/-! ## Runs -/

section Runs
variable {life : Life} {s s' : Db} {log : List DbEvent} {ps : Nat → Program databaseSignature Answer}

theorem payloadsKept_new : PayloadsKept c P encryptionKey {} := by
  intro key stored h
  cases key <;> simp [Key.cell] at h

/-- A start writes no payload. -/
theorem payloadsKept_startUp {rest : Program databaseSignature (Except AppError AppState)}
    (h : PayloadsKept c P encryptionKey s)
    (hsteps : Steps (DbCall.exec c) (startUp c life.ambient life.cli).run s rest s') :
    PayloadsKept c P encryptionKey s' := by
  let K : Contract databaseSignature :=
    ⟨fun _ _ => True, fun call => ∀ key db r tag stored, call.change key db r ≠ .put tag stored⟩
  have hK : K.Sound (DbCall.exec c) (PayloadsKept c P encryptionKey) :=
    ⟨fun _ _ _ => trivial, fun call db hdb hnone => hdb.step (.commit call db)
      fun key tag stored hput => absurd hput (hnone key db _ tag stored)⟩
  have hstart : Honours K (startUp c life.ambient life.cli) (Configured c life) fun _ => True := by
    refine startUp_honours ?_ ?_ fun existing unchanged passwordHash _ _ => ?_
    · intro key db r tag stored hput
      cases hput
    · intro key db r tag stored hput
      cases hput
    · intro key db r tag stored hput
      cases hput
  exact (hsteps.honours hK hstart h).1

/-- What a request of this process puts into a cell. -/
theorem put_submitted (hP : P life) (hlife : SameKey encryptionKey life)
    (hconfigured : Configured c life state) {before after : List DbEvent} {e : DbEvent}
    (hrun : ServerRun c state life.traffic s (before ++ e :: after) s' ps) {key : Key}
    {tag : Option String} {stored : Bytes} (hput : key.change e = .put tag stored) :
    ∃ body, Submitted c P key body ∧ Sealed c encryptionKey body stored := by
  have hkey : state.encryptionKey = encryptionKey := by
    have := hconfigured.key.symm.trans hlife.key
    exact Except.ok.inj this
  have horigin := originates hrun
  have hlimit : dataCall e.op = true → WithinLimits state (life.traffic.request e.tid) e.op :=
    hrun.recorded handle_limited
  rcases change_put hput with ⟨ns, path, _, _, m, hop, rfl⟩ | ⟨ns, _, _, m, hop, rfl⟩
  · rw [hop] at horigin hlimit
    obtain ⟨rawNs, rawPath, body, hr, _, hns, hpath, _, _, hsealed, _⟩ := horigin rfl
    have hsize : body.length ≤ state.maxObjectSize := hlimit rfl _ _ _ hr
    rw [hconfigured.settings] at hsize
    refine ⟨body, ⟨life, e.tid, life.cli.maxObjectSize, hP, ?_, ?_, hsize⟩, ?_⟩
    · rw [hr]
      simp [Endpoint.payloadKey, hns, hpath, Except.toOption]
    · rw [hr]
      rfl
    · exact hkey ▸ sealed_encryptIfNeeded (hlife.nonces _ _) hsealed
  · rw [hop] at horigin hlimit
    obtain ⟨rawNs, sectionRevisions, body, row, hr, _, hns, _, _, hsealed, _⟩ := horigin rfl
    have hsize : body.length ≤ state.maxBlobSize := hlimit rfl _ _ _ hr
    rw [hconfigured.settings] at hsize
    refine ⟨body, ⟨life, e.tid, life.cli.maxBlobSize, hP, ?_, ?_, hsize⟩, ?_⟩
    · rw [hr]
      simp [Endpoint.payloadKey, hns, Except.toOption]
    · rw [hr]
      rfl
    · exact hkey ▸ sealed_encryptIfNeeded (hlife.nonces _ _) hsealed

theorem payloadsKept_run (hP : P life) (hlife : SameKey encryptionKey life)
    (hconfigured : Configured c life state) (hs : PayloadsKept c P encryptionKey s)
    (hrun : ServerRun c state life.traffic s log s' ps) :
    PayloadsKept c P encryptionKey s' ∧
      ∀ e ∈ log, PayloadsKept c P encryptionKey e.pre ∧ PayloadsKept c P encryptionKey e.post := by
  have hstep : ∀ before e after, log = before ++ e :: after →
      PayloadsKept c P encryptionKey e.pre → PayloadsKept c P encryptionKey e.post := by
    rintro before e after rfl hpre
    exact hpre.step (hrun.linked.effect (by simp)) fun key tag stored hput =>
      put_submitted hP hlife hconfigured hrun hput
  exact ⟨hrun.linked.history (I := fun _ => PayloadsKept c P encryptionKey) hs hstep,
    hrun.linked.kept (J := PayloadsKept c P encryptionKey) hs hstep⟩

theorem payloadsKept_operated (hsame : ∀ life, P life → SameKey encryptionKey life)
    (h : Operated c P s) : PayloadsKept c P encryptionKey s := by
  induction h with
  | created => exact payloadsKept_new
  | started life _ _ hsteps ih => exact payloadsKept_startUp ih hsteps
  | served life _ hP hstart hrun ih =>
    exact (payloadsKept_run hP (hsame life hP) (configured hstart) (payloadsKept_startUp ih hstart)
      hrun).1

end Runs

/-! ## The answers -/

/-- An error after a payload has been found that can be opened is that of a failed read. -/
def Excused (c : Crates) (state : AppState) (calls : RecordedCalls) (error : AppError) : Prop :=
  ∀ call ∈ calls, ∀ key stored body, Finds call key stored →
    decryptIfNeeded c state stored = .ok body → ∃ failed ∈ calls, FailsWith failed error

section Answers
variable {r : Request} {amb : Ambient} {rawNs : String}

theorem excused_of_failed {calls : RecordedCalls} {failed : databaseSignature.Call} {error : AppError}
    (hmem : failed ∈ calls) (h : FailsWith failed error) : Excused c state calls error :=
  fun _ _ _ _ _ _ _ => ⟨failed, hmem, h⟩

theorem excused_nil (error : AppError) : Excused c state [] error := by
  intro call hmem
  cases hmem

theorem getObject_excused {rawPath : String} :
    Triple (dataMonitor c state amb r) (getObject c state amb rawNs rawPath r.peer r.headers)
      (fun _ _ => True) (Excused c state) [] := by
  refine triple_authorized (fun e _ => excused_nil e) fun ns _ => ?_
  rw [triple_bind, triple_liftResult]
  refine ⟨fun path _ => ?_, fun e _ => excused_nil e⟩
  rw [triple_bind, triple_db]
  refine ⟨fun _ => trivial, fun found => ?_, fun fault => ?_⟩
  · cases found with
    | none => exact trivial
    | some encrypted =>
      rw [triple_bind, triple_liftResult]
      refine ⟨fun data _ => ?_, fun e he => ?_⟩
      · rw [triple_bind, triple_db]
        refine ⟨fun _ => trivial, fun _ => trivial, fun fault => ?_⟩
        exact excused_of_failed (List.mem_append_right _ (List.mem_singleton_self _)) ⟨fault, rfl, rfl⟩
      · intro call hmem key stored body hfinds hopens
        obtain rfl := List.mem_singleton.mp hmem
        cases hfinds
        rw [hopens] at he
        cases he
  · exact excused_of_failed (List.mem_singleton_self _) ⟨fault, rfl, rfl⟩

theorem getBlob_excused :
    Triple (dataMonitor c state amb r) (getBlob c state amb rawNs r.peer r.headers)
      (fun _ _ => True) (Excused c state) [] := by
  refine triple_authorized (fun e _ => excused_nil e) fun ns _ => ?_
  rw [triple_bind, triple_db]
  refine ⟨fun _ => trivial, fun found => ?_, fun fault => ?_⟩
  · rw [triple_bind, triple_okOr]
    refine ⟨?_, fun hnone => ?_⟩
    · rintro encrypted rfl
      rw [triple_bind, triple_liftResult]
      refine ⟨fun data _ => ?_, fun e he => ?_⟩
      · rw [triple_bind, triple_db]
        refine ⟨fun _ => trivial, fun _ => trivial, fun fault => ?_⟩
        exact excused_of_failed (List.mem_append_right _ (List.mem_singleton_self _)) ⟨fault, rfl, rfl⟩
      · intro call hmem key stored body hfinds hopens
        obtain rfl := List.mem_singleton.mp hmem
        cases hfinds
        rw [hopens] at he
        cases he
    · subst hnone
      intro call hmem key stored body hfinds
      obtain rfl := List.mem_singleton.mp hmem
      cases hfinds
  · exact excused_of_failed (List.mem_singleton_self _) ⟨fault, rfl, rfl⟩

theorem handle_excused (hr : r.endpoint.downloads = true) :
    (handle c state amb r).run.Obeys (dataMonitor c state amb r)
      (fun calls answer => ∀ error, answer = .error error → Excused c state calls error) [] := by
  obtain ⟨endpoint, peer, headers⟩ := r
  have hwrapped : ∀ {α : Type} {x : Handler α} {f : α → Response},
      Triple (dataMonitor c state amb ⟨endpoint, peer, headers⟩) x (fun _ _ => True)
        (Excused c state) [] →
      (x >>= fun a => pure (f a)).run.Obeys (dataMonitor c state amb ⟨endpoint, peer, headers⟩)
        (fun calls answer => ∀ error, answer = .error error → Excused c state calls error) [] := by
    intro α x f h
    refine obeys_wrapped h (fun _ _ _ error he => ?_) fun _ _ hexcused error he => ?_
    · cases he
    · cases he
      exact hexcused
  cases endpoint with
  | getObject ns path => exact hwrapped getObject_excused
  | getBlob ns => exact hwrapped getBlob_excused
  | _ => cases hr

/-- Only these requests are answered with a payload. -/
theorem handle_carries : (handle c state amb r).run.Returns fun answer =>
    ∀ body, carriedPayload answer = some body →
      (∃ ns path payload, r.endpoint = .getObject ns path ∧ answer = .ok (.object (some payload)) ∧
        payload.body = body) ∨
      ∃ ns payload, r.endpoint = .getBlob ns ∧ answer = .ok (.payload payload) ∧ payload.body = body := by
  obtain ⟨endpoint, peer, headers⟩ := r
  have hwrapped : ∀ {α : Type} {x : Handler α} {f : α → Response} {Q : Answer → Prop},
      (∀ a, Q (.ok (f a))) → (∀ e, Q (.error e)) → (x >>= fun a => pure (f a)).run.Returns Q := by
    intro α x f Q hok herr
    refine Program.Returns.bind (Program.returns_of_forall (fun _ => trivial) _) fun a _ => ?_
    cases a with
    | ok a => exact hok a
    | error e => exact herr e
  cases endpoint with
  | getObject ns path =>
    refine hwrapped (fun found body h => ?_) fun e body h => by cases h
    obtain ⟨payload, rfl, hbody⟩ := Option.map_eq_some_iff.mp h
    exact .inl ⟨ns, path, payload, rfl, rfl, hbody⟩
  | getBlob ns =>
    refine hwrapped (fun payload body h => ?_) fun e body h => by cases h
    exact .inr ⟨ns, payload, rfl, rfl, Option.some.inj h⟩
  | _ => exact hwrapped (fun _ body h => by cases h) fun e body h => by cases h

end Answers

section Found
variable {e : DbEvent} {key : Key} {stored : Bytes}

theorem Finds.present (h : Finds e.call key stored)
    (he : Effect (S := databaseSignature) (DbCall.exec c) e.op e.reply e.pre e.post) :
    (key.cell e.pre).payload = some stored := by
  generalize hcall : e.call = call at h
  cases h with
  | object ns path => exact replied he hcall
  | snapshot ns => exact replied he hcall

theorem Finds.data {call : databaseSignature.Call} (h : Finds call key stored) :
    dataCall call.1 = true := by
  cases h <;> rfl

end Found

/-- Processes that have the same key serve what was sent to them or to those before them. -/
theorem payloadsServed (hc : c.AeadInverts) (hsame : ∀ life, P life → SameKey encryptionKey life)
    {life : Life} {s s₁ s' : Db} {log : List DbEvent} {ps : Nat → Program databaseSignature Answer}
    (hs : Operated c P s) (hP : P life)
    (hstart : Steps (DbCall.exec c) (startUp c life.ambient life.cli).run s (.ret (.ok state)) s₁)
    (hrun : ServerRun c state life.traffic s₁ log s' ps) :
    PayloadsServed c P encryptionKey life.traffic log ps := by
  have hconfigured := configured hstart
  have hkey : state.encryptionKey = encryptionKey :=
    Except.ok.inj (hconfigured.key.symm.trans (hsame life hP).key)
  have hkept := (payloadsKept_run hP (hsame life hP) hconfigured
    (payloadsKept_startUp (payloadsKept_operated hsame hs) hstart) hrun).2
  -- What a request is told of was there, and opens to what was sent.
  have hfound : ∀ i call key stored, call ∈ ownCalls dataCall i log → Finds call key stored →
      ∃ e ∈ log, e.tid = i ∧ (key.cell e.pre).payload = some stored ∧ ∃ body,
        Submitted c P key body ∧ Sealed c encryptionKey body stored ∧
          decryptIfNeeded c state stored = .ok body := by
    intro i call key stored hmem hfinds
    obtain ⟨e, he, htid, _, rfl⟩ := mem_ownCalls.mp hmem
    have hstored := hfinds.present (hrun.linked.effect he)
    obtain ⟨body, hsubmitted, hsealed⟩ := (hkept e he).1 key stored hstored
    exact ⟨e, he, htid, hstored, body, hsubmitted, hsealed, decryptIfNeeded_sealed hc (hkey ▸ hsealed)⟩
  have hserved : ∀ i call key stored body, call ∈ ownCalls dataCall i log → Finds call key stored →
      decryptIfNeeded c state stored = .ok body → Submitted c P key body ∧
        ∃ e ∈ log, e.tid = i ∧ ∃ stored, (key.cell e.pre).payload = some stored ∧
          Sealed c encryptionKey body stored := by
    intro i call key stored body hmem hfinds hopens
    obtain ⟨e, he, htid, hstored, body', hsubmitted, hsealed, hopens'⟩ :=
      hfound i call key stored hmem hfinds
    obtain rfl := Except.ok.inj (hopens.symm.trans hopens')
    exact ⟨hsubmitted, e, he, htid, stored, hstored, hsealed⟩
  refine ⟨hkept, fun i answer body hi hcarried => ?_, fun i error hr hi e he htid key stored hfinds => ?_⟩
  · have hconcluded := hrun.concluded hi (handle_data (life.traffic.request i))
    have hcarries := hrun.returns (fun _ => handle_carries) i
    rw [hi] at hcarries
    rcases hcarries body hcarried with
      ⟨rawNs, rawPath, payload, hr, rfl, rfl⟩ | ⟨rawNs, payload, hr, rfl, rfl⟩
    · rw [Concludes, hr] at hconcluded
      obtain ⟨ns, path, stored, m, hns, hpath, hcalls, hopens, _⟩ := hconcluded payload rfl
      refine ⟨.ofObject ns path, ?_, hserved i _ _ stored _ ?_ (.object ns path stored) hopens⟩
      · simp [hr, Endpoint.payloadKey, hns, hpath, Except.toOption]
      · rw [hcalls]
        exact List.mem_cons_self
    · rw [Concludes, hr] at hconcluded
      obtain ⟨ns, stored, row, hns, hcalls, hopens, _⟩ := hconcluded payload rfl
      refine ⟨.ofSnapshot ns, ?_, hserved i _ _ stored _ ?_ (.snapshot ns stored) hopens⟩
      · simp [hr, Endpoint.payloadKey, hns, Except.toOption]
      · rw [hcalls]
        exact List.mem_cons_self
  · have hmem : e.call ∈ ownCalls dataCall i log := mem_ownCalls.mpr ⟨e, he, htid, hfinds.data, rfl⟩
    obtain ⟨_, _, _, _, body, _, _, hopens⟩ := hfound i e.call key stored hmem hfinds
    obtain ⟨failed, hfailed, hfails⟩ :=
      hrun.concluded hi (handle_excused hr) error rfl e.call hmem key stored body hfinds hopens
    obtain ⟨e', he', htid', _, rfl⟩ := mem_ownCalls.mp hfailed
    exact ⟨e', he', htid', hfails⟩

/-! An object is stored, and read after a restart. -/

/-- The cipher under zeros, on the secrets of two tokens and on `[1]`. -/
def payloadCrates : Crates :=
  { escapedCrates with
    aeadEncrypt := fun key nonce plaintext =>
      if key = zeroKey ∧ nonce = List.replicate 12 0 ∧ plaintext = [1] then .ok sealedOne
      else escapedCrates.aeadEncrypt key nonce plaintext
    aeadDecrypt := fun key nonce ciphertext =>
      if key = zeroKey ∧ nonce = List.replicate 12 0 then
        if ciphertext = sealedOne then .ok [1]
        else if ciphertext = sealedSecret then .ok (asBytes issuedSecret)
        else if ciphertext = sealedReader then .ok (asBytes readerSecret)
        else .error "aead::Error"
      else .error "aead::Error" }

theorem aeadInverts_payloadCrates : payloadCrates.AeadInverts := by
  intro key nonce plaintext ciphertext _ h
  simp only [payloadCrates, escapedCrates, freshCrates] at h
  split at h
  · next hone =>
    obtain ⟨rfl, rfl, rfl⟩ := hone
    obtain rfl := Except.ok.inj h
    exact ⟨by decide, rfl⟩
  split at h
  · next hreader =>
    obtain ⟨rfl, rfl, rfl⟩ := hreader
    obtain rfl := Except.ok.inj h
    exact ⟨by decide, rfl⟩
  split at h
  · next hissued =>
    obtain ⟨rfl, rfl, rfl⟩ := hissued
    obtain rfl := Except.ok.inj h
    exact ⟨by decide, rfl⟩
  · cases h

/-- One token may write and one may read; an object is stored. -/
def storingLife : Life := zeroKeyLife
  [issueRequest "work" "write" none,
   issueRequest "work" "read" none,
   issuedRequest (.putObject "work" "notes" [1]) []]

def readingLife : Life := zeroKeyLife [readerRequest (.getObject "work" "notes")]

/-- The database a process finds when it has started up. -/
def readyDb (life : Life) (s : Db) : Db :=
  ((startUp payloadCrates life.ambient life.cli).run.run (DbCall.exec payloadCrates) s).2

def playStored (life : Life) (schedule : List (Nat × Option String)) (s : Db) :=
  play (S := databaseSignature) (DbCall.exec payloadCrates) schedule (readyDb life s)
    (life.traffic.program payloadCrates zeroKeyState)

theorem playStored_run (life : Life) (schedule : List (Nat × Option String)) (s : Db) :
    ServerRun payloadCrates zeroKeyState life.traffic (readyDb life s) (playStored life schedule s).1
      (playStored life schedule s).2.1 (playStored life schedule s).2.2 := play_run _ _ _ _

theorem readyDb_starts {life : Life} {s : Db}
    (h : ((startUp payloadCrates life.ambient life.cli).run.run (DbCall.exec payloadCrates) s).1 =
      .ok zeroKeyState) :
    Steps (DbCall.exec payloadCrates) (startUp payloadCrates life.ambient life.cli).run s
      (.ret (.ok zeroKeyState)) (readyDb life s) := Life.starts h

theorem knowsAdmin_payloadCrates : payloadCrates.KnowsAdmin := by
  intro secret now
  simp [payloadCrates, escapedCrates, CrateTables.crates, escapedTables, freshTables, panelTables]

theorem playStored_short {requests : List Request} (h : requests.Forall Scripted)
    (schedule : List (Nat × Option String)) (s : Db) :
    playStored (zeroKeyLife requests) schedule s =
      playShortened payloadCrates zeroKeyState (Traffic.ofList requests) (readyDb (zeroKeyLife requests) s)
        schedule :=
  play_shortened knowsAdmin_payloadCrates h schedule _

/-- The database after the run of a process. -/
def dbAfterStored (life : Life) (schedule : List (Nat × Option String)) (s : Db) : Db :=
  (playStored life schedule s).2.1

def storedDb : Db := (playStored storingLife (inTurn 3) {}).2.1

theorem operated_dbAfterStored {P : Life → Prop} {life : Life} {s : Db} (hs : Operated payloadCrates P s)
    (hP : P life)
    (hstart : Steps (DbCall.exec payloadCrates) (startUp payloadCrates life.ambient life.cli).run s
      (.ret (.ok zeroKeyState)) (readyDb life s)) (schedule : List (Nat × Option String)) :
    Operated payloadCrates P (dbAfterStored life schedule s) :=
  .served life hs hP hstart (playStored_run life schedule s)

theorem storedDb_eq : storedDb = dbAfterStored storingLife (inTurn 3) {} := rfl

theorem storedDb_short : storedDb = (playShortened payloadCrates zeroKeyState
    (Traffic.ofList [issueRequest "work" "write" none, issueRequest "work" "read" none,
      issuedRequest (.putObject "work" "notes" [1]) []]) (readyDb storingLife {}) (inTurn 3)).2.1 := by
  rw [storedDb_eq, dbAfterStored, storingLife, playStored_short]
  exact ⟨.issue _ _ _, .issue _ _ _, .issued _ _ rfl⟩

set_option maxRecDepth 10000 in
theorem stored_play :
    ((startUp payloadCrates storingLife.ambient storingLife.cli).run.run
        (DbCall.exec payloadCrates) {}).1 = .ok zeroKeyState ∧
      ((startUp payloadCrates readingLife.ambient readingLife.cli).run.run
        (DbCall.exec payloadCrates) storedDb).1 = .ok zeroKeyState ∧
      ((playStored readingLife (inTurn 1) storedDb).2.2 0).answer.bind carriedPayload = some [1] := by
  rw [storedDb_short]
  decide +kernel

theorem storing_starts :
    Steps (DbCall.exec payloadCrates) (startUp payloadCrates storingLife.ambient storingLife.cli).run {}
      (.ret (.ok zeroKeyState)) (readyDb storingLife {}) := readyDb_starts stored_play.1

theorem reading_starts :
    Steps (DbCall.exec payloadCrates) (startUp payloadCrates readingLife.ambient readingLife.cli).run
      storedDb (.ret (.ok zeroKeyState)) (readyDb readingLife storedDb) :=
  readyDb_starts stored_play.2.1

theorem operated_storedDb {P : Life → Prop} (hP : P storingLife) : Operated payloadCrates P storedDb := by
  rw [storedDb_eq]
  exact operated_dbAfterStored .created hP storing_starts _

theorem sameKey_zeroKey (requests : List Request) : SameKey (some zeroKey) (zeroKeyLife requests) where
  key := show configuredKey (zeroKeyLife []).cli = .ok (some zeroKey) by decide +kernel
  nonces _ _ := by simp [zeroKeyLife, Traffic.ofList, numberedAmbient]

set_option maxRecDepth 10000 in
/-- Two processes, and nothing but their own requests to account for what is served. -/
theorem payloadsServed_restarted :
    ((playStored readingLife (inTurn 1) storedDb).2.2 0).answer.bind carriedPayload = some [1] ∧
      PayloadsServed payloadCrates (fun life => life = storingLife ∨ life = readingLife) (some zeroKey)
        readingLife.traffic (playStored readingLife (inTurn 1) storedDb).1
        (playStored readingLife (inTurn 1) storedDb).2.2 := by
  have hsame : ∀ life, life = storingLife ∨ life = readingLife → SameKey (some zeroKey) life := by
    intro life hlife
    rcases hlife with rfl | rfl <;> exact sameKey_zeroKey _
  exact ⟨stored_play.2.2, payloadsServed aeadInverts_payloadCrates hsame
    (operated_storedDb (.inl rfl)) (.inr rfl)
    reading_starts (playStored_run _ _ _)⟩

end CloudSync
