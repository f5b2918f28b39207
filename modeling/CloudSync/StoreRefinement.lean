import CloudSync.StoreHandlers
import CloudSync.StorePromises
import CloudSync.Reachable

/-!
# The server refines the store

One request after the other, the tables hold what the store says, and every answer is the
store's.
-/

namespace CloudSync

open Rust Redb Transactions Transactions.Fallible

set_option autoImplicit false

variable {c : Crates} {state : AppState} {amb : Ambient}

/-- The tables hold what the store says, for every valid name. -/
def Represents (c : Crates) (state : AppState) (store : Store) (db : Db) : Prop :=
  ∀ ns, ValidNamespaceName c ns → Holds c state (store ns) ns db

/-- The record that the operation writes can be read back. -/
def Operation.Decodes (state : AppState) : Operation → Prop
  | .putMetadata body => (metadataFromBody state none body "" "").fromSlice ≠ none
  | .putBlob sectionRevisions _ =>
    ({ SyncMetadata.empty with sectionRevisions := sectionRevisions }).fromSlice ≠ none
  | _ => True

/-- The client may ask for the operation now. -/
def Operation.Allowed (c : Crates) (state : AppState) (amb : Ambient) (headers : HeaderMap) (ns : String)
    (db : Db) (operation : Operation) : Prop :=
  match operation.permission with
  | some permission => Granted c amb headers ns permission db
  | none => MayManage c state amb headers db

/-- An authorized request of the store, on a valid name. -/
def Authorized (c : Crates) (state : AppState) (amb : Ambient) (r : Request) (db : Db) : Prop :=
  ∃ ns operation, r.endpoint.storeCall = some (ns, operation) ∧ ValidNamespaceName c ns ∧
    operation.Allowed c state amb r.headers ns db ∧ operation.Decodes state ∧ (amb.nonce 0).length = 12

/-! ## No operation is visible in another namespace -/

section Frame
variable {ns other rawNs : String} {db : Db} {r : Request} {operation : Operation}

theorem urlDecode_of_decodeNamespace (h : decodeNamespace c rawNs = .ok ns) : urlDecode rawNs = some ns := by
  unfold decodeNamespace at h
  cases hdecoded : urlDecode rawNs with
  | none =>
    rw [hdecoded] at h
    cases h
  | some decoded =>
    rw [hdecoded] at h
    dsimp only at h
    cases hvalid : validateNamespace c decoded with
    | error e =>
      rw [hvalid] at h
      cases h
    | ok _ =>
      rw [hvalid] at h
      exact congrArg some (Except.ok.inj h)

theorem storeCall_target {endpoint : Endpoint} {permission : SyncPermission}
    (htarget : endpoint.syncTarget = some (rawNs, permission))
    (hcall : endpoint.storeCall = some (ns, operation)) (hdecoded : urlDecode rawNs = some other) :
    other = ns := by
  cases endpoint <;> cases htarget <;>
    · obtain ⟨_, hns, heq⟩ := Option.map_eq_some_iff.mp hcall
      cases heq
      exact Option.some.inj (hdecoded.symm.trans hns)

/-- Only this namespace may be altered. -/
@[simp] def AltersOnly (ns : String) (call : DbCall) : Prop := ∀ other ∈ call.altered, other = ns

theorem altersOnly_of_mayCall {endpoint : Endpoint} {call : DbCall} (h : endpoint.MayCall ns call) :
    AltersOnly ns call := by
  intro other hother
  cases call <;> cases hother <;> first | exact h.1 | exact h.elim

theorem refreshNamespaceUsage_altersOnly (other observedAt : String) (softDeleted : Bool) :
    Calls (AltersOnly ns) (refreshNamespaceUsage other observedAt softDeleted) :=
  .bind (by simp [DbCall.altered]) fun _ => .bind (by simp [DbCall.altered]) fun _ =>
    .bind (by simp [DbCall.altered]) fun _ => .bind (by simp [DbCall.altered]) fun _ => by simp

theorem verifyAdminMutation_altersOnly (headers : HeaderMap) (now : Instant) :
    Calls (AltersOnly ns) (verifyAdminMutation c state headers now) :=
  verifyAdminMutation_reads (by simp [DbCall.altered]) _ _

theorem adminCreateNamespace_altersOnly (requested : String) (headers : HeaderMap) :
    Calls (AltersOnly (trim requested)) (adminCreateNamespace c state amb headers requested) :=
  .bind (verifyAdminMutation_altersOnly ..) fun _ => .bind (ensureDiskCapacity_calls _ _) fun _ =>
    .bind (by simp) fun _ => .bind (by simp [DbCall.altered]) fun _ => .bind (by simp) fun _ =>
    .bind (by simp [DbCall.altered]) fun _ => .bind (by simp) fun _ =>
    .bind (by simp [DbCall.altered]) fun _ => .bind (by simp) fun _ =>
    .bind (by simp [DbCall.altered]) fun _ => by simp

theorem adminDeleteNamespace_altersOnly (hard : Option Bool) (headers : HeaderMap) :
    Calls (AltersOnly ns) (adminDeleteNamespace c state amb ns hard headers) := by
  refine .bind (verifyAdminMutation_altersOnly ..) fun _ => .ite ?_ ?_
  · exact .bind (by simp [DbCall.altered]) fun _ => by simp
  · refine .bind (by simp [DbCall.altered]) fun _ => .bind (by simp) fun _ =>
      .bind (by simp [DbCall.altered]) fun _ => .bind (calls_runIf.mpr fun _ => ?_) fun _ =>
      .bind (ensureDiskCapacity_calls _ _) fun _ => .bind (by simp [DbCall.altered]) fun _ =>
      .bind (calls_orDatabaseError (refreshNamespaceUsage_altersOnly ..)) fun _ => by simp
    exact .bind (by simp [DbCall.altered]) fun _ => by simp

theorem adminRestoreNamespace_altersOnly (headers : HeaderMap) :
    Calls (AltersOnly ns) (adminRestoreNamespace c state amb ns headers) :=
  .bind (verifyAdminMutation_altersOnly ..) fun _ => .bind (ensureDiskCapacity_calls _ _) fun _ =>
    .bind (by simp [DbCall.altered]) fun _ => .bind (by simp) fun _ =>
    .bind (by simp [DbCall.altered]) fun _ =>
    .bind (calls_orDatabaseError (refreshNamespaceUsage_altersOnly ..)) fun _ => by simp

/-- A request of the store alters the namespace that it names. -/
theorem handle_altersOnly (hcall : r.endpoint.storeCall = some (ns, operation)) :
    Calls (AltersOnly ns) (handle c state amb r) := by
  by_cases hsync : r.endpoint.isSync = true
  · obtain ⟨rawNs, permission, htarget⟩ := r.endpoint.isSync_iff.mp hsync
    obtain ⟨f, hhandle, hf⟩ := handle_sync c state amb htarget
    rw [hhandle]
    refine calls_liftResult_bind fun other hother => .bind ?_ fun _ => ?_
    · exact authorize_reads (by simp [DbCall.altered]) (by simp [DbCall.altered]) _ _ _ _
        (by simp [DbCall.altered]) (by simp [DbCall.altered]) (by simp [DbCall.altered])
    · obtain rfl : other = ns := storeCall_target htarget hcall (urlDecode_of_decodeNamespace hother)
      exact Program.Calls.mono (fun _ => altersOnly_of_mayCall) (hf other)
  obtain ⟨endpoint, peer, headers⟩ := r
  cases endpoint with
  | adminCreateNamespace requested =>
    cases hcall
    exact .bind (adminCreateNamespace_altersOnly ..) fun _ => by simp
  | adminDeleteNamespace _ hard =>
    cases hcall
    exact .bind (adminDeleteNamespace_altersOnly ..) fun _ => by simp
  | adminRestoreNamespace _ =>
    cases hcall
    exact .bind (adminRestoreNamespace_altersOnly ..) fun _ => by simp
  | _ => simp [Endpoint.storeCall, Endpoint.isSync] at hcall hsync

/-- What the server leaves in all other namespaces. -/
theorem serve_unchanged (hcall : r.endpoint.storeCall = some (ns, operation))
    (hvalid : ValidNamespaceName c ns) (hother : ValidNamespaceName c other) (hne : other ≠ ns) :
    Unchanged other db (serve c state amb r db).2 := by
  refine unchanged_run hother (Program.Calls.mono (fun call h ns' hns' => ?_) (handle_altersOnly hcall))
  obtain rfl := h ns' hns'
  exact ⟨hvalid, hne.symm⟩

end Frame

/-! ## One request -/

section Step
variable {ns rawNs : String} {db : Db} {r : Request} {operation : Operation}

theorem depth_of_decodes {m : SyncMetadata} (h : m.fromSlice ≠ none) : m.depth ≤ jsonRecursionLimit := by
  obtain ⟨m', hm'⟩ := Option.ne_none_iff_exists'.mp h
  exact (SyncMetadata.fromSlice_eq_some.mp hm').2

theorem decodeNamespace_eq_ok (hdecoded : urlDecode rawNs = some ns) (hvalid : ValidNamespaceName c ns) :
    decodeNamespace c rawNs = .ok ns := by
  unfold decodeNamespace
  rw [hdecoded]
  dsimp only
  rw [show validateNamespace c ns = .ok () from hvalid]
  rfl

/-- What the outcome says of the answer and of the database behind it. -/
def Answers (c : Crates) (state : AppState) (outcome : Contents.Outcome) (contents : Contents) (ns : String)
    (out : Answer × Db) : Prop :=
  match outcome with
  | .ok (response, contents') => out.1 = .ok response ∧ Holds c state contents' ns out.2
  | .error e => out.1 = .error e ∧ Holds c state contents ns out.2

theorem answers_of_follows {α : Type} {wrap : α → Response} {x : Handler α} {outcome : Contents.Outcome}
    {contents : Contents} (hhandle : handle c state amb r = (do return wrap (← x)))
    (h : Follows c state wrap x outcome contents ns db) :
    Answers c state outcome contents ns (serve c state amb r db) := by
  rw [serve, hhandle, alone_bind]
  unfold Follows Leaves at h
  generalize x.alone (DbCall.exec c) db = out at h ⊢
  obtain ⟨e | a, db'⟩ := out
  · obtain ⟨houtcome, hholds⟩ := h
    rw [houtcome]
    exact ⟨rfl, hholds⟩
  · obtain ⟨contents', houtcome, hholds⟩ := h
    rw [houtcome]
    exact ⟨rfl, hholds⟩

/-- The request answers as its operation does. -/
theorem serve_answers (hseals : c.SealsPayloads state)
    (hcall : r.endpoint.storeCall = some (ns, operation)) (hvalid : ValidNamespaceName c ns)
    (hallowed : operation.Allowed c state amb r.headers ns db) (hdecodes : operation.Decodes state)
    (hnonce : (amb.nonce 0).length = 12) {contents : Contents} (h : Holds c state contents ns db) :
    Answers c state (contents.serve c state amb r.headers ns operation) contents ns
      (serve c state amb r db) := by
  obtain ⟨endpoint, peer, headers⟩ := r
  cases endpoint with
  | getMetadata rawNs =>
    obtain ⟨_, hdecoded, heq⟩ := Option.map_eq_some_iff.mp hcall
    cases heq
    exact answers_of_follows rfl (getMetadata_follows (decodeNamespace_eq_ok hdecoded hvalid) hallowed h)
  | putMetadata rawNs body =>
    obtain ⟨_, hdecoded, heq⟩ := Option.map_eq_some_iff.mp hcall
    cases heq
    have hdepth : (metadataFromBody state none body "" "").depth ≤ jsonRecursionLimit :=
      depth_of_decodes hdecodes
    exact answers_of_follows rfl (putMetadata_follows (decodeNamespace_eq_ok hdecoded hvalid) hallowed h
      fun _ _ _ => hdepth)
  | getBlob rawNs =>
    obtain ⟨_, hdecoded, heq⟩ := Option.map_eq_some_iff.mp hcall
    cases heq
    exact answers_of_follows rfl (getBlob_follows (decodeNamespace_eq_ok hdecoded hvalid) hallowed h)
  | putBlob rawNs sectionRevisions body =>
    obtain ⟨_, hdecoded, heq⟩ := Option.map_eq_some_iff.mp hcall
    cases heq
    have hdepth := depth_of_decodes hdecodes
    refine answers_of_follows rfl (putBlob_follows (decodeNamespace_eq_ok hdecoded hvalid) hallowed h
      hseals hnonce ?_)
    unfold SyncMetadata.depth at hdepth
    simp only at hdepth
    omega
  | listObjects rawNs query =>
    obtain ⟨_, hdecoded, heq⟩ := Option.map_eq_some_iff.mp hcall
    cases heq
    exact answers_of_follows rfl (listObjects_follows (decodeNamespace_eq_ok hdecoded hvalid) hallowed h)
  | getObject rawNs rawPath =>
    obtain ⟨_, hdecoded, heq⟩ := Option.map_eq_some_iff.mp hcall
    cases heq
    exact answers_of_follows rfl (getObject_follows (decodeNamespace_eq_ok hdecoded hvalid) hallowed h)
  | putObject rawNs rawPath body =>
    obtain ⟨_, hdecoded, heq⟩ := Option.map_eq_some_iff.mp hcall
    cases heq
    exact answers_of_follows rfl (putObject_follows (decodeNamespace_eq_ok hdecoded hvalid) hallowed h
      hseals hnonce)
  | deleteObject rawNs rawPath =>
    obtain ⟨_, hdecoded, heq⟩ := Option.map_eq_some_iff.mp hcall
    cases heq
    exact answers_of_follows rfl (deleteObject_follows (decodeNamespace_eq_ok hdecoded hvalid) hallowed h)
  | adminCreateNamespace requested =>
    cases hcall
    exact answers_of_follows rfl (adminCreateNamespace_follows hallowed hvalid h)
  | adminDeleteNamespace _ hard =>
    cases hcall
    exact answers_of_follows rfl (adminDeleteNamespace_follows hallowed h)
  | adminRestoreNamespace _ =>
    cases hcall
    exact answers_of_follows rfl (adminRestoreNamespace_follows hallowed h)
  | _ => cases hcall

/-- One request: the answer is the store's, and the tables hold what the store holds then. -/
theorem serve_represents (hseals : c.SealsPayloads state) {store : Store}
    (hrepresents : Represents c state store db) (hauthorized : Authorized c state amb r db) :
    (serve c state amb r db).1 = (store.serve c state amb r).1 ∧
      Represents c state (store.serve c state amb r).2 (serve c state amb r db).2 := by
  obtain ⟨ns, operation, hcall, hvalid, hallowed, hdecodes, hnonce⟩ := hauthorized
  have hanswers := serve_answers hseals hcall hvalid hallowed hdecodes hnonce (hrepresents ns hvalid)
  have hothers {other : String} (hother : ValidNamespaceName c other) (hne : other ≠ ns) :
      Holds c state (store other) other (serve c state amb r db).2 :=
    (hrepresents other hother).of_unchanged (serve_unchanged hcall hvalid hother hne)
  unfold Store.serve
  rw [hcall]
  dsimp only
  cases houtcome : (store ns).serve c state amb r.headers ns operation with
  | error e =>
    rw [houtcome] at hanswers
    refine ⟨hanswers.1, fun other hother => ?_⟩
    by_cases hne : other = ns
    · rw [hne]
      exact hanswers.2
    · exact hothers hother hne
  | ok result =>
    obtain ⟨response, contents⟩ := result
    rw [houtcome] at hanswers
    refine ⟨hanswers.1, fun other hother => ?_⟩
    by_cases hne : other = ns
    · rw [hne]
      simpa using hanswers.2
    · simpa [Function.update_of_ne hne] using hothers hother hne

end Step

/-! ## Runs -/

/-- A database without any namespace; tokens and administrators may be there. -/
structure Db.WithoutNamespaces (db : Db) : Prop where
  metadata : db.metadata = ∅
  blobs : db.blobs = ∅
  objects : db.objects = ∅
  objectMetadata : db.objectMetadata = ∅
  deletedNamespaces : db.deletedNamespaces = ∅

theorem Db.WithoutNamespaces.represents {db : Db} (h : db.WithoutNamespaces) :
    Represents c state .empty db := fun ns _ => by
  constructor
  · simp [Db.getMetadata, h.metadata, Store.empty]
  · intro m hm
    cases hm
  · simp [Db.getBlob, h.blobs, Store.empty]
  · intro path
    simp [Db.getObject, h.objects, Store.empty]
  · intro path
    simp [Db.getObjectMetadata, h.objectMetadata, Store.empty]
  · simp [Db.isNamespaceDeleted, h.deletedNamespaces, Store.empty]

theorem serveAll_represents (hseals : c.SealsPayloads state) {requests : List (Ambient × Request)}
    {store : Store} {db : Db} (hrepresents : Represents c state store db)
    (hauthorized : EachServed c state (Authorized c state) requests db) :
    (serveAll c state requests db).1 = (store.serveAll c state requests).1 ∧
      Represents c state (store.serveAll c state requests).2 (serveAll c state requests db).2 := by
  induction requests generalizing store db with
  | nil => exact ⟨rfl, hrepresents⟩
  | cons head rest ih =>
    obtain ⟨amb, r⟩ := head
    obtain ⟨hanswer, hnext⟩ := serve_represents hseals hrepresents hauthorized.1
    obtain ⟨hanswers, hend⟩ := ih hnext hauthorized.2
    refine ⟨?_, hend⟩
    rw [serveAll, Store.serveAll]
    simp only [hanswer, hanswers]

/-- The cipher takes what fits into a request, if there is a key. -/
def Crates.AeadSeals (c : Crates) (state : AppState) : Prop :=
  ∀ key ∈ state.encryptionKey, ∀ nonce plaintext : Bytes, nonce.length = 12 →
    plaintext.length ≤ max state.maxBlobSize state.maxObjectSize →
      ∃ ciphertext, c.aeadEncrypt key nonce plaintext = .ok ciphertext

theorem Crates.AeadSeals.payloads (hinverts : c.AeadInverts) (h : c.AeadSeals state) :
    c.SealsPayloads state := by
  intro nonce data hnonce hdata
  unfold encryptIfNeeded decryptIfNeeded
  cases hkey : state.encryptionKey with
  | none => exact ⟨data, rfl, rfl⟩
  | some key =>
    obtain ⟨ciphertext, hciphertext⟩ := h key hkey nonce data hnonce hdata
    have hencrypt : encrypt c key nonce data = .ok (nonce ++ ciphertext) := by
      unfold encrypt
      rw [hciphertext]
    refine ⟨nonce ++ ciphertext, ?_, ?_⟩
    · dsimp only
      rw [hencrypt]
      rfl
    · dsimp only
      rw [decrypt_encrypt hinverts hnonce hencrypt]
      rfl

/-- One request after the other, from tables without any namespace: the answers are those of the
store, with or without encryption, and the store keeps its promises. -/
theorem server_refines_store (hinverts : c.AeadInverts) (hseals : c.AeadSeals state) {db : Db}
    (hempty : db.WithoutNamespaces) {requests : List (Ambient × Request)}
    (hauthorized : EachServed c state (Authorized c state) requests db) :
    (serveAll c state requests db).1 = (Store.empty.serveAll c state requests).1 ∧
      Represents c state (Store.empty.serveAll c state requests).2 (serveAll c state requests db).2 ∧
      Store.Promises c state := by
  obtain ⟨hanswers, hend⟩ := serveAll_represents (hseals.payloads hinverts) hempty.represents hauthorized
  exact ⟨hanswers, hend, store_promises c state⟩

/-! ## A run with encryption -/

section Decide

instance {ns : String} : Decidable (ValidNamespaceName c ns) := inferInstanceAs (Decidable (_ = _))

instance {headers : HeaderMap} {db : Db} : Decidable (MayManage c state amb headers db) :=
  inferInstanceAs (Decidable (_ = _))

instance {headers : HeaderMap} {ns : String} {db : Db} {operation : Operation} :
    Decidable (operation.Allowed c state amb headers ns db) :=
  match h : operation.permission with
  | some permission =>
    decidable_of_iff (Granted c amb headers ns permission db) (by rw [Operation.Allowed, h])
  | none => decidable_of_iff (MayManage c state amb headers db) (by rw [Operation.Allowed, h])

instance {operation : Operation} : Decidable (operation.Decodes state) :=
  match operation with
  | .putMetadata _ | .putBlob _ _ => inferInstanceAs (Decidable (_ ≠ none))
  | .getMetadata | .getBlob | .listObjects _ | .getObject _ | .putObject _ _ | .deleteObject _ | .create
  | .delete _ | .restore => isTrue trivial

theorem authorized_iff {r : Request} {db : Db} :
    Authorized c state amb r db ↔ ∃ call ∈ r.endpoint.storeCall, ValidNamespaceName c call.1 ∧
      call.2.Allowed c state amb r.headers call.1 db ∧ call.2.Decodes state ∧
        (amb.nonce 0).length = 12 := by
  constructor
  · rintro ⟨ns, operation, hcall, h⟩
    exact ⟨(ns, operation), hcall, h⟩
  · rintro ⟨⟨ns, operation⟩, hcall, h⟩
    exact ⟨ns, operation, hcall, h⟩

theorem permission_of_needsSession {endpoint : Endpoint} {ns : String} {operation : Operation}
    (hcall : endpoint.storeCall = some (ns, operation)) :
    operation.permission.isSome = !endpoint.needsSession := by
  cases endpoint with
  | adminCreateNamespace | adminDeleteNamespace | adminRestoreNamespace =>
    cases hcall
    rfl
  | getMetadata | putMetadata | getBlob | putBlob | listObjects | getObject | putObject | deleteObject =>
    obtain ⟨_, _, hcall⟩ := Option.map_eq_some_iff.mp hcall
    cases hcall
    rfl
  | _ => cases hcall

theorem authorized_session {headers headers' : HeaderMap} (hs : SameSession c state headers headers')
    {endpoint : Endpoint} {peer : IpAddr} {db : Db} (hpanel : endpoint.needsSession = true)
    (h : Authorized c.shortened state amb ⟨endpoint, peer, headers'⟩ db) :
    Authorized c state amb ⟨endpoint, peer, headers⟩ db := by
  obtain ⟨ns, operation, hcall, hvalid, hallowed, hrest⟩ := h
  refine ⟨ns, operation, hcall, hvalid, ?_, hrest⟩
  have hpermission := permission_of_needsSession hcall
  rw [hpanel, Bool.not_true, Option.isSome_eq_false_iff, Option.isNone_iff_eq_none] at hpermission
  unfold Operation.Allowed MayManage at hallowed ⊢
  rw [hpermission] at hallowed ⊢
  rw [hs.verifyAdminMutation, ← exec_shortened]
  exact hallowed

theorem authorized_free {r : Request} {db : Db} (hfree : r.endpoint.needsSession = false)
    (h : Authorized c.shortened state amb r db) : Authorized c state amb r db := by
  obtain ⟨ns, operation, hcall, hvalid, hallowed, hrest⟩ := h
  refine ⟨ns, operation, hcall, hvalid, ?_, hrest⟩
  have hpermission := permission_of_needsSession hcall
  rw [hfree] at hpermission
  obtain ⟨permission, hpermission⟩ := Option.isSome_iff_exists.mp hpermission
  unfold Operation.Allowed at hallowed ⊢
  rw [hpermission] at hallowed ⊢
  exact hallowed

theorem authorized_short (hc : c.KnowsAdmin) {r : Request} {db : Db} (hr : Scripted r)
    (h : Authorized c.shortened state amb r.shortened db) : Authorized c state amb r db := by
  cases hr with
  | panel endpoint hpanel =>
    rw [shortened_panel] at h
    exact authorized_session (sameSession_panel hc endpoint) hpanel h
  | bare r hbare =>
    obtain ⟨endpoint, peer, headers⟩ := r
    obtain rfl : headers = [] := hbare
    cases hpanel : endpoint.needsSession with
    | true => exact authorized_session sameSession_bare hpanel h
    | false => exact authorized_free hpanel h
  | free r hfree hcookie =>
    rw [Request.shortened, hcookie] at h
    exact authorized_free hfree h

instance {r : Request} {db : Db} : Decidable (Authorized c state amb r db) :=
  decidable_of_iff _ authorized_iff.symm

instance decidableEachServed (K : Ambient → Request → Db → Prop) [∀ amb r db, Decidable (K amb r db)] :
    ∀ requests db, Decidable (EachServed c state K requests db)
  | [], _ => isTrue trivial
  | (amb, r) :: rest, db =>
    have := decidableEachServed K rest (serve c state amb r db).2
    inferInstanceAs (Decidable (K amb r db ∧ EachServed c state K rest (serve c state amb r db).2))

end Decide

/-- `[1]` under the key and the nonce of zeros, with its tag. -/
def sealedOne : Bytes := [158, 214, 232, 70, 63, 56, 27, 34, 43, 238, 129, 132, 33, 196, 71, 185, 146]

/-- The cipher on `[1]` under zeros; elsewhere an empty tag stands for the real one. -/
def sealingCrates : Crates :=
  { panelCrates with
    aeadEncrypt := fun key nonce plaintext =>
      if key = List.replicate 32 0 ∧ nonce = List.replicate 12 0 ∧ plaintext = [1] then .ok sealedOne
      else .ok (plaintext ++ List.replicate 16 0)
    aeadDecrypt := fun key nonce ciphertext =>
      if key = List.replicate 32 0 ∧ nonce = List.replicate 12 0 ∧ ciphertext = sealedOne then .ok [1]
      else .ok (ciphertext.take (ciphertext.length - 16)) }

theorem aeadInverts_sealingCrates : sealingCrates.AeadInverts := by
  intro key nonce plaintext ciphertext _ h
  simp only [sealingCrates] at h ⊢
  split at h
  · next hone =>
    obtain rfl := Except.ok.inj h
    obtain ⟨hkey, hnonce, hplaintext⟩ := hone
    rw [if_pos ⟨hkey, hnonce, rfl⟩, hplaintext]
    exact ⟨by decide, rfl⟩
  · obtain rfl := Except.ok.inj h
    have hne : plaintext ++ List.replicate 16 0 ≠ sealedOne := by
      intro heq
      have hlast := congrArg List.getLast? heq
      simp [sealedOne, List.getLast?_append] at hlast
    rw [if_neg fun hone => hne hone.2.2]
    simp

theorem aeadSeals_sealingCrates (state : AppState) : sealingCrates.AeadSeals state := by
  intro key _ nonce plaintext _ _
  simp only [sealingCrates]
  split
  · exact ⟨_, rfl⟩
  · exact ⟨_, rfl⟩

def sealingState : AppState := { plainState with encryptionKey := some (List.replicate 32 0) }

/-- An object is written, hidden, brought back, read and purged. -/
def sealedRequests : List (Ambient × Request) :=
  [clientRequest (.putObject "work" "notes" [1]) [],
   panelRequest (.adminDeleteNamespace "work" none),
   panelRequest (.adminRestoreNamespace "work"),
   clientRequest (.getObject "work" "notes") [],
   panelRequest (.adminDeleteNamespace "work" (some true)),
   clientRequest (.getObject "work" "notes") []].mapIdx fun i r => (numberedAmbient (fun _ => "") i, r)

/-- The object that was read. -/
def objectRead (answer : Answer) : Option Bytes :=
  match answer with
  | .ok (.object (some payload)) => some payload.body
  | _ => none

theorem knowsAdmin_sealingCrates : sealingCrates.KnowsAdmin := by
  intro secret now
  simp [sealingCrates, panelCrates, CrateTables.crates, panelTables]

theorem scripted_sealedRequests : sealedRequests.Forall fun entry => Scripted entry.2 :=
  ⟨.client _ _ rfl, .panel _ rfl, .panel _ rfl, .client _ _ rfl, .panel _ rfl, .client _ _ rfl⟩

set_option maxRecDepth 10000 in
theorem server_refines_store_sealed :
    (serveAll sealingCrates sealingState sealedRequests panelDb).1.map objectRead =
        [none, none, none, some [1], none, none] ∧
      (serveAll sealingCrates sealingState sealedRequests panelDb).1 =
        (Store.empty.serveAll sealingCrates sealingState sealedRequests).1 := by
  have hempty : panelDb.WithoutNamespaces := ⟨rfl, rfl, rfl, rfl, rfl⟩
  have hrun : EachServed sealingCrates.shortened sealingState
        (Authorized sealingCrates.shortened sealingState)
        (sealedRequests.map fun entry => (entry.1, entry.2.shortened)) panelDb ∧
      (serveAll sealingCrates sealingState sealedRequests panelDb).1.map objectRead =
        [none, none, none, some [1], none, none] := by
    rw [serveAll_shortened knowsAdmin_sealingCrates scripted_sealedRequests]
    decide +kernel
  have hauthorized : EachServed sealingCrates sealingState (Authorized sealingCrates sealingState)
      sealedRequests panelDb :=
    eachServed_shortened knowsAdmin_sealingCrates
      (fun _ _ _ hr => authorized_short knowsAdmin_sealingCrates hr) scripted_sealedRequests hrun.1
  exact ⟨hrun.2, (server_refines_store aeadInverts_sealingCrates (aeadSeals_sealingCrates _) hempty
    hauthorized).1⟩

end CloudSync
