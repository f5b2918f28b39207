import CloudSync.Credentials
import CloudSync.Revocation
import CloudSync.SyncRequest

/-!
# On whose authority the server writes

The contents of a namespace are written for a token that the request has looked up, and
everything that the panel manages is written for an account that it has looked up. The look
is a transaction of its own, so this is about what was stored earlier in the run.
-/

namespace CloudSync

open Rust Transactions Transactions.Fallible

set_option autoImplicit false

/-- The namespace whose contents the call writes. -/
@[simp] def DbCall.contentsOf : DbCall → Option String
  | .setMetadata ns _ | .putBlobIfMatches ns .. | .putObjectIfMatches ns .. | .deleteObject ns _ => some ns
  | _ => none

/-- The call writes what only the panel changes. -/
@[simp] def DbCall.managed : DbCall → Bool
  | .setAdminUser _ | .deleteAdminUser _ | .setToken _ | .deleteToken _ => true
  | .setDevice _ | .deleteDevice _ => true
  | .softDeleteNamespace .. | .restoreNamespace _ | .hardDeleteNamespace _ => true
  | _ => false

/-- The call needs no authority: it reads, or it keeps figures, attempts and conflicts. -/
@[simp] def Unguarded (call : DbCall) : Prop := call.contentsOf = none ∧ call.managed = false

variable (c : Crates) (state : AppState) (amb : Ambient)

/-- These calls have found the account of the session, enabled and with the version of the session. -/
def SessionFound (r : Request) (calls : RecordedCalls) : Prop :=
  state.adminEnabled = true ∧
    ∃ token claims user, extractAdminToken r.headers = some token ∧
      c.jwtDecode state.jwtSecret (trim token) (amb.now 0) = some claims ∧
      (⟨.getAdminUser claims.sub, .ok (some user)⟩ : databaseSignature.Call) ∈ calls ∧
      user.enabled = true ∧ claims.ver = user.sessionVersion

/-- And the request carries the token against forged requests. -/
def SessionAccepted (r : Request) (calls : RecordedCalls) : Prop :=
  SessionFound c state amb r calls ∧ verifyCsrf r.headers = .ok ()

/-- These calls have found the namespace alive and a token that may write there. -/
def WriterFound (r : Request) (calls : RecordedCalls) (ns : String) : Prop :=
  ∃ secret id token, presentedToken c r.headers = .ok secret ∧
    (⟨.isNamespaceDeleted ns, .ok false⟩ : databaseSignature.Call) ∈ calls ∧
    (⟨.getTokenIdByHash (hashApiToken c secret), .ok (some id)⟩ : databaseSignature.Call) ∈ calls ∧
    (⟨.getToken id, .ok (some token)⟩ : databaseSignature.Call) ∈ calls ∧
    checkToken c amb token ns .write = .ok ()

/-- What a request may write after these calls. -/
def MayWrite (r : Request) (calls : RecordedCalls) (call : DbCall) : Prop :=
  (∀ ns ∈ call.contentsOf, r.endpoint.isSync = true ∧ WriterFound c amb r calls ns ∨
    SessionAccepted c state amb r calls) ∧
  (call.managed = true → SessionAccepted c state amb r calls ∨
    ∃ body user, r.endpoint = .adminLogin body ∧ call = .setAdminUser user)

abbrev authorityMonitor (r : Request) : Monitor databaseSignature :=
  recording (fun _ => true) (MayWrite c state amb r)

variable {c state amb}

theorem SessionFound.append {r : Request} {calls : RecordedCalls} (h : SessionFound c state amb r calls)
    (call : databaseSignature.Call) : SessionFound c state amb r (calls ++ [call]) := by
  obtain ⟨henabled, token, claims, user, htoken, hclaims, hmem, haccount⟩ := h
  exact ⟨henabled, token, claims, user, htoken, hclaims, List.mem_append_left _ hmem, haccount⟩

theorem SessionAccepted.append {r : Request} {calls : RecordedCalls}
    (h : SessionAccepted c state amb r calls) (call : databaseSignature.Call) :
    SessionAccepted c state amb r (calls ++ [call]) := ⟨h.1.append call, h.2⟩

theorem WriterFound.append {r : Request} {calls : RecordedCalls} {ns : String}
    (h : WriterFound c amb r calls ns) (call : databaseSignature.Call) :
    WriterFound c amb r (calls ++ [call]) ns := by
  obtain ⟨secret, id, token, hsecret, hdeleted, hid, htoken, hcheck⟩ := h
  exact ⟨secret, id, token, hsecret, List.mem_append_left _ hdeleted, List.mem_append_left _ hid,
    List.mem_append_left _ htoken, hcheck⟩

theorem mayWrite_of_unguarded {r : Request} {calls : RecordedCalls} {call : DbCall} (h : Unguarded call) :
    MayWrite c state amb r calls call := by
  refine ⟨fun ns hns => ?_, fun hmanaged => ?_⟩
  · rw [h.1] at hns
    cases hns
  · rw [h.2] at hmanaged
    cases hmanaged

theorem mayWrite_of_accepted {r : Request} {calls : RecordedCalls} {call : DbCall}
    (h : SessionAccepted c state amb r calls) : MayWrite c state amb r calls call :=
  ⟨fun _ _ => .inr h, fun _ => .inl h⟩

/-! ## Sessions -/

section Sessions
variable {r : Request} {calls : RecordedCalls}

theorem validateAdminSession_finds :
    Triple (authorityMonitor c state amb r) (validateAdminSession c state r.headers (amb.now 0))
      (fun calls _ => SessionFound c state amb r calls) (fun _ _ => True) calls := by
  unfold validateAdminSession
  rw [triple_bind, triple_ensure]
  refine ⟨fun henabled => ?_, fun _ => trivial⟩
  rw [triple_bind, triple_okOr]
  refine ⟨fun token htoken => ?_, fun _ => trivial⟩
  rw [triple_bind, triple_okOr]
  refine ⟨fun claims hclaims => ?_, fun _ => trivial⟩
  rw [triple_bind, triple_db]
  refine ⟨fun _ => mayWrite_of_unguarded ⟨rfl, rfl⟩, fun found => ?_, fun _ => trivial⟩
  rw [triple_bind, triple_okOr]
  refine ⟨?_, fun _ => trivial⟩
  intro user hfound
  obtain rfl : found = some user := hfound
  rw [triple_bind, triple_ensure]
  refine ⟨fun huser => ?_, fun _ => trivial⟩
  rw [triple_bind, triple_ensure]
  refine ⟨fun hversion => ?_, fun _ => trivial⟩
  exact ⟨henabled, token, claims, user, htoken, hclaims,
    List.mem_append_right calls (List.mem_singleton_self _), huser, beq_iff_eq.mp hversion⟩

theorem verifyAdmin_finds :
    Triple (authorityMonitor c state amb r) (verifyAdmin c state r.headers (amb.now 0))
      (fun calls _ => SessionFound c state amb r calls) (fun _ _ => True) calls := by
  rw [verifyAdmin, triple_bind]
  exact validateAdminSession_finds.mono (fun _ _ h => h) fun _ _ h => h

theorem verifyAdminMutation_accepts :
    Triple (authorityMonitor c state amb r) (verifyAdminMutation c state r.headers (amb.now 0))
      (fun calls _ => SessionAccepted c state amb r calls) (fun _ _ => True) calls := by
  rw [verifyAdminMutation, triple_bind]
  refine verifyAdmin_finds.mono (fun calls _ hfound => ?_) fun _ _ h => h
  rw [triple_liftResult]
  exact ⟨fun _ hcsrf => ⟨hfound, hcsrf⟩, fun _ _ => trivial⟩

/-- Behind the session a handler may read. -/
theorem triple_found {α : Type} {x : Handler α} (hx : Calls Unguarded x)
    (h : SessionFound c state amb r calls) :
    Triple (authorityMonitor c state amb r) x (fun calls _ => SessionFound c state amb r calls)
      (fun _ _ => True) calls :=
  (hx.triple_within (Q := SessionFound c state amb r) (fun _ _ _ hcall _ => mayWrite_of_unguarded hcall)
    (fun _ op reply hfound _ => hfound.append ⟨op, reply⟩) h).mono (fun _ _ h => h) fun _ _ _ => trivial

/-- With the token against forged requests it may do anything. -/
theorem triple_manages {α : Type} (x : Handler α) (h : SessionAccepted c state amb r calls) :
    Triple (authorityMonitor c state amb r) x (fun calls _ => SessionFound c state amb r calls)
      (fun _ _ => True) calls :=
  ((calls_true x).triple_within (Q := SessionAccepted c state amb r)
    (fun _ _ haccepted _ _ => mayWrite_of_accepted haccepted)
    (fun _ op reply haccepted _ => haccepted.append ⟨op, reply⟩) h).mono (fun _ _ h => h.1) fun _ _ _ => trivial

theorem triple_reading {α β : Type} {x : Handler α} {f : α → Handler β}
    (hx : Triple (authorityMonitor c state amb r) x (fun calls _ => SessionFound c state amb r calls)
      (fun _ _ => True) calls)
    (hf : ∀ a, Calls Unguarded (f a)) :
    Triple (authorityMonitor c state amb r) (x >>= f) (fun calls _ => SessionFound c state amb r calls)
      (fun _ _ => True) calls := by
  rw [triple_bind]
  exact hx.mono (fun _ a hfound => triple_found (hf a) hfound) fun _ _ h => h

theorem triple_mutation {α : Type} (f : Unit → Handler α) :
    Triple (authorityMonitor c state amb r) (verifyAdminMutation c state r.headers (amb.now 0) >>= f)
      (fun calls _ => SessionFound c state amb r calls) (fun _ _ => True) calls := by
  rw [triple_bind]
  exact verifyAdminMutation_accepts.mono (fun _ _ haccepted => triple_manages _ haccepted) fun _ _ h => h

end Sessions

/-! ## The login -/

theorem adminLogin_mayWrite {r : Request} {body : LoginRequest} (hr : r.endpoint = .adminLogin body)
    (peer : IpAddr) (headers : HeaderMap) :
    Triple (authorityMonitor c state amb r) (adminLogin c state amb peer headers body)
      (fun _ _ => True) (fun _ _ => True) [] := by
  have hcalls : Calls (fun call : DbCall => Unguarded call ∨ ∃ user, call = .setAdminUser user)
      (adminLogin c state amb peer headers body) := by
    have hallowed : Calls Unguarded
        (ensureLoginAllowed c state (resolveClientIp c state headers peer) (amb.now 0)) := by
      refine .bind (by simp) fun _ => .bind (by simp) fun attempt => ?_
      cases (Option.bind attempt (·.blockedUntil)).bind c.parseFromRfc3339 <;> simp
    have hfailure (ip : IpAddr) (now : Instant) : Calls Unguarded (recordLoginFailure c state ip now) :=
      .bind (by simp) fun _ => .bind (by simp) fun _ => .bind (by simp) fun _ => by simp
    refine .bind (Program.Calls.mono (fun _ => .inl) hallowed) fun _ => .bind (by simp) fun _ =>
      .bind (by simp) fun found => ?_
    cases found with
    | none => exact .bind (Program.Calls.mono (fun _ => .inl) (hfailure _ _)) fun _ => by simp
    | some user =>
      refine .ite (.bind (by simp [recordUserLoginFailure]) fun _ =>
        .bind (Program.Calls.mono (fun _ => .inl) (hfailure _ _)) fun _ => by simp) ?_
      exact .bind (by simp [clearLoginFailures]) fun _ => .bind (by simp) fun _ =>
        .bind (by simp [createAdminJwtForUser]) fun _ => .bind (by simp) fun _ =>
          .bind (by simp) fun _ => by simp
  refine Calls.triple_allowed (Program.Calls.mono ?_ hcalls) (fun _ _ => trivial) fun _ _ => trivial
  intro call hcall calls _
  rcases hcall with hcall | ⟨user, rfl⟩
  · exact mayWrite_of_unguarded hcall
  · exact ⟨fun ns hns => (by cases hns), fun _ => .inr ⟨body, user, hr, rfl⟩⟩

/-! ## Tokens -/

section Tokens
variable {r : Request}

/-- An authorization for writing finds a token that may write. -/
theorem authorize_findsWriter {ns : String} {permission : SyncPermission} {calls : RecordedCalls} :
    Triple (authorityMonitor c state amb r)
      (authorizeSyncRequestWithPermission c state amb r.headers ns permission r.peer)
      (fun calls _ => permission = .write → WriterFound c amb r calls ns) (fun _ _ => True) calls := by
  have hfree {call : DbCall} {q : RecordedCalls} (h : Unguarded call) :
      (authorityMonitor c state amb r).allow q call := fun _ => mayWrite_of_unguarded h
  unfold authorizeSyncRequestWithPermission ensureNamespaceActive extractAuth getTokenByHash
  rw [triple_bind, triple_bind, triple_db]
  refine ⟨hfree ⟨rfl, rfl⟩, fun deleted => ?_, fun _ => trivial⟩
  rw [triple_ensure]
  refine ⟨fun halive => ?_, fun _ => trivial⟩
  obtain rfl : deleted = false := by simpa using halive
  rw [triple_bind, triple_bind, triple_liftResult]
  refine ⟨fun secret hsecret => ?_, fun _ _ => trivial⟩
  rw [triple_bind, triple_mapError, triple_bind, triple_redb]
  refine ⟨hfree ⟨rfl, rfl⟩, fun found => ?_, fun _ => trivial⟩
  cases found with
  | none => trivial
  | some id =>
    rw [triple_redb]
    refine ⟨hfree ⟨rfl, rfl⟩, fun stored => ?_, fun _ => trivial⟩
    rw [triple_okOr]
    refine ⟨?_, fun _ => trivial⟩
    rintro token rfl
    cases hcheck : checkToken c amb token ns permission with
    | error e =>
      rw [triple_bind, recordTokenFailure]
      refine Calls.triple_allowed ?_ (fun _ _ => trivial) fun _ _ => trivial
      exact (calls_dbOr _ _).mpr fun q => hfree ⟨rfl, rfl⟩
    | ok _ =>
      have hfound : permission = .write → WriterFound c amb r
          ((((calls ++ [⟨.isNamespaceDeleted ns, .ok false⟩]) ++
            [⟨.getTokenIdByHash (hashApiToken c secret), .ok (some id)⟩]) ++
              [⟨.getToken id, .ok (some token)⟩])) ns := by
        rintro rfl
        exact ⟨secret, id, token, hsecret, by simp, by simp, by simp, hcheck⟩
      refine (Calls.triple_within (P := Unguarded)
        (Q := fun calls => permission = .write → WriterFound c amb r calls ns)
        (.bind (by simp) fun _ => by simp) (fun _ _ _ hcall _ => mayWrite_of_unguarded hcall)
        (fun _ op reply hq _ hwrite => (hq hwrite).append ⟨op, reply⟩) hfound).mono (fun _ _ h => h)
        fun _ _ _ => trivial

/-- What a sync request may call is unguarded, or it writes with the permission to write. -/
theorem mayWrite_of_mayCall {rawNs ns : String} {permission : SyncPermission} {calls : RecordedCalls}
    {call : DbCall} (hr : r.endpoint.syncTarget = some (rawNs, permission))
    (hfound : permission = .write → WriterFound c amb r calls ns) (hcall : r.endpoint.MayCall ns call) :
    MayWrite c state amb r calls call := by
  have hsync : r.endpoint.isSync = true := r.endpoint.isSync_iff.mpr ⟨rawNs, permission, hr⟩
  have hwrites {ns' : String} (hns : ns' = ns) (hpermission : permission = .write)
      (hcontents : call.contentsOf = some ns') (hmanaged : call.managed = false) :
      MayWrite c state amb r calls call := by
    refine ⟨fun other hother => ?_, fun h => ?_⟩
    · rw [hcontents] at hother
      cases hother
      exact .inl ⟨hsync, hns ▸ hfound hpermission⟩
    · rw [hmanaged] at h
      cases h
  cases call with
  | setMetadata ns' data =>
    obtain ⟨hns, raw, body, hendpoint⟩ := hcall
    rw [hendpoint] at hr
    cases hr
    exact hwrites hns rfl rfl rfl
  | putBlobIfMatches ns' expectedEtag requireAbsent blob metadata =>
    obtain ⟨hns, raw, sectionRevisions, body, hendpoint⟩ := hcall
    rw [hendpoint] at hr
    cases hr
    exact hwrites hns rfl rfl rfl
  | deleteObject ns' path =>
    obtain ⟨hns, raw, rawPath, hendpoint, _⟩ := hcall
    rw [hendpoint] at hr
    cases hr
    exact hwrites hns rfl rfl rfl
  | putObjectIfMatches ns' path expectedEtag requireAbsent data metadata =>
    obtain ⟨hns, raw, rawPath, body, hendpoint, _⟩ := hcall
    rw [hendpoint] at hr
    cases hr
    exact hwrites hns rfl rfl rfl
  | getMetadata | getBlob | getObject | getObjectMetadata => exact mayWrite_of_unguarded ⟨rfl, rfl⟩
  | blobSize | namespaceObjectStats | getNamespaceUsage => exact mayWrite_of_unguarded ⟨rfl, rfl⟩
  | listObjectPaths | setNamespaceUsage | addSyncConflict => exact mayWrite_of_unguarded ⟨rfl, rfl⟩
  | _ => exact absurd hcall (by simp [Endpoint.MayCall])

theorem handle_sync_mayWrite {rawNs : String} {permission : SyncPermission}
    (hr : r.endpoint.syncTarget = some (rawNs, permission)) :
    Triple (authorityMonitor c state amb r) (handle c state amb r) (fun _ _ => True) (fun _ _ => True) [] := by
  obtain ⟨f, hhandle, hcalls⟩ := handle_sync c state amb hr
  rw [hhandle, triple_bind, triple_liftResult]
  refine ⟨fun ns _ => ?_, fun _ _ => trivial⟩
  rw [triple_bind]
  refine authorize_findsWriter.mono (fun calls _ hfound => ?_) fun _ _ h => h
  refine ((hcalls ns).triple_within (Q := fun calls => permission = .write → WriterFound c amb r calls ns)
    (fun _ _ hq hcall _ => mayWrite_of_mayCall hr hq hcall)
    (fun _ op reply hq _ hwrite => (hq hwrite).append ⟨op, reply⟩) hfound).mono (fun _ _ _ => trivial)
    fun _ _ _ => trivial

end Tokens

/-! ## Every request -/

/-- Every request keeps to its authority, and the panel answers nobody else. -/
theorem handle_authority (r : Request) :
    (handle c state amb r).run.Obeys (authorityMonitor c state amb r)
      (fun calls answer => r.endpoint.needsSession = true → ∀ out, answer = .ok out →
        SessionFound c state amb r calls) [] := by
  have hwrapped {α : Type} {x : Handler α} {f : α → Response}
      (h : Triple (authorityMonitor c state amb r) x (fun calls _ => SessionFound c state amb r calls)
        (fun _ _ => True) []) :
      (x >>= fun a => pure (f a)).run.Obeys (authorityMonitor c state amb r)
        (fun calls answer => r.endpoint.needsSession = true → ∀ out, answer = .ok out →
          SessionFound c state amb r calls) [] := by
    refine obeys_wrapped h (fun _ _ hfound _ _ _ => hfound) ?_
    intro _ _ _ _ out herror
    cases herror
  by_cases hsync : r.endpoint.isSync = true
  · obtain ⟨rawNs, permission, hr⟩ := r.endpoint.isSync_iff.mp hsync
    refine Program.Obeys.mono (fun _ _ _ hneeds => ?_) (handle_sync_mayWrite hr)
    rw [Endpoint.needsSession_of_sync hsync] at hneeds
    cases hneeds
  obtain ⟨endpoint, peer, headers⟩ := r
  cases endpoint with
  | adminLogin body =>
    refine obeys_wrapped (adminLogin_mayWrite rfl peer headers) (fun _ _ _ hneeds => ?_) ?_
    · cases hneeds
    · intro _ _ _ hneeds
      cases hneeds
  | adminLogout => exact hwrapped (triple_mutation _)
  | adminCurrentUser =>
    exact hwrapped (triple_reading validateAdminSession_finds fun _ => .bind (by simp) fun _ =>
      .bind (by simp) fun _ => by simp)
  | adminChangeOwnPassword => exact hwrapped (triple_mutation _)
  | adminListUsers =>
    exact hwrapped (triple_reading verifyAdmin_finds fun _ => .bind (by simp) fun _ => by simp)
  | adminCreateUser => exact hwrapped (triple_mutation _)
  | adminUpdateUser => exact hwrapped (triple_mutation _)
  | adminDeleteUser => exact hwrapped (triple_mutation _)
  | adminListNamespaces =>
    have hinfo (ns : String) (deleted : Option DeletedNamespaceRecord) :
        Calls Unguarded (namespaceInfo c ns deleted) :=
      .bind (by simp) fun _ => .bind (by simp) fun _ => .bind (by simp) fun _ => .bind (by simp) fun _ =>
        by simp
    exact hwrapped (triple_reading verifyAdmin_finds fun _ => .bind (by simp) fun _ =>
      .bind (calls_mapM (fun _ => hinfo _ _) _) fun _ => .bind (by simp) fun _ =>
      .bind (calls_mapM (fun _ => hinfo _ _) _) fun _ => by simp)
  | adminCreateNamespace => exact hwrapped (triple_mutation _)
  | adminDeleteNamespace => exact hwrapped (triple_mutation _)
  | adminRestoreNamespace => exact hwrapped (triple_mutation _)
  | adminListTokens =>
    exact hwrapped (triple_reading verifyAdmin_finds fun _ => .bind (by simp) fun _ => by simp)
  | adminCreateToken => exact hwrapped (triple_mutation _)
  | adminUpdateToken => exact hwrapped (triple_mutation _)
  | adminRotateToken => exact hwrapped (triple_mutation _)
  | adminRevealToken => exact hwrapped (triple_mutation _)
  | adminDeleteToken => exact hwrapped (triple_mutation _)
  | adminListDevices =>
    exact hwrapped (triple_reading verifyAdmin_finds fun _ => .bind (by simp) fun _ => by simp)
  | adminCreateDevice => exact hwrapped (triple_mutation _)
  | adminUpdateDevice => exact hwrapped (triple_mutation _)
  | adminDeleteDevice => exact hwrapped (triple_mutation _)
  | adminListConflicts => exact hwrapped (triple_reading verifyAdmin_finds fun _ => by simp)
  | adminStats =>
    have htotal (ns : String) : Calls Unguarded (namespaceTotalBytes ns) := by
      refine .bind (by simp) fun usage => ?_
      cases usage with
      | some usage => trivial
      | none => exact .bind (by simp) fun _ => .bind (by simp) fun _ => by simp
    exact hwrapped (triple_reading verifyAdmin_finds fun _ => .bind (by simp) fun _ => .bind (by simp) fun _ =>
      .bind (by simp) fun _ => .bind (by simp) fun _ => .bind (by simp) fun _ => .bind (by simp) fun _ =>
      .bind (Calls.attempt (by simp)) fun _ => .bind (calls_mapM htotal _) fun _ => by simp)
  | _ => exact absurd rfl hsync

/-! ## Runs -/

variable (c state amb)

/-- In this database the session of the request is good. -/
def SessionGood (r : Request) (db : Db) : Prop :=
  state.adminEnabled = true ∧
    ∃ token claims user, extractAdminToken r.headers = some token ∧
      c.jwtDecode state.jwtSecret (trim token) (amb.now 0) = some claims ∧
      db.getAdminUser claims.sub = some user ∧ user.enabled = true ∧ claims.ver = user.sessionVersion

/-- Request `i` has met a database with that property when it made one of these events. -/
def Met (i : Nat) (log : List DbEvent) (holds : Db → Prop) : Prop := ∃ e ∈ log, e.tid = i ∧ holds e.pre

/-- Nothing is written and nothing of the panel is told without authority. -/
structure AuthorityHolds (t : Traffic) (log : List DbEvent) (ps : Nat → Program databaseSignature Answer) :
    Prop where
  contents : ∀ before e after ns, log = before ++ e :: after → e.op.contentsOf = some ns →
    ((t.request e.tid).endpoint.isSync = true ∧
      ∃ secret id token, presentedToken c (t.request e.tid).headers = .ok secret ∧
        Met e.tid before (fun db => db.isNamespaceDeleted ns = false) ∧
        Met e.tid before (fun db => db.getTokenIdByHash (hashApiToken c secret) = some id) ∧
        Met e.tid before (fun db => db.getToken id = some token) ∧
        checkToken c (t.ambient e.tid) token ns .write = .ok ()) ∨
    (Met e.tid before (SessionGood c state (t.ambient e.tid) (t.request e.tid)) ∧
      verifyCsrf (t.request e.tid).headers = .ok ())
  managed : ∀ before e after, log = before ++ e :: after → e.op.managed = true →
    (Met e.tid before (SessionGood c state (t.ambient e.tid) (t.request e.tid)) ∧
      verifyCsrf (t.request e.tid).headers = .ok ()) ∨
    -- A login only notes that it happened.
    ∃ body username found user, (t.request e.tid).endpoint = .adminLogin body ∧
      e.op = .setAdminUser user ∧ Met e.tid before (fun db => db.getAdminUser username = some found) ∧
      user.username = found.username ∧ user.passwordHash = found.passwordHash ∧
      user.enabled = found.enabled ∧ user.sessionVersion = found.sessionVersion
  answered : ∀ i out, (t.request i).endpoint.needsSession = true → ps i = .ret (.ok out) →
    Met i log (SessionGood c state (t.ambient i) (t.request i))

variable {c state amb} {t : Traffic} {start s : Db} {ps : Nat → Program databaseSignature Answer}
  {log before after : List DbEvent} {e : DbEvent} {i : Nat}

/-- A reply is what the call finds in the database before it. -/
theorem replied (h : Effect (S := databaseSignature) (DbCall.exec c) e.op e.reply e.pre e.post)
    {call : DbCall} {out : call.Out} (hcall : e.call = ⟨call, .ok out⟩) : (call.exec c e.pre).1 = out := by
  obtain ⟨tid, op, reply, pre, post⟩ := e
  obtain ⟨rfl, hreply⟩ := Sigma.mk.inj_iff.mp hcall
  have hok : Effect (S := databaseSignature) (DbCall.exec c) op (.ok out) pre post := eq_of_heq hreply ▸ h
  exact hok.of_ok.1.symm

/-- A reply that a request has got tells of a database that it has met. -/
theorem met_of_call {call : DbCall} {out : call.Out}
    (h : Linked (S := databaseSignature) (DbCall.exec c) start log s)
    (hmem : (⟨call, .ok out⟩ : databaseSignature.Call) ∈ requestCalls i log) :
    Met i log fun db => (call.exec c db).1 = out := by
  obtain ⟨e, he, htid, hcall⟩ := mem_requestCalls.mp hmem
  exact ⟨e, he, htid, replied (h.effect he) hcall⟩

theorem met_session {r : Request} (h : Linked (S := databaseSignature) (DbCall.exec c) start log s)
    (hfound : SessionFound c state amb r (requestCalls i log)) : Met i log (SessionGood c state amb r) := by
  obtain ⟨henabled, token, claims, user, htoken, hclaims, hmem, haccount⟩ := hfound
  obtain ⟨e, he, htid, hstored⟩ := met_of_call h hmem
  exact ⟨e, he, htid, henabled, token, claims, user, htoken, hclaims, hstored, haccount⟩

/-- What a request has seen last it has been told. -/
theorem mem_of_read {calls : RecordedCalls} {username : String} {found : Option AdminUserRecord}
    (h : (accountsSeen calls).read = some (username, found)) :
    (⟨.getAdminUser username, .ok found⟩ : databaseSignature.Call) ∈ calls := by
  induction calls using List.reverseRecOn with
  | nil => cases h
  | append_singleton calls call ih =>
    rw [accountsSeen_append] at h
    unfold AccountsSeen.next at h
    split at h
    · cases h
      exact List.mem_append_right _ (List.mem_singleton_self _)
    · exact List.mem_append_left _ (ih h)
    · exact List.mem_append_left _ (ih h)

theorem login_notes {body : LoginRequest} {user : AdminUserRecord}
    (h : ServerRun c state t start (before ++ e :: after) s ps)
    (hlogin : (t.request e.tid).endpoint = .adminLogin body) (hop : e.op = .setAdminUser user) :
    ∃ username found, Met e.tid before (fun db => db.getAdminUser username = some found) ∧
      user.username = found.username ∧ user.passwordHash = found.passwordHash ∧
      user.enabled = found.enabled ∧ user.sessionVersion = found.sessionVersion := by
  have horiginates := h.recorded (handle_accounts (t.request e.tid))
    (show accountCall e.op = true by rw [hop]; rfl)
  rw [hop] at horiginates
  have hcreates : (t.request e.tid).createsAccount = false := by rw [Request.createsAccount, hlogin]
  have henabled : (t.request e.tid).setsEnabled = none := by rw [Request.setsEnabled, hlogin]
  have hpassword (found : AdminUserRecord) : (t.request e.tid).setsPassword c found = false := by
    rw [Request.setsPassword, hlogin]
  rcases horiginates with hcreated | ⟨username, found, hrewrites⟩
  · rw [hcreated.creates] at hcreates
    cases hcreates
  · obtain ⟨e', he', htid, _, hcall⟩ := mem_ownCalls.mp (mem_of_read hrewrites.read)
    have hmet : Met e.tid before fun db => db.getAdminUser username = some found :=
      met_of_call (linked_middle h.linked).1 (mem_requestCalls.mpr ⟨e', he', htid, hcall⟩)
    refine ⟨username, found, hmet, hrewrites.username, hrewrites.passwordHash (hpassword found), ?_, ?_⟩
    · rw [hrewrites.enabled, henabled]
      rfl
    · rw [hrewrites.sessionVersion, Request.versionAfter, Request.raisesVersion, hpassword, henabled]
      rfl

end CloudSync
