import CloudSync.DataWrites
import CloudSync.TokenStore

/-!
# Where writes to the token table come from

Every handler that changes a token writes back, in one transaction, the record
that it has read in an earlier one. `Originates` of the payload tables has its
counterpart here in `TokenOriginates`; `Grants` says which calls a sync request
has made when it is let in.
-/

namespace CloudSync

open Rust Transactions Transactions.Fallible

set_option autoImplicit false

def tokenCall : DbCall → Bool
  | .getToken _ | .setToken _ => true
  | _ => false

/-- The token that a committed `set_token` has written. -/
def tokenWritten : databaseSignature.Call → Option ApiToken
  | ⟨.setToken token, .ok ()⟩ => some token
  | _ => none

/-- The token that was found by the last of these calls. -/
def lastTokenRead (calls : RecordedCalls) : Option ApiToken :=
  match calls.getLast? with
  | some ⟨.getToken _, .ok found⟩ => found
  | _ => none

def Request.createsToken (r : Request) : Bool :=
  match r.endpoint with
  | .adminCreateToken _ => true
  | _ => false

def Request.rotatesToken (r : Request) : Bool :=
  match r.endpoint with
  | .adminRotateToken _ => true
  | _ => false

/-- What the body of a PATCH says about `enabled`. -/
def Request.requestedEnabled (r : Request) : Option Bool :=
  match r.endpoint with
  | .adminUpdateToken _ body => body.enabled
  | _ => none

variable (c : Crates) (state : AppState) (amb : Ambient)

/-- A token that is written for the first time, with a fresh identifier and secret. -/
structure CreatesToken (r : Request) (calls : RecordedCalls) (token : ApiToken) : Prop where
  creates : r.createsToken = true
  first : calls = []
  id : token.id = amb.newUuid 1
  tokenHash : token.tokenHash = hashApiToken c (amb.newUuid 0)

/-- A token that is written back after it was read. -/
structure RewritesToken (r : Request) (calls : RecordedCalls) (read token : ApiToken) : Prop where
  creates : r.createsToken = false
  last : lastTokenRead calls = some read
  id : token.id = read.id
  enabled : token.enabled = r.requestedEnabled.getD read.enabled
  kept : r.rotatesToken = false → token.tokenHash = read.tokenHash
  rotated : r.rotatesToken = true →
    token.tokenHash = hashApiToken c (amb.newUuid 0) ∧ ∀ call ∈ calls, tokenWritten call = none

def TokenOriginates (r : Request) (calls : RecordedCalls) : DbCall → Prop
  | .setToken token =>
    CreatesToken c amb r calls token ∨ ∃ read, RewritesToken c amb r calls read token
  | _ => True

abbrev tokenMonitor (r : Request) : Monitor databaseSignature :=
  recording tokenCall (TokenOriginates c amb r)

variable {c state amb}

theorem ignores_of_not_tokenCall {r : Request} {call : DbCall} (h : tokenCall call = false) :
    (tokenMonitor c amb r).Ignores call := recording_ignores h

/-- The guard of the panel is not noticed. -/
theorem triple_guarded {r : Request} {α : Type} {headers : HeaderMap} {now : Instant} {f : Handler α}
    {ok : RecordedCalls → α → Prop}
    (h : Triple (tokenMonitor c amb r) f ok (fun _ _ => True) []) :
    Triple (tokenMonitor c amb r) (do
      verifyAdminMutation c state headers now
      f) ok (fun _ _ => True) [] :=
  .skip (verifyAdminMutation_reads (fun _ => ignores_of_not_tokenCall rfl) _ _) (raises_true _)
    (fun _ _ => trivial) fun _ => h

theorem triple_capacity {r : Request} {α : Type} {bytes : Nat} {f : Handler α} {calls : RecordedCalls}
    {ok : RecordedCalls → α → Prop}
    (h : Triple (tokenMonitor c amb r) f ok (fun _ _ => True) calls) :
    Triple (tokenMonitor c amb r) (do
      ensureDiskCapacity state amb bytes
      f) ok (fun _ _ => True) calls :=
  .skip (ensureDiskCapacity_calls _ _) (raises_true _) (fun _ _ => trivial) fun _ => h

section Handlers
variable {r : Request}

theorem adminCreateToken_spec {body : CreateTokenRequest} (hr : r.endpoint = .adminCreateToken body) :
    Triple (tokenMonitor c amb r) (adminCreateToken c state amb r.headers body)
      (fun _ _ => True) (fun _ _ => True) [] := by
  have hcreates : r.createsToken = true := by rw [Request.createsToken, hr]
  refine triple_guarded (triple_capacity ?_)
  rw [triple_bind, triple_ensure]
  refine ⟨fun _ => ?_, fun _ => trivial⟩
  rw [triple_bind, triple_ensure]
  refine ⟨fun _ => ?_, fun _ => trivial⟩
  rw [triple_bind, encryptToken, triple_liftResult]
  refine ⟨fun encryptedToken _ => ?_, fun _ _ => trivial⟩
  rw [triple_bind, triple_liftResult]
  refine ⟨fun expiresAt _ => ?_, fun _ _ => trivial⟩
  refine .skip (ensureDeviceExists_calls (fun _ => ignores_of_not_tokenCall rfl) _) (raises_true _)
    (fun _ _ => trivial) fun _ => ?_
  rw [triple_bind, triple_db]
  refine ⟨fun _ => .inl ⟨hcreates, rfl, rfl, rfl⟩, fun _ => ?_, fun _ => trivial⟩
  refine .skip (calls_ifSome.mpr fun _ _ => relinkDevice_calls (fun _ => ignores_of_not_tokenCall rfl)
    (fun _ => ignores_of_not_tokenCall rfl) ..) (raises_true _) (fun _ _ => trivial) fun _ => trivial

theorem tokenWithExpiry_core {token token' : ApiToken} {expiresAt : Option (Option String)}
    (h : tokenWithExpiry c token expiresAt = .ok token') : token'.core = token.core := by
  unfold tokenWithExpiry at h
  split at h
  · cases h
    rfl
  · rename_i requested
    cases hn : normalizeOptionalTimestamp c requested with
    | error e =>
      rw [hn] at h
      cases h
    | ok value =>
      rw [hn] at h
      cases h
      rfl

/-- Moving the link between token and device changes no core. -/
theorem changeTokenDevice_spec {token : ApiToken} {requested : Option (Option String)}
    {calls : RecordedCalls} {ok : RecordedCalls → ApiToken → Prop}
    (hok : ∀ token', token'.core = token.core → ok calls token') :
    Triple (tokenMonitor c amb r) (changeTokenDevice c amb token requested) ok (fun _ _ => True) calls := by
  have hignores : ∀ call, tokenCall call = false → (tokenMonitor c amb r).Ignores call :=
    fun _ => ignores_of_not_tokenCall
  cases requested with
  | none => exact hok token rfl
  | some requested =>
    refine .skip (ensureDeviceExists_calls (fun _ => hignores _ rfl) _) (raises_true _)
      (fun _ _ => trivial) fun _ => ?_
    refine .skip (moveDeviceLink_calls (fun _ => hignores _ rfl) (fun _ => hignores _ rfl) ..)
      (raises_true _) (fun _ _ => trivial) fun _ => ?_
    exact hok _ rfl

theorem adminUpdateToken_spec {id : String} {body : UpdateTokenRequest}
    (hr : r.endpoint = .adminUpdateToken id body) :
    Triple (tokenMonitor c amb r) (adminUpdateToken c state amb id r.headers body)
      (fun _ _ => True) (fun _ _ => True) [] := by
  have hcreates : r.createsToken = false := by rw [Request.createsToken, hr]
  have hrotates : r.rotatesToken = false := by rw [Request.rotatesToken, hr]
  have henabled : r.requestedEnabled = body.enabled := by rw [Request.requestedEnabled, hr]
  refine triple_guarded (triple_capacity ?_)
  rw [triple_bind, triple_db]
  refine ⟨fun _ => trivial, fun found => ?_, fun _ => trivial⟩
  rw [triple_bind, triple_okOr]
  refine ⟨?_, fun _ => trivial⟩
  rintro stored rfl
  rw [triple_bind, triple_liftResult]
  refine ⟨fun dated hdated => ?_, fun _ _ => trivial⟩
  rw [triple_bind]
  refine changeTokenDevice_spec fun token hcore => ?_
  rw [triple_bind, triple_db]
  refine ⟨fun _ => .inr ⟨stored, ?_⟩, fun _ => trivial, fun _ => trivial⟩
  -- The whole core is the one that was read, but for the flag that the body sets.
  have htoken : token.core = (tokenWithEnabled c stored body.enabled (amb.now 1)).core :=
    hcore.trans (tokenWithExpiry_core hdated)
  have hset : (tokenWithEnabled c stored body.enabled (amb.now 1)).core =
      (stored.id, stored.tokenHash, body.enabled.getD stored.enabled) := by
    unfold tokenWithEnabled
    cases body.enabled <;> rfl
  rw [hset] at htoken
  simp only [ApiToken.core, Prod.mk.injEq] at htoken
  obtain ⟨hid, hhash, hflag⟩ := htoken
  refine ⟨hcreates, rfl, hid, by rw [henabled, hflag], fun _ => hhash, fun h => ?_⟩
  rw [hrotates] at h
  cases h

theorem adminRotateToken_spec {id : String} (hr : r.endpoint = .adminRotateToken id) :
    Triple (tokenMonitor c amb r) (adminRotateToken c state amb id r.headers)
      (fun _ _ => True) (fun _ _ => True) [] := by
  have hcreates : r.createsToken = false := by rw [Request.createsToken, hr]
  have hrotates : r.rotatesToken = true := by rw [Request.rotatesToken, hr]
  have henabled : r.requestedEnabled = none := by rw [Request.requestedEnabled, hr]
  refine triple_guarded (triple_capacity ?_)
  rw [triple_bind, triple_db]
  refine ⟨fun _ => trivial, fun found => ?_, fun _ => trivial⟩
  rw [triple_bind, triple_okOr]
  refine ⟨?_, fun _ => trivial⟩
  rintro stored rfl
  rw [triple_bind, encryptToken, triple_liftResult]
  refine ⟨fun encryptedToken _ => ?_, fun _ _ => trivial⟩
  rw [triple_bind, triple_db]
  refine ⟨fun _ => .inr ⟨stored, ?_⟩, fun _ => trivial, fun _ => trivial⟩
  refine ⟨hcreates, rfl, rfl, by rw [henabled]; rfl, fun h => ?_, fun _ => ⟨rfl, ?_⟩⟩
  · rw [hrotates] at h
    cases h
  · intro call hmem
    obtain rfl := List.mem_singleton.mp hmem
    rfl

/-- The handlers of devices, which change the link of tokens and nothing else of them. -/
theorem setTokenDeviceLink_spec (hcreates : r.createsToken = false) (hrotates : r.rotatesToken = false)
    (henabled : r.requestedEnabled = none) {oldTokenId newTokenId : Option String} {deviceId : String}
    (calls : RecordedCalls) :
    Triple (tokenMonitor c amb r) (setTokenDeviceLink oldTokenId newTokenId deviceId)
      (fun _ _ => True) (fun _ _ => True) calls := by
  have hrewrites : ∀ {calls : RecordedCalls} {id : String} {read token : ApiToken},
      token.core = read.core →
        TokenOriginates c amb r (calls ++ [⟨.getToken id, .ok (some read)⟩]) (.setToken token) := by
    intro calls id read token hcore
    simp only [ApiToken.core, Prod.mk.injEq] at hcore
    obtain ⟨hid, hhash, hflag⟩ := hcore
    refine .inr ⟨read, hcreates, by simp [lastTokenRead], hid, by rw [henabled, hflag]; rfl,
      fun _ => hhash, fun h => ?_⟩
    rw [hrotates] at h
    cases h
  unfold setTokenDeviceLink
  rw [triple_runIf]
  refine ⟨fun _ => ?_, fun _ => trivial⟩
  have hnew : ∀ calls : RecordedCalls, Triple (tokenMonitor c amb r) (ifSome newTokenId fun newTokenId => do
      let found : Option ApiToken ← db (.getToken newTokenId)
      let token ← okOr found (.badRequest s!"Token '{newTokenId}' not found")
      db (.setToken { token with deviceId := some deviceId })) (fun _ _ => True) (fun _ _ => True) calls := by
    intro calls
    rw [triple_ifSome]
    refine ⟨fun newTokenId _ => ?_, fun _ => trivial⟩
    rw [triple_bind, triple_db]
    refine ⟨fun _ => trivial, fun found => ?_, fun _ => trivial⟩
    rw [triple_bind, triple_okOr]
    refine ⟨?_, fun _ => trivial⟩
    rintro read rfl
    rw [triple_db]
    exact ⟨fun _ => hrewrites rfl, fun _ => trivial, fun _ => trivial⟩
  rw [triple_bind, triple_ifSome]
  refine ⟨fun oldTokenId _ => ?_, fun _ => hnew calls⟩
  rw [triple_bind, triple_db]
  refine ⟨fun _ => trivial, fun found => ?_, fun _ => trivial⟩
  rw [triple_ifSome]
  refine ⟨?_, fun _ => hnew _⟩
  rintro read rfl
  rw [triple_runIf]
  refine ⟨fun _ => ?_, fun _ => hnew _⟩
  rw [triple_db]
  exact ⟨fun _ => hrewrites rfl, fun _ => hnew _, fun _ => trivial⟩

theorem ensureTokenExists_spec {tokenId : Option String} {calls : RecordedCalls}
    {ok : RecordedCalls → Unit → Prop} (hok : ∀ calls, ok calls ()) :
    Triple (tokenMonitor c amb r) (ensureTokenExists tokenId) ok (fun _ _ => True) calls := by
  unfold ensureTokenExists
  rw [triple_ifSome]
  refine ⟨fun tokenId _ => ?_, fun _ => hok _⟩
  rw [triple_bind, triple_db]
  refine ⟨fun _ => trivial, fun found => ?_, fun _ => trivial⟩
  rw [triple_ensure]
  exact ⟨fun _ => hok _, fun _ => trivial⟩

theorem adminCreateDevice_spec {body : CreateDeviceRequest}
    (hr : r.endpoint = .adminCreateDevice body) :
    Triple (tokenMonitor c amb r) (adminCreateDevice c state amb r.headers body)
      (fun _ _ => True) (fun _ _ => True) [] := by
  refine triple_guarded (triple_capacity ?_)
  rw [triple_bind, ensureDeviceName, triple_ensure]
  refine ⟨fun _ => ?_, fun _ => trivial⟩
  rw [triple_bind, ensurePatternValid, triple_ensure]
  refine ⟨fun _ => ?_, fun _ => trivial⟩
  rw [triple_bind]
  refine ensureTokenExists_spec fun calls => ?_
  rw [triple_bind, triple_db]
  refine ⟨fun _ => trivial, fun _ => ?_, fun _ => trivial⟩
  rw [triple_bind]
  exact setTokenDeviceLink_spec (by rw [Request.createsToken, hr]) (by rw [Request.rotatesToken, hr])
    (by rw [Request.requestedEnabled, hr]) _

theorem adminUpdateDevice_spec {id : String} {body : UpdateDeviceRequest}
    (hr : r.endpoint = .adminUpdateDevice id body) :
    Triple (tokenMonitor c amb r) (adminUpdateDevice c state amb id r.headers body)
      (fun _ _ => True) (fun _ _ => True) [] := by
  refine triple_guarded (triple_capacity ?_)
  rw [triple_bind, triple_db]
  refine ⟨fun _ => trivial, fun found => ?_, fun _ => trivial⟩
  rw [triple_bind, triple_okOr]
  refine ⟨fun stored _ => ?_, fun _ => trivial⟩
  refine .skip (by simp [ensureDeviceName]) (raises_true _) (fun _ _ => trivial) fun _ => ?_
  refine .skip (by simp [ensurePatternValid]) (raises_true _) (fun _ _ => trivial) fun _ => ?_
  have hrest : ∀ (device : DeviceRecord) (calls : RecordedCalls), Triple (tokenMonitor c amb r) (do
      db (.setDevice device)
      setTokenDeviceLink stored.tokenId device.tokenId device.id
      pure device) (fun _ _ => True) (fun _ _ => True) calls := by
    intro device calls
    rw [triple_bind, triple_db]
    refine ⟨fun _ => trivial, fun _ => ?_, fun _ => trivial⟩
    rw [triple_bind]
    exact setTokenDeviceLink_spec (by rw [Request.createsToken, hr]) (by rw [Request.rotatesToken, hr])
      (by rw [Request.requestedEnabled, hr]) _
  rw [triple_bind, triple_runIf]
  exact ⟨fun _ => ensureTokenExists_spec fun calls => hrest _ calls, fun _ => hrest _ _⟩

theorem adminDeleteDevice_spec {id : String} (hr : r.endpoint = .adminDeleteDevice id) :
    Triple (tokenMonitor c amb r) (adminDeleteDevice c state amb id r.headers)
      (fun _ _ => True) (fun _ _ => True) [] := by
  refine triple_guarded ?_
  rw [triple_bind, triple_db]
  refine ⟨fun _ => trivial, fun found => ?_, fun _ => trivial⟩
  rw [triple_bind, triple_okOr]
  refine ⟨fun device _ => ?_, fun _ => trivial⟩
  rw [triple_bind]
  refine (setTokenDeviceLink_spec (by rw [Request.createsToken, hr]) (by rw [Request.rotatesToken, hr])
    (by rw [Request.requestedEnabled, hr]) _).mono (fun calls _ _ => ?_) fun _ _ h => h
  rw [triple_db]
  exact ⟨fun _ => trivial, fun _ => trivial, fun _ => trivial⟩

theorem adminDeleteToken_spec {id : String} :
    Triple (tokenMonitor c amb r) (adminDeleteToken c state amb id r.headers)
      (fun _ _ => True) (fun _ _ => True) [] := by
  refine Calls.triple_allowed ?_ (fun _ _ => trivial) fun _ _ => trivial
  refine .bind (verifyAdminMutation_reads (fun _ _ _ => trivial) _ _) fun _ =>
    .bind ?_ fun devices => .bind (.forM fun device => ?_) fun _ => ?_
  · exact (calls_db _).mpr fun _ _ => trivial
  · exact calls_runIf.mpr fun _ => (calls_db _).mpr fun _ _ => trivial
  · exact (calls_db _).mpr fun _ _ => trivial

end Handlers

/-! ## Every request -/

theorem handle_tokens_outside (r : Request) (h : r.endpoint.area ≠ some .tokens) :
    (handle c state amb r).run.Obeys (tokenMonitor c amb r) (fun _ _ => True) [] := by
  apply Program.Calls.obeys_allowed _ fun _ _ => trivial
  refine Program.Calls.mono ?_ (handle_calls r)
  intro call hcall calls _
  cases call with
  | setToken token =>
    rcases hcall with hnone | hsome
    · cases hnone
    · exact absurd hsome.symm h
  | _ => trivial

/-- Every request writes tokens as `TokenOriginates` says. -/
theorem handle_tokens (r : Request) :
    (handle c state amb r).run.Obeys (tokenMonitor c amb r) (fun _ _ => True) [] := by
  have hwrapped {α : Type} {x : Handler α} {f : α → Response}
      (h : Triple (tokenMonitor c amb r) x (fun _ _ => True) (fun _ _ => True) []) :
      (x >>= fun a => pure (f a)).run.Obeys (tokenMonitor c amb r) (fun _ _ => True) [] :=
    obeys_wrapped h (fun _ _ _ => trivial) fun _ _ _ => trivial
  obtain ⟨endpoint, peer, headers⟩ := r
  cases endpoint with
  | adminCreateToken => exact hwrapped (adminCreateToken_spec rfl)
  | adminUpdateToken => exact hwrapped (adminUpdateToken_spec rfl)
  | adminRotateToken => exact hwrapped (adminRotateToken_spec rfl)
  | adminDeleteToken => exact hwrapped adminDeleteToken_spec
  | adminCreateDevice => exact hwrapped (adminCreateDevice_spec rfl)
  | adminUpdateDevice => exact hwrapped (adminUpdateDevice_spec rfl)
  | adminDeleteDevice => exact hwrapped (adminDeleteDevice_spec rfl)
  | _ =>
    refine handle_tokens_outside _ ?_
    simp [Endpoint.area]

/-! ## What lets a sync request in -/

def Endpoint.isSync : Endpoint → Bool
  | .getMetadata _ | .putMetadata .. | .getBlob _ | .putBlob .. => true
  | .listObjects .. | .deleteObject .. | .getObject .. | .putObject .. => true
  | _ => false

/-- These calls have let the request in with this secret, as this token. -/
def Grants (c : Crates) (amb : Ambient) (r : Request) (calls : RecordedCalls) (id secret : String) :
    Prop :=
  presentedToken c r.headers = .ok secret ∧
    (⟨.getTokenIdByHash (hashApiToken c secret), .ok (some id)⟩ : databaseSignature.Call) ∈ calls ∧
    ∃ token ns permission, (⟨.getToken id, .ok (some token)⟩ : databaseSignature.Call) ∈ calls ∧
      checkToken c amb token ns permission = .ok ()

/-- The monitor that records everything. -/
abbrev callMonitor : Monitor databaseSignature := recording (fun _ => true) fun _ _ => True

theorem Grants.append {r : Request} {calls : RecordedCalls} {id secret : String}
    (h : Grants c amb r calls id secret) (call : databaseSignature.Call) :
    Grants c amb r (calls ++ [call]) id secret := by
  obtain ⟨hsecret, hid, token, ns, permission, htoken, hcheck⟩ := h
  exact ⟨hsecret, List.mem_append_left _ hid, token, ns, permission, List.mem_append_left _ htoken,
    hcheck⟩

section Sync
variable {r : Request}

/-- What is granted stays granted, whatever else the request does. -/
theorem triple_granted {α : Type} {calls : RecordedCalls} (x : Handler α)
    (h : ∃ id secret, Grants c amb r calls id secret) :
    Triple callMonitor x (fun calls _ => ∃ id secret, Grants c amb r calls id secret)
      (fun _ _ => True) calls := by
  refine (triple_keeps (M := callMonitor) (fun _ _ _ => trivial) ?_ x h).mono (fun _ _ h => h)
    fun _ _ _ => trivial
  rintro calls call reply ⟨id, secret, hgrants⟩
  exact ⟨id, secret, hgrants.append _⟩

theorem authorize_grants {ns : String} {permission : SyncPermission} {calls : RecordedCalls} :
    Triple callMonitor
      (authorizeSyncRequestWithPermission c state amb r.headers ns permission r.peer)
      (fun calls _ => ∃ id secret, Grants c amb r calls id secret) (fun _ _ => True) calls := by
  unfold authorizeSyncRequestWithPermission ensureNamespaceActive extractAuth getTokenByHash
  rw [triple_bind, triple_bind, triple_db]
  refine ⟨fun _ => trivial, fun deleted => ?_, fun _ => trivial⟩
  rw [triple_ensure]
  refine ⟨fun _ => ?_, fun _ => trivial⟩
  rw [triple_bind, triple_bind, triple_liftResult]
  refine ⟨fun secret hsecret => ?_, fun _ _ => trivial⟩
  rw [triple_bind, triple_mapError, triple_bind, triple_redb]
  refine ⟨fun _ => trivial, fun found => ?_, fun _ => trivial⟩
  cases found with
  | none => trivial
  | some id =>
    rw [triple_redb]
    refine ⟨fun _ => trivial, fun stored => ?_, fun _ => trivial⟩
    rw [triple_okOr]
    refine ⟨?_, fun _ => trivial⟩
    rintro token rfl
    cases hcheck : checkToken c amb token ns permission with
    | error e =>
      rw [triple_bind, recordTokenFailure]
      refine Calls.triple_allowed ?_ (fun _ _ => trivial) fun _ _ => trivial
      exact (calls_dbOr _ _).mpr fun _ _ => trivial
    | ok _ =>
      refine triple_granted _ ⟨id, secret, hsecret, ?_, token, ns, permission, ?_, hcheck⟩
      · simp
      · simp

/-- Every handler of the sync API begins like this. -/
theorem triple_sync {α : Type} {rawNs : String} {permission : SyncPermission}
    (f : String → Handler α) :
    Triple callMonitor (do
      let ns ← liftResult (decodeNamespace c rawNs)
      let _ ← authorizeSyncRequestWithPermission c state amb r.headers ns permission r.peer
      f ns) (fun calls _ => ∃ id secret, Grants c amb r calls id secret) (fun _ _ => True) [] := by
  rw [triple_bind, triple_liftResult]
  refine ⟨fun ns _ => ?_, fun _ _ => trivial⟩
  rw [triple_bind]
  refine authorize_grants.mono (fun calls _ h => ?_) fun _ _ h => h
  exact triple_granted _ h

/-- Only requests that were let in are answered with success. -/
theorem handle_grants (r : Request) (hsync : r.endpoint.isSync = true) :
    (handle c state amb r).run.Obeys callMonitor
      (fun calls answer => ∀ out, answer = .ok out → ∃ id secret, Grants c amb r calls id secret) [] := by
  have hwrapped {α : Type} {x : Handler α} {f : α → Response}
      (h : Triple callMonitor x (fun calls _ => ∃ id secret, Grants c amb r calls id secret)
        (fun _ _ => True) []) :
      (x >>= fun a => pure (f a)).run.Obeys callMonitor
        (fun calls answer => ∀ out, answer = .ok out → ∃ id secret, Grants c amb r calls id secret) [] :=
    obeys_wrapped h (fun _ _ h _ _ => h) fun _ _ _ _ h => nomatch h
  obtain ⟨endpoint, peer, headers⟩ := r
  cases endpoint with
  | getMetadata => exact hwrapped (triple_sync _)
  | putMetadata => exact hwrapped (triple_sync _)
  | getBlob => exact hwrapped (triple_sync _)
  | putBlob => exact hwrapped (triple_sync _)
  | listObjects => exact hwrapped (triple_sync _)
  | deleteObject => exact hwrapped (triple_sync _)
  | getObject => exact hwrapped (triple_sync _)
  | putObject => exact hwrapped (triple_sync _)
  | _ => cases hsync

end Sync

end CloudSync
