import CloudSync.DataWrites
import CloudSync.LoginThrottle

/-!
# Where writes to the accounts of the panel come from

Every handler that changes an account looks it up in one transaction and writes the whole
record back in another one; what guards the last enabled account is counted in a third.
-/

namespace CloudSync

open Rust Transactions Transactions.Fallible

set_option autoImplicit false

def accountCall : DbCall → Bool
  | .getAdminUser _ | .setAdminUser _ | .deleteAdminUser _ | .listAdminUsers => true
  | _ => false

def enabledCount (users : List AdminUserRecord) : Nat := users.countP (·.enabled)

/-- The name that was looked up last, with what was found, and how many enabled accounts
were counted since. -/
structure AccountsSeen where
  read : Option (String × Option AdminUserRecord) := none
  counted : Option Nat := none

/-- The account that was found last. -/
def AccountsSeen.found (seen : AccountsSeen) : Option AdminUserRecord := seen.read.bind (·.2)

def AccountsSeen.next (seen : AccountsSeen) (call : databaseSignature.Call) : AccountsSeen :=
  match call with
  | ⟨.getAdminUser username, .ok found⟩ => { read := some (username, found), counted := none }
  | ⟨.listAdminUsers, .ok users⟩ => { seen with counted := some (enabledCount users) }
  | _ => seen

def accountsSeen (calls : RecordedCalls) : AccountsSeen := calls.foldl AccountsSeen.next {}

@[simp] theorem accountsSeen_append (calls : RecordedCalls) (call : databaseSignature.Call) :
    accountsSeen (calls ++ [call]) = (accountsSeen calls).next call := by
  simp [accountsSeen]

/-! ## What a request sets -/

def Request.createsAccount (r : Request) : Bool :=
  match r.endpoint with
  | .adminCreateUser _ => true
  | _ => false

/-- The request replaces the password of the account that it has found. -/
def Request.setsPassword (c : Crates) (r : Request) (found : AdminUserRecord) : Bool :=
  match r.endpoint with
  | .adminChangeOwnPassword body => verifyAdminPassword c body.currentPassword found.passwordHash
  | .adminUpdateUser _ body => body.password.isSome
  | _ => false

/-- What the request says about `enabled`. -/
def Request.setsEnabled (r : Request) : Option Bool :=
  match r.endpoint with
  | .adminUpdateUser _ body => body.enabled
  | .adminCreateUser body => some (body.enabled.getD true)
  | _ => none

def Request.raisesVersion (c : Crates) (r : Request) (found : AdminUserRecord) : Bool :=
  r.setsPassword c found || r.setsEnabled.any (· != found.enabled)

/-- The session version that the request leaves behind. -/
def Request.versionAfter (c : Crates) (r : Request) (found : AdminUserRecord) : Nat :=
  if r.raisesVersion c found then saturatingAdd found.sessionVersion 1 else found.sessionVersion

/-- An account that is written for the first time. -/
structure CreatesAccount (r : Request) (calls : RecordedCalls) (user : AdminUserRecord) : Prop where
  creates : r.createsAccount = true
  absent : (accountsSeen calls).read = some (user.username, none)
  enabled : r.setsEnabled = some user.enabled

/-- An account that is written back after it was found. -/
structure RewritesAccount (c : Crates) (r : Request) (calls : RecordedCalls) (username : String)
    (found user : AdminUserRecord) : Prop where
  creates : r.createsAccount = false
  read : (accountsSeen calls).read = some (username, some found)
  username : user.username = found.username
  passwordHash : r.setsPassword c found = false → user.passwordHash = found.passwordHash
  enabled : user.enabled = r.setsEnabled.getD found.enabled
  sessionVersion : user.sessionVersion = r.versionAfter c found
  counted : r.setsEnabled = some false → found.enabled = true →
    ∃ n ∈ (accountsSeen calls).counted, 1 < n

/-- An account that is deleted after it was found. -/
structure RemovesAccount (r : Request) (calls : RecordedCalls) (username : String)
    (found : AdminUserRecord) : Prop where
  enabled : r.setsEnabled = none
  read : (accountsSeen calls).read = some (username, some found)
  counted : found.enabled = true → ∃ n ∈ (accountsSeen calls).counted, 1 < n

def AccountOriginates (c : Crates) (r : Request) (calls : RecordedCalls) : DbCall → Prop
  | .setAdminUser user =>
    CreatesAccount r calls user ∨ ∃ username found, RewritesAccount c r calls username found user
  | .deleteAdminUser username => ∃ found, RemovesAccount r calls username found
  | _ => True

abbrev accountMonitor (c : Crates) (r : Request) : Monitor databaseSignature :=
  recording accountCall (AccountOriginates c r)

variable {c : Crates} {state : AppState} {amb : Ambient} {r : Request}

theorem read_lookup (calls : RecordedCalls) (username : String) (found : Option AdminUserRecord) :
    (accountsSeen ((accountMonitor c r).step calls (.getAdminUser username) (.ok found))).read =
      some (username, found) :=
  congrArg AccountsSeen.read (accountsSeen_append calls ⟨.getAdminUser username, .ok found⟩)

theorem read_count (calls : RecordedCalls) (users : List AdminUserRecord) :
    (accountsSeen ((accountMonitor c r).step calls .listAdminUsers (.ok users))).read =
      (accountsSeen calls).read := by
  have h := congrArg AccountsSeen.read (accountsSeen_append calls ⟨.listAdminUsers, .ok users⟩)
  exact h

theorem counted_count (calls : RecordedCalls) (users : List AdminUserRecord) :
    (accountsSeen ((accountMonitor c r).step calls .listAdminUsers (.ok users))).counted =
      some (enabledCount users) :=
  congrArg AccountsSeen.counted (accountsSeen_append calls ⟨.listAdminUsers, .ok users⟩)

/-- A login has found an enabled account whose password it knows. -/
def LoginAccepted (c : Crates) (body : LoginRequest) (calls : RecordedCalls) : Prop :=
  ∃ found, ⟨.getAdminUser (loginUsername body), .ok (some found)⟩ ∈ calls ∧ found.enabled = true ∧
    verifyAdminPassword c body.password found.passwordHash = true

theorem ignores_of_not_accountCall {call : DbCall} (h : accountCall call = false) :
    (accountMonitor c r).Ignores call := recording_ignores h

/-! ## The handlers -/

section Handlers
variable {calls : RecordedCalls}

/-- Looking up the account of the session is nothing that restricts what comes behind. -/
theorem triple_session {α β : Type} {x : Handler α} {f : α → Handler β} {ok : RecordedCalls → β → Prop}
    (hx : Calls (fun call : DbCall => ∃ username, call = .getAdminUser username) x)
    (hf : ∀ calls a, Triple (accountMonitor c r) (f a) ok (fun _ _ => True) calls) :
    Triple (accountMonitor c r) (x >>= f) ok (fun _ _ => True) calls := by
  rw [triple_bind]
  refine Calls.triple_allowed (Program.Calls.mono ?_ hx) (fun calls a => hf calls a) fun _ _ => trivial
  rintro _ ⟨username, rfl⟩ calls _
  trivial

theorem triple_ignored {α β : Type} {x : Handler α} {f : α → Handler β} {ok : RecordedCalls → β → Prop}
    (hx : Calls (fun call : DbCall => accountCall call = false) x)
    (hf : ∀ a, Triple (accountMonitor c r) (f a) ok (fun _ _ => True) calls) :
    Triple (accountMonitor c r) (x >>= f) ok (fun _ _ => True) calls :=
  .skip (Program.Calls.mono (fun _ => ignores_of_not_accountCall) hx) (raises_true _) (fun _ _ => trivial) hf

theorem verifyAdminMutation_lookups (headers : HeaderMap) (now : Instant) :
    Calls (fun call : DbCall => ∃ username, call = .getAdminUser username)
      (verifyAdminMutation c state headers now) :=
  verifyAdminMutation_reads (fun username => ⟨username, rfl⟩) _ _

theorem validateAdminSession_lookups (headers : HeaderMap) (now : Instant) :
    Calls (fun call : DbCall => ∃ username, call = .getAdminUser username)
      (validateAdminSession c state headers now) :=
  validateAdminSession_reads (fun username => ⟨username, rfl⟩) _ _

theorem recordLoginFailure_unseen (ip : IpAddr) (now : Instant) :
    Calls (fun call : DbCall => accountCall call = false) (recordLoginFailure c state ip now) :=
  .bind (by simp [accountCall]) fun _ => .bind (by simp) fun _ =>
    .bind (by simp [accountCall]) fun _ => by simp

/-- Noting the use of an account changes none of what it decides. -/
theorem noted_originates {username : String} {found user : AdminUserRecord}
    (hread : (accountsSeen calls).read = some (username, some found)) (hcreates : r.createsAccount = false)
    (hpassword : r.setsPassword c found = false) (henabled : r.setsEnabled = none)
    (huser : user.username = found.username ∧ user.passwordHash = found.passwordHash ∧
      user.enabled = found.enabled ∧ user.sessionVersion = found.sessionVersion) :
    AccountOriginates c r calls (.setAdminUser user) := by
  refine .inr ⟨username, found, hcreates, hread, huser.1, fun _ => huser.2.1, ?_, ?_, ?_⟩
  · rw [henabled]
    exact huser.2.2.1
  · have hraises : r.raisesVersion c found = false := by
      rw [Request.raisesVersion, hpassword, henabled]
      rfl
    rw [Request.versionAfter, hraises]
    exact huser.2.2.2
  · rw [henabled]
    intro h
    cases h

theorem adminLogin_accounts {body : LoginRequest} (hr : r.endpoint = .adminLogin body) (peer : IpAddr)
    (headers : HeaderMap) :
    Triple (accountMonitor c r) (adminLogin c state amb peer headers body)
      (fun calls' _ => LoginAccepted c body calls') (fun _ _ => True) calls := by
  have hcreates : r.createsAccount = false := by rw [Request.createsAccount, hr]
  have hpassword (found : AdminUserRecord) : r.setsPassword c found = false := by
    rw [Request.setsPassword, hr]
  have henabled : r.setsEnabled = none := by rw [Request.setsEnabled, hr]
  have hallowed : Calls (fun call : DbCall => accountCall call = false)
      (ensureLoginAllowed c state (resolveClientIp c state headers peer) (amb.now 0)) := by
    refine .bind (by simp [accountCall]) fun _ => .bind (by simp [accountCall]) fun attempt => ?_
    cases (Option.bind attempt (·.blockedUntil)).bind c.parseFromRfc3339 <;> simp
  refine triple_ignored hallowed fun _ => triple_ignored (by simp) fun _ => ?_
  rw [triple_bind, triple_db]
  refine ⟨fun _ => trivial, fun found => ?_, fun _ => trivial⟩
  cases found with
  | none => exact triple_ignored (recordLoginFailure_unseen _ _) fun _ => trivial
  | some found =>
    have hread := read_lookup (c := c) (r := r) calls (loginUsername body) (some found)
    have hfound : (⟨.getAdminUser (loginUsername body), .ok (some found)⟩ : databaseSignature.Call) ∈
        (accountMonitor c r).step calls (.getAdminUser (loginUsername body)) (.ok (some found)) :=
      List.mem_append_right calls (List.mem_singleton_self _)
    dsimp only
    change Triple _ (ite _ _ _) _ _ _
    split
    · rw [triple_bind, recordUserLoginFailure, triple_db]
      refine ⟨fun _ => noted_originates hread hcreates (hpassword _) henabled
        ⟨rfl, rfl, rfl, rfl⟩, fun _ => ?_, fun _ => trivial⟩
      exact triple_ignored (recordLoginFailure_unseen _ _) fun _ => trivial
    · next haccepted =>
      simp only [Bool.or_eq_true, Bool.not_eq_true', not_or, Bool.not_eq_false] at haccepted
      refine triple_ignored (by simp [clearLoginFailures, accountCall]) fun _ => ?_
      rw [triple_bind, triple_db]
      refine ⟨fun _ => noted_originates hread hcreates (hpassword _) henabled
        ⟨rfl, rfl, rfl, rfl⟩, fun _ => ?_, fun _ => trivial⟩
      exact triple_ignored (by simp [createAdminJwtForUser]) fun _ => triple_ignored (by simp) fun _ =>
        triple_ignored (by simp) fun _ => ⟨found, List.mem_append_left _ hfound, haccepted⟩

theorem adminChangeOwnPassword_accounts {body : ChangeOwnPasswordRequest}
    (hr : r.endpoint = .adminChangeOwnPassword body) (headers : HeaderMap) :
    Triple (accountMonitor c r) (adminChangeOwnPassword c state amb headers body)
      (fun _ _ => True) (fun _ _ => True) calls := by
  have hcreates : r.createsAccount = false := by rw [Request.createsAccount, hr]
  have henabled : r.setsEnabled = none := by rw [Request.setsEnabled, hr]
  refine triple_session (verifyAdminMutation_lookups _ _) fun calls _ =>
    triple_ignored (ensureDiskCapacity_calls _ _) fun _ =>
    triple_session (validateAdminSession_lookups _ _) fun calls username =>
    triple_ignored (by simp [ensurePasswordLength]) fun _ => ?_
  rw [triple_bind, triple_db]
  refine ⟨fun _ => trivial, fun found => ?_, fun _ => trivial⟩
  rw [triple_bind, triple_okOr]
  refine ⟨?_, fun _ => trivial⟩
  rintro found rfl
  have hpassword : r.setsPassword c found = verifyAdminPassword c body.currentPassword found.passwordHash := by
    rw [Request.setsPassword, hr]
  have hread := read_lookup (c := c) (r := r) calls username (some found)
  change Triple _ (ite _ _ _) _ _ _
  split
  · next hwrong =>
    rw [triple_bind, recordUserLoginFailure, triple_db]
    refine ⟨fun _ => noted_originates hread hcreates ?_ henabled
      ⟨rfl, rfl, rfl, rfl⟩, fun _ => trivial, fun _ => trivial⟩
    rw [hpassword]
    simpa using hwrong
  · next hright =>
    have hsets : r.setsPassword c found = true := by
      rw [hpassword]
      simpa using hright
    refine triple_ignored (by simp [hashAdminPassword]) fun passwordHash => ?_
    rw [triple_bind, triple_db]
    refine ⟨fun _ => .inr ⟨username, found, hcreates, hread, rfl, ?_, ?_, ?_, ?_⟩,
      fun _ => ?_, fun _ => trivial⟩
    · rw [hsets]
      intro h
      cases h
    · rw [henabled]
      rfl
    · rw [Request.versionAfter, Request.raisesVersion, hsets]
      rfl
    · rw [henabled]
      intro h
      cases h
    · exact triple_ignored (by simp [createAdminJwtForUser]) fun _ => triple_ignored (by simp) fun _ => trivial

theorem adminCreateUser_accounts {body : CreateUserRequest} (hr : r.endpoint = .adminCreateUser body)
    (headers : HeaderMap) :
    Triple (accountMonitor c r) (adminCreateUser c state amb headers body)
      (fun _ _ => True) (fun _ _ => True) calls := by
  refine triple_session (verifyAdminMutation_lookups _ _) fun calls _ =>
    triple_ignored (ensureDiskCapacity_calls _ _) fun _ =>
    triple_session (validateAdminSession_lookups _ _) fun calls _ =>
    triple_ignored (by simp) fun _ => triple_ignored (by simp [ensurePasswordLength]) fun _ => ?_
  rw [triple_bind, triple_db]
  refine ⟨fun _ => trivial, fun found => ?_, fun _ => trivial⟩
  rw [triple_bind, triple_ensure]
  refine ⟨fun habsent => ?_, fun _ => trivial⟩
  obtain rfl : found = none := by simpa using habsent
  refine triple_ignored (by simp [hashAdminPassword]) fun passwordHash => ?_
  rw [triple_bind, triple_db]
  refine ⟨fun _ => .inl ⟨by rw [Request.createsAccount, hr], read_lookup _ _ _, ?_⟩,
    fun _ => trivial, fun _ => trivial⟩
  rw [Request.setsEnabled, hr]
  rfl

/-- The guard counts what is enabled. -/
theorem ensureOtherEnabledAdmin_spec (message : String) {ok : RecordedCalls → Unit → Prop}
    (hok : ∀ calls', (accountsSeen calls').read = (accountsSeen calls).read →
      (∃ n ∈ (accountsSeen calls').counted, 1 < n) → ok calls' ()) :
    Triple (accountMonitor c r) (ensureOtherEnabledAdmin message) ok (fun _ _ => True) calls := by
  unfold ensureOtherEnabledAdmin enabledAdminUserCount
  rw [triple_bind, triple_bind, triple_db]
  refine ⟨fun _ => trivial, fun users => ?_, fun _ => trivial⟩
  rw [triple_pure, triple_ensure]
  refine ⟨fun hmany => ?_, fun _ => trivial⟩
  refine hok _ (read_count calls users) ⟨enabledCount users, counted_count calls users, ?_⟩
  simpa [enabledCount] using hmany

theorem adminUpdateUser_accounts {username : String} {body : UpdateUserRequest}
    (hr : r.endpoint = .adminUpdateUser username body) (headers : HeaderMap) :
    Triple (accountMonitor c r) (adminUpdateUser c state amb username headers body)
      (fun _ _ => True) (fun _ _ => True) calls := by
  have hcreates : r.createsAccount = false := by rw [Request.createsAccount, hr]
  have henabled : r.setsEnabled = body.enabled := by rw [Request.setsEnabled, hr]
  refine triple_session (verifyAdminMutation_lookups _ _) fun calls _ =>
    triple_ignored (ensureDiskCapacity_calls _ _) fun _ =>
    triple_session (validateAdminSession_lookups _ _) fun calls _ =>
    triple_ignored (by simp) fun _ => ?_
  rw [triple_bind, triple_db]
  refine ⟨fun _ => trivial, fun found => ?_, fun _ => trivial⟩
  rw [triple_bind, triple_okOr]
  refine ⟨?_, fun _ => trivial⟩
  rintro found rfl
  have hpassword : r.setsPassword c found = body.password.isSome := by rw [Request.setsPassword, hr]
  rw [triple_bind]
  have hhash : Triple (accountMonitor c r) (hashNewPassword c amb body.password)
      (fun calls' newHash => (accountsSeen calls').read = some (username, some found) ∧
        newHash.isSome = body.password.isSome) (fun _ _ => True)
      (calls ++ [⟨.getAdminUser username, .ok (some found)⟩]) := by
    unfold hashNewPassword
    cases body.password with
    | none => exact ⟨by simp [AccountsSeen.next], rfl⟩
    | some password =>
      refine triple_ignored (by simp [ensurePasswordLength]) fun _ =>
        triple_ignored (by simp [hashAdminPassword]) fun hash => ?_
      exact ⟨by simp [AccountsSeen.next], rfl⟩
  refine hhash.mono ?_ fun _ _ _ => trivial
  rintro calls' newHash ⟨hread, hnew⟩
  have hwrite (calls'' : RecordedCalls) (hread : (accountsSeen calls'').read = some (username, some found))
      (hcounted : body.enabled = some false → found.enabled = true →
        ∃ n ∈ (accountsSeen calls'').counted, 1 < n) (passwordUpdatedAt disabledAt updatedAt : String) :
      Triple (accountMonitor c r) (do
        db (.setAdminUser (patchedUser found newHash body.enabled passwordUpdatedAt disabledAt updatedAt))
        pure (serializeAdminUser
          (patchedUser found newHash body.enabled passwordUpdatedAt disabledAt updatedAt)))
        (fun _ _ => True) (fun _ _ => True) calls'' := by
    rw [triple_bind, triple_db]
    refine ⟨fun _ => .inr ⟨username, found, hcreates, hread, rfl, ?_, ?_, ?_, ?_⟩, fun _ => trivial,
      fun _ => trivial⟩
    · rw [hpassword, ← hnew]
      intro hnone
      simp only [Option.isSome_eq_false_iff, Option.isNone_iff_eq_none] at hnone
      simp [patchedUser, hnone]
    · rw [henabled]
      rfl
    · rw [Request.versionAfter, Request.raisesVersion, hpassword, henabled, ← hnew]
      rfl
    · rw [henabled]
      exact hcounted
  rw [triple_bind, triple_runIf]
  refine ⟨fun _ => ensureOtherEnabledAdmin_spec _ fun calls'' hsame hcounted =>
    hwrite calls'' (hsame.trans hread) (fun _ _ => hcounted) _ _ _, fun hno => hwrite calls' hread ?_ _ _ _⟩
  intro hdisables hfound
  rw [hdisables, hfound] at hno
  cases hno

theorem adminDeleteUser_accounts {username : String} (hr : r.endpoint = .adminDeleteUser username)
    (headers : HeaderMap) :
    Triple (accountMonitor c r) (adminDeleteUser c state amb username headers)
      (fun _ _ => True) (fun _ _ => True) calls := by
  have henabled : r.setsEnabled = none := by rw [Request.setsEnabled, hr]
  refine triple_session (verifyAdminMutation_lookups _ _) fun calls _ =>
    triple_session (validateAdminSession_lookups _ _) fun calls _ =>
    triple_ignored (by simp) fun _ => ?_
  rw [triple_bind, triple_db]
  refine ⟨fun _ => trivial, fun found => ?_, fun _ => trivial⟩
  rw [triple_bind, triple_okOr]
  refine ⟨?_, fun _ => trivial⟩
  rintro found rfl
  have hdelete (calls' : RecordedCalls) (hread : (accountsSeen calls').read = some (username, some found))
      (hcounted : found.enabled = true → ∃ n ∈ (accountsSeen calls').counted, 1 < n) :
      Triple (accountMonitor c r) (db (.deleteAdminUser username)) (fun _ _ => True) (fun _ _ => True)
        calls' := by
    rw [triple_db]
    exact ⟨fun _ => ⟨found, henabled, hread, hcounted⟩, fun _ => trivial, fun _ => trivial⟩
  rw [triple_bind, triple_runIf]
  refine ⟨fun _ => ensureOtherEnabledAdmin_spec _ fun calls' hsame hcounted =>
    hdelete calls' (hsame.trans (read_lookup _ _ _)) fun _ => hcounted,
    fun hno => hdelete _ (read_lookup _ _ _) ?_⟩
  intro hfound
  rw [hfound] at hno
  cases hno

end Handlers

/-! ## Every request -/

theorem handle_accounts_outside (r : Request) (h : r.endpoint.area ≠ some .users) :
    (handle c state amb r).run.Obeys (accountMonitor c r) (fun _ _ => True) [] := by
  apply Program.Calls.obeys_allowed _ fun _ _ => trivial
  refine Program.Calls.mono ?_ (handle_calls r)
  intro call hcall calls _
  cases call with
  | setAdminUser user =>
    rcases hcall with hnone | hsome
    · cases hnone
    · exact absurd hsome.symm h
  | deleteAdminUser username =>
    rcases hcall with hnone | hsome
    · cases hnone
    · exact absurd hsome.symm h
  | _ => trivial

theorem handle_loginAccounts (body : LoginRequest) (peer : IpAddr) (headers : HeaderMap) :
    (handle c state amb ⟨.adminLogin body, peer, headers⟩).run.Obeys
      (accountMonitor c ⟨.adminLogin body, peer, headers⟩)
      (fun calls answer => ∀ out, answer = .ok out → LoginAccepted c body calls) [] := by
  refine obeys_wrapped (adminLogin_accounts rfl peer headers) (fun _ _ haccepted _ _ => haccepted) ?_
  intro _ _ _ out herror
  cases herror

/-- Every request writes accounts as `AccountOriginates` says. -/
theorem handle_accounts (r : Request) :
    (handle c state amb r).run.Obeys (accountMonitor c r) (fun _ _ => True) [] := by
  have hwrapped {α : Type} {x : Handler α} {f : α → Response}
      (h : Triple (accountMonitor c r) x (fun _ _ => True) (fun _ _ => True) []) :
      (x >>= fun a => pure (f a)).run.Obeys (accountMonitor c r) (fun _ _ => True) [] :=
    obeys_wrapped h (fun _ _ _ => trivial) fun _ _ _ => trivial
  obtain ⟨endpoint, peer, headers⟩ := r
  cases endpoint with
  | adminLogin body => exact .mono (fun _ _ _ => trivial) (handle_loginAccounts body peer headers)
  | adminChangeOwnPassword => exact hwrapped (adminChangeOwnPassword_accounts rfl headers)
  | adminCreateUser => exact hwrapped (adminCreateUser_accounts rfl headers)
  | adminUpdateUser => exact hwrapped (adminUpdateUser_accounts rfl headers)
  | adminDeleteUser => exact hwrapped (adminDeleteUser_accounts rfl headers)
  | _ =>
    refine handle_accounts_outside _ ?_
    simp [Endpoint.area]

/-! ## Events -/

/-- What a call does to the accounts. -/
inductive AccountsStep (db : Db) (call : databaseSignature.Call) (db' : Db) : Prop where
  | same (h : db'.adminUsers = db.adminUsers)
  | written (user : AdminUserRecord) (hcall : call = ⟨.setAdminUser user, .ok ()⟩)
      (h : db' = db.setAdminUser user)
  | deleted (username : String) (hcall : call = ⟨.deleteAdminUser username, .ok ()⟩)
      (h : db' = db.deleteAdminUser username)

theorem accountsStep {call : DbCall} {reply : databaseSignature.Reply call} {db db' : Db}
    (h : Effect (S := databaseSignature) (DbCall.exec c) call reply db db') :
    AccountsStep db ⟨call, reply⟩ db' := by
  cases h with
  | fail f => exact .same rfl
  | commit =>
    rcases exec_adminUsers (c := c) db call with ⟨user, rfl⟩ | ⟨username, rfl⟩ | hsame
    · exact .written user rfl rfl
    · exact .deleted username rfl rfl
    · exact .same hsame

theorem getAdminUser_setAdminUser (db : Db) (user : AdminUserRecord) (username : String) :
    (db.setAdminUser user).getAdminUser username =
      if user.username = username then some user else db.getAdminUser username := by
  rw [Db.getAdminUser, Db.setAdminUser, Redb.Table.get_insert, Db.getAdminUser]
  exact if_congr ⟨fun hkey => adminUserKey_injective hkey, congrArg adminUserKey⟩ rfl rfl

theorem getAdminUser_deleteAdminUser (db : Db) (removed username : String) :
    (db.deleteAdminUser removed).getAdminUser username =
      if removed = username then none else db.getAdminUser username := by
  rw [Db.getAdminUser, Db.deleteAdminUser, Redb.Table.get_erase, Db.getAdminUser]
  exact if_congr ⟨fun hkey => adminUserKey_injective hkey, congrArg adminUserKey⟩ rfl rfl

/-- An account that is stored after a call was stored before, or is being written. -/
theorem AccountsStep.stored {db db' : Db} {call : databaseSignature.Call} {username : String}
    {user : AdminUserRecord} (h : AccountsStep db call db') (hpost : db'.getAdminUser username = some user) :
    db.getAdminUser username = some user ∨
      call = ⟨.setAdminUser user, .ok ()⟩ ∧ user.username = username := by
  cases h with
  | same hsame =>
    rw [Db.getAdminUser, hsame] at hpost
    exact .inl hpost
  | written written hcall hset =>
    rw [hset, getAdminUser_setAdminUser] at hpost
    split at hpost
    · next hname =>
      cases hpost
      exact .inr ⟨hcall, hname⟩
    · exact .inl hpost
  | deleted removed hcall hdelete =>
    rw [hdelete, getAdminUser_deleteAdminUser] at hpost
    split at hpost
    · cases hpost
    · exact .inl hpost

/-- What a request has seen of the accounts when it comes to the event. -/
def seenAt (before : List DbEvent) (e : DbEvent) : AccountsSeen :=
  accountsSeen (ownCalls accountCall e.tid before)

/-- The account that a committed call writes. -/
def accountWritten : databaseSignature.Call → Option AdminUserRecord
  | ⟨.setAdminUser user, .ok ()⟩ => some user
  | _ => none

theorem accountWritten_eq_some {call : databaseSignature.Call} {user : AdminUserRecord} :
    accountWritten call = some user ↔ call = ⟨.setAdminUser user, .ok ()⟩ := by
  constructor
  · intro h
    unfold accountWritten at h
    split at h
    · cases h
      rfl
    · cases h
  · rintro rfl
    rfl

section Runs
variable {t : Traffic} {start s : Db} {ps : Nat → Program databaseSignature Answer}
  {before after : List DbEvent} {e : DbEvent}

theorem account_originates {user : AdminUserRecord}
    (h : ServerRun c state t start (before ++ e :: after) s ps)
    (hcall : e.call = ⟨.setAdminUser user, .ok ()⟩) :
    AccountOriginates c (t.request e.tid) (ownCalls accountCall e.tid before) (.setAdminUser user) := by
  have hop : e.op = .setAdminUser user := congrArg Sigma.fst hcall
  have ho := h.recorded (handle_accounts (t.request e.tid)) (show accountCall e.op = true by rw [hop]; rfl)
  rwa [hop] at ho

theorem removal_originates {username : String}
    (h : ServerRun c state t start (before ++ e :: after) s ps)
    (hcall : e.call = ⟨.deleteAdminUser username, .ok ()⟩) :
    ∃ found, RemovesAccount (t.request e.tid) (ownCalls accountCall e.tid before) username found := by
  have hop : e.op = .deleteAdminUser username := congrArg Sigma.fst hcall
  have ho := h.recorded (handle_accounts (t.request e.tid)) (show accountCall e.op = true by rw [hop]; rfl)
  rwa [hop] at ho

end Runs

end CloudSync
