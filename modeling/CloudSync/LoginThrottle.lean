import CloudSync.Deadlines
import CloudSync.Throttle.Window

/-!
# The login throttle

Each login throws away all records that are over, whatever the address, and a failure
starts a new record where the old one is over. For each address alone this is the
throttle by windows and lockouts.
-/

namespace CloudSync

open Rust Redb Transactions Transactions.Fallible Throttle

set_option autoImplicit false

theorem monotone_numSeconds : Monotone numSeconds := by
  intro a b hab
  unfold numSeconds
  exact Int.tdiv_le_tdiv (by decide) hab

def loginPolicy (state : AppState) : Policy where
  window := state.loginWindowSeconds
  elapsed := numSeconds
  lockout := state.loginLockoutSeconds * nanosPerSecond
  maxFailures := state.maxLoginFailures
  elapsed_mono := monotone_numSeconds

variable (c : Crates) (state : AppState)

/-- What `db` says about the credentials. -/
def loginOutcome (db : Db) (amb : Ambient) (body : LoginRequest) : Outcome :=
  if state.adminEnabled then
    match db.getAdminUser (loginUsername body) with
    | none => .wrong (amb.now 1)
    | some user => if credentialsFit c body (some user) then .right else .wrong (amb.now 3)
  else .notChecked

def storedWindow (w : Window) : LoginAttemptRecord where
  firstFailureAt := c.toRfc3339 w.start
  failures := w.failures
  blockedUntil := w.lockedUntil.map c.toRfc3339

section Stored
variable {c state} {t : Instant} {w : Window} {s : Option Window}

theorem storedWindow_blockedUntil (hc : c.FormatsInstants)
    (hw : Kept (loginPolicy state) FourDigitYear w) :
    (storedWindow c w).blockedUntil.bind c.parseFromRfc3339 = w.lockedUntil := by
  unfold storedWindow
  cases hlocked : w.lockedUntil with
  | none => rfl
  | some lockedUntil => exact hc.readsBack lockedUntil (hw.lockedUntil lockedUntil hlocked)

theorem shouldKeepAttempt_storedWindow (hc : c.FormatsInstants)
    (hw : Kept (loginPolicy state) FourDigitYear w) :
    Db.shouldKeepAttempt c t state.loginWindowSeconds (storedWindow c w) =
      (loginPolicy state).holds t w := by
  unfold Db.shouldKeepAttempt Policy.holds
  rw [storedWindow_blockedUntil hc hw]
  have hstart : c.parseFromRfc3339 (storedWindow c w).firstFailureAt = some w.start :=
    hc.readsBack w.start hw.start
  rw [hstart]
  rfl

theorem filter_storedWindow (hc : c.FormatsInstants)
    (hs : ∀ w ∈ s, Kept (loginPolicy state) FourDigitYear w) :
    (s.map (storedWindow c)).filter (Db.shouldKeepAttempt c t state.loginWindowSeconds) =
      (s.filter ((loginPolicy state).holds t)).map (storedWindow c) := by
  cases s with
  | none => rfl
  | some w =>
    rw [Option.map_some, Option.filter_some, Option.filter_some,
      shouldKeepAttempt_storedWindow hc (hs w rfl)]
    split
    · rfl
    · rfl

theorem lockedOut_storedWindow (hc : c.FormatsInstants)
    (hs : ∀ w ∈ s, Kept (loginPolicy state) FourDigitYear w) :
    lockedOut c (s.map (storedWindow c)) t = refuses t s := by
  cases s with
  | none => rfl
  | some w =>
    unfold lockedOut refuses
    rw [Option.map_some, Option.bind_some, Option.bind_some, storedWindow_blockedUntil hc (hs w rfl)]

theorem openCounter_storedWindow (hc : c.FormatsInstants)
    (hs : ∀ w ∈ s, Kept (loginPolicy state) FourDigitYear w)
    (hunlocked : ∀ w ∈ s, w.lockedUntil = none) (ht : FourDigitYear t) :
    openCounter c state (s.map (storedWindow c)) t =
      storedWindow c ((s.filter ((loginPolicy state).holds t)).getD ⟨t, 0, none⟩) := by
  unfold openCounter
  cases s with
  | none =>
    simp only [Option.map_none, Option.getD_none, hc.readsBack t ht]
    split
    · rfl
    · rfl
  | some w =>
    have hholds : (loginPolicy state).holds t w =
        decide (numSeconds (t - w.start) ≤ state.loginWindowSeconds) := by
      rw [Policy.holds, hunlocked w rfl]
      rfl
    have hstart : c.parseFromRfc3339 (storedWindow c w).firstFailureAt = some w.start :=
      hc.readsBack w.start (hs w rfl).start
    simp only [Option.map_some, Option.getD_some, hstart, Option.filter_some, hholds,
      decide_eq_true_eq]
    by_cases hopen : numSeconds (t - w.start) ≤ state.loginWindowSeconds
    · rw [if_neg (not_lt.mpr hopen), if_pos hopen]
      rfl
    · rw [if_pos (not_le.mp hopen), if_neg hopen]
      rfl

/-- One more failure of an address that is not locked out. -/
theorem countFailure_storedWindow (hc : c.FormatsInstants) (hmax : state.maxLoginFailures < 2 ^ 32)
    (hs : ∀ w ∈ s, Kept (loginPolicy state) FourDigitYear w)
    (hunlocked : ∀ w ∈ s, w.lockedUntil = none) (ht : FourDigitYear t) {lockedUntil : Instant}
    (hadd : addSeconds c t state.loginLockoutSeconds = some lockedUntil) :
    countFailure c state (s.map (storedWindow c)) t =
      some (storedWindow c ((loginPolicy state).afterFailure t s)) := by
  rw [countFailure_eq, openCounter_storedWindow hc hs hunlocked ht]
  unfold Policy.afterFailure
  generalize hw : (s.filter ((loginPolicy state).holds t)).getD ⟨t, 0, none⟩ = w
  have hroom : w.failures + 1 < 2 ^ 32 := by
    subst hw
    cases hfilter : s.filter ((loginPolicy state).holds t) with
    | none =>
      dsimp only [Option.getD_none]
      omega
    | some w =>
      have hmem : w ∈ s := (Option.mem_filter_iff.mp hfilter).1
      have hfailures : w.failures < state.maxLoginFailures := (hs w hmem).room (hunlocked w hmem)
      rw [Option.getD_some]
      omega
  have hfailures : ((storedWindow c w).failures + 1) % 2 ^ 32 = w.failures + 1 :=
    Nat.mod_eq_of_lt hroom
  have hlockedUntil : lockedUntil = t + (loginPolicy state).lockout := (addSeconds_eq hadd).1
  have hmany : (loginPolicy state).maxFailures = state.maxLoginFailures := rfl
  rw [hfailures, hadd, hlockedUntil, hmany]
  by_cases hlocks : state.maxLoginFailures ≤ w.failures + 1
  · simp only [hlocks, if_true]
    rfl
  · simp only [hlocks, if_false]
    rfl

end Stored

/-! ## One login -/

def credentials (user : AdminUserRecord) : Bool × String := (user.enabled, user.passwordHash)

/-- The same credentials are right. -/
def SameCredentials (db db' : Db) : Prop :=
  ∀ username, (db'.getAdminUser username).map credentials = (db.getAdminUser username).map credentials

/-- Every account is stored under its own name. -/
def AccountsNamed (db : Db) : Prop :=
  ∀ username user, db.getAdminUser username = some user → user.username = username

/-- The counters after a login that was let through. -/
def attemptsAfter (swept : Db) (ip : IpAddr) : Outcome → Table LoginAttemptRecord
  | .notChecked => swept.loginAttempts
  | .right => swept.loginAttempts.erase ip
  | .wrong failedAt =>
    match countFailure c state (swept.getLoginAttempt ip) failedAt with
    | some record => swept.loginAttempts.insert ip record
    | none => swept.loginAttempts

/-- What a login does to the database. -/
structure LoginEffect {α : Type} (swept : Db) (ip : IpAddr) (outcome : Outcome)
    (result : Except AppError α × Db) : Prop where
  notRefused : ∀ message, result.1 ≠ .error (.tooManyRequests message)
  attempts : result.2.loginAttempts = attemptsAfter c state swept ip outcome
  users : result.2.adminUsers = swept.adminUsers ∨
    ∃ username user user', swept.getAdminUser username = some user ∧
      user'.username = user.username ∧ credentials user' = credentials user ∧
      result.2.adminUsers = swept.adminUsers.insert (adminUserKey user'.username) user'

section Login
variable {c state} {amb : Ambient} {body : LoginRequest} {peer ip : IpAddr} {headers : HeaderMap}
  {db : Db}

theorem ensureLoginAllowed_refuses {now : Instant} (hlocked : lockedOut c
    ((db.cleanupLoginAttempts c now state.loginWindowSeconds).getLoginAttempt ip) now = true) :
    ∃ message, (ensureLoginAllowed c state ip now).alone (DbCall.exec c) db =
      (.error (.tooManyRequests message), db.cleanupLoginAttempts c now state.loginWindowSeconds) := by
  unfold ensureLoginAllowed
  rw [alone_bind, alone_db]
  simp only [DbCall.exec]
  rw [alone_bind, alone_db]
  simp only [DbCall.exec]
  unfold lockedOut at hlocked
  cases hblocked : (((db.cleanupLoginAttempts c now state.loginWindowSeconds).getLoginAttempt ip).bind
      (·.blockedUntil)).bind c.parseFromRfc3339 with
  | none => simp [hblocked] at hlocked
  | some blockedUntil =>
    rw [hblocked, Option.any_some, decide_eq_true_eq] at hlocked
    have hearly : decide (blockedUntil ≤ now) = false := decide_eq_false (not_le.mpr hlocked)
    exact ⟨_, by rw [alone_ensure, hearly]; rfl⟩

theorem ensureLoginAllowed_admits {now : Instant} (hlocked : lockedOut c
    ((db.cleanupLoginAttempts c now state.loginWindowSeconds).getLoginAttempt ip) now = false) :
    (ensureLoginAllowed c state ip now).alone (DbCall.exec c) db =
      (.ok (), db.cleanupLoginAttempts c now state.loginWindowSeconds) := by
  unfold ensureLoginAllowed
  rw [alone_bind, alone_db]
  simp only [DbCall.exec]
  rw [alone_bind, alone_db]
  simp only [DbCall.exec]
  unfold lockedOut at hlocked
  cases hblocked : (((db.cleanupLoginAttempts c now state.loginWindowSeconds).getLoginAttempt ip).bind
      (·.blockedUntil)).bind c.parseFromRfc3339 with
  | none => rfl
  | some blockedUntil =>
    rw [hblocked, Option.any_some, decide_eq_false_iff_not, not_lt] at hlocked
    rw [alone_ensure, decide_eq_true hlocked]
    rfl

/-- Counting a failure and answering that the credentials are wrong. -/
theorem failure_effect {α : Type} {swept noted : Db} {failedAt : Instant}
    (hattempts : noted.loginAttempts = swept.loginAttempts)
    (husers : noted.adminUsers = swept.adminUsers ∨
      ∃ username user user', swept.getAdminUser username = some user ∧
        user'.username = user.username ∧ credentials user' = credentials user ∧
        noted.adminUsers = swept.adminUsers.insert (adminUserKey user'.username) user') :
    LoginEffect c state swept ip (.wrong failedAt)
      (((do
        let _ ← recordLoginFailure c state ip failedAt
        throw invalidCredentials) : Handler α).alone (DbCall.exec c) noted) := by
  have hread : noted.getLoginAttempt ip = swept.getLoginAttempt ip := by
    unfold Db.getLoginAttempt
    rw [hattempts]
  rw [alone_bind, alone_recordLoginFailure, hread]
  cases hcount : countFailure c state (swept.getLoginAttempt ip) failedAt with
  | none =>
    refine ⟨?_, ?_, husers⟩
    · intro message heq
      cases heq
    · simp [attemptsAfter, hcount, hattempts]
  | some record =>
    refine ⟨?_, ?_, husers⟩
    · intro message heq
      cases heq
    · simp [attemptsAfter, hcount, hattempts, Db.setLoginAttempt]

/-- Opening the session once the credentials are right. -/
theorem session_effect {swept noted : Db} {username : String} {version : Nat} {now : Instant}
    {secureCookie : Bool}
    (hattempts : noted.loginAttempts = swept.loginAttempts.erase ip)
    (husers : noted.adminUsers = swept.adminUsers ∨
      ∃ username user user', swept.getAdminUser username = some user ∧
        user'.username = user.username ∧ credentials user' = credentials user ∧
        noted.adminUsers = swept.adminUsers.insert (adminUserKey user'.username) user') :
    LoginEffect c state swept ip .right
      (((do
        let jwt ← createAdminJwtForUser c state username version now
        let cookie ← okOr (parseHeaderValue (buildAdminSessionCookie jwt secureCookie))
          (.internal "Invalid session cookie: failed to parse header value")
        let csrfCookie ← okOr (parseHeaderValue (buildCsrfCookie (amb.newUuid 0) secureCookie))
          (.internal "Invalid CSRF cookie: failed to parse header value")
        pure ⟨jwt, [cookie, csrfCookie], some (amb.newUuid 0), none⟩) : Handler SessionResponse).alone
          (DbCall.exec c) noted) := by
  have hsame : ∀ result : Except AppError SessionResponse,
      (∀ message, result ≠ .error (.tooManyRequests message)) →
        LoginEffect c state swept ip .right (result, noted) := by
    intro result hresult
    exact ⟨hresult, hattempts, husers⟩
  rw [alone_bind, createAdminJwtForUser, alone_liftResult]
  cases c.jwtEncode state.jwtSecret _ with
  | error e => exact hsame _ (by intro message heq; cases heq)
  | ok jwt =>
    dsimp only [Except.mapError]
    rw [alone_bind, alone_okOr]
    cases parseHeaderValue (buildAdminSessionCookie jwt secureCookie) with
    | none => exact hsame _ (by intro message heq; cases heq)
    | some cookie =>
      dsimp only
      rw [alone_bind, alone_okOr]
      cases parseHeaderValue (buildCsrfCookie (amb.newUuid 0) secureCookie) with
      | none => exact hsame _ (by intro message heq; cases heq)
      | some csrfCookie => exact hsame _ (by intro message heq; cases heq)

theorem adminLogin_effect {swept : Db} (hlocked : lockedOut c
      ((db.cleanupLoginAttempts c (amb.now 0) state.loginWindowSeconds).getLoginAttempt
        (resolveClientIp c state headers peer)) (amb.now 0) = false)
    (hswept : swept = db.cleanupLoginAttempts c (amb.now 0) state.loginWindowSeconds) :
    LoginEffect c state swept (resolveClientIp c state headers peer)
      (loginOutcome c state db amb body)
      ((adminLogin c state amb peer headers body).alone (DbCall.exec c) db) := by
  unfold adminLogin
  rw [alone_bind, ensureLoginAllowed_admits hlocked, ← hswept]
  dsimp only
  have hsame : swept.getAdminUser (loginUsername body) = db.getAdminUser (loginUsername body) := by
    rw [hswept]
    rfl
  rw [alone_bind, alone_ensure]
  unfold loginOutcome
  cases henabled : state.adminEnabled with
  | false =>
    refine ⟨?_, rfl, .inl rfl⟩
    intro message heq
    cases heq
  | true =>
    simp only [if_true]
    rw [alone_bind, alone_db]
    simp only [DbCall.exec]
    rw [hsame]
    cases hfound : db.getAdminUser (loginUsername body) with
    | none => exact failure_effect rfl (.inl rfl)
    | some user =>
      rw [hfound] at hsame
      have hfits : credentialsFit c body (some user) =
          !(!user.enabled || !verifyAdminPassword c body.password user.passwordHash) := by
        simp [credentialsFit]
      cases hwrong : (!user.enabled || !verifyAdminPassword c body.password user.passwordHash) with
      | true =>
        rw [hwrong] at hfits
        simp only [hfits, hwrong, if_true, Bool.not_true, Bool.false_eq_true, if_false]
        rw [alone_bind, recordUserLoginFailure, alone_db]
        refine failure_effect rfl (.inr ?_)
        exact ⟨_, user, failedLogin user (c.toRfc3339 (amb.now 1)) (c.toRfc3339 (amb.now 2)),
          hsame, rfl, rfl, rfl⟩
      | false =>
        rw [hwrong] at hfits
        simp only [hfits, hwrong, if_true, Bool.not_false, Bool.false_eq_true, if_false]
        rw [alone_bind, clearLoginFailures, alone_db]
        simp only [DbCall.exec]
        rw [alone_bind, alone_db]
        simp only [DbCall.exec]
        refine session_effect rfl (.inr ?_)
        exact ⟨_, user, loggedIn user (resolveClientIp c state headers peer)
          (c.toRfc3339 (amb.now 1)) (c.toRfc3339 (amb.now 2)), hsame, rfl, rfl, rfl⟩

theorem serve_login_refused {r : Request} (hlogin : r.endpoint = .adminLogin body)
    (hlocked : lockedOut c ((db.cleanupLoginAttempts c (amb.now 0) state.loginWindowSeconds
      ).getLoginAttempt (resolveClientIp c state r.headers r.peer)) (amb.now 0) = true) :
    ∃ message, serve c state amb r db = (.error (.tooManyRequests message),
      db.cleanupLoginAttempts c (amb.now 0) state.loginWindowSeconds) := by
  obtain ⟨message, hrefused⟩ := ensureLoginAllowed_refuses hlocked
  refine ⟨message, ?_⟩
  unfold serve handle
  rw [hlogin]
  dsimp only
  rw [alone_bind, adminLogin, alone_bind, hrefused]

theorem serve_login_admitted {r : Request} (hlogin : r.endpoint = .adminLogin body)
    (hlocked : lockedOut c ((db.cleanupLoginAttempts c (amb.now 0) state.loginWindowSeconds
      ).getLoginAttempt (resolveClientIp c state r.headers r.peer)) (amb.now 0) = false) :
    LoginEffect c state (db.cleanupLoginAttempts c (amb.now 0) state.loginWindowSeconds)
      (resolveClientIp c state r.headers r.peer) (loginOutcome c state db amb body)
      (serve c state amb r db) := by
  have heffect : LoginEffect c state _ _ (loginOutcome c state db amb body) _ :=
    adminLogin_effect hlocked rfl
  unfold serve handle
  rw [hlogin]
  dsimp only
  rw [alone_bind]
  rcases hresult : (adminLogin c state amb r.peer r.headers body).alone (DbCall.exec c) db with
    ⟨e | response, after⟩
  · rw [hresult] at heffect ⊢
    refine ⟨?_, heffect.attempts, heffect.users⟩
    intro message heq
    cases heq
    exact heffect.notRefused message rfl
  · rw [hresult] at heffect ⊢
    refine ⟨?_, heffect.attempts, heffect.users⟩
    intro message heq
    cases heq

theorem loginOutcome_wrong {failedAt : Instant}
    (h : loginOutcome c state db amb body = .wrong failedAt) : ∃ k, failedAt = amb.now k := by
  unfold loginOutcome at h
  split at h
  · split at h
    · cases h
      exact ⟨1, rfl⟩
    · split at h
      · cases h
      · cases h
        exact ⟨3, rfl⟩
  · cases h

theorem loginOutcome_of_same {db' : Db} (h : SameCredentials db db') :
    loginOutcome c state db' amb body = loginOutcome c state db amb body := by
  have huser := h (loginUsername body)
  unfold loginOutcome
  cases hfound : db.getAdminUser (loginUsername body) with
  | none =>
    rw [hfound, Option.map_none, Option.map_eq_none_iff] at huser
    rw [huser]
  | some user =>
    rw [hfound, Option.map_some, Option.map_eq_some_iff] at huser
    obtain ⟨user', hfound', hcredentials⟩ := huser
    obtain ⟨henabled, hhash⟩ := Prod.mk.inj hcredentials
    have hfits : credentialsFit c body (some user') = credentialsFit c body (some user) := by
      simp only [credentialsFit, Option.any_some, henabled, hhash]
    rw [hfound']
    simp only [hfits]

variable {α : Type} {swept : Db} {outcome : Outcome} {result : Except AppError α × Db}

theorem LoginEffect.accounts (h : LoginEffect c state swept ip outcome result)
    (hnamed : AccountsNamed swept) : AccountsNamed result.2 ∧ SameCredentials swept result.2 := by
  rcases h.users with heq | ⟨username, user, user', hfound, hname, hcredentials, heq⟩
  · constructor
    · intro username user hfound
      rw [Db.getAdminUser, heq] at hfound
      exact hnamed username user hfound
    · intro username
      rw [Db.getAdminUser, heq, Db.getAdminUser]
  · have hkey : user'.username = username := hname.trans (hnamed username user hfound)
    have hread (other : String) : result.2.getAdminUser other =
        if username = other then some user' else swept.getAdminUser other := by
      rw [Db.getAdminUser, heq, Table.get_insert, hkey]
      simp only [adminUserKey_injective.eq_iff]
      rfl
    constructor
    · intro other found hother
      rw [hread] at hother
      split at hother
      · next hsame =>
        cases hother
        exact hkey.trans hsame
      · exact hnamed other found hother
    · intro other
      rw [hread]
      split
      · next hsame =>
        rw [← hsame, hfound, Option.map_some, Option.map_some, hcredentials]
      · rfl

/-- The counters of other addresses. -/
theorem LoginEffect.others (h : LoginEffect c state swept ip outcome result) {other : IpAddr}
    (hne : ip ≠ other) : result.2.getLoginAttempt other = swept.getLoginAttempt other := by
  unfold Db.getLoginAttempt
  rw [h.attempts]
  unfold attemptsAfter
  cases outcome with
  | notChecked => rfl
  | right => rw [Table.get_erase, if_neg hne]
  | wrong failedAt =>
    dsimp only
    split
    · rw [Table.get_insert, if_neg hne]
    · rfl

end Login

/-! ## Logins one after the other -/

def loginIp (r : Request) : IpAddr := resolveClientIp c state r.headers r.peer

/-- The attempts of one address, with what `start` says about their credentials. -/
def ownAttempts (start : Db) (ip : IpAddr) (logins : List (Ambient × Request)) : List Attempt :=
  (logins.filter fun login => loginIp c state login.2 = ip).map fun login =>
    ⟨login.1.now 0, loginOutcome c state start login.1 (loginBody login.2)⟩

/-- The window of the address by its own attempts. -/
def ownWindow (start : Db) (ip : IpAddr) (logins : List (Ambient × Request)) : Option Window :=
  (loginPolicy state).run (ownAttempts c state start ip logins)

/-- The clock never goes back. -/
structure ClockRuns (logins : List (Ambient × Request)) : Prop where
  within : ∀ login ∈ logins, ∀ k, login.1.now 0 ≤ login.1.now k
  between : logins.Pairwise fun login later => login.1.now 0 ≤ later.1.now 0

/-- The counters are the windows, except for those that are over at `t`. -/
structure Throttled (start : Db) (logins : List (Ambient × Request)) (t : Instant) (s : Db) :
    Prop where
  named : AccountsNamed s
  same : SameCredentials start s
  inRange : ∀ ip, ∀ w ∈ ownWindow c state start ip logins,
    Kept (loginPolicy state) FourDigitYear w
  rows : ∀ ip, ∃ kept, s.getLoginAttempt ip = kept.map (storedWindow c) ∧
    Keeps (loginPolicy state) t kept (ownWindow c state start ip logins)

/-- The clock readings of a login and the lockouts that start with them have years of four
digits. -/
def InYears (amb : Ambient) : Prop :=
  ∀ k, FourDigitYear (amb.now k) ∧
    ∃ d ∈ addSeconds c (amb.now k) state.loginLockoutSeconds, FourDigitYear d

section Logins
variable {c state} {start s : Db} {logins : List (Ambient × Request)} {amb : Ambient} {r : Request}
  {t : Instant} {ip : IpAddr}

theorem ownWindow_own (hip : loginIp c state r = ip) :
    ownWindow c state start ip (logins ++ [(amb, r)]) =
      (loginPolicy state).step (ownWindow c state start ip logins)
        ⟨amb.now 0, loginOutcome c state start amb (loginBody r)⟩ := by
  simp [ownWindow, ownAttempts, Policy.run, List.filter_append, hip]

theorem ownWindow_other (hip : loginIp c state r ≠ ip) :
    ownWindow c state start ip (logins ++ [(amb, r)]) = ownWindow c state start ip logins := by
  simp [ownWindow, ownAttempts, List.filter_append, hip]

/-- The counter that a login finds once it has thrown away what is over. -/
theorem Throttled.swept (hc : c.FormatsInstants) (h : Throttled c state start logins t s)
    (hle : t ≤ amb.now 0) (ip : IpAddr) :
    (s.cleanupLoginAttempts c (amb.now 0) state.loginWindowSeconds).getLoginAttempt ip =
      ((ownWindow c state start ip logins).filter ((loginPolicy state).holds (amb.now 0))).map
        (storedWindow c) := by
  obtain ⟨kept, hrow, hkeeps⟩ := h.rows ip
  have hkept : ∀ w ∈ kept, Kept (loginPolicy state) FourDigitYear w := by
    intro w hw
    rcases hkeeps with rfl | ⟨rfl, _⟩
    · exact h.inRange ip w hw
    · cases hw
  rw [getLoginAttempt_cleanup, hrow, filter_storedWindow hc hkept, hkeeps.filter_eq hle]

theorem Throttled.lockedOut_eq (hc : c.FormatsInstants) (h : Throttled c state start logins t s)
    (hle : t ≤ amb.now 0) (ip : IpAddr) :
    lockedOut c ((s.cleanupLoginAttempts c (amb.now 0) state.loginWindowSeconds).getLoginAttempt ip)
      (amb.now 0) = refuses (amb.now 0) (ownWindow c state start ip logins) := by
  rw [h.swept hc hle, lockedOut_storedWindow hc, refuses_filter]
  intro w hw
  exact h.inRange ip w (Option.mem_filter_iff.mp hw).1

theorem throttled_refused (hc : c.FormatsInstants) (h : Throttled c state start logins t s)
    (hle : t ≤ amb.now 0) (hlogin : r.endpoint = .adminLogin (loginBody r))
    (hrefuses : refuses (amb.now 0) (ownWindow c state start (loginIp c state r) logins) = true) :
    Throttled c state start (logins ++ [(amb, r)]) (amb.now 0) (serve c state amb r s).2 := by
  have hlocked := (h.lockedOut_eq hc hle (loginIp c state r)).trans hrefuses
  obtain ⟨message, hserve⟩ := serve_login_refused hlogin hlocked
  have hwindow (ip : IpAddr) : ownWindow c state start ip (logins ++ [(amb, r)]) =
      ownWindow c state start ip logins := by
    by_cases hip : loginIp c state r = ip
    · rw [ownWindow_own hip, Policy.step, ← hip, if_pos hrefuses]
    · exact ownWindow_other hip
  rw [hserve]
  refine ⟨h.named, h.same, ?_, ?_⟩
  · intro ip
    rw [hwindow]
    exact h.inRange ip
  · intro ip
    rw [hwindow]
    exact ⟨_, h.swept hc hle ip, (keeps_self _ _).sweep (le_refl _)⟩

theorem throttled_admitted (hc : c.FormatsInstants) (hmax : state.maxLoginFailures < 2 ^ 32)
    (h : Throttled c state start logins t s) (hle : t ≤ amb.now 0)
    (hclock : ∀ k, amb.now 0 ≤ amb.now k) (hyears : InYears c state amb)
    (hlogin : r.endpoint = .adminLogin (loginBody r))
    (hrefuses : refuses (amb.now 0) (ownWindow c state start (loginIp c state r) logins) = false) :
    Throttled c state start (logins ++ [(amb, r)]) (amb.now 0) (serve c state amb r s).2 := by
  have hlocked := (h.lockedOut_eq hc hle (loginIp c state r)).trans hrefuses
  have heffect := serve_login_admitted hlogin hlocked
  rw [loginOutcome_of_same h.same] at heffect
  obtain ⟨hnamed, hsame⟩ := heffect.accounts h.named
  have hswept (ip : IpAddr) := h.swept hc hle ip
  have hkept : ∀ w ∈ (ownWindow c state start (loginIp c state r) logins).filter
      ((loginPolicy state).holds (amb.now 0)), Kept (loginPolicy state) FourDigitYear w := by
    intro w hw
    exact h.inRange _ w (Option.mem_filter_iff.mp hw).1
  have hown : ownWindow c state start (loginIp c state r) (logins ++ [(amb, r)]) = _ :=
    ownWindow_own rfl
  rw [Policy.step, hrefuses, if_neg Bool.false_ne_true] at hown
  have hthis : (∀ w ∈ ownWindow c state start (loginIp c state r) (logins ++ [(amb, r)]),
        Kept (loginPolicy state) FourDigitYear w) ∧
      ∃ kept, (serve c state amb r s).2.getLoginAttempt (loginIp c state r) =
        kept.map (storedWindow c) ∧ Keeps (loginPolicy state) (amb.now 0) kept
          (ownWindow c state start (loginIp c state r) (logins ++ [(amb, r)])) := by
    rw [hown, Db.getLoginAttempt, heffect.attempts]
    cases houtcome : loginOutcome c state start amb (loginBody r) with
    | notChecked =>
      refine ⟨h.inRange _, _, hswept _, ?_⟩
      exact (keeps_self _ _).sweep (le_refl _)
    | right =>
      refine ⟨?_, none, ?_, keeps_self _ _⟩
      · intro w hw
        cases hw
      · dsimp only [attemptsAfter]
        rw [Table.get_erase]
        exact if_pos rfl
    | wrong failedAt =>
      obtain ⟨k, rfl⟩ := loginOutcome_wrong houtcome
      obtain ⟨hnow, lockedUntil, hadd, hyear⟩ := hyears k
      have hlockout : lockedUntil = amb.now k + (loginPolicy state).lockout := (addSeconds_eq hadd).1
      have hcount := countFailure_storedWindow hc hmax hkept
        (fun w hw => lockedUntil_of_not_refuses hrefuses hw) hnow hadd
      rw [afterFailure_filter (hclock k)] at hcount
      refine ⟨?_, some ((loginPolicy state).afterFailure (amb.now k) _), ?_, keeps_self _ _⟩
      · intro w hw
        cases hw
        exact kept_afterFailure (h.inRange _) hnow (hlockout ▸ hyear)
      · dsimp only [attemptsAfter]
        have hread : (s.cleanupLoginAttempts c (amb.now 0) state.loginWindowSeconds).getLoginAttempt
            (resolveClientIp c state r.headers r.peer) = _ := hswept (loginIp c state r)
        rw [hread, hcount]
        dsimp only
        rw [Table.get_insert]
        exact if_pos rfl
  refine ⟨hnamed, ?_, ?_, ?_⟩
  · intro username
    exact (hsame username).trans (h.same username)
  · intro ip
    by_cases hip : loginIp c state r = ip
    · rw [← hip]
      exact hthis.1
    · rw [ownWindow_other hip]
      exact h.inRange ip
  · intro ip
    by_cases hip : loginIp c state r = ip
    · rw [← hip]
      exact hthis.2
    · rw [ownWindow_other hip, heffect.others hip]
      exact ⟨_, hswept ip, (keeps_self _ _).sweep (le_refl _)⟩

theorem Throttled.later {t' : Instant} (h : Throttled c state start logins t s) (hle : t ≤ t') :
    Throttled c state start logins t' s := by
  refine ⟨h.named, h.same, h.inRange, ?_⟩
  intro ip
  obtain ⟨kept, hrow, hkeeps⟩ := h.rows ip
  exact ⟨kept, hrow, hkeeps.later hle⟩

theorem throttled_run (hc : c.FormatsInstants) (hmax : state.maxLoginFailures < 2 ^ 32)
    {rest : List (Ambient × Request)} (h : Throttled c state start logins t s)
    (hlogins : ∀ login ∈ rest, login.2.endpoint = .adminLogin (loginBody login.2))
    (hyears : ∀ login ∈ rest, InYears c state login.1) (hclock : ClockRuns rest)
    (hbefore : ∀ login ∈ rest, t ≤ login.1.now 0) {t' : Instant} (hle : t ≤ t')
    (hafter : ∀ login ∈ rest, login.1.now 0 ≤ t') :
    Throttled c state start (logins ++ rest) t' (serveAll c state rest s).2 := by
  induction rest generalizing logins s t with
  | nil =>
    rw [List.append_nil]
    exact h.later hle
  | cons login rest ih =>
    obtain ⟨amb, r⟩ := login
    have hnow : t ≤ amb.now 0 := hbefore (amb, r) (by simp)
    have hlogin := hlogins (amb, r) (by simp)
    have hbetween := List.pairwise_cons.mp hclock.between
    have hstep : Throttled c state start (logins ++ [(amb, r)]) (amb.now 0)
        (serve c state amb r s).2 := by
      cases hrefuses : refuses (amb.now 0) (ownWindow c state start (loginIp c state r) logins) with
      | true => exact throttled_refused hc h hnow hlogin hrefuses
      | false =>
        exact throttled_admitted hc hmax h hnow (hclock.within (amb, r) (by simp))
          (hyears (amb, r) (by simp)) hlogin hrefuses
    have hrest := ih hstep (fun login hmem => hlogins login (by simp [hmem]))
      (fun login hmem => hyears login (by simp [hmem]))
      ⟨fun login hmem => hclock.within login (by simp [hmem]), hbetween.2⟩ hbetween.1
      (hafter (amb, r) (by simp)) (fun login hmem => hafter login (by simp [hmem]))
    rw [List.append_assoc] at hrest
    exact hrest

end Logins

/-! ## Accounts -/

section Accounts
variable {c} {db db' : Db}

/-- Only two calls touch the accounts. -/
theorem exec_adminUsers (db : Db) (call : DbCall) :
    (∃ user, call = .setAdminUser user) ∨ (∃ username, call = .deleteAdminUser username) ∨
      (call.exec c db).2.adminUsers = db.adminUsers := by
  cases call with
  | setAdminUser user => exact .inl ⟨user, rfl⟩
  | deleteAdminUser username => exact .inr (.inl ⟨username, rfl⟩)
  | putBlobIfMatches ns expectedEtag requireAbsent blob m =>
    rcases putBlobIfMatches_cases db ns expectedEtag requireAbsent blob m with
      ⟨message, h⟩ | ⟨revision, message, h⟩ | ⟨_, h⟩
    all_goals
      right
      right
      simp only [DbCall.exec, h]
  | putObjectIfMatches ns path expectedEtag requireAbsent data m =>
    rcases putObjectIfMatches_cases db ns path expectedEtag requireAbsent data m with
      ⟨message, h⟩ | ⟨_, h⟩
    all_goals
      right
      right
      simp only [DbCall.exec, h]
  | recordTokenUsage id ns permission clientIp clientVersion observedAt =>
    obtain ⟨tokens, devices, h⟩ :=
      db.recordTokenUsage_eq id ns permission clientIp clientVersion observedAt
    right
    right
    simp only [DbCall.exec, h]
  | recordTokenFailure id =>
    obtain ⟨tokens, h⟩ := db.recordTokenFailure_eq id
    right
    right
    simp only [DbCall.exec, h]
  | _ => exact .inr (.inr rfl)

theorem accountsNamed_setAdminUser (user : AdminUserRecord) (h : AccountsNamed db) :
    AccountsNamed (db.setAdminUser user) := by
  intro username found hfound
  rw [Db.getAdminUser, Db.setAdminUser, Table.get_insert] at hfound
  split at hfound
  · next hkey =>
    cases hfound
    exact adminUserKey_injective hkey
  · exact h username found hfound

theorem accountsNamed_effect {call : DbCall} {reply : databaseSignature.Reply call}
    (heffect : Effect (S := databaseSignature) (DbCall.exec c) call reply db db')
    (h : AccountsNamed db) : AccountsNamed db' := by
  cases heffect with
  | fail f => exact h
  | commit =>
    rcases exec_adminUsers (c := c) db call with ⟨user, rfl⟩ | ⟨username, rfl⟩ | hsame
    · exact accountsNamed_setAdminUser user h
    · intro other found hfound
      have herased : (db.deleteAdminUser username).getAdminUser other = some found := hfound
      rw [Db.getAdminUser, Db.deleteAdminUser, Table.get_erase] at herased
      split at herased
      · cases herased
      · exact h other found herased
    · intro other found hfound
      rw [Db.getAdminUser, hsame] at hfound
      exact h other found hfound

theorem Reachable.accountsNamed {s : Db} (h : Reachable c s) : AccountsNamed s := by
  refine h.invariant ?_ (fun db user => accountsNamed_setAdminUser user) ?_
  · intro username user hfound
    simp [Db.getAdminUser] at hfound
  · intro state t s log s' ps hs hrun
    exact hrun.linked.invariant (I := AccountsNamed)
      (fun _ _ _ _ heffect hdb => accountsNamed_effect heffect hdb) hs

end Accounts

variable {c state}

/-- A login is turned away exactly when the throttle for its address alone refuses it. -/
theorem login_throttled_by_own_attempts (hc : c.FormatsInstants)
    (hmax : state.maxLoginFailures < 2 ^ 32) {start : Db} (hstart : Reachable c start)
    (hempty : start.loginAttempts = ∅) {logins : List (Ambient × Request)} {amb : Ambient}
    {r : Request} (hlogins : ∀ login ∈ logins ++ [(amb, r)], ∃ body, login.2.endpoint = .adminLogin body)
    (hclock : ClockRuns (logins ++ [(amb, r)]))
    (hyears : ∀ login ∈ logins, InYears c state login.1) :
    (∃ message, (serve c state amb r (serveAll c state logins start).2).1 =
      .error (.tooManyRequests message)) ↔
      refuses (amb.now 0) ((loginPolicy state).run
        (ownAttempts c state start (loginIp c state r) logins)) = true := by
  have hbody : ∀ login ∈ logins ++ [(amb, r)],
      login.2.endpoint = .adminLogin (loginBody login.2) := by
    intro login hmem
    obtain ⟨body, hlogin⟩ := hlogins login hmem
    rw [loginBody, hlogin]
  obtain ⟨hbetween, _, hlast⟩ := List.pairwise_append.mp hclock.between
  -- at the start no address has a counter
  have hnew (t : Instant) : Throttled c state start [] t start := by
    refine ⟨hstart.accountsNamed, fun _ => rfl, ?_, ?_⟩
    · intro ip w hw
      cases hw
    · intro ip
      refine ⟨none, ?_, keeps_self _ _⟩
      rw [Db.getLoginAttempt, hempty]
      rfl
  obtain ⟨t, hfirst, hle⟩ : ∃ t, (∀ login ∈ logins, t ≤ login.1.now 0) ∧ t ≤ amb.now 0 := by
    cases logins with
    | nil => exact ⟨amb.now 0, by simp, le_refl _⟩
    | cons first rest =>
      refine ⟨first.1.now 0, ?_, hlast first (by simp) (amb, r) (by simp)⟩
      intro login hmem
      rcases List.mem_cons.mp hmem with rfl | hmem
      · exact le_refl _
      · exact (List.pairwise_cons.mp hbetween).1 login hmem
  have hrun := throttled_run hc hmax (hnew t) (fun login hmem => hbody login (by simp [hmem])) hyears
    ⟨fun login hmem => hclock.within login (by simp [hmem]), hbetween⟩ hfirst hle
    (fun login hmem => hlast login hmem (amb, r) (by simp))
  rw [List.nil_append] at hrun
  have hgate := hrun.lockedOut_eq hc (le_refl _) (loginIp c state r)
  have hlogin : r.endpoint = .adminLogin (loginBody r) := hbody (amb, r) (by simp)
  have hwindow : (loginPolicy state).run (ownAttempts c state start (loginIp c state r) logins) =
      ownWindow c state start (loginIp c state r) logins := rfl
  rw [hwindow, ← hgate]
  constructor
  · intro hrefused
    obtain ⟨message, hrefused⟩ := hrefused
    by_contra hopen
    exact (serve_login_admitted hlogin (Bool.eq_false_of_not_eq_true hopen)).notRefused message hrefused
  · intro hlocked
    obtain ⟨message, hserve⟩ := serve_login_refused hlogin hlocked
    exact ⟨message, congrArg Prod.fst hserve⟩

def wrongLoginFrom (peer : IpAddr) : Ambient × Request :=
  (numberedAmbient (fun _ => "") 0,
    { endpoint := .adminLogin { username := none, password := "a guess" }
      peer := peer
      headers := [] })

def strictState : AppState := { freshState with maxLoginFailures := 1 }

/-- One failure is one too many, and locks out nobody else. -/
theorem login_throttled_after_one_failure :
    (∃ message, (serve deadlineCrates strictState (wrongLoginFrom "10.0.0.1").1
      (wrongLoginFrom "10.0.0.1").2 (serveAll deadlineCrates strictState [wrongLoginFrom "10.0.0.1"]
        {}).2).1 = .error (.tooManyRequests message)) ∧
    ¬ ∃ message, (serve deadlineCrates strictState (wrongLoginFrom "10.0.0.2").1
      (wrongLoginFrom "10.0.0.2").2 (serveAll deadlineCrates strictState [wrongLoginFrom "10.0.0.1"]
        {}).2).1 = .error (.tooManyRequests message) := by
  have hmem {peer : IpAddr} {login : Ambient × Request}
      (h : login ∈ [wrongLoginFrom "10.0.0.1"] ++ [wrongLoginFrom peer]) :
      ∃ peer, login = wrongLoginFrom peer := by
    rcases List.mem_append.mp h with h | h
    · exact ⟨_, List.mem_singleton.mp h⟩
    · exact ⟨_, List.mem_singleton.mp h⟩
  have hclock (peer : IpAddr) :
      ClockRuns ([wrongLoginFrom "10.0.0.1"] ++ [wrongLoginFrom peer]) := by
    constructor
    · intro login h k
      obtain ⟨peer, rfl⟩ := hmem h
      exact le_refl _
    · simp [wrongLoginFrom, numberedAmbient]
  have hyears : ∀ login ∈ [wrongLoginFrom "10.0.0.1"], InYears deadlineCrates strictState login.1 := by
    intro login h k
    obtain rfl := List.mem_singleton.mp h
    have hnow : (wrongLoginFrom "10.0.0.1").1.now k = 0 := rfl
    rw [hnow]
    exact ⟨by decide, 900 * nanosPerSecond, by decide, by decide⟩
  have hlogins (peer : IpAddr) : ∀ login ∈ [wrongLoginFrom "10.0.0.1"] ++
      [((wrongLoginFrom peer).1, (wrongLoginFrom peer).2)],
        ∃ body, login.2.endpoint = .adminLogin body := by
    intro login h
    obtain ⟨peer, rfl⟩ := hmem h
    exact ⟨_, rfl⟩
  have hiff (peer : IpAddr) := login_throttled_by_own_attempts formatsInstants_deadlineCrates
    (by decide) .created rfl (hlogins peer) (hclock peer) hyears
  constructor
  · apply (hiff "10.0.0.1").mpr
    decide +kernel
  · intro h
    have hrefuses := (hiff "10.0.0.2").mp h
    revert hrefuses
    decide +kernel

end CloudSync
