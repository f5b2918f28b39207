import CloudSync.Reachable
import CloudSync.Transactions.Parties

/-!
# Failed logins at once

A login looks at the counter of its address, checks the credentials, and reads and
writes the counter in two more transactions. Every failure is counted, and no more
logins are let through than there are failures allowed, as long as no login writes
back a counter that has changed and no login is let through on account of failures
that are still to be counted.
-/

namespace CloudSync

open Rust Redb Transactions Transactions.Fallible

set_option autoImplicit false

/-- How far a failing login has come. -/
inductive LoginPhase where
  | fresh
  | swept
  | refused
  | admitted
  | checked
  | read (attempt : Option LoginAttemptRecord)
  | counted
  /-- The credentials are right, or a transaction has failed behind the gate. -/
  | strayed
  deriving DecidableEq

variable (c : Crates) (state : AppState)

def lockedOut (attempt : Option LoginAttemptRecord) (now : Instant) : Bool :=
  ((attempt.bind (·.blockedUntil)).bind c.parseFromRfc3339).any fun blockedUntil => now < blockedUntil

def credentialsFit (body : LoginRequest) (found : Option AdminUserRecord) : Bool :=
  found.any fun user => user.enabled && verifyAdminPassword c body.password user.passwordHash

def LoginPhase.next (amb : Ambient) (body : LoginRequest) (phase : LoginPhase)
    (call : databaseSignature.Call) : LoginPhase :=
  match phase, call with
  | .fresh, ⟨.cleanupLoginAttempts _ _, .ok ()⟩ => .swept
  | .fresh, _ => .refused
  | .swept, ⟨.getLoginAttempt _, .ok attempt⟩ =>
    if lockedOut c attempt (amb.now 0) then .refused else .admitted
  | .swept, _ => .refused
  | .admitted, ⟨.getAdminUser _, .ok found⟩ =>
    if credentialsFit c body found then .strayed else .checked
  | .checked, ⟨.setAdminUser _, .ok ()⟩ => .checked
  | .checked, ⟨.getLoginAttempt _, .ok attempt⟩ => .read attempt
  | .read _, ⟨.setLoginAttempt _ _, .ok ()⟩ => .counted
  | _, _ => .strayed

/-- The transaction that a login makes in a phase. -/
def LoginPhase.Makes (amb : Ambient) (ip : IpAddr) (phase : LoginPhase) (call : DbCall) : Prop :=
  match phase with
  | .fresh => call = .cleanupLoginAttempts (amb.now 0) state.loginWindowSeconds
  | .swept => call = .getLoginAttempt ip
  | .admitted => ∃ username, call = .getAdminUser username
  | .checked => (∃ user, call = .setAdminUser user) ∨ call = .getLoginAttempt ip
  | .read attempt => ∃ record k, call = .setLoginAttempt ip record ∧
      countFailure c state attempt (amb.now k) = some record
  | .refused | .counted => False
  | .strayed => True

/-- The phases in which a login may be answered. -/
def LoginPhase.Ended (amb : Ambient) (phase : LoginPhase) : Prop :=
  match phase with
  | .refused | .counted | .strayed => True
  | .admitted => state.adminEnabled = false
  | .read attempt => ∃ k, countFailure c state attempt (amb.now k) = none
  | .fresh | .swept | .checked => False

abbrev loginMonitor (amb : Ambient) (body : LoginRequest) (ip : IpAddr) :
    Monitor databaseSignature where
  State := LoginPhase
  allow phase call := phase.Makes c state amb ip call
  step phase call reply := phase.next c amb body ⟨call, reply⟩

/-! ## The program of a login -/

section Login
variable {c state} {amb : Ambient} {body : LoginRequest} {ip : IpAddr}

theorem ensureLoginAllowed_spec :
    Triple (loginMonitor c state amb body ip) (ensureLoginAllowed c state ip (amb.now 0))
      (fun phase _ => phase = .admitted) (fun phase _ => phase = .refused) .fresh := by
  unfold ensureLoginAllowed
  rw [triple_bind, triple_db]
  refine ⟨rfl, fun _ => ?_, fun _ => rfl⟩
  rw [triple_bind, triple_db]
  refine ⟨rfl, fun attempt => ?_, fun _ => rfl⟩
  rcases hblocked : (Option.bind attempt (·.blockedUntil)).bind c.parseFromRfc3339 with
    _ | blockedUntil
  · have hopen : lockedOut c attempt (amb.now 0) = false := by simp [lockedOut, hblocked]
    simp [LoginPhase.next, hopen]
  · have hlocked : lockedOut c attempt (amb.now 0) = decide (amb.now 0 < blockedUntil) := by
      simp [lockedOut, hblocked]
    rw [triple_ensure]
    constructor
    · intro hover
      simp only [decide_eq_true_eq] at hover
      simp [LoginPhase.next, hlocked, hover]
    · intro hearly
      simp only [decide_eq_false_iff_not, not_le] at hearly
      simp [LoginPhase.next, hlocked, hearly]

theorem recordLoginFailure_spec (k : Nat) :
    Triple (loginMonitor c state amb body ip) (recordLoginFailure c state ip (amb.now k))
      (fun phase _ => phase = .counted) (fun phase _ => phase.Ended c state amb) .checked := by
  unfold recordLoginFailure
  rw [triple_bind, triple_db]
  refine ⟨.inr rfl, fun attempt => ?_, fun _ => trivial⟩
  rw [triple_bind, triple_okOr]
  constructor
  · intro record hrecord
    rw [triple_bind, triple_db]
    exact ⟨⟨record, k, rfl, hrecord⟩, fun _ => rfl, fun _ => trivial⟩
  · intro hnone
    exact ⟨k, hnone⟩

/-- Once a login has strayed, nothing is asked of it. -/
theorem triple_strayed {α : Type} {x : Handler α} :
    Triple (loginMonitor c state amb body ip) x (fun phase _ => phase = .strayed)
      (fun phase _ => phase.Ended c state amb) .strayed := by
  have hkeeps : Triple (loginMonitor c state amb body ip) x (fun phase _ => phase = .strayed)
      (fun phase _ => phase = .strayed) .strayed := by
    apply Calls.triple_within (P := fun _ => True) (calls_true x)
    · rintro _ call rfl _
      trivial
    · rintro _ call reply rfl _
      rfl
    · rfl
  apply hkeeps.mono
  · intro phase _ hphase
    exact hphase
  · rintro _ _ rfl
    trivial

theorem adminLogin_spec (peer : IpAddr) (headers : HeaderMap) :
    Triple (loginMonitor c state amb body (resolveClientIp c state headers peer))
      (adminLogin c state amb peer headers body) (fun phase _ => phase = .strayed)
      (fun phase _ => phase.Ended c state amb) .fresh := by
  unfold adminLogin
  rw [triple_bind]
  apply ensureLoginAllowed_spec.mono
  · rintro _ _ rfl
    rw [triple_bind, triple_ensure]
    refine ⟨fun _ => ?_, fun hdisabled => hdisabled⟩
    rw [triple_bind, triple_db]
    refine ⟨⟨_, rfl⟩, fun found => ?_, fun _ => trivial⟩
    cases found with
    | none =>
      rw [triple_bind]
      apply (recordLoginFailure_spec 1).mono
      · rintro _ _ rfl
        trivial
      · intro _ _ hended
        exact hended
    | some user =>
      have hnext : (loginMonitor c state amb body (resolveClientIp c state headers peer)).step .admitted
          (.getAdminUser (loginUsername body)) (.ok (some user)) =
          if user.enabled && verifyAdminPassword c body.password user.passwordHash then .strayed
          else .checked := rfl
      rw [hnext]
      cases hfit : (user.enabled && verifyAdminPassword c body.password user.passwordHash) with
      | true => exact triple_strayed
      | false =>
        have hbranch :
            (!user.enabled || !verifyAdminPassword c body.password user.passwordHash) = true := by
          rw [← Bool.not_and, hfit]
          rfl
        simp only [hbranch, if_true]
        rw [triple_bind, recordUserLoginFailure, triple_db]
        refine ⟨.inl ⟨_, rfl⟩, fun _ => ?_, fun _ => trivial⟩
        rw [triple_bind]
        apply (recordLoginFailure_spec 3).mono
        · rintro _ _ rfl
          trivial
        · intro _ _ hended
          exact hended
  · rintro _ _ rfl
    trivial

theorem handle_login (peer : IpAddr) (headers : HeaderMap) :
    (handle c state amb ⟨.adminLogin body, peer, headers⟩).run.Obeys
      (loginMonitor c state amb body (resolveClientIp c state headers peer))
      (fun phase _ => phase.Ended c state amb) .fresh := by
  apply obeys_wrapped (adminLogin_spec peer headers)
  · rintro _ _ rfl
    trivial
  · intro _ _ hended
    exact hended

end Login

/-! ## Logins served at once -/

def loginBody (r : Request) : LoginRequest :=
  match r.endpoint with
  | .adminLogin body => body
  | _ => { username := none, password := "" }

/-- The phase of request `i` after the log. -/
def loginPhase (t : Traffic) (i : Nat) (log : List DbEvent) : LoginPhase :=
  log.foldl (fun phase e =>
    if e.tid = i then phase.next c (t.ambient i) (loginBody (t.request i)) e.call else phase) .fresh

/-- The gate has let the login through. -/
def LoginPhase.isPast (phase : LoginPhase) : Bool :=
  match phase with
  | .admitted | .checked | .read _ | .counted | .strayed => true
  | .fresh | .swept | .refused => false

def LoginPhase.isCounted (phase : LoginPhase) : Bool :=
  match phase with
  | .counted => true
  | _ => false

/-- Let through, and its failure still to be counted. -/
def LoginPhase.isPending (phase : LoginPhase) : Bool :=
  match phase with
  | .admitted | .checked | .read _ | .strayed => true
  | _ => false

def pastLogins (t : Traffic) (log : List DbEvent) : Finset Nat :=
  parties (loginPhase c t) LoginPhase.isPast log

def countedLogins (t : Traffic) (log : List DbEvent) : Finset Nat :=
  parties (loginPhase c t) LoginPhase.isCounted log

def pendingLogins (t : Traffic) (log : List DbEvent) : Finset Nat :=
  parties (loginPhase c t) LoginPhase.isPending log

/-- A reading of the clock by one of the requests. -/
def ReadsClock (t : Traffic) (log : List DbEvent) (now : Instant) : Prop :=
  ∃ e ∈ log, ∃ k, now = (t.ambient e.tid).now k

/-- Only logins from one address are served, none has the right credentials, and all
that have started have finished. -/
structure FailedLogins (t : Traffic) (ip : IpAddr) (log : List DbEvent)
    (ps : Nat → Program databaseSignature Answer) : Prop where
  logins : ∀ e ∈ log, ∃ body, (t.request e.tid).endpoint = .adminLogin body ∧
    resolveClientIp c state (t.request e.tid).headers (t.request e.tid).peer = ip
  fail : ∀ e ∈ log, ∀ username found, e.call = ⟨.getAdminUser username, .ok found⟩ →
    credentialsFit c (loginBody (t.request e.tid)) found = false
  finished : ∀ e ∈ log, ∃ answer, ps e.tid = .ret answer

/-- No login finds the window of the record over. -/
def WindowOpen (t : Traffic) (log : List DbEvent) (record : LoginAttemptRecord) : Prop :=
  ∃ firstFailureAt, c.parseFromRfc3339 record.firstFailureAt = some firstFailureAt ∧
    ∀ now, ReadsClock t log now → numSeconds (now - firstFailureAt) ≤ state.loginWindowSeconds

/-- No login keeps the record. -/
def Outdated (t : Traffic) (log : List DbEvent) (record : LoginAttemptRecord) : Prop :=
  ∀ now, ReadsClock t log now → Db.shouldKeepAttempt c now state.loginWindowSeconds record = false

/-- What the counter of the address holds before the first login: `earlier` failures. -/
def StartsAt (t : Traffic) (log : List DbEvent) (earlier : Nat) (attempt : Option LoginAttemptRecord) :
    Prop :=
  match attempt with
  | none => earlier = 0
  | some record =>
    (WindowOpen c state t log record ∧ record.blockedUntil.bind c.parseFromRfc3339 = none ∧
      record.failures = earlier) ∨
    (Outdated c state t log record ∧ earlier = 0)

/-- All readings of the clock lie in one window, in which no lockout was in force at the start. -/
structure OneWindow (t : Traffic) (ip : IpAddr) (start : Db) (log : List DbEvent) (earlier : Nat) :
    Prop where
  window : ∀ now now', ReadsClock t log now → ReadsClock t log now' →
    numSeconds (now' - now) ≤ state.loginWindowSeconds
  start : StartsAt c state t log earlier (start.getLoginAttempt ip)
  /-- `chrono` reads back the instants that a login writes. -/
  clock : ∀ now, ReadsClock t log now → c.parseFromRfc3339 (c.toRfc3339 now) = some now ∧
    ∀ blockedUntil, addSeconds c now state.loginLockoutSeconds = some blockedUntil →
      c.parseFromRfc3339 (c.toRfc3339 blockedUntil) = some blockedUntil

/-- The steps are such that counting works. -/
structure CountedInTurn (t : Traffic) (ip : IpAddr) (log : List DbEvent) (earlier : Nat) : Prop where
  enabled : state.adminEnabled = true
  /-- No transaction fails behind the gate. -/
  committed : ∀ before e after, log = before ++ e :: after →
    (loginPhase c t e.tid before).isPast = true → ∃ out, e.reply = .ok out
  /-- The counter that is written back has not changed since it was read. -/
  current : ∀ before e after attempt, log = before ++ e :: after →
    loginPhase c t e.tid before = .read attempt → e.pre.getLoginAttempt ip = attempt
  /-- Where a login is let through, no other failure is still to be counted, or those counted and
  those to be counted are too few for a lockout. -/
  gated : ∀ before e after, log = before ++ e :: after →
    loginPhase c t e.tid before = .swept → loginPhase c t e.tid (before ++ [e]) = .admitted →
    pendingLogins c t before = ∅ ∨
      (e.pre.getLoginAttempt ip).elim 0 (·.failures) + (pendingLogins c t before).card <
        state.maxLoginFailures
  /-- A lockout outlasts the logins. -/
  outlasts : ∀ now, ReadsClock t log now → ∃ blockedUntil,
    addSeconds c now state.loginLockoutSeconds = some blockedUntil ∧
      ∀ now', ReadsClock t log now' → now' < blockedUntil
  /-- The counter is a `u32`. -/
  room : earlier + 1 < 2 ^ 32

/-- Every login that was let through is counted, and no more were than failures are allowed. -/
structure AttemptsCounted (t : Traffic) (ip : IpAddr) (log : List DbEvent) (s : Db) (earlier : Nat) :
    Prop where
  counted : pastLogins c t log ≠ ∅ → ∃ record, s.getLoginAttempt ip = some record ∧
    record.failures = earlier + (pastLogins c t log).card
  bounded : (pastLogins c t log).card ≤ max 1 state.maxLoginFailures

/-! ## What one transaction does -/

/-- The transactions of a failing login, with the phases they lead from and to. -/
inductive LoginStep (amb : Ambient) (ip : IpAddr) (pre : Db) :
    Db → LoginPhase → LoginPhase → Prop where
  | sweep :
    LoginStep amb ip pre (pre.cleanupLoginAttempts c (amb.now 0) state.loginWindowSeconds) .fresh .swept
  | turnedAway {phase : LoginPhase} : phase = .fresh ∨ phase = .swept →
    LoginStep amb ip pre pre phase .refused
  | letThrough : lockedOut c (pre.getLoginAttempt ip) (amb.now 0) = false →
    LoginStep amb ip pre pre .swept .admitted
  | check : LoginStep amb ip pre pre .admitted .checked
  | note (user : AdminUserRecord) : LoginStep amb ip pre (pre.setAdminUser user) .checked .checked
  | read : LoginStep amb ip pre pre .checked (.read (pre.getLoginAttempt ip))
  | count (attempt : Option LoginAttemptRecord) (record : LoginAttemptRecord) (k : Nat) :
    countFailure c state attempt (amb.now k) = some record →
    LoginStep amb ip pre (pre.setLoginAttempt ip record) (.read attempt) .counted

section Step
variable {c state} {t : Traffic} {ip : IpAddr} {log : List DbEvent} {e : DbEvent} {i : Nat}

theorem ownPhase : OwnPhase (loginPhase c t) .fresh where
  start _ := rfl
  other i log e he := by simp [loginPhase, he]

theorem loginPhase_own :
    loginPhase c t e.tid (log ++ [e]) =
      (loginPhase c t e.tid log).next c (t.ambient e.tid) (loginBody (t.request e.tid)) e.call := by
  simp [loginPhase]

theorem login_step {amb : Ambient} {body : LoginRequest} {phase : LoginPhase}
    (heffect : Effect (S := databaseSignature) (DbCall.exec c) e.op e.reply e.pre e.post)
    (hmakes : phase.Makes c state amb ip e.op) (hstrayed : phase ≠ .strayed)
    (hcommitted : phase.isPast = true → ∃ out, e.reply = .ok out)
    (hfail : ∀ username found, e.call = ⟨.getAdminUser username, .ok found⟩ →
      credentialsFit c body found = false) :
    LoginStep c state amb ip e.pre e.post phase (phase.next c amb body e.call) := by
  obtain ⟨tid, op, reply, pre, post⟩ := e
  dsimp only [Event.call] at *
  cases phase with
  | fresh =>
    obtain rfl := hmakes
    cases heffect with
    | commit => exact .sweep
    | fail => exact .turnedAway (.inl rfl)
  | swept =>
    obtain rfl := hmakes
    cases heffect with
    | commit =>
      cases hlocked : lockedOut c (pre.getLoginAttempt ip) (amb.now 0) with
      | true =>
        simp only [LoginPhase.next, DbCall.exec, hlocked, if_true]
        exact .turnedAway (.inr rfl)
      | false =>
        simp only [LoginPhase.next, DbCall.exec, hlocked]
        exact .letThrough hlocked
    | fail => exact .turnedAway (.inr rfl)
  | admitted =>
    obtain ⟨username, rfl⟩ := hmakes
    obtain ⟨out, rfl⟩ := hcommitted rfl
    obtain ⟨rfl, rfl⟩ := heffect.of_ok
    have hunfit := hfail username _ rfl
    simp only [LoginPhase.next, hunfit]
    exact .check
  | checked =>
    obtain ⟨out, rfl⟩ := hcommitted rfl
    obtain ⟨rfl, rfl⟩ := heffect.of_ok
    rcases hmakes with ⟨user, rfl⟩ | rfl
    · exact .note user
    · exact .read
  | read attempt =>
    obtain ⟨record, k, rfl, hrecord⟩ := hmakes
    obtain ⟨out, rfl⟩ := hcommitted rfl
    obtain ⟨rfl, rfl⟩ := heffect.of_ok
    exact .count attempt record k hrecord
  | refused => exact hmakes.elim
  | counted => exact hmakes.elim
  | strayed => exact absurd rfl hstrayed

variable {amb : Ambient} {pre post : Db} {phase phase' : LoginPhase}

theorem LoginStep.uncounted
    (h : LoginStep c state amb ip pre post phase phase') : phase.isCounted = false := by
  cases h with
  | turnedAway hphase => rcases hphase with rfl | rfl <;> rfl
  | _ => rfl

theorem LoginStep.straight
    (h : LoginStep c state amb ip pre post phase phase') : phase' ≠ .strayed := by
  cases h <;> simp

/-- Only at the gate does a login get past it. -/
theorem LoginStep.past (h : LoginStep c state amb ip pre post phase phase') :
    phase'.isPast = phase.isPast ∨
      phase = .swept ∧ phase' = .admitted ∧
        lockedOut c (pre.getLoginAttempt ip) (amb.now 0) = false := by
  cases h with
  | letThrough hopen => exact .inr ⟨rfl, rfl, hopen⟩
  | turnedAway hphase => rcases hphase with rfl | rfl <;> exact .inl rfl
  | _ => exact .inl rfl

end Step

/-! ## The counter along a run -/

/-- The lockout of the record is in force for every login. -/
def LockedThroughout (t : Traffic) (log : List DbEvent) (record : LoginAttemptRecord) : Prop :=
  ∃ blockedUntil, record.blockedUntil.bind c.parseFromRfc3339 = some blockedUntil ∧
    ∀ now, ReadsClock t log now → now < blockedUntil

/-- After `n` failures the counter stands at `earlier + n`, and it is locked once there are too many. -/
def CounterHolds (t : Traffic) (log : List DbEvent) (earlier n : Nat)
    (attempt : Option LoginAttemptRecord) : Prop :=
  match attempt with
  | none => n = 0 ∧ earlier = 0
  | some record =>
    WindowOpen c state t log record ∧ record.failures = earlier + n ∧
      (record.blockedUntil.bind c.parseFromRfc3339 = none ∧
          (n = 0 ∨ record.failures < state.maxLoginFailures) ∨
        LockedThroughout c t log record ∧ state.maxLoginFailures ≤ record.failures)

section Counter
variable {c state} {t : Traffic} {ip : IpAddr} {log : List DbEvent} {earlier n : Nat} {now : Instant}
  {start : Db}

theorem kept_of_holds {record : LoginAttemptRecord} (hnow : ReadsClock t log now)
    (h : CounterHolds c state t log earlier n (some record)) :
    Db.shouldKeepAttempt c now state.loginWindowSeconds record = true := by
  obtain ⟨⟨firstFailureAt, hfirst, hopen⟩, _, ⟨hnone, _⟩ | ⟨⟨blockedUntil, hblocked, hlocked⟩, _⟩⟩ := h
  · simp only [Db.shouldKeepAttempt, hnone, hfirst, decide_eq_true_eq]
    exact hopen now hnow
  · simp only [Db.shouldKeepAttempt, hblocked, decide_eq_true_eq]
    exact hlocked now hnow

theorem getLoginAttempt_cleanup (db : Db) (now : Instant) (windowSeconds : Int) (ip : IpAddr) :
    (db.cleanupLoginAttempts c now windowSeconds).getLoginAttempt ip =
      (db.getLoginAttempt ip).filter (Db.shouldKeepAttempt c now windowSeconds) := by
  simp [Db.cleanupLoginAttempts, Db.getLoginAttempt]

theorem countFailure_some {record : LoginAttemptRecord} {firstFailureAt : Instant}
    (hfirst : c.parseFromRfc3339 record.firstFailureAt = some firstFailureAt)
    (hopen : numSeconds (now - firstFailureAt) ≤ state.loginWindowSeconds)
    (hroom : record.failures + 1 < 2 ^ 32) :
    countFailure c state (some record) now =
      if state.maxLoginFailures ≤ record.failures + 1 then
        (addSeconds c now state.loginLockoutSeconds).map fun blockedUntil =>
          { record with
            failures := record.failures + 1
            blockedUntil := some (c.toRfc3339 blockedUntil) }
      else some { record with failures := record.failures + 1 } := by
  have hwindow : ¬ state.loginWindowSeconds < numSeconds (now - firstFailureAt) := by omega
  simp only [countFailure, Option.getD_some, hfirst, hwindow, if_false, Nat.mod_eq_of_lt hroom]

/-- Counting panics only where the end of the lockout cannot be computed. -/
theorem countFailure_isSome {attempt : Option LoginAttemptRecord} {blockedUntil : Instant}
    (hadd : addSeconds c now state.loginLockoutSeconds = some blockedUntil) :
    countFailure c state attempt now ≠ none := by
  unfold countFailure
  dsimp only
  rw [hadd, Option.map_some, ← apply_ite some]
  exact Option.some_ne_none _

/-- One more failure is counted. -/
theorem countFailure_holds (hwindow : OneWindow c state t ip start log earlier)
    (hnow : ReadsClock t log now)
    (houtlasts : ∃ blockedUntil, addSeconds c now state.loginLockoutSeconds = some blockedUntil ∧
      ∀ now', ReadsClock t log now' → now' < blockedUntil)
    (hroom : earlier + n + 1 < 2 ^ 32) {attempt : Option LoginAttemptRecord}
    {record : LoginAttemptRecord}
    (h : CounterHolds c state t log earlier n attempt)
    (hcount : countFailure c state attempt now = some record) :
    CounterHolds c state t log earlier (n + 1) (some record) := by
  -- Without a record the counting starts from a new one, which holds no failure yet.
  obtain ⟨old, hold, hcount⟩ : ∃ old, CounterHolds c state t log earlier n (some old) ∧
      countFailure c state (some old) now = some record := by
    cases attempt with
    | some old => exact ⟨old, h, hcount⟩
    | none =>
      refine ⟨{ firstFailureAt := c.toRfc3339 now, failures := 0, blockedUntil := none }, ?_, hcount⟩
      refine ⟨⟨now, (hwindow.clock now hnow).1, fun now' hnow' => hwindow.window now now' hnow hnow'⟩,
        ?_, .inl ⟨rfl, .inl h.1⟩⟩
      rw [h.1, h.2]
  obtain ⟨⟨firstFailureAt, hfirst, hopen⟩, hfailures, hlock⟩ := hold
  rw [countFailure_some hfirst (hopen now hnow) (by omega)] at hcount
  split at hcount
  · obtain ⟨blockedUntil, hadd, hlater⟩ := houtlasts
    rw [hadd] at hcount
    obtain rfl := Option.some.inj hcount
    refine ⟨⟨firstFailureAt, hfirst, hopen⟩, ?_, .inr ⟨⟨blockedUntil, ?_, hlater⟩, by assumption⟩⟩
    · dsimp only
      omega
    · exact (hwindow.clock now hnow).2 blockedUntil hadd
  · obtain rfl := Option.some.inj hcount
    refine ⟨⟨firstFailureAt, hfirst, hopen⟩, ?_, .inl ⟨?_, .inr ?_⟩⟩
    · dsimp only
      omega
    · rcases hlock with ⟨hnone, _⟩ | ⟨_, hmany⟩
      · exact hnone
      · omega
    · dsimp only
      omega

variable {amb : Ambient} {pre post : Db} {phase phase' : LoginPhase}

/-- What a transaction makes of the counter. -/
theorem counter_step (hwindow : OneWindow c state t ip start log earlier)
    (hcounted : CountedInTurn c state t ip log earlier) (hreads : ∀ k, ReadsClock t log (amb.now k))
    (hstep : LoginStep c state amb ip pre post phase phase')
    (hcurrent : ∀ attempt, phase = .read attempt → pre.getLoginAttempt ip = attempt)
    (hroom : phase.isPending = true → earlier + n + 1 < 2 ^ 32)
    (h : CounterHolds c state t log earlier n (pre.getLoginAttempt ip)) :
    CounterHolds c state t log earlier (if phase'.isCounted then n + 1 else n)
      (post.getLoginAttempt ip) := by
  cases hstep with
  | sweep =>
    rw [getLoginAttempt_cleanup]
    cases hattempt : pre.getLoginAttempt ip with
    | none =>
      rw [hattempt] at h
      exact h
    | some record =>
      rw [hattempt] at h
      rw [Option.filter_some, if_pos (kept_of_holds (hreads 0) h)]
      exact h
  | turnedAway _ => exact h
  | letThrough _ => exact h
  | check => exact h
  | note user => exact h
  | read => exact h
  | count attempt record k hrecord =>
    have hattempt := hcurrent attempt rfl
    rw [hattempt] at h
    have hpost : (pre.setLoginAttempt ip record).getLoginAttempt ip = some record := by
      simp [Db.setLoginAttempt, Db.getLoginAttempt]
    rw [hpost]
    exact countFailure_holds hwindow (hreads k) (hcounted.outlasts _ (hreads k)) (hroom rfl) h hrecord

/-- A login that is let through finds no lockout in the counter. -/
theorem open_of_admitted (hnow : ReadsClock t log now)
    (h : CounterHolds c state t log earlier n (pre.getLoginAttempt ip))
    (hopen : lockedOut c (pre.getLoginAttempt ip) now = false) :
    n = 0 ∨ earlier + n < state.maxLoginFailures := by
  cases hattempt : pre.getLoginAttempt ip with
  | none =>
    rw [hattempt] at h
    exact .inl h.1
  | some record =>
    rw [hattempt] at h hopen
    obtain ⟨_, hfailures, ⟨_, hfew⟩ | ⟨⟨blockedUntil, hblocked, hlocked⟩, _⟩⟩ := h
    · omega
    · have hlate := hlocked now hnow
      exact absurd hlate (by simpa [lockedOut, hblocked] using hopen)

theorem stored_failures (h : CounterHolds c state t log earlier n (pre.getLoginAttempt ip)) :
    (pre.getLoginAttempt ip).elim 0 (·.failures) = earlier + n := by
  cases hattempt : pre.getLoginAttempt ip with
  | none =>
    rw [hattempt] at h
    simp [h.1, h.2]
  | some record =>
    rw [hattempt] at h
    exact h.2.1

/-- A record that no login keeps is gone after the first sweep. -/
theorem outdated_step {record : LoginAttemptRecord} (hreads : ∀ k, ReadsClock t log (amb.now k))
    (hstep : LoginStep c state amb ip pre post phase phase')
    (hphase : phase = .fresh ∨ phase = .refused) (hrecord : pre.getLoginAttempt ip = some record)
    (h : Outdated c state t log record) :
    phase' = .swept ∧ post.getLoginAttempt ip = none ∨ phase' = .refused ∧ post = pre := by
  cases hstep with
  | sweep =>
    refine .inl ⟨rfl, ?_⟩
    rw [getLoginAttempt_cleanup, hrecord, Option.filter_some, h _ (hreads 0)]
    rfl
  | turnedAway _ => exact .inr ⟨rfl, rfl⟩
  | letThrough _ => simp at hphase
  | check => simp at hphase
  | note _ => simp at hphase
  | read => simp at hphase
  | count _ _ _ _ => simp at hphase

end Counter

/-- What holds after every transaction: no login strays, the counter is right or still the
outdated one, and not too many logins are past the gate. -/
structure CountingWell (t : Traffic) (ip : IpAddr) (log : List DbEvent) (earlier : Nat)
    (before : List DbEvent) (s : Db) : Prop where
  straight : ∀ i, loginPhase c t i before ≠ .strayed
  counter :
    CounterHolds c state t log earlier (countedLogins c t before).card (s.getLoginAttempt ip) ∨
    (earlier = 0 ∧
      (∃ record, s.getLoginAttempt ip = some record ∧ Outdated c state t log record) ∧
      ∀ i, loginPhase c t i before = .fresh ∨ loginPhase c t i before = .refused)
  bounded : earlier + (pastLogins c t before).card ≤ max (earlier + 1) state.maxLoginFailures

section Run
variable {c state} {t : Traffic} {ip : IpAddr} {log before : List DbEvent} {e : DbEvent} {earlier : Nat}
  {i : Nat}

theorem card_past (t : Traffic) (log : List DbEvent) :
    (pastLogins c t log).card = (countedLogins c t log).card + (pendingLogins c t log).card := by
  apply card_parties_split ownPhase rfl rfl rfl
  · intro phase
    cases phase <;> rfl
  · intro phase
    cases phase <;> rfl

theorem phase_other (hi : e.tid ≠ i) :
    loginPhase c t i (before ++ [e]) = loginPhase c t i before := ownPhase.other i before e hi

theorem card_counted_step
    (hbefore : (loginPhase c t e.tid before).isCounted = false) :
    (countedLogins c t (before ++ [e])).card =
      if (loginPhase c t e.tid (before ++ [e])).isCounted then (countedLogins c t before).card + 1
      else (countedLogins c t before).card := by
  split
  next hafter => exact card_parties_join ownPhase rfl hbefore hafter
  next hafter =>
    apply congrArg
    apply parties_stay ownPhase rfl
    rw [hbefore]
    simpa using hafter

theorem none_counted
    (h : ∀ i, loginPhase c t i before = .fresh ∨ loginPhase c t i before = .refused) :
    countedLogins c t before = ∅ := by
  ext i
  rw [countedLogins, mem_parties ownPhase rfl]
  rcases h i with hi | hi <;> simp [hi, LoginPhase.isCounted]

section Well
variable {start : Db} {after : List DbEvent} (hwindow : OneWindow c state t ip start log earlier)
  (hcounted : CountedInTurn c state t ip log earlier) (hmax : state.maxLoginFailures < 2 ^ 32)
  (hsplit : log = before ++ e :: after)
  (hstep : LoginStep c state (t.ambient e.tid) ip e.pre e.post
    (loginPhase c t e.tid before) (loginPhase c t e.tid (before ++ [e])))
  (h : CountingWell c state t ip log earlier before e.pre)
include hwindow hcounted hmax hsplit hstep h

omit hmax hwindow in
theorem bounded_step :
    earlier + (pastLogins c t (before ++ [e])).card ≤ max (earlier + 1) state.maxLoginFailures := by
  have hreads : ReadsClock t log ((t.ambient e.tid).now 0) := ⟨e, by simp [hsplit], 0, rfl⟩
  have hbounded := h.bounded
  rcases hstep.past with hpast | ⟨hphase, hphase', hopen⟩
  · rw [pastLogins, parties_stay ownPhase rfl hpast]
    exact hbounded
  · have hcard : (pastLogins c t (before ++ [e])).card = (pastLogins c t before).card + 1 :=
      card_parties_join ownPhase rfl (by rw [hphase]; rfl) (by rw [hphase']; rfl)
    have hsum := card_past (c := c) t before
    rcases h.counter with hholds | ⟨_, _, hfresh⟩
    · have hfew := open_of_admitted hreads hholds hopen
      have hstored := stored_failures hholds
      rcases hcounted.gated before e after hsplit hphase hphase' with hnone | hroom
      · rw [hnone, Finset.card_empty] at hsum
        omega
      · omega
    · rcases hfresh e.tid with hfresh | hfresh <;> simp [hfresh] at hphase

theorem countingWell_step : CountingWell c state t ip log earlier (before ++ [e]) e.post := by
  have hreads (k : Nat) : ReadsClock t log ((t.ambient e.tid).now k) :=
    ⟨e, by simp [hsplit], k, rfl⟩
  constructor
  · intro i
    by_cases hi : e.tid = i
    · subst hi
      exact hstep.straight
    · rw [phase_other hi]
      exact h.straight i
  · rcases h.counter with hholds | ⟨hearlier, ⟨record, hrecord, houtdated⟩, hfresh⟩
    · left
      rw [card_counted_step hstep.uncounted]
      apply counter_step hwindow hcounted hreads hstep _ _ hholds
      · intro attempt hread
        exact hcounted.current before e after attempt hsplit hread
      · intro hpending
        have hmem : e.tid ∈ pendingLogins c t before := (mem_parties ownPhase rfl).mpr hpending
        have hpos := Finset.card_pos.mpr ⟨_, hmem⟩
        have hsum := card_past (c := c) t before
        have hbounded := h.bounded
        have hroom := hcounted.room
        omega
    · rcases outdated_step hreads hstep (hfresh e.tid) hrecord houtdated with
        ⟨hswept, hpost⟩ | ⟨hrefused, hpost⟩
      · left
        rw [card_counted_step hstep.uncounted, hswept, none_counted hfresh, hpost]
        exact ⟨rfl, hearlier⟩
      · right
        refine ⟨hearlier, ⟨record, by rw [hpost, hrecord], houtdated⟩, ?_⟩
        intro i
        by_cases hi : e.tid = i
        · subst hi
          exact .inr hrefused
        · rw [phase_other hi]
          exact hfresh i
  · exact bounded_step hcounted hsplit hstep h

end Well

/-! ## Whole runs -/

variable {start s : Db} {ps : Nat → Program databaseSignature Answer}

theorem program_obeys (hlogins : ∃ body, (t.request i).endpoint = .adminLogin body ∧
    resolveClientIp c state (t.request i).headers (t.request i).peer = ip) :
    (t.program c state i).Obeys (loginMonitor c state (t.ambient i) (loginBody (t.request i)) ip)
      (fun phase _ => phase.Ended c state (t.ambient i)) .fresh := by
  obtain ⟨body, hendpoint, rfl⟩ := hlogins
  unfold Traffic.program
  cases hrequest : t.request i with
  | mk endpoint peer headers =>
    rw [hrequest] at hendpoint
    dsimp only at hendpoint
    subst hendpoint
    exact handle_login peer headers

/-- A transaction of a run that meets the conditions is one of a failing login. -/
theorem step_of_run (hrun : ServerRun c state t start log s ps)
    (hlogins : FailedLogins c state t ip log ps) (hcounted : CountedInTurn c state t ip log earlier)
    {after : List DbEvent} (hsplit : log = before ++ e :: after)
    (hstrayed : loginPhase c t e.tid before ≠ .strayed) :
    LoginStep c state (t.ambient e.tid) ip e.pre e.post
      (loginPhase c t e.tid before) (loginPhase c t e.tid (before ++ [e])) := by
  have hmem : e ∈ log := by simp [hsplit]
  have hmakes : (loginPhase c t e.tid before).Makes c state (t.ambient e.tid) ip e.op := by
    subst hsplit
    exact hrun.allowed (program_obeys (hlogins.logins e hmem))
  rw [loginPhase_own]
  apply login_step (hrun.linked.effect hmem) hmakes hstrayed (hcounted.committed before e after hsplit)
  intro username found hcall
  exact hlogins.fail e hmem username found hcall

theorem countingWell_start (hwindow : OneWindow c state t ip start log earlier) :
    CountingWell c state t ip log earlier [] start := by
  have hnone : countedLogins c t [] = ∅ := none_counted fun _ => .inl rfl
  constructor
  · intro i hi
    cases hi
  · have hstart := hwindow.start
    cases hattempt : start.getLoginAttempt ip with
    | none =>
      rw [hattempt] at hstart
      left
      rw [hnone]
      exact ⟨rfl, hstart⟩
    | some record =>
      rw [hattempt] at hstart
      rcases hstart with ⟨hopen, hunlocked, hfailures⟩ | ⟨houtdated, hearlier⟩
      · left
        rw [hnone]
        exact ⟨hopen, hfailures, .inl ⟨hunlocked, .inl rfl⟩⟩
      · right
        exact ⟨hearlier, ⟨record, rfl, houtdated⟩, fun _ => .inl rfl⟩
  · have hpast : pastLogins c t [] = ∅ := rfl
    rw [hpast, Finset.card_empty]
    omega

theorem countingWell_run (hmax : state.maxLoginFailures < 2 ^ 32)
    (hrun : ServerRun c state t start log s ps) (hlogins : FailedLogins c state t ip log ps)
    (hwindow : OneWindow c state t ip start log earlier)
    (hcounted : CountedInTurn c state t ip log earlier) :
    CountingWell c state t ip log earlier log s := by
  apply hrun.linked.history (countingWell_start hwindow)
  intro before e after hsplit h
  have hstep := step_of_run hrun hlogins hcounted hsplit (h.straight e.tid)
  exact countingWell_step hwindow hcounted hmax hsplit hstep h

/-- At the end no failure is still to be counted. -/
theorem pending_of_finished (hmax : state.maxLoginFailures < 2 ^ 32)
    (hrun : ServerRun c state t start log s ps) (hlogins : FailedLogins c state t ip log ps)
    (hwindow : OneWindow c state t ip start log earlier)
    (hcounted : CountedInTurn c state t ip log earlier) : pendingLogins c t log = ∅ := by
  have hwell := countingWell_run hmax hrun hlogins hwindow hcounted
  ext i
  rw [pendingLogins, mem_parties ownPhase rfl]
  simp only [Finset.notMem_empty, iff_false]
  intro hpending
  obtain ⟨e, he, rfl⟩ : ∃ e ∈ log, e.tid = i := by
    by_contra hnone
    have hfresh : loginPhase c t i log = .fresh := by
      apply ownPhase.of_not_mem
      intro e he htid
      exact hnone ⟨e, he, htid⟩
    rw [hfresh] at hpending
    cases hpending
  obtain ⟨answer, hanswer⟩ := hlogins.finished e he
  have hended : (loginPhase c t e.tid log).Ended c state (t.ambient e.tid) :=
    hrun.returned hanswer (program_obeys (hlogins.logins e he))
  have hstraight := hwell.straight e.tid
  cases hphase : loginPhase c t e.tid log with
  | admitted =>
    rw [hphase] at hended
    have henabled := hcounted.enabled
    rw [hended] at henabled
    cases henabled
  | read attempt =>
    rw [hphase] at hended
    obtain ⟨k, hpanics⟩ := hended
    obtain ⟨blockedUntil, hadd, _⟩ := hcounted.outlasts _ ⟨e, he, k, rfl⟩
    exact countFailure_isSome hadd hpanics
  | checked =>
    rw [hphase] at hended
    exact hended
  | strayed => exact hstraight hphase
  | fresh | swept | refused | counted => simp [hphase, LoginPhase.isPending] at hpending

/-- Failed logins are all counted, and few enough of them get past the gate, in every run in which
they are counted in turn. -/
theorem attemptsCounted_countedInTurn (hmax : state.maxLoginFailures < 2 ^ 32)
    (hrun : ServerRun c state t start log s ps) (hlogins : FailedLogins c state t ip log ps)
    (hwindow : OneWindow c state t ip start log earlier)
    (hcounted : CountedInTurn c state t ip log earlier) :
    AttemptsCounted c state t ip log s earlier := by
  have hwell := countingWell_run hmax hrun hlogins hwindow hcounted
  have hsum := card_past (c := c) t log
  rw [pending_of_finished hmax hrun hlogins hwindow hcounted, Finset.card_empty, Nat.add_zero] at hsum
  constructor
  · intro hpast
    have hpos := Finset.card_pos.mpr (Finset.nonempty_iff_ne_empty.mpr hpast)
    rcases hwell.counter with hholds | ⟨_, _, hfresh⟩
    · cases hattempt : s.getLoginAttempt ip with
      | none =>
        rw [hattempt] at hholds
        have hzero := hholds.1
        omega
      | some record =>
        rw [hattempt] at hholds
        refine ⟨record, rfl, ?_⟩
        rw [hsum]
        exact hholds.2.1
    · rw [none_counted hfresh, Finset.card_empty] at hsum
      omega
  · have hbounded := hwell.bounded
    omega

end Run

/-! ## Logins with a wrong password -/

/-- When a lockout that starts at the epoch ends. -/
def lockoutEnd : String := "1970-01-01T00:15:00+00:00"

def loginCrates : Crates :=
  { panelCrates with
    parseFromRfc3339 := fun s =>
      if s = epoch then some 0 else if s = lockoutEnd then some (900 * nanosPerSecond) else none
    toRfc3339 := fun now =>
      if now = 0 then epoch else if now = 900 * nanosPerSecond then lockoutEnd else "" }

/-- What the bootstrap makes of an empty database. -/
def loginDb : Db :=
  ((bootstrapAdmin loginCrates (numberedAmbient (fun _ => "abcdefghijklmnopqrstuu") 0) "admin"
    adminPassword).run.run (DbCall.exec loginCrates) {}).2

/-- All requests try the same wrong password. -/
def wrongLogins : Traffic where
  request _ :=
    { endpoint := .adminLogin { username := some "admin", password := "a guess" }
      peer := "127.0.0.1"
      headers := [] }
  ambient := numberedAmbient fun _ => ""

def playLogins (schedule : List (Nat × Option String)) :=
  play (S := databaseSignature) (DbCall.exec loginCrates) schedule loginDb
    (wrongLogins.program loginCrates plainState)

theorem playLogins_run (schedule : List (Nat × Option String)) :
    ServerRun loginCrates plainState wrongLogins loginDb (playLogins schedule).1
      (playLogins schedule).2.1 (playLogins schedule).2.2 := play_run _ _ _ _

def fitsAt (call : databaseSignature.Call) : Bool :=
  match call with
  | ⟨.getAdminUser _, .ok found⟩ =>
    credentialsFit loginCrates { username := some "admin", password := "a guess" } found
  | _ => false

theorem failedLogins_play {schedule : List (Nat × Option String)}
    (h : ∀ e ∈ (playLogins schedule).1,
      fitsAt e.call = false ∧ ((playLogins schedule).2.2 e.tid).answer.isSome = true) :
    FailedLogins loginCrates plainState wrongLogins "127.0.0.1" (playLogins schedule).1
      (playLogins schedule).2.2 := by
  constructor
  · intro e _
    exact ⟨_, rfl, rfl⟩
  · intro e he username found hcall
    have hfits := (h e he).1
    rw [hcall] at hfits
    exact hfits
  · intro e he
    obtain ⟨answer, hanswer⟩ := Option.isSome_iff_exists.mp (h e he).2
    exact ⟨answer, Program.answer_eq_some.mp hanswer⟩

/-- The clock stands still. -/
theorem reads_wrongLogins {log : List DbEvent} {now : Instant}
    (h : ReadsClock wrongLogins log now) : now = 0 := by
  obtain ⟨_, _, _, rfl⟩ := h
  rfl

theorem oneWindow_play (log : List DbEvent) :
    OneWindow loginCrates plainState wrongLogins "127.0.0.1" loginDb log 0 := by
  have hempty : loginDb.getLoginAttempt "127.0.0.1" = none := by decide +kernel
  constructor
  · intro now now' hnow hnow'
    rw [reads_wrongLogins hnow, reads_wrongLogins hnow']
    decide
  · rw [hempty]
    rfl
  · intro now hnow
    rw [reads_wrongLogins hnow]
    refine ⟨by decide, ?_⟩
    intro blockedUntil hadd
    have hend : addSeconds loginCrates 0 plainState.loginLockoutSeconds =
        some (900 * nanosPerSecond) := by decide
    rw [hend] at hadd
    obtain rfl := Option.some.inj hadd
    decide

def readIn (phase : LoginPhase) : Option (Option LoginAttemptRecord) :=
  match phase with
  | .read attempt => some attempt
  | _ => none

set_option maxRecDepth 10000 in
/-- Six logins one after another; the sixth finds the lockout. -/
theorem attemptsCounted_inTurn :
    AttemptsCounted loginCrates plainState wrongLogins "127.0.0.1" (playLogins (inTurn 6)).1
      (playLogins (inTurn 6)).2.1 0 := by
  have hplay : (∀ e ∈ (playLogins (inTurn 6)).1,
        fitsAt e.call = false ∧ ((playLogins (inTurn 6)).2.2 e.tid).answer.isSome = true) ∧
      (∀ e ∈ (playLogins (inTurn 6)).1, e.reply.isOk = true) ∧
      (∀ k < (playLogins (inTurn 6)).1.length, ∀ e ∈ (playLogins (inTurn 6)).1[k]?,
        (∀ attempt ∈ readIn (loginPhase loginCrates wrongLogins e.tid ((playLogins (inTurn 6)).1.take k)),
          e.pre.getLoginAttempt "127.0.0.1" = attempt) ∧
        (loginPhase loginCrates wrongLogins e.tid ((playLogins (inTurn 6)).1.take k) = .swept →
          pendingLogins loginCrates wrongLogins ((playLogins (inTurn 6)).1.take k) = ∅)) := by
    decide +kernel
  obtain ⟨hfailed, hok, hturns⟩ := hplay
  have hturn := forall_split (P := fun before e =>
    (∀ attempt ∈ readIn (loginPhase loginCrates wrongLogins e.tid before),
      e.pre.getLoginAttempt "127.0.0.1" = attempt) ∧
    (loginPhase loginCrates wrongLogins e.tid before = .swept →
      pendingLogins loginCrates wrongLogins before = ∅)) hturns
  apply attemptsCounted_countedInTurn (by decide) (playLogins_run (inTurn 6))
    (failedLogins_play hfailed) (oneWindow_play _)
  constructor
  · rfl
  · intro before e after hsplit _
    have hreply := hok e (by simp [hsplit])
    cases hout : e.reply with
    | ok out => exact ⟨out, rfl⟩
    | error fault =>
      rw [hout] at hreply
      cases hreply
  · intro before e after attempt hsplit hread
    apply (hturn before e after hsplit).1
    rw [hread]
    rfl
  · intro before e after hsplit hswept _
    exact .inl ((hturn before e after hsplit).2 hswept)
  · intro now hnow
    rw [reads_wrongLogins hnow]
    refine ⟨900 * nanosPerSecond, by decide, ?_⟩
    intro now' hnow'
    rw [reads_wrongLogins hnow']
    decide
  · decide

/-- Six logins check their password before the first failure is counted. -/
def atOnce : List (Nat × Option String) :=
  (List.range 6).flatMap (fun i => steps i 5) ++ (List.range 6).flatMap fun i => steps i 1

set_option maxRecDepth 10000 in
theorem logins_at_once_counted_once :
    ∃ (log : List DbEvent) (s : Db) (ps : Nat → Program databaseSignature Answer),
      Reachable loginCrates loginDb ∧ ServerRun loginCrates plainState wrongLogins loginDb log s ps ∧
      FailedLogins loginCrates plainState wrongLogins "127.0.0.1" log ps ∧
      OneWindow loginCrates plainState wrongLogins "127.0.0.1" loginDb log 0 ∧
      max 1 plainState.maxLoginFailures < (pastLogins loginCrates wrongLogins log).card ∧
      ((s.getLoginAttempt "127.0.0.1").map (·.failures)) = some 1 ∧
      ¬ AttemptsCounted loginCrates plainState wrongLogins "127.0.0.1" log s 0 := by
  have hplay : (∀ e ∈ (playLogins atOnce).1,
        fitsAt e.call = false ∧ ((playLogins atOnce).2.2 e.tid).answer.isSome = true) ∧
      max 1 plainState.maxLoginFailures < (pastLogins loginCrates wrongLogins (playLogins atOnce).1).card ∧
      (((playLogins atOnce).2.1.getLoginAttempt "127.0.0.1").map (·.failures)) = some 1 := by
    decide +kernel
  obtain ⟨hfailed, hmany, hone⟩ := hplay
  refine ⟨_, _, _, .started _ _ _ .created, playLogins_run atOnce, failedLogins_play hfailed,
    oneWindow_play _, hmany, hone, fun h => ?_⟩
  exact absurd hmany (Nat.not_lt.mpr h.bounded)

end CloudSync
