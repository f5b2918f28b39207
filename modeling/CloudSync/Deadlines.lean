import CloudSync.LoginAttempts
import CloudSync.Serial

/-!
# Deadlines of tokens and lockouts

A deadline is stored as text and read back each time it is checked, and text that
cannot be read is no deadline. Years with more or fewer than four digits cannot
be read, and a number of seconds can be too large to be added to the clock.
-/

namespace CloudSync

open Rust Redb Transactions Transactions.Fallible

set_option autoImplicit false

/-- 0000-01-01T00:00:00Z. -/
def yearZero : Instant := -62167219200 * nanosPerSecond

/-- 10000-01-01T00:00:00Z. -/
def yearTenThousand : Instant := 253402300800 * nanosPerSecond

def FourDigitYear (t : Instant) : Prop := yearZero ≤ t ∧ t < yearTenThousand

instance (t : Instant) : Decidable (FourDigitYear t) := inferInstanceAs (Decidable (_ ∧ _))

/-- Other years are written with a sign, and `parse_from_rfc3339` takes four digits only. -/
structure Crates.FormatsInstants (c : Crates) : Prop where
  readsBack : ∀ t, FourDigitYear t → c.parseFromRfc3339 (c.toRfc3339 t) = some t
  refuses : ∀ t, c.minUtc ≤ t → t ≤ c.maxUtc → ¬ FourDigitYear t →
    c.parseFromRfc3339 (c.toRfc3339 t) = none
  parsesInRange : ∀ s, ∀ t ∈ c.parseFromRfc3339 s, c.minUtc ≤ t ∧ t ≤ c.maxUtc

/-- When a token is to expire that is issued at `now`. -/
def intendedExpiry (c : Crates) (state : AppState) (requested : Option String) (now : Instant) :
    Option Instant :=
  match requested with
  | some value => c.parseFromRfc3339 (trim value)
  | none => state.defaultTokenTtlSeconds.map fun ttl => now + ttl * nanosPerSecond

/-- What is stored for the deadline makes every check behind it refuse the token. -/
structure ExpiryEnforced (c : Crates) (stored : Except AppError (Option String))
    (deadline : Option Instant) : Prop where
  noPanic : ∀ message, stored ≠ .error (.panicked message)
  enforced : ∀ d ∈ deadline, ∃ text, stored = .ok (some text) ∧ c.parseFromRfc3339 text = some d ∧
    ∀ (token : ApiToken) (amb : Ambient) (ns : String) (permission : SyncPermission),
      token.expiresAt = some text → d ≤ amb.now 0 →
        ∃ e, checkToken c amb token ns permission = .error e

/-- The deadline can be computed, and its year has four digits. -/
def ExpiryFits (c : Crates) (state : AppState) (requested : Option String) (now : Instant) : Prop :=
  match requested with
  | some value => ∀ d ∈ c.parseFromRfc3339 (trim value), FourDigitYear d
  | none => ∀ ttl ∈ state.defaultTokenTtlSeconds, ∃ d ∈ addSeconds c now ttl, FourDigitYear d

section Tokens
variable {c : Crates} {state : AppState} {now d : Instant}

theorem addSeconds_eq {seconds : Int} (h : addSeconds c now seconds = some d) :
    d = now + seconds * nanosPerSecond ∧ c.minUtc ≤ d ∧ d ≤ c.maxUtc := by
  unfold addSeconds at h
  dsimp only at h
  split at h
  · rename_i hrange
    obtain rfl := Option.some.inj h
    exact ⟨rfl, hrange.2⟩
  · cases h

/-- The text that is stored for a deadline is read back as the deadline, or never. -/
theorem expiryEnforced_iff (hc : c.FormatsInstants) (hrange : c.minUtc ≤ d ∧ d ≤ c.maxUtc) :
    ExpiryEnforced c (.ok (some (c.toRfc3339 d))) (some d) ↔ FourDigitYear d := by
  constructor
  · intro h
    by_contra hyear
    obtain ⟨text, hstored, hparsed, _⟩ := h.enforced d rfl
    obtain rfl := Option.some.inj (Except.ok.inj hstored)
    rw [hc.refuses d hrange.1 hrange.2 hyear] at hparsed
    cases hparsed
  · intro hyear
    constructor
    · intro message h
      cases h
    · intro d' hd'
      obtain rfl := Option.some.inj hd'
      refine ⟨_, rfl, hc.readsBack _ hyear, ?_⟩
      intro token amb ns permission hexpiry hlate
      have hexpired : tokenExpired c token (amb.now 0) = true := by
        rw [tokenExpired, hexpiry, Option.bind_some, hc.readsBack _ hyear]
        simpa using hlate
      unfold checkToken ensureTokenActive
      cases token.enabled with
      | false => exact ⟨_, rfl⟩
      | true => exact ⟨_, by simp [hexpired]; rfl⟩

theorem requestedExpiry_iff (hc : c.FormatsInstants) {value : String}
    (haccepted : c.parseFromRfc3339 (trim value) ≠ none) :
    ExpiryEnforced c (normalizeOptionalTimestamp c (some value)) (c.parseFromRfc3339 (trim value)) ↔
      ∀ d ∈ c.parseFromRfc3339 (trim value), FourDigitYear d := by
  obtain ⟨d, hd⟩ := Option.ne_none_iff_exists'.mp haccepted
  unfold normalizeOptionalTimestamp
  simp only [hd, Option.mem_def, Option.some.injEq, forall_eq']
  exact expiryEnforced_iff hc (hc.parsesInRange _ d hd)

theorem effectiveExpiry_iff (hc : c.FormatsInstants) {requested : Option String}
    (haccepted : ∀ value ∈ requested, c.parseFromRfc3339 (trim value) ≠ none) :
    ExpiryEnforced c (effectiveTokenExpiry c state requested now)
        (intendedExpiry c state requested now) ↔ ExpiryFits c state requested now := by
  unfold effectiveTokenExpiry intendedExpiry ExpiryFits
  cases requested with
  | some value =>
    obtain ⟨d, hd⟩ := Option.ne_none_iff_exists'.mp (haccepted value rfl)
    simp only [normalizeOptionalTimestamp, hd, Option.mem_def, Option.some.injEq, forall_eq']
    exact expiryEnforced_iff hc (hc.parsesInRange _ d hd)
  | none =>
    simp only [normalizeOptionalTimestamp]
    cases state.defaultTokenTtlSeconds with
    | none =>
      constructor
      · intro _ ttl httl
        cases httl
      · intro _
        constructor
        · intro message h
          cases h
        · intro d hd
          cases hd
    | some ttl =>
      simp only [Option.map_some, Option.mem_def, Option.some.injEq, forall_eq']
      cases hadd : addSeconds c now ttl with
      | none =>
        constructor
        · intro h
          exact absurd rfl (h.noPanic _)
        · intro h
          obtain ⟨d, hd, _⟩ := h
          cases hd
      | some d =>
        obtain ⟨rfl, hrange⟩ := addSeconds_eq hadd
        simp only [Option.some.injEq, exists_eq_left']
        exact expiryEnforced_iff hc hrange

end Tokens

/-! ## Lockouts -/

/-- The counter that a failure at `now` goes on counting, or a new one. -/
def openCounter (c : Crates) (state : AppState) (attempt : Option LoginAttemptRecord) (now : Instant) :
    LoginAttemptRecord :=
  let fresh : LoginAttemptRecord :=
    { firstFailureAt := c.toRfc3339 now, failures := 0, blockedUntil := none }
  let attempt := attempt.getD fresh
  match c.parseFromRfc3339 attempt.firstFailureAt with
  | none => fresh
  | some firstFailureAt =>
    if state.loginWindowSeconds < numSeconds (now - firstFailureAt) then fresh else attempt

/-- The failure at `now` is one too many. -/
def LocksOut (c : Crates) (state : AppState) (db : Db) (ip : IpAddr) (now : Instant) : Prop :=
  state.maxLoginFailures ≤ ((openCounter c state (db.getLoginAttempt ip) now).failures + 1) % 2 ^ 32

/-- Once the failure is recorded that is one too many, the address is refused until the lockout
ends. -/
structure LockoutEnforced (c : Crates) (state : AppState) (db : Db) (ip : IpAddr) (now : Instant) :
    Prop where
  noPanic : ∀ message, ((recordLoginFailure c state ip now).alone (DbCall.exec c) db).1 ≠
    .error (.panicked message)
  enforced : LocksOut c state db ip now →
    ∀ t < now + state.loginLockoutSeconds * nanosPerSecond, ∃ message,
      ((ensureLoginAllowed c state ip t).alone (DbCall.exec c)
        ((recordLoginFailure c state ip now).alone (DbCall.exec c) db).2).1 =
          .error (.tooManyRequests message)

section Lockouts
variable {c : Crates} {state : AppState} {db : Db} {ip : IpAddr} {now t : Instant}

theorem countFailure_eq (attempt : Option LoginAttemptRecord) :
    countFailure c state attempt now =
      if state.maxLoginFailures ≤ ((openCounter c state attempt now).failures + 1) % 2 ^ 32 then
        (addSeconds c now state.loginLockoutSeconds).map fun blockedUntil =>
          { openCounter c state attempt now with
            failures := ((openCounter c state attempt now).failures + 1) % 2 ^ 32
            blockedUntil := some (c.toRfc3339 blockedUntil) }
      else some { openCounter c state attempt now with
        failures := ((openCounter c state attempt now).failures + 1) % 2 ^ 32 } := rfl

theorem alone_recordLoginFailure :
    (recordLoginFailure c state ip now).alone (DbCall.exec c) db =
      match countFailure c state (db.getLoginAttempt ip) now with
      | some record => (.ok record, db.setLoginAttempt ip record)
      | none => (.error (.panicked "DateTime + Duration overflowed"), db) := by
  unfold recordLoginFailure
  rw [alone_bind, alone_db]
  simp only [DbCall.exec]
  rw [alone_bind, alone_okOr]
  cases countFailure c state (db.getLoginAttempt ip) now with
  | none => rfl
  | some record => rfl

@[simp] theorem getLoginAttempt_setLoginAttempt (record : LoginAttemptRecord) :
    (db.setLoginAttempt ip record).getLoginAttempt ip = some record := by
  simp [Db.setLoginAttempt, Db.getLoginAttempt]

/-- A record with a lockout that can be read refuses its address until then, and without one
nobody is refused. -/
theorem alone_ensureLoginAllowed {record : LoginAttemptRecord} (hrecord : db.getLoginAttempt ip = some record) :
    (∃ message, ((ensureLoginAllowed c state ip t).alone (DbCall.exec c) db).1 =
      .error (.tooManyRequests message)) ↔
      ∃ blockedUntil ∈ record.blockedUntil.bind c.parseFromRfc3339, t < blockedUntil := by
  have hkept : ((db.cleanupLoginAttempts c t state.loginWindowSeconds).getLoginAttempt ip) =
      (some record).filter fun record => Db.shouldKeepAttempt c t state.loginWindowSeconds record := by
    rw [getLoginAttempt_cleanup, hrecord]
  unfold ensureLoginAllowed
  rw [alone_bind, alone_db]
  simp only [DbCall.exec]
  rw [alone_bind, alone_db]
  simp only [DbCall.exec]
  rw [hkept]
  cases hblocked : record.blockedUntil.bind c.parseFromRfc3339 with
  | none =>
    have hnone : ((Option.filter (fun record => Db.shouldKeepAttempt c t state.loginWindowSeconds record)
        (some record)).bind (·.blockedUntil)).bind c.parseFromRfc3339 = none := by
      rw [Option.filter_some]
      split
      · exact hblocked
      · rfl
    simp only [hnone, alone_pure]
    simp
  | some blockedUntil =>
    have hkeep : Db.shouldKeepAttempt c t state.loginWindowSeconds record = decide (t < blockedUntil) := by
      unfold Db.shouldKeepAttempt
      rw [hblocked]
    rw [Option.filter_some, hkeep]
    by_cases hbefore : t < blockedUntil
    · simp [hbefore, hblocked, not_le.mpr hbefore]
    · simp [hbefore]

/-- The address stays locked out if the end of the lockout can be computed and has a year of
four digits. -/
theorem lockoutEnforced_iff (hc : c.FormatsInstants) :
    LockoutEnforced c state db ip now ↔
      (LocksOut c state db ip now →
        ∃ d ∈ addSeconds c now state.loginLockoutSeconds, FourDigitYear d) := by
  have hrecorded : (recordLoginFailure c state ip now).alone (DbCall.exec c) db = _ :=
    alone_recordLoginFailure
  rw [countFailure_eq] at hrecorded
  by_cases hlocks : LocksOut c state db ip now
  · have hmany : state.maxLoginFailures ≤
        ((openCounter c state (db.getLoginAttempt ip) now).failures + 1) % 2 ^ 32 := hlocks
    rw [if_pos hmany] at hrecorded
    simp only [hlocks, forall_const]
    cases hadd : addSeconds c now state.loginLockoutSeconds with
    | none =>
      rw [hadd] at hrecorded
      constructor
      · intro h
        exact absurd (congrArg Prod.fst hrecorded) (h.noPanic _)
      · intro h
        obtain ⟨d, hd, _⟩ := h
        cases hd
    | some d =>
      obtain ⟨rfl, hrange⟩ := addSeconds_eq hadd
      rw [hadd] at hrecorded
      dsimp only [Option.map_some] at hrecorded
      simp only [Option.mem_def, Option.some.injEq, exists_eq_left']
      constructor
      · intro h
        by_contra hyear
        have hunread := hc.refuses _ hrange.1 hrange.2 hyear
        have hrefused := h.enforced hlocks (now + state.loginLockoutSeconds * nanosPerSecond - 1)
          (Int.sub_one_lt_of_le le_rfl)
        rw [hrecorded, alone_ensureLoginAllowed (getLoginAttempt_setLoginAttempt _)] at hrefused
        obtain ⟨blockedUntil, hblocked, _⟩ := hrefused
        rw [Option.bind_some, hunread] at hblocked
        cases hblocked
      · intro hyear
        constructor
        · intro message hpanicked
          rw [hrecorded] at hpanicked
          cases hpanicked
        · intro _ t ht
          rw [hrecorded, alone_ensureLoginAllowed (getLoginAttempt_setLoginAttempt _)]
          refine ⟨_, ?_, ht⟩
          rw [Option.bind_some, hc.readsBack _ hyear]
          rfl
  · have hfew : ¬ state.maxLoginFailures ≤
        ((openCounter c state (db.getLoginAttempt ip) now).failures + 1) % 2 ^ 32 := hlocks
    rw [if_neg hfew] at hrecorded
    simp only [hlocks, false_implies, iff_true]
    constructor
    · intro message hpanicked
      rw [hrecorded] at hpanicked
      cases hpanicked
    · intro h
      exact absurd h hlocks

end Lockouts

/-- Deadlines are enforced where they can be computed and their years have four digits. -/
theorem deadlines_enforced_iff {c : Crates} {state : AppState} (hc : c.FormatsInstants) :
    (∀ requested now, (∀ value ∈ requested, c.parseFromRfc3339 (trim value) ≠ none) →
      (ExpiryEnforced c (effectiveTokenExpiry c state requested now)
        (intendedExpiry c state requested now) ↔ ExpiryFits c state requested now)) ∧
    (∀ value, c.parseFromRfc3339 (trim value) ≠ none →
      (ExpiryEnforced c (normalizeOptionalTimestamp c (some value)) (c.parseFromRfc3339 (trim value)) ↔
        ∀ d ∈ c.parseFromRfc3339 (trim value), FourDigitYear d)) ∧
    ∀ db ip now, LockoutEnforced c state db ip now ↔
      (LocksOut c state db ip now →
        ∃ d ∈ addSeconds c now state.loginLockoutSeconds, FourDigitYear d) :=
  ⟨fun _ _ haccepted => effectiveExpiry_iff hc haccepted,
    fun _ haccepted => requestedExpiry_iff hc haccepted, fun _ _ _ => lockoutEnforced_iff hc⟩

/-! ## A deadline in the year 10000 -/

/-- A text for each instant that no instant of this example has. -/
def tally (t : Instant) : String :=
  String.ofList ((if 0 ≤ t then '+' else '-') :: List.replicate t.natAbs '1')

def readTally (s : String) : Option Instant :=
  match s.toList with
  | '+' :: rest => if rest.all (· == '1') then some rest.length else none
  | '-' :: rest => if rest.all (· == '1') then some (-(rest.length : Int)) else none
  | _ => none

/-- One minute before the end of 9999, in a zone that is a minute behind. -/
def lastMinute : String := "9999-12-31T23:59:59-00:01"

def lastMinuteInstant : Instant := 253402300859 * nanosPerSecond

def deadlineCrates : Crates :=
  { freshCrates with
    parseFromRfc3339 := fun s =>
      if s = epoch then some 0
      else if s = lastMinute then some lastMinuteInstant
      else (readTally s).filter FourDigitYear
    toRfc3339 := fun t =>
      if t = 0 then epoch
      else if t = lastMinuteInstant then "+10000-01-01T00:00:59+00:00"
      else tally t }

theorem readTally_tally (t : Instant) : readTally (tally t) = some t := by
  unfold readTally tally
  rw [String.toList_ofList]
  by_cases hsign : 0 ≤ t
  · rw [if_pos hsign]
    simpa using hsign
  · rw [if_neg hsign]
    have hneg : -|t| = t := by rw [abs_of_nonpos (le_of_not_ge hsign), neg_neg]
    simpa using hneg

theorem tally_ne {s : String} (hs : s.toList.head? ≠ some '+' ∧ s.toList.head? ≠ some '-') (t : Instant) :
    tally t ≠ s := by
  intro h
  subst h
  unfold tally at hs
  rw [String.toList_ofList] at hs
  by_cases hsign : 0 ≤ t
  · simp [hsign] at hs
  · simp [hsign] at hs

theorem formatsInstants_deadlineCrates : deadlineCrates.FormatsInstants := by
  have hread (t : Instant) (hzero : t ≠ 0) (hlast : t ≠ lastMinuteInstant) :
      deadlineCrates.parseFromRfc3339 (deadlineCrates.toRfc3339 t) =
        (some t).filter FourDigitYear := by
    have hepoch : tally t ≠ epoch := tally_ne (by decide) t
    have hminute : tally t ≠ lastMinute := tally_ne (by decide) t
    simp only [deadlineCrates, hzero, hlast, hepoch, hminute, if_false, readTally_tally]
  constructor
  · intro t hyear
    by_cases hzero : t = 0
    · subst hzero
      rfl
    · have hlast : t ≠ lastMinuteInstant := by
        intro h
        subst h
        revert hyear
        decide
      rw [hread t hzero hlast]
      simp [hyear]
  · intro t _ _ hyear
    have hzero : t ≠ 0 := by
      intro h
      subst h
      revert hyear
      decide
    by_cases hlast : t = lastMinuteInstant
    · subst hlast
      decide
    · rw [hread t hzero hlast]
      simp [hyear]
  · intro s t ht
    simp only [deadlineCrates] at ht
    split at ht
    · obtain rfl := Option.some.inj ht
      decide
    · split at ht
      · obtain rfl := Option.some.inj ht
        decide
      · rw [Option.mem_def, Option.filter_eq_some_iff] at ht
        have hyear : FourDigitYear t := of_decide_eq_true ht.2
        have hlow : deadlineCrates.minUtc ≤ yearZero := by decide
        have hhigh : yearTenThousand ≤ deadlineCrates.maxUtc := by decide
        exact ⟨le_trans hlow hyear.1, le_trans (le_of_lt hyear.2) hhigh⟩

/-- A token that is asked to expire at the epoch. -/
theorem deadlines_enforced_epoch :
    ExpiryEnforced deadlineCrates (effectiveTokenExpiry deadlineCrates freshState (some epoch) 0)
      (intendedExpiry deadlineCrates freshState (some epoch) 0) := by
  have hparsed : deadlineCrates.parseFromRfc3339 (trim epoch) = some 0 := by decide
  have hiff := (@deadlines_enforced_iff deadlineCrates freshState formatsInstants_deadlineCrates).1
    (some epoch) 0
  refine (hiff ?_).mpr ?_
  · intro value hvalue
    obtain rfl := Option.some.inj hvalue
    simp [hparsed]
  · intro d hd
    rw [hparsed] at hd
    obtain rfl := Option.some.inj hd
    decide

/-- A token that is to expire in the year 10000 never does, and with a time to live of `i64::MAX`
seconds no token can be issued at all. -/
theorem deadlines_not_enforced :
    deadlineCrates.FormatsInstants ∧
      deadlineCrates.parseFromRfc3339 (trim lastMinute) = some lastMinuteInstant ∧
      effectiveTokenExpiry deadlineCrates freshState (some lastMinute) 0 =
        .ok (some "+10000-01-01T00:00:59+00:00") ∧
      (∀ token now, token.expiresAt = some "+10000-01-01T00:00:59+00:00" →
        tokenExpired deadlineCrates token now = false) ∧
      ¬ ExpiryEnforced deadlineCrates (effectiveTokenExpiry deadlineCrates freshState (some lastMinute) 0)
        (intendedExpiry deadlineCrates freshState (some lastMinute) 0) ∧
      effectiveTokenExpiry deadlineCrates { freshState with defaultTokenTtlSeconds := some i64Max } none 0 =
        .error (.panicked "DateTime + Duration overflowed") := by
  have hstored : effectiveTokenExpiry deadlineCrates freshState (some lastMinute) 0 =
      .ok (some "+10000-01-01T00:00:59+00:00") := by decide
  have hunread : deadlineCrates.parseFromRfc3339 "+10000-01-01T00:00:59+00:00" = none := by decide
  refine ⟨formatsInstants_deadlineCrates, by decide, hstored, ?_, ?_, by decide⟩
  · intro token now hexpiry
    rw [tokenExpired, hexpiry, Option.bind_some, hunread]
    rfl
  · intro henforced
    obtain ⟨text, htext, hparsed, _⟩ := henforced.enforced lastMinuteInstant (by decide)
    rw [hstored] at htext
    obtain rfl := Option.some.inj (Except.ok.inj htext)
    rw [hunread] at hparsed
    cases hparsed

end CloudSync
