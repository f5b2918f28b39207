import CloudSync.LastAdmin

/-!
# Credentials and stale records

Every handler of the panel writes the whole record of an account back, also the login, which
only notes that it happened. What one request changes stays changed as long as no other one
writes back a record that it has read before the change.
-/

namespace CloudSync

open Rust Transactions

set_option autoImplicit false

/-- What the event writes back over an account is nothing that was changed behind its back:
the account is there, with the hash and the flag that are kept and with no higher version. -/
def RecordCurrentAt (c : Crates) (t : Traffic) (before : List DbEvent) (e : DbEvent) : Prop :=
  ∀ user ∈ accountWritten e.call, (t.request e.tid).createsAccount = false →
    ∀ found ∈ (seenAt before e).found, ∃ current ∈ e.pre.getAdminUser user.username,
      ((t.request e.tid).setsPassword c found = false → current.passwordHash = found.passwordHash) ∧
      ((t.request e.tid).setsEnabled = none → found.enabled = true → current.enabled = true) ∧
      current.sessionVersion ≤ (t.request e.tid).versionAfter c found

def RecordsCurrent (c : Crates) (t : Traffic) (log : List DbEvent) : Prop :=
  ∀ before e after, log = before ++ e :: after → RecordCurrentAt c t before e

instance (c : Crates) (t : Traffic) (before : List DbEvent) (e : DbEvent) :
    Decidable (RecordCurrentAt c t before e) := by
  unfold RecordCurrentAt
  infer_instance

/-- The event writes an account whose password its request has set. -/
def PasswordSet (c : Crates) (t : Traffic) (before : List DbEvent) (e : DbEvent)
    (user : AdminUserRecord) : Prop :=
  e.call = ⟨.setAdminUser user, .ok ()⟩ ∧
    ((t.request e.tid).createsAccount = true ∨
      ∃ found ∈ (seenAt before e).found, (t.request e.tid).setsPassword c found = true)

/-- The event creates an account of that name. -/
def CreatedNamed (t : Traffic) (e : DbEvent) (username : String) : Prop :=
  (t.request e.tid).createsAccount = true ∧ ∃ user ∈ accountWritten e.call, user.username = username

/-- Credentials change only when a request changes them. -/
structure CredentialsHold (c : Crates) (t : Traffic) (log : List DbEvent)
    (ps : Nat → Program databaseSignature Answer) : Prop where
  /-- A login that starts after a change of password does not succeed with a password that the new
  hash does not know, unless somebody has set a hash that knows it. -/
  password : ∀ before e after user i body out, log = before ++ e :: after → PasswordSet c t before e user →
    (t.request i).endpoint = .adminLogin body → loginUsername body = user.username →
      (∀ e' ∈ before ++ [e], e'.tid ≠ i) →
        verifyAdminPassword c body.password user.passwordHash = false → ps i = .ret (.ok out) →
          ∃ between e' rest user', after = between ++ e' :: rest ∧
            PasswordSet c t (before ++ e :: between) e' user' ∧ user'.username = user.username ∧
              verifyAdminPassword c body.password user'.passwordHash = true
  version : ∀ before e between rest username user, log = before ++ e :: (between ++ rest) →
    e.post.getAdminUser username = some user → (∀ e' ∈ between, ¬ CreatedNamed t e' username) →
      ∀ e' ∈ between, ∀ user' ∈ e'.post.getAdminUser username, user.sessionVersion ≤ user'.sessionVersion
  disabled : ∀ before e between rest user, log = before ++ e :: (between ++ rest) →
    accountWritten e.call = some user → (t.request e.tid).setsEnabled = some false →
      (∀ e' ∈ between, ∀ user' ∈ accountWritten e'.call, user'.username = user.username →
        (t.request e'.tid).setsEnabled ≠ some true) →
        ∀ e' ∈ between, ∀ user' ∈ e'.post.getAdminUser user.username, user'.enabled = false
  deleted : ∀ before e between rest username, log = before ++ e :: (between ++ rest) →
    e.call = ⟨.deleteAdminUser username, .ok ()⟩ → (∀ e' ∈ between, ¬ CreatedNamed t e' username) →
      ∀ e' ∈ between, e'.post.getAdminUser username = none

/-! ## One event -/

section Events
variable {c : Crates} {state : AppState} {t : Traffic} {start s : Db}
  {ps : Nat → Program databaseSignature Answer} {before after : List DbEvent} {e : DbEvent}
  {user : AdminUserRecord} {username : String}

/-- A committed write of an account creates it, or it replaces a record that is as it was found. -/
inductive AccountWrite (c : Crates) (t : Traffic) (before : List DbEvent) (e : DbEvent)
    (user : AdminUserRecord) : Prop where
  | create (hcreates : (t.request e.tid).createsAccount = true)
      (henabled : (t.request e.tid).setsEnabled = some user.enabled)
  | rewrite (found current : AdminUserRecord) (hfound : (seenAt before e).found = some found)
      (hstored : e.pre.getAdminUser user.username = some current)
      (hhash : (t.request e.tid).setsPassword c found = false → user.passwordHash = current.passwordHash)
      (henabled : user.enabled = (t.request e.tid).setsEnabled.getD found.enabled)
      (hkept : (t.request e.tid).setsEnabled = none → found.enabled = true → current.enabled = true)
      (hversion : current.sessionVersion ≤ user.sessionVersion)

theorem accountWrite (h : ServerRun c state t start (before ++ e :: after) s ps)
    (hcurrent : RecordCurrentAt c t before e) (hcall : e.call = ⟨.setAdminUser user, .ok ()⟩) :
    AccountWrite c t before e user := by
  rcases account_originates h hcall with hcreates | ⟨username, found, hrewrites⟩
  · exact .create hcreates.creates hcreates.enabled
  · have hfound : (seenAt before e).found = some found := by
      rw [AccountsSeen.found, seenAt, hrewrites.read]
      rfl
    obtain ⟨current, hstored, hhash, hkept, hversion⟩ :=
      hcurrent user (accountWritten_eq_some.mpr hcall) hrewrites.creates found hfound
    refine .rewrite found current hfound hstored (fun hsets => ?_) hrewrites.enabled hkept ?_
    · rw [hrewrites.passwordHash hsets, hhash hsets]
    · rw [hrewrites.sessionVersion]
      exact hversion

/-- The password opens none of the accounts of that name. -/
def PasswordRefused (c : Crates) (username password : String) (db : Db) : Prop :=
  ∀ user, db.getAdminUser username = some user → verifyAdminPassword c password user.passwordHash = false

theorem passwordRefused_step {password : String}
    (h : ServerRun c state t start (before ++ e :: after) s ps) (hcurrent : RecordCurrentAt c t before e)
    (hset : ∀ user, PasswordSet c t before e user → user.username = username →
      verifyAdminPassword c password user.passwordHash = false)
    (hpre : PasswordRefused c username password e.pre) : PasswordRefused c username password e.post := by
  intro user hstored
  rcases (accountsStep (h.linked.effect (e := e) (by simp))).stored hstored with hold | ⟨hcall, rfl⟩
  · exact hpre user hold
  · cases accountWrite h hcurrent hcall with
    | create hcreates _ => exact hset user ⟨hcall, .inl hcreates⟩ rfl
    | rewrite found current hfound hcurrent hhash _ _ _ =>
      cases hsets : (t.request e.tid).setsPassword c found with
      | true => exact hset user ⟨hcall, .inr ⟨found, hfound, hsets⟩⟩ rfl
      | false =>
        rw [hhash hsets]
        exact hpre current hcurrent

/-- The version of the account, if it is there, is at least `n`. -/
def VersionAtLeast (username : String) (n : Nat) (db : Db) : Prop :=
  ∀ user, db.getAdminUser username = some user → n ≤ user.sessionVersion

theorem versionAtLeast_step {n : Nat} (h : ServerRun c state t start (before ++ e :: after) s ps)
    (hcurrent : RecordCurrentAt c t before e) (hnot : ¬ CreatedNamed t e username)
    (hpre : VersionAtLeast username n e.pre) : VersionAtLeast username n e.post := by
  intro user hstored
  rcases (accountsStep (h.linked.effect (e := e) (by simp))).stored hstored with hold | ⟨hcall, rfl⟩
  · exact hpre user hold
  · cases accountWrite h hcurrent hcall with
    | create hcreates _ => exact absurd ⟨hcreates, user, accountWritten_eq_some.mpr hcall, rfl⟩ hnot
    | rewrite found current _ hcurrent _ _ _ hversion => exact (hpre current hcurrent).trans hversion

def DisabledNamed (username : String) (db : Db) : Prop :=
  ∀ user, db.getAdminUser username = some user → user.enabled = false

theorem disabledNamed_step (h : ServerRun c state t start (before ++ e :: after) s ps)
    (hcurrent : RecordCurrentAt c t before e)
    (hnot : ∀ user ∈ accountWritten e.call, user.username = username →
      (t.request e.tid).setsEnabled ≠ some true)
    (hpre : DisabledNamed username e.pre) : DisabledNamed username e.post := by
  intro user hstored
  rcases (accountsStep (h.linked.effect (e := e) (by simp))).stored hstored with hold | ⟨hcall, rfl⟩
  · exact hpre user hold
  · have hstated := hnot user (accountWritten_eq_some.mpr hcall) rfl
    by_contra hne
    rw [Bool.not_eq_false] at hne
    cases accountWrite h hcurrent hcall with
    | create _ henabled => exact hstated (by rw [henabled, hne])
    | rewrite found current _ hcurrent _ henabled hkept _ =>
      rw [hne] at henabled
      cases hset : (t.request e.tid).setsEnabled with
      | none =>
        rw [hset] at henabled
        have hstill := hkept hset henabled.symm
        rw [hpre current hcurrent] at hstill
        cases hstill
      | some enabled =>
        rw [hset] at henabled hstated
        exact hstated (congrArg some henabled.symm)

theorem absent_step (h : ServerRun c state t start (before ++ e :: after) s ps)
    (hcurrent : RecordCurrentAt c t before e) (hnot : ¬ CreatedNamed t e username)
    (hpre : e.pre.getAdminUser username = none) : e.post.getAdminUser username = none := by
  by_contra hne
  obtain ⟨user, hstored⟩ := Option.ne_none_iff_exists'.mp hne
  rcases (accountsStep (h.linked.effect (e := e) (by simp))).stored hstored with hold | ⟨hcall, rfl⟩
  · rw [hpre] at hold
    cases hold
  · cases accountWrite h hcurrent hcall with
    | create hcreates _ => exact hnot ⟨hcreates, user, accountWritten_eq_some.mpr hcall, rfl⟩
    | rewrite found current _ hcurrent _ _ _ _ =>
      rw [hpre] at hcurrent
      cases hcurrent

end Events

/-! ## Later events -/

section Later
variable {c : Crates} {state : AppState} {t : Traffic} {start s : Db}
  {ps : Nat → Program databaseSignature Answer} {before between rest : List DbEvent} {e : DbEvent}

/-- What the events after `e` keep holds at all of them. -/
theorem kept_between {J : Db → Prop} (h : ServerRun c state t start (before ++ e :: (between ++ rest)) s ps)
    (hpost : J e.post)
    (hJ : ∀ l e' l', between = l ++ e' :: l' →
      ServerRun c state t start ((before ++ e :: l) ++ e' :: (l' ++ rest)) s ps → J e'.pre → J e'.post) :
    ∀ e' ∈ between, J e'.pre ∧ J e'.post := by
  obtain ⟨_, _, hrest⟩ := linked_middle h.linked
  obtain ⟨_, hbetween, _⟩ := linked_append.mp hrest
  refine hbetween.kept hpost fun l e' l' hsplit => hJ l e' l' hsplit ?_
  subst hsplit
  simpa using h

theorem post_of_setAdminUser {user : AdminUserRecord}
    (h : Effect (S := databaseSignature) (DbCall.exec c) e.op e.reply e.pre e.post)
    (hcall : e.call = ⟨.setAdminUser user, .ok ()⟩) : e.post = e.pre.setAdminUser user := by
  obtain ⟨tid, op, reply, pre, post⟩ := e
  cases hcall
  exact h.of_ok.2

theorem getAdminUser_of_written {user : AdminUserRecord}
    (h : Effect (S := databaseSignature) (DbCall.exec c) e.op e.reply e.pre e.post)
    (hcall : e.call = ⟨.setAdminUser user, .ok ()⟩) :
    e.post.getAdminUser user.username = some user := by
  rw [post_of_setAdminUser h hcall, getAdminUser_setAdminUser, if_pos rfl]

/-- A login that succeeds has found an account that its password opens. -/
theorem login_accepted {log : List DbEvent} {i : Nat} {body : LoginRequest} {out : Response}
    (h : ServerRun c state t start log s ps) (hlogin : (t.request i).endpoint = .adminLogin body)
    (hi : ps i = .ret (.ok out)) :
    ∃ e ∈ log, e.tid = i ∧ ∃ user, e.pre.getAdminUser (loginUsername body) = some user ∧
      user.enabled = true ∧ verifyAdminPassword c body.password user.passwordHash = true := by
  have hrequest : t.request i = ⟨.adminLogin body, (t.request i).peer, (t.request i).headers⟩ := by
    rw [← hlogin]
  have haccounts := @handle_loginAccounts c state (t.ambient i) body (t.request i).peer
    (t.request i).headers
  rw [← hrequest] at haccounts
  obtain ⟨user, hmem, henabled, hverified⟩ := h.concluded hi haccounts out rfl
  obtain ⟨e, he, htid, _, hcall⟩ := mem_ownCalls.mp hmem
  have heff := h.linked.effect he
  refine ⟨e, he, htid, user, ?_, henabled, hverified⟩
  obtain ⟨tid, op, reply, pre, post⟩ := e
  cases hcall
  exact heff.of_ok.1.symm

theorem password_stays {user : AdminUserRecord} {i : Nat} {body : LoginRequest} {out : Response}
    {after : List DbEvent} (h : ServerRun c state t start (before ++ e :: after) s ps)
    (hcurrent : RecordsCurrent c t (before ++ e :: after)) (hset : PasswordSet c t before e user)
    (hlogin : (t.request i).endpoint = .adminLogin body) (hname : loginUsername body = user.username)
    (hlater : ∀ e' ∈ before ++ [e], e'.tid ≠ i)
    (hrefused : verifyAdminPassword c body.password user.passwordHash = false)
    (hi : ps i = .ret (.ok out)) :
    ∃ between e' rest user', after = between ++ e' :: rest ∧
      PasswordSet c t (before ++ e :: between) e' user' ∧ user'.username = user.username ∧
        verifyAdminPassword c body.password user'.passwordHash = true := by
  by_contra hnone
  have hpost : PasswordRefused c user.username body.password e.post := by
    intro stored hstored
    rw [getAdminUser_of_written (h.linked.effect (by simp)) hset.1] at hstored
    cases hstored
    exact hrefused
  have hkept : ∀ e' ∈ after, PasswordRefused c user.username body.password e'.pre ∧
      PasswordRefused c user.username body.password e'.post := by
    have hrun : ServerRun c state t start (before ++ e :: (after ++ [])) s ps := by simpa using h
    refine kept_between hrun hpost fun l e' l' hsplit hrun' hpre => ?_
    have hcurrent' := hcurrent (before ++ e :: l) e' l' (by simp [hsplit])
    refine passwordRefused_step hrun' hcurrent' (fun user' hset' hname' => ?_) hpre
    by_contra hopens
    exact hnone ⟨l, e', l', user', hsplit, hset', hname', Bool.not_eq_false _ ▸ hopens⟩
  obtain ⟨e', he', htid, found, hfound, _, hverified⟩ := login_accepted h hlogin hi
  have hafter : e' ∈ after := by
    have hsplit : before ++ e :: after = (before ++ [e]) ++ after := by simp
    rw [hsplit] at he'
    rcases List.mem_append.mp he' with hm | hm
    · exact absurd htid (hlater e' hm)
    · exact hm
  rw [hname] at hfound
  rw [(hkept e' hafter).1 found hfound] at hverified
  cases hverified

end Later

/-- Credentials hold in every run in which no account is written back stale. -/
theorem credentialsHold {c : Crates} {state : AppState} {t : Traffic} {start s : Db}
    {log : List DbEvent} {ps : Nat → Program databaseSignature Answer}
    (h : ServerRun c state t start log s ps) (hcurrent : RecordsCurrent c t log) :
    CredentialsHold c t log ps where
  password := by
    rintro before e after user i body out rfl hset hlogin hname hlater hrefused hi
    exact password_stays h hcurrent hset hlogin hname hlater hrefused hi
  version := by
    rintro before e between rest username user rfl hstored hnone e' he' user' hstored'
    have hpost : VersionAtLeast username user.sessionVersion e.post := by
      intro user₀ h₀
      rw [hstored] at h₀
      cases h₀
      exact le_rfl
    refine (kept_between h hpost (fun l e₁ l' hsplit hrun hpre => ?_) e' he').2 user' hstored'
    have hcurrent' := hcurrent (before ++ e :: l) e₁ (l' ++ rest) (by simp [hsplit])
    exact versionAtLeast_step hrun hcurrent' (hnone e₁ (by simp [hsplit])) hpre
  disabled := by
    rintro before e between rest user rfl hwritten hstated hnone e' he' user' hstored'
    have hcall := accountWritten_eq_some.mp hwritten
    have hpost : DisabledNamed user.username e.post := by
      intro user₀ h₀
      rw [getAdminUser_of_written (h.linked.effect (by simp)) hcall] at h₀
      cases h₀
      cases accountWrite h (hcurrent before e _ rfl) hcall with
      | create _ henabled => exact (Option.some.inj (hstated.symm.trans henabled)).symm
      | rewrite _ _ _ _ _ henabled _ _ =>
        rw [hstated] at henabled
        exact henabled
    refine (kept_between h hpost (fun l e₁ l' hsplit hrun hpre => ?_) e' he').2 user' hstored'
    have hcurrent' := hcurrent (before ++ e :: l) e₁ (l' ++ rest) (by simp [hsplit])
    exact disabledNamed_step hrun hcurrent' (hnone e₁ (by simp [hsplit])) hpre
  deleted := by
    rintro before e between rest username rfl hcall hnone e' he'
    have hpost : e.post.getAdminUser username = none := by
      have heff := h.linked.effect (e := e) (by simp)
      obtain ⟨tid, op, reply, pre, post⟩ := e
      cases hcall
      have hdeleted : post = pre.deleteAdminUser username := heff.of_ok.2
      rw [hdeleted, getAdminUser_deleteAdminUser, if_pos rfl]
    refine (kept_between (J := fun db => db.getAdminUser username = none) h hpost
      (fun l e₁ l' hsplit hrun hpre => ?_) e' he').2
    have hcurrent' := hcurrent (before ++ e :: l) e₁ (l' ++ rest) (by simp [hsplit])
    exact absent_step hrun hcurrent' (hnone e₁ (by simp [hsplit])) hpre

/-! ## A failed login and a deletion at once -/

/-- Somebody guesses the password of `bob`, whose account `admin` deletes. -/
def guessTraffic : Traffic := Traffic.ofList
  [{ endpoint := .adminLogin { username := some "bob", password := "a guess" }
     peer := "127.0.0.1"
     headers := [] },
   panelRequest (.adminDeleteUser "bob")]

def playGuess (schedule : List (Nat × Option String)) :=
  play (S := databaseSignature) (DbCall.exec freshCrates) schedule twoAdminsDb
    (guessTraffic.program freshCrates freshState)

theorem playGuess_run (schedule : List (Nat × Option String)) :
    ServerRun freshCrates freshState guessTraffic twoAdminsDb (playGuess schedule).1
      (playGuess schedule).2.1 (playGuess schedule).2.2 := play_run _ _ _ _

theorem playGuess_short (schedule : List (Nat × Option String)) :
    playGuess schedule = playShortened freshCrates freshState guessTraffic twoAdminsDb schedule := by
  apply play_shortened knowsAdmin_freshCrates
  exact ⟨.bare _ rfl, .panel _ rfl⟩

/-- The name of the account that a committed call deletes. -/
def accountDeleted : databaseSignature.Call → Option String
  | ⟨.deleteAdminUser username, .ok ()⟩ => some username
  | _ => none

theorem accountDeleted_eq_some {call : databaseSignature.Call} {username : String}
    (h : accountDeleted call = some username) : call = ⟨.deleteAdminUser username, .ok ()⟩ := by
  unfold accountDeleted at h
  split at h
  · cases h
    rfl
  · cases h

/-- Event `k` deletes the account of `bob`, which nobody creates later. -/
def BobDeletedAt (log : List DbEvent) (k : Nat) : Prop :=
  (∃ e ∈ log[k]?, accountDeleted e.call = some "bob") ∧
    ∀ e ∈ log.drop (k + 1), (guessTraffic.request e.tid).createsAccount = false

instance (log : List DbEvent) (k : Nat) : Decidable (BobDeletedAt log k) :=
  inferInstanceAs (Decidable (_ ∧ _))

/-- If credentials hold, the account is missing after every later event. -/
theorem BobDeletedAt.missing {log : List DbEvent} {k : Nat} (h : BobDeletedAt log k)
    {ps : Nat → Program databaseSignature Answer}
    (hholds : CredentialsHold freshCrates guessTraffic log ps) :
    ∀ e ∈ log.drop (k + 1), e.post.getAdminUser "bob" = none := by
  obtain ⟨⟨e, he, hdeleted⟩, hnone⟩ := h
  have hlog : log = log.take k ++ e :: (log.drop (k + 1) ++ []) := by simpa using split_at he
  refine hholds.deleted _ e _ [] "bob" hlog (accountDeleted_eq_some hdeleted) fun e' he' hcreated => ?_
  exact absurd hcreated.1 (by simp [hnone e' he'])

/-- The login starts when the account is gone. -/
def guessedLate : List (Nat × Option String) := steps 1 20 ++ steps 0 20

set_option maxRecDepth 10000 in
theorem credentialsHold_guessedLate :
    ¬ ∃ e ∈ (playGuess guessedLate).1.drop 5, e.post.getAdminUser "bob" ≠ none := by
  have hplay : BobDeletedAt (playGuess guessedLate).1 4 ∧
      ∀ k < (playGuess guessedLate).1.length, ∀ e ∈ (playGuess guessedLate).1[k]?,
        RecordCurrentAt freshCrates guessTraffic ((playGuess guessedLate).1.take k) e := by
    rw [playGuess_short]
    decide +kernel
  rintro ⟨e, he, hback⟩
  exact hback (hplay.1.missing (credentialsHold (playGuess_run guessedLate) (forall_split hplay.2)) e he)

/-- The account is deleted after the login has looked it up. -/
def guessedAround : List (Nat × Option String) := steps 0 3 ++ steps 1 20 ++ steps 0 20

set_option maxRecDepth 10000 in
/-- Counting the failure brings the deleted account back. -/
theorem deleted_account_comes_back :
    ∃ (log : List DbEvent) (s : Db) (ps : Nat → Program databaseSignature Answer),
      Reachable freshCrates twoAdminsDb ∧
      ServerRun freshCrates freshState guessTraffic twoAdminsDb log s ps ∧
      ¬ CredentialsHold freshCrates guessTraffic log ps := by
  refine ⟨_, _, _, reachable_twoAdminsDb, playGuess_run guessedAround, fun hholds => ?_⟩
  have hplay : BobDeletedAt (playGuess guessedAround).1 7 ∧
      ∃ e ∈ (playGuess guessedAround).1.drop 8, e.post.getAdminUser "bob" ≠ none := by
    rw [playGuess_short]
    decide +kernel
  obtain ⟨hdeleted, e, he, hback⟩ := hplay
  exact hback (hdeleted.missing hholds e he)

end CloudSync
