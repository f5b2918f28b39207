import CloudSync.Sessions
import CloudSync.Startup

/-!
# Starting with a password

A start with `ADMIN_PASSWORD` writes one account. Whatever the panel was like before, the
operator can log in with that password afterwards, and nothing else has changed.
-/

namespace CloudSync

open Rust Transactions Transactions.Fallible

set_option autoImplicit false

/-- `verify` knows what `hash` made. -/
def Crates.VerifiesHashes (c : Crates) : Prop :=
  ∀ salt password hash, c.bcryptHash salt password = .ok hash → c.bcryptVerify password hash = some true

/-- The account that a start with `password` writes into `s`. -/
structure Bootstrapped (c : Crates) (life : Life) (password : String) (s : Db) (user : AdminUserRecord) :
    Prop where
  username : user.username = trim life.cli.adminUsername
  enabled : user.enabled = true
  kept : ∀ stored, s.getAdminUser user.username = some stored →
    verifyAdminPassword c password stored.passwordHash = true →
      user.passwordHash = stored.passwordHash ∧ user.sessionVersion = stored.sessionVersion
  raised : ∀ stored, s.getAdminUser user.username = some stored →
    verifyAdminPassword c password stored.passwordHash = false →
      user.sessionVersion = saturatingAdd stored.sessionVersion 1
  hashed : (∀ stored, s.getAdminUser user.username = some stored →
    verifyAdminPassword c password stored.passwordHash = false) →
      c.bcryptHash (life.ambient.salt 0) password = .ok user.passwordHash

/-- The start has written its account, as a bootstrap that meets no fault does. -/
def BootstrappedTo (c : Crates) (life : Life) (s s' : Db) : Prop :=
  ∃ password user, emptyToNone life.cli.adminPassword = some password ∧
    Bootstrapped c life password s user ∧ s' = s.setAdminUser user ∧
    s' = ((bootstrapAdmin c life.ambient life.cli.adminUsername password).alone (DbCall.exec c) s).2

variable {c : Crates} {life : Life} {s s' : Db}

/-! ## What a start does to the database -/

section Starting

theorem attempts_redb {J : Db → Prop} {call : DbCall} {ok : call.Out → Db → Prop} {err : String → Db → Prop}
    (hs : J s) (hs' : J (call.exec c s).2) (hok : ok (call.exec c s).1 (call.exec c s).2)
    (herr : ∀ f : String, err f s) :
    Attempts (α := no_index call.Out) (DbCall.exec c) J (redb call) s ok err :=
  attempts_txn hs hs' hok herr

theorem bootstrapped_of_stored {password : String} {stored : AdminUserRecord}
    (hstored : s.getAdminUser (trim life.cli.adminUsername) = some stored)
    (hverified : verifyAdminPassword c password stored.passwordHash = true) (now passwordUpdatedAt : String) :
    Bootstrapped c life password s (bootstrapUser (some stored) true (trim life.cli.adminUsername)
      stored.passwordHash now passwordUpdatedAt) := by
  refine ⟨rfl, rfl, fun user huser _ => ?_, fun user huser hrefused => ?_, fun hrefused => ?_⟩
  · cases hstored.symm.trans huser
    exact ⟨rfl, rfl⟩
  · cases hstored.symm.trans huser
    rw [hverified] at hrefused
    cases hrefused
  · have hno := hrefused stored hstored
    rw [hverified] at hno
    cases hno

theorem bootstrapped_of_hashed {password passwordHash : String} {existing : Option AdminUserRecord}
    (hexisting : s.getAdminUser (trim life.cli.adminUsername) = existing)
    (hrefused : ∀ stored, existing = some stored →
      verifyAdminPassword c password stored.passwordHash = false)
    (hhash : c.bcryptHash (life.ambient.salt 0) password = .ok passwordHash)
    (now passwordUpdatedAt : String) :
    Bootstrapped c life password s (bootstrapUser existing false (trim life.cli.adminUsername)
      passwordHash now passwordUpdatedAt) := by
  refine ⟨rfl, rfl, fun user huser hverified => ?_, fun user huser _ => ?_, fun _ => hhash⟩
  · rw [hrefused user (hexisting.symm.trans huser)] at hverified
    cases hverified
  · have huser' : existing = some user := hexisting.symm.trans huser
    subst huser'
    rfl

/-- The bootstrap writes its account, or it leaves everything as it is. -/
theorem bootstrapAdmin_attempts {password : String}
    (hpassword : emptyToNone life.cli.adminPassword = some password) :
    Attempts (DbCall.exec c) (fun s' => s' = s ∨ BootstrappedTo c life s s')
      (bootstrapAdmin c life.ambient life.cli.adminUsername password) s
      (fun _ s' => BootstrappedTo c life s s') fun _ _ => True := by
  unfold bootstrapAdmin
  refine .bind (attempts_liftResult (.inl rfl) (fun _ hensured => ?_) fun _ _ => trivial)
  refine .bind (.mapError (attempts_redb (.inl rfl) (.inl rfl) ?_ fun _ => trivial))
  have hname : (!(trim life.cli.adminUsername).isEmpty) = true := by
    by_contra hempty
    rw [if_neg hempty] at hensured
    cases hensured
  have hwrite : ∀ unchanged passwordHash,
      Bootstrapped c life password s (bootstrapUser (s.getAdminUser (trim life.cli.adminUsername)) unchanged
        (trim life.cli.adminUsername) passwordHash (c.toRfc3339 (life.ambient.now 0))
        (c.toRfc3339 (life.ambient.now 1))) →
      s.setAdminUser (bootstrapUser (s.getAdminUser (trim life.cli.adminUsername)) unchanged
        (trim life.cli.adminUsername) passwordHash (c.toRfc3339 (life.ambient.now 0))
        (c.toRfc3339 (life.ambient.now 1))) =
          ((bootstrapAdmin c life.ambient life.cli.adminUsername password).alone (DbCall.exec c) s).2 →
      Attempts (DbCall.exec c) (fun s' => s' = s ∨ BootstrappedTo c life s s')
        ((redb (.setAdminUser (bootstrapUser (s.getAdminUser (trim life.cli.adminUsername)) unchanged
          (trim life.cli.adminUsername) passwordHash (c.toRfc3339 (life.ambient.now 0))
          (c.toRfc3339 (life.ambient.now 1))))).mapError fun e : String =>
            AppError.panicked ("Failed to bootstrap admin user: " ++ e)) s
        (fun _ s' => BootstrappedTo c life s s') fun _ _ => True := by
    intro unchanged passwordHash hwritten halone
    have hto : BootstrappedTo c life s (s.setAdminUser _) :=
      ⟨password, _, hpassword, hwritten, rfl, halone⟩
    exact .mapError (attempts_redb (.inl rfl) (.inr hto) hto fun _ => trivial)
  dsimp only [DbCall.exec]
  cases hfilter : (s.getAdminUser (trim life.cli.adminUsername)).filter
      (fun user => verifyAdminPassword c password user.passwordHash) with
  | some stored =>
    obtain ⟨hstored, hverified⟩ := Option.filter_eq_some_iff.mp hfilter
    refine .bind ⟨.inl rfl, hwrite _ _ ?_ ?_⟩
    · rw [hstored]
      exact bootstrapped_of_stored hstored hverified _ _
    · unfold bootstrapAdmin
      rw [alone_bind, alone_ensure, hname, if_pos rfl]
      dsimp only
      rw [alone_bind, alone_mapError, alone_redb]
      dsimp only [DbCall.exec, Except.mapError]
      rw [hfilter]
      dsimp only
      rw [alone_bind, alone_pure]
      dsimp only
      rw [alone_mapError, alone_redb]
      rfl
  | none =>
    refine .bind (.mapError (attempts_liftResult (.inl rfl) (fun passwordHash hhashed => ?_)
      fun _ _ => trivial))
    have hhash : c.bcryptHash (life.ambient.salt 0) password = .ok passwordHash := by
      cases hmade : c.bcryptHash (life.ambient.salt 0) password with
      | ok made =>
        rw [hmade] at hhashed
        exact congrArg Except.ok (Except.ok.inj hhashed)
      | error e =>
        rw [hmade] at hhashed
        cases hhashed
    refine hwrite _ _ (bootstrapped_of_hashed rfl (fun stored hstored => ?_) hhash _ _) ?_
    · simpa [hstored] using hfilter
    · unfold bootstrapAdmin
      rw [alone_bind, alone_ensure, hname, if_pos rfl]
      dsimp only
      rw [alone_bind, alone_mapError, alone_redb]
      dsimp only [DbCall.exec, Except.mapError]
      rw [hfilter]
      dsimp only
      rw [alone_bind, alone_mapError, hashAdminPassword, alone_liftResult, hhash]
      dsimp only [Except.mapError]
      rw [alone_mapError, alone_redb]
      rfl

/-- What a finished start has done. -/
structure StartedUp (c : Crates) (life : Life) (state : AppState) (s s' : Db) : Prop where
  written : (emptyToNone life.cli.adminPassword).isSome = true → BootstrappedTo c life s s'
  untouched : emptyToNone life.cli.adminPassword = none → s' = s
  panel : state.adminEnabled = !s'.listAdminUsers.isEmpty

theorem startUp_attempts :
    Attempts (DbCall.exec c) (fun s' => s' = s ∨ BootstrappedTo c life s s')
      (startUp c life.ambient life.cli) s (fun state s' => StartedUp c life state s s') fun _ _ => True := by
  unfold startUp
  refine .bind (attempts_liftResult (.inl rfl) (fun encryptionKey _ => ?_) fun _ _ => trivial)
  have hrest : ∀ s', (s' = s ∨ BootstrappedTo c life s s') →
      ((emptyToNone life.cli.adminPassword).isSome = true → BootstrappedTo c life s s') →
      (emptyToNone life.cli.adminPassword = none → s' = s) →
      Attempts (DbCall.exec c) (fun s' => s' = s ∨ BootstrappedTo c life s s') (do
        let users : List AdminUserRecord ← (redb .listAdminUsers).mapError fun e : String =>
          AppError.panicked ("Failed to list admin users: " ++ e)
        let jwtSecret := (emptyToNone life.cli.adminJwtSecret).getD (life.ambient.newUuid 0)
        let tokenRevealKey := encryptionKey.getD (deriveKey c (asBytes jwtSecret))
        pure (life.cli.appState encryptionKey jwtSecret tokenRevealKey (!users.isEmpty))) s'
        (fun state s' => StartedUp c life state s s') fun _ _ => True := by
    intro s' hs' hwritten huntouched
    refine .bind (.mapError (attempts_redb hs' hs' ?_ fun _ => trivial))
    exact ⟨hs', hwritten, huntouched, rfl⟩
  dsimp only
  cases hpassword : emptyToNone life.cli.adminPassword with
  | none =>
    refine .bind ⟨.inl rfl, ?_⟩
    exact hrest s (.inl rfl) (by simp [hpassword]) fun _ => rfl
  | some password =>
    refine .bind (Program.Attempts.mono ?_ (bootstrapAdmin_attempts hpassword))
    intro result s' hs' hresult
    cases result with
    | ok => exact hrest s' hs' (fun _ => hresult) (by simp [hpassword])
    | error e => trivial

/-- Wherever a start stops, the account is as before or it has been written. -/
theorem startUp_leaves {rest : Program databaseSignature (Except AppError AppState)}
    (h : Steps (DbCall.exec c) (startUp c life.ambient life.cli).run s rest s') :
    s' = s ∨ BootstrappedTo c life s s' :=
  (h.attempts startUp_attempts).kept

theorem startedUp {state : AppState}
    (h : Steps (DbCall.exec c) (startUp c life.ambient life.cli).run s (.ret (.ok state)) s') :
    StartedUp c life state s s' :=
  (h.attempts startUp_attempts).2

/-- So every database that processes leave behind is reachable with bootstraps that finish. -/
theorem Operated.reachable {P : Life → Prop} (h : Operated c P s) : Reachable c s := by
  have hstarted : ∀ {life : Life} {s s' : Db} {rest : Program databaseSignature (Except AppError AppState)},
      Reachable c s → Steps (DbCall.exec c) (startUp c life.ambient life.cli).run s rest s' →
      Reachable c s' := by
    intro life s s' rest hs hsteps
    rcases startUp_leaves hsteps with rfl | ⟨password, user, _, _, _, halone⟩
    · exact hs
    · rw [halone]
      exact .started _ _ _ hs
  induction h with
  | created => exact .created
  | started life _ _ hsteps ih => exact hstarted ih hsteps
  | served life _ _ hsteps hrun ih => exact .served (hstarted ih hsteps) hrun

end Starting

/-! ## Logging in afterwards -/

section Login
variable {state : AppState} {amb : Ambient} {db : Db} {token : String}

theorem parseHeaderValue_of_printable {s : String}
    (h : ∀ ch ∈ s.toList, 32 ≤ ch.toNat ∧ ch.toNat < 127) : parseHeaderValue s = some s := by
  unfold parseHeaderValue
  rw [if_pos]
  rw [chars_eq, List.all_eq_true]
  intro ch hch
  obtain ⟨hlow, hhigh⟩ := h ch hch
  simp [hlow, hhigh]

theorem printable_append {s t : String} (hs : ∀ ch ∈ s.toList, 32 ≤ ch.toNat ∧ ch.toNat < 127)
    (ht : ∀ ch ∈ t.toList, 32 ≤ ch.toNat ∧ ch.toNat < 127) :
    ∀ ch ∈ (s ++ t).toList, 32 ≤ ch.toNat ∧ ch.toNat < 127 := by
  intro ch hch
  rw [String.toList_append] at hch
  rcases List.mem_append.mp hch with h | h
  · exact hs ch h
  · exact ht ch h

theorem printable_literal {s : String}
    (h : (chars s).all fun ch => decide (32 ≤ ch.toNat ∧ ch.toNat < 127)) :
    ∀ ch ∈ s.toList, 32 ≤ ch.toNat ∧ ch.toNat < 127 := by
  intro ch hch
  exact of_decide_eq_true (List.all_eq_true.mp h ch (chars_eq s ▸ hch))

theorem TokenText.printable (h : TokenText token) :
    ∀ ch ∈ token.toList, 32 ≤ ch.toNat ∧ ch.toNat < 127 := by
  intro ch hch
  have hrange := isTokenChar_range (h.chars ch hch)
  omega

theorem printable_secureAttribute (secure : Bool) :
    ∀ ch ∈ (secureAttribute secure).toList, 32 ≤ ch.toNat ∧ ch.toNat < 127 := by
  cases secure
  · exact printable_literal (by decide +kernel)
  · exact printable_literal (by decide +kernel)

theorem parseHeaderValue_session (h : TokenText token) (secure : Bool) :
    parseHeaderValue (buildAdminSessionCookie token secure) = some (buildAdminSessionCookie token secure) := by
  apply parseHeaderValue_of_printable
  unfold buildAdminSessionCookie
  refine printable_append (printable_append (printable_append (printable_append ?_ ?_) h.printable) ?_)
    (printable_secureAttribute secure)
  all_goals exact printable_literal (by decide +kernel)

theorem parseHeaderValue_csrf (h : TokenText token) (secure : Bool) :
    parseHeaderValue (buildCsrfCookie token secure) = some (buildCsrfCookie token secure) := by
  apply parseHeaderValue_of_printable
  unfold buildCsrfCookie
  refine printable_append (printable_append (printable_append (printable_append ?_ ?_) h.printable) ?_)
    (printable_secureAttribute secure)
  all_goals exact printable_literal (by decide +kernel)

def loginResponse (jwt csrf : String) (secure : Bool) : SessionResponse where
  jwt := jwt
  cookies := [buildAdminSessionCookie jwt secure, buildCsrfCookie csrf secure]
  csrfToken := some csrf
  user := none

/-- The answer to a login whose password is right, and the account it leaves. -/
theorem serve_login_accepted {peer : IpAddr} {headers : HeaderMap} {body : LoginRequest}
    {user : AdminUserRecord} {jwt : String} (hc : c.SignsSessions) (huuid : TokenText (amb.newUuid 0))
    (hlocked : lockedOut c ((db.cleanupLoginAttempts c (amb.now 0) state.loginWindowSeconds
      ).getLoginAttempt (resolveClientIp c state headers peer)) (amb.now 0) = false)
    (hpanel : state.adminEnabled = true) (hfound : db.getAdminUser (loginUsername body) = some user)
    (henabled : user.enabled = true) (hverified : verifyAdminPassword c body.password user.passwordHash = true)
    (hjwt : c.jwtEncode state.jwtSecret
      (issuedClaims (loginUsername body) user.sessionVersion (amb.now 3)) = .ok jwt) :
    ∃ secure after, serve c state amb ⟨.adminLogin body, peer, headers⟩ db =
        (.ok (.session (loginResponse jwt (amb.newUuid 0) secure)), after) ∧
      after.getAdminUser user.username = some (loggedIn user (resolveClientIp c state headers peer)
        (c.toRfc3339 (amb.now 1)) (c.toRfc3339 (amb.now 2))) := by
  refine ⟨effectiveAdminCookieSecure state headers,
    ((db.cleanupLoginAttempts c (amb.now 0) state.loginWindowSeconds).deleteLoginAttempt
      (resolveClientIp c state headers peer)).setAdminUser
        (loggedIn user (resolveClientIp c state headers peer) (c.toRfc3339 (amb.now 1))
          (c.toRfc3339 (amb.now 2))), ?_, getAdminUser_setAdminUser _ _ _ |>.trans (if_pos rfl)⟩
  unfold serve handle
  dsimp only
  rw [alone_bind]
  unfold adminLogin
  rw [alone_bind, ensureLoginAllowed_admits hlocked]
  dsimp only
  rw [alone_bind, alone_ensure, hpanel, if_pos rfl]
  dsimp only
  rw [alone_bind, alone_db]
  have hread : (DbCall.exec c (.getAdminUser (loginUsername body))
      (db.cleanupLoginAttempts c (amb.now 0) state.loginWindowSeconds)).1 = some user := hfound
  rw [hread]
  have hright : (!user.enabled || !verifyAdminPassword c body.password user.passwordHash) = false := by
    simp [henabled, hverified]
  simp only [hright, Bool.false_eq_true, if_false]
  rw [alone_bind, clearLoginFailures, alone_db]
  dsimp only [DbCall.exec]
  rw [alone_bind, alone_db]
  dsimp only [DbCall.exec]
  have hsession : createAdminJwtForUser c state (loginUsername body)
      (loggedIn user (resolveClientIp c state headers peer) (c.toRfc3339 (amb.now 1))
        (c.toRfc3339 (amb.now 2))).sessionVersion (amb.now 3) = liftResult (.ok jwt) := by
    unfold createAdminJwtForUser
    change liftResult ((c.jwtEncode state.jwtSecret
      (issuedClaims (loginUsername body) user.sessionVersion (amb.now 3))).mapError _) = _
    rw [hjwt]
    rfl
  rw [alone_bind, hsession, alone_liftResult]
  dsimp only
  rw [alone_bind, parseHeaderValue_session (hc.text _ _ _ hjwt), alone_okOr]
  dsimp only
  rw [alone_bind, parseHeaderValue_csrf huuid, alone_okOr]
  rfl

end Login

/-- After the start only one account is different, and its password opens the panel. -/
structure AccessRecovered (c : Crates) (life : Life) (state : AppState) (password : String) (s s' : Db) :
    Prop where
  panel : state.adminEnabled = true
  written : ∃ user, Bootstrapped c life password s user ∧ s' = s.setAdminUser user
  login : ∀ amb peer headers body jwt, loginUsername body = trim life.cli.adminUsername →
    body.password = password → TokenText (amb.newUuid 0) →
    lockedOut c ((s'.cleanupLoginAttempts c (amb.now 0) state.loginWindowSeconds
      ).getLoginAttempt (resolveClientIp c state headers peer)) (amb.now 0) = false →
    (∀ user, s'.getAdminUser (loginUsername body) = some user → c.jwtEncode state.jwtSecret
      (issuedClaims user.username user.sessionVersion (amb.now 3)) = .ok jwt) →
    ∃ session user after, serve c state amb ⟨.adminLogin body, peer, headers⟩ s' =
        (.ok (.session session), after) ∧
      SessionCounts c state.jwtSecret (issuedClaims user.username user.sessionVersion (amb.now 3))
        session user ∧ AccountStands user after

theorem Bootstrapped.verified {password : String} {user : AdminUserRecord} (hhashes : c.VerifiesHashes)
    (h : Bootstrapped c life password s user) : verifyAdminPassword c password user.passwordHash = true := by
  have hmade : ∀ hash, c.bcryptHash (life.ambient.salt 0) password = .ok hash →
      verifyAdminPassword c password hash = true := by
    intro hash hhash
    rw [verifyAdminPassword, hhashes _ _ _ hhash]
    rfl
  cases hstored : s.getAdminUser user.username with
  | none => exact hmade _ (h.hashed (by simp [hstored]))
  | some stored =>
    cases hverified : verifyAdminPassword c password stored.passwordHash with
    | true => rw [(h.kept stored hstored hverified).1, hverified]
    | false =>
      refine hmade _ (h.hashed fun other hother => ?_)
      cases hstored.symm.trans hother
      exact hverified

theorem access_recovered {password : String} {state : AppState} (hc : c.SignsSessions)
    (hhashes : c.VerifiesHashes) (hpassword : emptyToNone life.cli.adminPassword = some password)
    (hstart : Steps (DbCall.exec c) (startUp c life.ambient life.cli).run s (.ret (.ok state)) s') :
    AccessRecovered c life state password s s' := by
  have hstarted := startedUp hstart
  obtain ⟨password', user, hpassword', hwritten, rfl, _⟩ := hstarted.written (by rw [hpassword]; rfl)
  obtain rfl : password = password' := Option.some.inj (hpassword.symm.trans hpassword')
  have hstored : (s.setAdminUser user).getAdminUser user.username = some user := by
    rw [getAdminUser_setAdminUser, if_pos rfl]
  have hpanel : state.adminEnabled = true := by
    have hmem : user ∈ (s.setAdminUser user).listAdminUsers := by
      rw [Db.listAdminUsers, Redb.Table.mem_values]
      exact ⟨_, hstored⟩
    rw [hstarted.panel]
    cases hlist : (s.setAdminUser user).listAdminUsers with
    | nil =>
      rw [hlist] at hmem
      cases hmem
    | cons head rest => rfl
  refine ⟨hpanel, ⟨user, hwritten, rfl⟩, ?_⟩
  intro amb peer headers body jwt hname hbody huuid hlocked hjwt
  have hnamed : loginUsername body = user.username := hname.trans hwritten.username.symm
  have hfound : (s.setAdminUser user).getAdminUser (loginUsername body) = some user := by
    rw [hnamed, hstored]
  have hencoded := hjwt user hfound
  have hverified : verifyAdminPassword c body.password user.passwordHash = true := by
    rw [hbody, hwritten.verified hhashes]
  rw [← hnamed] at hencoded
  obtain ⟨secure, after, hserve, hafter⟩ :=
    serve_login_accepted hc huuid hlocked hpanel hfound hwritten.enabled hverified hencoded
  rw [hnamed] at hencoded
  refine ⟨_, _, after, hserve, ?_, ⟨_, hafter, hwritten.enabled, rfl⟩⟩
  have hcookies : (loginResponse jwt (amb.newUuid 0) secure).cookies =
      [buildAdminSessionCookie jwt secure, buildCsrfCookie (amb.newUuid 0) secure] := rfl
  refine sessionCounts_issued hc hencoded hcookies fun csrf hcsrf => ?_
  cases hcsrf
  exact ⟨huuid, rfl⟩

/-! The only account is disabled, and the environment has a blank before the password. -/

theorem verifiesHashes_sessionCrates : sessionCrates.VerifiesHashes := by
  intro salt password hash h
  simp only [sessionCrates, freshCrates, CrateTables.crates, freshTables, panelTables,
    List.lookup_cons, List.lookup_nil] at h ⊢
  by_cases hentry : (salt, password) = ("abcdefghijklmnopqrstuu", adminPassword)
  · simp only [hentry, beq_self_eq_true] at h
    obtain rfl := Except.ok.inj h
    obtain ⟨rfl, rfl⟩ := Prod.mk.inj hentry
    simp
  · simp [beq_false_of_ne hentry] at h

def recoveryLife : Life where
  cli :=
    { adminPassword := some (" " ++ adminPassword)
      adminJwtSecret := some "jwt-secret" }
  ambient := numberedAmbient (fun _ => "abcdefghijklmnopqrstuu") 0
  traffic := Traffic.ofList []

def recoveredState : AppState := recoveryLife.cli.appState none "jwt-secret" [] true

def disabledDb : Db := ({} : Db).setAdminUser { adminUser with enabled := false, disabledAt := some epoch }

def recoveredDb : Db :=
  ((startUp sessionCrates recoveryLife.ambient recoveryLife.cli).run.run (DbCall.exec sessionCrates)
    disabledDb).2

theorem recoveryLife_starts : ((startUp sessionCrates recoveryLife.ambient recoveryLife.cli).run.run
    (DbCall.exec sessionCrates) disabledDb).1 = .ok recoveredState := by decide +kernel

set_option maxRecDepth 10000 in
theorem access_recovered_disabled :
    disabledDb.listAdminUsers.any (·.enabled) = false ∧
      ∃ session user after, serve sessionCrates recoveredState (numberedAmbient (fun _ => "") 0)
          ⟨.adminLogin { username := none, password := adminPassword }, "127.0.0.1", []⟩ recoveredDb =
            (.ok (.session session), after) ∧
        SessionCounts sessionCrates "jwt-secret" (issuedClaims user.username user.sessionVersion 0)
          session user ∧ AccountStands user after := by
  refine ⟨by decide +kernel, ?_⟩
  have hstart : Steps (DbCall.exec sessionCrates)
      (startUp sessionCrates recoveryLife.ambient recoveryLife.cli).run disabledDb
      (.ret (.ok recoveredState)) recoveredDb := Life.starts recoveryLife_starts
  have hpassword : emptyToNone recoveryLife.cli.adminPassword = some adminPassword := by decide +kernel
  refine (access_recovered signsSessions_sessionCrates verifiesHashes_sessionCrates hpassword hstart).login
    (numberedAmbient (fun _ => "") 0) "127.0.0.1" [] { username := none, password := adminPassword } adminJwt
    (by decide +kernel) rfl (tokenText_numberedUuid 0 0) (by decide +kernel) fun user huser => ?_
  have hstored : recoveredDb.getAdminUser "admin" =
      some (bootstrapUser (some adminUser) true "admin" adminHash epoch epoch) := by decide +kernel
  obtain rfl := Option.some.inj (huser.symm.trans hstored)
  decide +kernel

end CloudSync
