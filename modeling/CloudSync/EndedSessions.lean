import CloudSync.AdminRecovery
import CloudSync.Credentials

/-!
# The end of a session

A session ends with its account, with a new password of the account and when the account is
enabled or disabled, also by a start with another `ADMIN_PASSWORD`. Nothing that happens
later brings it back, restarts included, unless an account of that name is created.
-/

namespace CloudSync

open Rust Transactions

set_option autoImplicit false

/-- A start of this process on `s` may create an account of that name. -/
def CreatedAtStart (life : Life) (username : String) (s : Db) : Prop :=
  (emptyToNone life.cli.adminPassword).isSome = true ∧ trim life.cli.adminUsername = username ∧
    s.getAdminUser username = none

/-- What may happen to a database next, where nobody creates an account of that name and no account
is written back stale: a process starts, as far as it gets, or a transaction of a run is done. -/
inductive Goes (c : Crates) (username : String) : Db → Db → Prop where
  | started {s s' : Db} {rest : Program databaseSignature (Except AppError AppState)} (life : Life) :
      Steps (DbCall.exec c) (startUp c life.ambient life.cli).run s rest s' →
      ¬ CreatedAtStart life username s → Goes c username s s'
  | served {state : AppState} {t : Traffic} {start s : Db} {before after : List DbEvent} {e : DbEvent}
      {ps : Nat → Program databaseSignature Answer} :
      ServerRun c state t start (before ++ e :: after) s ps → RecordCurrentAt c t before e →
      ¬ CreatedNamed t e username → Goes c username e.pre e.post

abbrev Later (c : Crates) (username : String) : Db → Db → Prop := Relation.ReflTransGen (Goes c username)

/-- A session that has been issued for an account of that name ends. -/
inductive Ends (c : Crates) (username : String) : Db → Db → Prop where
  | deleted {state : AppState} {t : Traffic} {start s : Db} {log : List DbEvent} {e : DbEvent}
      {ps : Nat → Program databaseSignature Answer} :
      ServerRun c state t start log s ps → e ∈ log →
      e.call = ⟨.deleteAdminUser username, .ok ()⟩ → Ends c username e.pre e.post
  /-- The version that the request has found is still stored. -/
  | changed {state : AppState} {t : Traffic} {start s : Db} {before after : List DbEvent} {e : DbEvent}
      {ps : Nat → Program databaseSignature Answer} {found user current : AdminUserRecord} :
      ServerRun c state t start (before ++ e :: after) s ps → e.call = ⟨.setAdminUser user, .ok ()⟩ →
      user.username = username → (t.request e.tid).createsAccount = false →
      (seenAt before e).found = some found → (t.request e.tid).raisesVersion c found = true →
      e.pre.getAdminUser username = some current → current.sessionVersion ≤ found.sessionVersion →
      found.sessionVersion < u64Max → Ends c username e.pre e.post
  | restarted {s s' : Db} {state : AppState} {password : String} {stored : AdminUserRecord} (life : Life) :
      Steps (DbCall.exec c) (startUp c life.ambient life.cli).run s (.ret (.ok state)) s' →
      emptyToNone life.cli.adminPassword = some password → trim life.cli.adminUsername = username →
      s.getAdminUser username = some stored →
      verifyAdminPassword c password stored.passwordHash = false →
      stored.sessionVersion < u64Max → Ends c username s s'

variable {c : Crates} {username : String} {s s' : Db}

/-! ## What stays -/

/-- A start replaces an account by one with no lower version. -/
theorem versionAtLeast_started {n : Nat} {life : Life}
    {rest : Program databaseSignature (Except AppError AppState)}
    (h : Steps (DbCall.exec c) (startUp c life.ambient life.cli).run s rest s')
    (hnot : ¬ CreatedAtStart life username s) (hn : n ≤ u64Max) (hs : VersionAtLeast username n s) :
    VersionAtLeast username n s' := by
  rcases startUp_leaves h with rfl | ⟨password, written, hpassword, hwritten, rfl, _⟩
  · exact hs
  · intro user hstored
    rw [getAdminUser_setAdminUser] at hstored
    split at hstored
    · next hname =>
      obtain rfl := Option.some.inj hstored
      have hfound : ∃ stored, s.getAdminUser username = some stored := by
        by_contra hnone
        refine hnot ⟨by rw [hpassword]; rfl, hwritten.username.symm.trans hname, ?_⟩
        exact Option.eq_none_iff_forall_ne_some.mpr fun stored hstored => hnone ⟨stored, hstored⟩
      obtain ⟨stored, hfound⟩ := hfound
      have hlow := hs stored hfound
      rw [← hname] at hfound
      cases hverified : verifyAdminPassword c password stored.passwordHash with
      | true =>
        rw [(hwritten.kept stored hfound hverified).2]
        exact hlow
      | false =>
        rw [hwritten.raised stored hfound hverified, saturatingAdd]
        omega
    · exact hs user hstored

theorem versionAtLeast_goes {n : Nat} (h : Goes c username s s') (hn : n ≤ u64Max)
    (hs : VersionAtLeast username n s) : VersionAtLeast username n s' := by
  cases h with
  | started life hsteps hnot => exact versionAtLeast_started hsteps hnot hn hs
  | served hrun hcurrent hnot => exact versionAtLeast_step hrun hcurrent hnot hs

theorem versionAtLeast_later {n : Nat} (h : Later c username s s') (hn : n ≤ u64Max)
    (hs : VersionAtLeast username n s) : VersionAtLeast username n s' := by
  induction h with
  | refl => exact hs
  | tail _ hgoes ih => exact versionAtLeast_goes hgoes hn ih

theorem absent_goes (h : Goes c username s s') (hs : s.getAdminUser username = none) :
    s'.getAdminUser username = none := by
  cases h with
  | started life hsteps hnot =>
    rcases startUp_leaves hsteps with rfl | ⟨password, written, hpassword, hwritten, rfl, _⟩
    · exact hs
    · rw [getAdminUser_setAdminUser, if_neg, hs]
      intro hname
      exact hnot ⟨by rw [hpassword]; rfl, hwritten.username.symm.trans hname, hs⟩
  | served hrun hcurrent hnot => exact absent_step hrun hcurrent hnot hs

theorem absent_later (h : Later c username s s') (hs : s.getAdminUser username = none) :
    s'.getAdminUser username = none := by
  induction h with
  | refl => exact hs
  | tail _ hgoes ih => exact absent_goes hgoes ih

/-- After the end of a session the account is missing, or its version is higher for good. -/
theorem Ends.after {n : Nat} (h : Ends c username s s') (hs : VersionAtLeast username (min n u64Max) s) :
    s'.getAdminUser username = none ∨ n + 1 ≤ u64Max ∧ VersionAtLeast username (n + 1) s' := by
  cases h with
  | @deleted state t start _ log e ps hrun he hcall =>
    left
    have heff := hrun.linked.effect he
    obtain ⟨tid, op, reply, pre, post⟩ := e
    cases hcall
    have hdeleted : post = pre.deleteAdminUser username := heff.of_ok.2
    rw [hdeleted, getAdminUser_deleteAdminUser, if_pos rfl]
  | @changed state t start _ before after e ps found user current hrun hcall hname hcreates hfound hraises
      hstored hle hlt =>
    right
    have hlow := hs current hstored
    have hafter := getAdminUser_of_written (hrun.linked.effect (by simp)) hcall
    rcases account_originates hrun hcall with hcreated | ⟨_, found', hrewrites⟩
    · rw [hcreated.creates] at hcreates
      cases hcreates
    · have hsame : found' = found := by
        rw [AccountsSeen.found, seenAt, hrewrites.read] at hfound
        exact Option.some.inj hfound
      have hversion := hrewrites.sessionVersion
      rw [hsame, Request.versionAfter, if_pos hraises, saturatingAdd] at hversion
      refine ⟨by omega, fun user' hstored' => ?_⟩
      rw [← hname, hafter] at hstored'
      obtain rfl := Option.some.inj hstored'
      omega
  | @restarted _ _ state password stored life hsteps hpassword hname hstored hrefused hlt =>
    right
    have hlow := hs stored hstored
    obtain ⟨password', written, hpassword', hwritten, rfl, _⟩ :=
      (startedUp hsteps).written (by rw [hpassword]; rfl)
    obtain rfl := Option.some.inj (hpassword.symm.trans hpassword')
    have hwrote : written.username = username := hwritten.username.trans hname
    rw [← hwrote] at hstored
    have hversion := hwritten.raised stored hstored hrefused
    rw [saturatingAdd] at hversion
    refine ⟨by omega, fun user' hstored' => ?_⟩
    rw [getAdminUser_setAdminUser, if_pos hwrote] at hstored'
    obtain rfl := Option.some.inj hstored'
    omega

/-- The account does not stand as it was written once a session for it has ended. -/
theorem stands_ended {user : AdminUserRecord} {db db₁ db₂ db₃ : Db}
    (hwritten : db.getAdminUser user.username = some user) (hbefore : Later c user.username db db₁)
    (hends : Ends c user.username db₁ db₂) (hafter : Later c user.username db₂ db₃) :
    ¬ AccountStands user db₃ := by
  have hversion : VersionAtLeast user.username (min user.sessionVersion u64Max) db := by
    intro stored hstored
    obtain rfl := Option.some.inj (hwritten.symm.trans hstored)
    exact Nat.min_le_left _ _
  have hlow := versionAtLeast_later hbefore (Nat.min_le_right _ _) hversion
  rintro ⟨current, hcurrent, _, hsame⟩
  rcases hends.after hlow with hgone | ⟨hn, hraised⟩
  · rw [absent_later hafter hgone] at hcurrent
    cases hcurrent
  · have hhigh := versionAtLeast_later hafter hn hraised current hcurrent
    omega

/-! ## Runs -/

/-- What is left of a run once its log is that far. -/
theorem later_linked {db db' : Db} {log : List DbEvent}
    (h : Linked (S := databaseSignature) (DbCall.exec c) db log db')
    (hgoes : ∀ e ∈ log, Goes c username e.pre e.post) : Later c username db db' := by
  induction log generalizing db with
  | nil =>
    cases h
    exact .refl
  | cons e log ih =>
    obtain ⟨rfl, _, hrest⟩ := h
    exact .head (hgoes e (by simp)) (ih hrest fun e' he' => hgoes e' (by simp [he']))

section Run
variable {state : AppState} {t : Traffic} {start : Db} {ps : Nat → Program databaseSignature Answer}
  {i : Nat} {session : SessionResponse}

theorem later_run {before after : List DbEvent} {e : DbEvent}
    (h : ServerRun c state t start (before ++ e :: after) s ps)
    (hcurrent : ∀ l e' l', after = l ++ e' :: l' → RecordCurrentAt c t (before ++ e :: l) e')
    (hnone : ∀ e' ∈ after, ¬ CreatedNamed t e' username) : Later c username e.post s := by
  obtain ⟨_, _, hrest⟩ := linked_middle h.linked
  refine later_linked hrest fun e' he' => ?_
  obtain ⟨l, l', rfl⟩ := List.append_of_mem he'
  have hrun : ServerRun c state t start ((before ++ e :: l) ++ e' :: l') s ps := by simpa using h
  exact .served hrun (hcurrent l e' l' rfl) (hnone e' he')

/-- The session of an answer is refused for good after its end, by this process and by later ones. -/
theorem session_ended {log : List DbEvent} (hc : c.SignsSessions) (huuids : t.UuidTexts)
    (hstart : Reachable c start) (hrun : ServerRun c state t start log s ps)
    (hi : ps i = .ret (.ok (.session session))) :
    ∃ e ∈ log, e.tid = i ∧ ∃ user, e.call = ⟨.setAdminUser user, .ok ()⟩ ∧
      ∀ db₁ db₂ db₃, Later c user.username e.post db₁ → Ends c user.username db₁ db₂ →
        Later c user.username db₂ db₃ → ∀ state' amb headers, state'.jwtSecret = state.jwtSecret →
          SendsBack session headers → ¬ Admitted c state' amb headers db₃ := by
  obtain ⟨e, he, htid, user, hcall, hcounts⟩ :=
    session_of_named hc huuids hstart.accountsNamed hrun hi
  refine ⟨e, he, htid, user, hcall, ?_⟩
  intro db₁ db₂ db₃ hbefore hends hafter state' amb headers hsecret hback hadmitted
  have hwritten := getAdminUser_of_written (hrun.linked.effect he) hcall
  exact stands_ended hwritten hbefore hends hafter
    ((hcounts.admitted state' amb headers db₃ hsecret hback).mp hadmitted).2.2

end Run

/-! A login, and a start with another password behind it. -/

def secondPassword : String := "second password"

def rotatedCrates : Crates :=
  { sessionCrates with
    bcryptHash := fun salt password =>
      if password = secondPassword then .ok "second hash" else sessionCrates.bcryptHash salt password }

theorem signsSessions_rotatedCrates : rotatedCrates.SignsSessions := by
  have hencode : rotatedCrates.jwtEncode = sessionCrates.jwtEncode := by
    simp only [rotatedCrates]
  have hdecode : rotatedCrates.jwtDecode = sessionCrates.jwtDecode := by
    simp only [rotatedCrates]
  constructor
  · rw [hencode]
    exact signsSessions_sessionCrates.text
  · rw [hencode, hdecode]
    exact signsSessions_sessionCrates.decodes

def rotatedStart : Db :=
  ((bootstrapAdmin rotatedCrates (numberedAmbient (fun _ => "abcdefghijklmnopqrstuu") 0) "admin"
    adminPassword).run.run (DbCall.exec rotatedCrates) {}).2

def playRotated (schedule : List (Nat × Option String)) :=
  play (S := databaseSignature) (DbCall.exec rotatedCrates) schedule rotatedStart
    (loginTraffic.program rotatedCrates freshState)

theorem playRotated_run (schedule : List (Nat × Option String)) :
    ServerRun rotatedCrates freshState loginTraffic rotatedStart (playRotated schedule).1
      (playRotated schedule).2.1 (playRotated schedule).2.2 := play_run _ _ _ _

def rotatingLife : Life where
  cli :=
    { adminPassword := some secondPassword
      adminJwtSecret := some "jwt-secret" }
  ambient := numberedAmbient (fun _ => "") 0
  traffic := Traffic.ofList []

def rotatedDb : Db :=
  ((startUp rotatedCrates rotatingLife.ambient rotatingLife.cli).run.run (DbCall.exec rotatedCrates)
    (playRotated (inTurn 1)).2.1).2

set_option maxRecDepth 10000 in
theorem rotatingLife_starts : Steps (DbCall.exec rotatedCrates)
    (startUp rotatedCrates rotatingLife.ambient rotatingLife.cli).run (playRotated (inTurn 1)).2.1
    (.ret (.ok (rotatingLife.cli.appState none "jwt-secret" [] true))) rotatedDb := by
  have hstart : ((startUp rotatedCrates rotatingLife.ambient rotatingLife.cli).run.run
      (DbCall.exec rotatedCrates) (playRotated (inTurn 1)).2.1).1 =
        .ok (rotatingLife.cli.appState none "jwt-secret" [] true) := by decide +kernel
  exact Life.starts hstart

set_option maxRecDepth 10000 in
theorem rotatingLife_ends : Ends rotatedCrates "admin" (playRotated (inTurn 1)).2.1 rotatedDb := by
  have hstored : ((playRotated (inTurn 1)).2.1.getAdminUser "admin").isSome = true ∧
      ∀ stored ∈ (playRotated (inTurn 1)).2.1.getAdminUser "admin",
        verifyAdminPassword rotatedCrates secondPassword stored.passwordHash = false ∧
          stored.sessionVersion < u64Max := by decide +kernel
  obtain ⟨stored, hsome⟩ := Option.isSome_iff_exists.mp hstored.1
  obtain ⟨hrefused, hlt⟩ := hstored.2 stored hsome
  exact .restarted rotatingLife rotatingLife_starts (by decide +kernel) (by decide +kernel) hsome hrefused hlt

set_option maxRecDepth 10000 in
theorem session_ended_restarted :
    sessionAnswered (playRotated (inTurn 1)).2.2 0 = some loginSession ∧
      ∀ amb headers, SendsBack loginSession headers →
        ¬ Admitted rotatedCrates freshState amb headers rotatedDb := by
  have hplay : sessionAnswered (playRotated (inTurn 1)).2.2 0 = some loginSession ∧
      (∀ k < (playRotated (inTurn 1)).1.length, ∀ e ∈ (playRotated (inTurn 1)).1[k]?,
        RecordCurrentAt rotatedCrates loginTraffic ((playRotated (inTurn 1)).1.take k) e) ∧
      ∀ e ∈ (playRotated (inTurn 1)).1, (loginTraffic.request e.tid).createsAccount = false ∧
        ∀ user ∈ accountWritten e.call, user.username = "admin" := by decide +kernel
  obtain ⟨hanswer, hcurrent, hevents⟩ := hplay
  obtain ⟨e, he, _, user, hcall, hended⟩ := session_ended signsSessions_rotatedCrates
    (fun i k => tokenText_numberedUuid i k) (.started _ _ _ .created) (playRotated_run _)
    (ret_of_sessionAnswered hanswer)
  have hname : user.username = "admin" := (hevents e he).2 user (accountWritten_eq_some.mpr hcall)
  rw [hname] at hended
  refine ⟨hanswer, fun amb headers hback => ?_⟩
  obtain ⟨before, after, hsplit⟩ := List.append_of_mem he
  have hrun := playRotated_run (inTurn 1)
  rw [hsplit] at hrun
  have hlater : Later rotatedCrates "admin" e.post (playRotated (inTurn 1)).2.1 := by
    refine later_run hrun (fun l e' l' hafter => ?_) fun e' he' hcreated => ?_
    · exact forall_split hcurrent _ e' l' (by rw [hsplit, hafter]; simp)
    · have hno := (hevents e' (by rw [hsplit]; simp [he'])).1
      rw [hcreated.1] at hno
      cases hno
  exact hended _ _ _ hlater rotatingLife_ends .refl freshState amb headers rfl hback

end CloudSync
