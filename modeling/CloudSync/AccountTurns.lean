import CloudSync.AdminRecovery
import CloudSync.Credentials
import CloudSync.Transactions.Once
import CloudSync.ValidRecords

/-!
# Changes of accounts in turn

A request changes at most one account, and only once. If no other request changes an
account while it runs, it writes over what it has read. What stale records can break then
holds without a look at any record: somebody can log in, and credentials hold.
-/

namespace CloudSync

open Rust Transactions Transactions.Fallible

set_option autoImplicit false

/-- The calls that change an account. -/
def changesAccount : DbCall → Bool
  | .setAdminUser _ | .deleteAdminUser _ => true
  | _ => false

/-- From its first transaction until it changes an account, a request is the only one that does. -/
def ChangedInTurn (log : List DbEvent) : Prop :=
  ∀ before first between e after, log = before ++ first :: (between ++ e :: after) →
    first.tid = e.tid → changesAccount e.op = true →
      ∀ e' ∈ between, changesAccount e'.op = true → e'.tid = e.tid

variable {c : Crates} {state : AppState} {amb : Ambient}

/-! ## The handlers -/

section Handlers

theorem once_db (call : DbCall) : Once (α := no_index call.Out) changesAccount (db call) := once_txn _ _

theorem session_unchanged {headers : HeaderMap} {now : Instant} :
    Calls (fun call : DbCall => changesAccount call = false) (validateAdminSession c state headers now) :=
  validateAdminSession_reads (fun _ => rfl) _ _

theorem mutation_unchanged {headers : HeaderMap} {now : Instant} :
    Calls (fun call : DbCall => changesAccount call = false) (verifyAdminMutation c state headers now) :=
  verifyAdminMutation_reads (fun _ => rfl) _ _

theorem recordLoginFailure_unchanged (ip : IpAddr) (now : Instant) :
    Calls (fun call : DbCall => changesAccount call = false) (recordLoginFailure c state ip now) :=
  .bind (by simp [changesAccount]) fun _ => .bind (by simp) fun _ =>
    .bind (by simp [changesAccount]) fun _ => by simp

theorem ensureLoginAllowed_unchanged (ip : IpAddr) (now : Instant) :
    Calls (fun call : DbCall => changesAccount call = false) (ensureLoginAllowed c state ip now) := by
  refine .bind (by simp [changesAccount]) fun _ => .bind (by simp [changesAccount]) fun attempt => ?_
  cases (Option.bind attempt (·.blockedUntil)).bind c.parseFromRfc3339 <;> simp

theorem adminLogin_once (peer : IpAddr) (headers : HeaderMap) (body : LoginRequest) :
    Once changesAccount (adminLogin c state amb peer headers body) := by
  refine .skip (ensureLoginAllowed_unchanged _ _) fun _ => .skip (by simp) fun _ =>
    .skip (by simp [changesAccount]) fun found => ?_
  cases found with
  | none => exact .skip (recordLoginFailure_unchanged _ _) fun _ => Calls.once (by simp)
  | some user =>
    dsimp only
    change Once _ (ite _ _ _)
    split
    · exact .last (once_db _) fun _ => .bind (recordLoginFailure_unchanged _ _) fun _ => by simp
    · refine .skip (by simp [clearLoginFailures, changesAccount]) fun _ => .last (once_db _) fun _ => ?_
      exact .bind (by simp [createAdminJwtForUser]) fun _ => .bind (by simp) fun _ =>
        .bind (by simp) fun _ => by simp

theorem adminChangeOwnPassword_once (headers : HeaderMap) (body : ChangeOwnPasswordRequest) :
    Once changesAccount (adminChangeOwnPassword c state amb headers body) := by
  refine .skip mutation_unchanged fun _ => .skip (ensureDiskCapacity_calls _ _) fun _ =>
    .skip session_unchanged fun _ => .skip (by simp [ensurePasswordLength]) fun _ =>
    .skip (by simp [changesAccount]) fun found => .skip (by simp) fun user => ?_
  change Once _ (ite _ _ _)
  split
  · exact .last (once_db _) fun _ => by simp
  · refine .skip (by simp [hashAdminPassword]) fun _ => .last (once_db _) fun _ => ?_
    exact .bind (by simp [createAdminJwtForUser]) fun _ => .bind (by simp) fun _ => by simp

theorem adminCreateUser_once (headers : HeaderMap) (body : CreateUserRequest) :
    Once changesAccount (adminCreateUser c state amb headers body) :=
  .skip mutation_unchanged fun _ => .skip (ensureDiskCapacity_calls _ _) fun _ =>
    .skip session_unchanged fun _ => .skip (by simp) fun _ => .skip (by simp [ensurePasswordLength]) fun _ =>
    .skip (by simp [changesAccount]) fun _ => .skip (by simp) fun _ =>
    .skip (by simp [hashAdminPassword]) fun _ => .last (once_db _) fun _ => by simp

theorem ensureOtherEnabledAdmin_unchanged (message : String) :
    Calls (fun call : DbCall => changesAccount call = false) (ensureOtherEnabledAdmin message) :=
  .bind (.bind (by simp [changesAccount]) fun _ => by simp) fun _ => by simp

theorem adminUpdateUser_once (username : String) (headers : HeaderMap) (body : UpdateUserRequest) :
    Once changesAccount (adminUpdateUser c state amb username headers body) := by
  have hhash : Calls (fun call : DbCall => changesAccount call = false)
      (hashNewPassword c amb body.password) := by
    unfold hashNewPassword
    cases body.password with
    | none => simp
    | some password =>
      exact .bind (by simp [ensurePasswordLength]) fun _ => .bind (by simp [hashAdminPassword]) fun _ => by simp
  exact .skip mutation_unchanged fun _ => .skip (ensureDiskCapacity_calls _ _) fun _ =>
    .skip session_unchanged fun _ => .skip (by simp) fun _ => .skip (by simp [changesAccount]) fun _ =>
    .skip (by simp) fun _ => .skip hhash fun _ =>
    .skip (calls_runIf.mpr fun _ => ensureOtherEnabledAdmin_unchanged _) fun _ =>
    .last (once_db _) fun _ => by simp

theorem adminDeleteUser_once (username : String) (headers : HeaderMap) :
    Once changesAccount (adminDeleteUser c state amb username headers) :=
  .skip mutation_unchanged fun _ => .skip session_unchanged fun _ => .skip (by simp) fun _ =>
    .skip (by simp [changesAccount]) fun _ => .skip (by simp) fun _ =>
    .skip (calls_runIf.mpr fun _ => ensureOtherEnabledAdmin_unchanged _) fun _ => once_db _

theorem handle_once (r : Request) : (handle c state amb r).run.Once changesAccount := by
  have hother : r.endpoint.area ≠ some .users → (handle c state amb r).run.Once changesAccount := by
    intro h
    refine Program.Calls.once (Program.Calls.mono ?_ (handle_calls r))
    intro call hcall
    cases call with
    | setAdminUser user =>
      rcases hcall with hnone | hsome
      · cases hnone
      · exact absurd hsome.symm h
    | deleteAdminUser username =>
      rcases hcall with hnone | hsome
      · cases hnone
      · exact absurd hsome.symm h
    | _ => rfl
  have hwrapped {α : Type} {x : Handler α} {f : α → Response} (h : Once changesAccount x) :
      (x >>= fun a => pure (f a)).run.Once changesAccount :=
    Once.last h fun _ => by simp
  obtain ⟨endpoint, peer, headers⟩ := r
  cases endpoint with
  | adminLogin body => exact hwrapped (adminLogin_once peer headers body)
  | adminChangeOwnPassword body => exact hwrapped (adminChangeOwnPassword_once headers body)
  | adminCreateUser body => exact hwrapped (adminCreateUser_once headers body)
  | adminUpdateUser username body => exact hwrapped (adminUpdateUser_once username headers body)
  | adminDeleteUser username => exact hwrapped (adminDeleteUser_once username headers)
  | _ =>
    refine hother ?_
    simp [Endpoint.area]

end Handlers

/-! ## What is seen is still so -/

theorem read_mem {calls : RecordedCalls} {username : String} {found : Option AdminUserRecord}
    (h : (accountsSeen calls).read = some (username, found)) :
    (⟨.getAdminUser username, .ok found⟩ : databaseSignature.Call) ∈ calls := by
  induction calls using List.reverseRecOn with
  | nil => cases h
  | append_singleton calls call ih =>
    rw [accountsSeen_append] at h
    unfold AccountsSeen.next at h
    split at h
    · cases h
      simp
    · exact List.mem_append_left _ (ih h)
    · exact List.mem_append_left _ (ih h)

theorem counted_mem {calls : RecordedCalls} {n : Nat} (h : (accountsSeen calls).counted = some n) :
    ∃ users, (⟨.listAdminUsers, .ok users⟩ : databaseSignature.Call) ∈ calls ∧ enabledCount users = n := by
  induction calls using List.reverseRecOn with
  | nil => cases h
  | append_singleton calls call ih =>
    rw [accountsSeen_append] at h
    unfold AccountsSeen.next at h
    split at h
    · cases h
    · next _ users =>
      exact ⟨users, by simp, Option.some.inj h⟩
    · obtain ⟨users, hmem, hcount⟩ := ih h
      exact ⟨users, List.mem_append_left _ hmem, hcount⟩

section Runs
variable {t : Traffic} {start s : Db} {log before after : List DbEvent} {e first : DbEvent}
  {ps : Nat → Program databaseSignature Answer}

theorem adminUsers_unchanged {e : DbEvent}
    (h : Effect (S := databaseSignature) (DbCall.exec c) e.op e.reply e.pre e.post)
    (hop : changesAccount e.op = false) : e.post.adminUsers = e.pre.adminUsers := by
  obtain ⟨tid, op, reply, pre, post⟩ := e
  cases accountsStep h with
  | same hsame => exact hsame
  | written user hcall _ =>
    cases hcall
    cases hop
  | deleted username hcall _ =>
    cases hcall
    cases hop

/-- From a transaction of a request until it changes an account the accounts stay as they are. -/
theorem adminUsers_stay (h : ServerRun c state t start (before ++ e :: after) s ps)
    (hturn : ChangedInTurn (before ++ e :: after)) (hop : changesAccount e.op = true)
    (hfirst : first ∈ before) (htid : first.tid = e.tid) :
    e.pre.adminUsers = first.pre.adminUsers := by
  obtain ⟨earlier, between, rfl⟩ := List.append_of_mem hfirst
  have hown := h.before_once (handle_once (t.request e.tid)) hop
  obtain ⟨hlinked, _, _⟩ := linked_middle h.linked
  obtain ⟨_, hfirst', hrest⟩ := linked_middle hlinked
  have hstep : first.post.adminUsers = first.pre.adminUsers :=
    adminUsers_unchanged hfirst' (hown first (by simp) htid)
  refine Eq.trans ?_ hstep
  refine hrest.history (I := fun _ db => db.adminUsers = first.post.adminUsers) rfl ?_
  rintro l e' l' rfl hpre
  refine (adminUsers_unchanged (hrest.effect (by simp)) ?_).trans hpre
  by_contra hchanges
  rw [Bool.not_eq_false] at hchanges
  have hsame := hturn earlier first (l ++ e' :: l') e after (by simp) htid hop e' (by simp) hchanges
  rw [hown e' (by simp) hsame] at hchanges
  cases hchanges

theorem read_current (h : ServerRun c state t start (before ++ e :: after) s ps)
    (hturn : ChangedInTurn (before ++ e :: after)) (hop : changesAccount e.op = true) {username : String}
    {found : Option AdminUserRecord} (hread : (seenAt before e).read = some (username, found)) :
    e.pre.getAdminUser username = found := by
  obtain ⟨first, hfirst, htid, _, hcall⟩ := mem_ownCalls.mp (read_mem hread)
  have heff := h.linked.effect (e := first) (by simp [hfirst])
  rw [Db.getAdminUser, adminUsers_stay h hturn hop hfirst htid]
  exact replied heff hcall

theorem counted_current (h : ServerRun c state t start (before ++ e :: after) s ps)
    (hturn : ChangedInTurn (before ++ e :: after)) (hop : changesAccount e.op = true) {n : Nat}
    (hcounted : (seenAt before e).counted = some n) : enabledCount e.pre.listAdminUsers = n := by
  obtain ⟨users, hmem, rfl⟩ := counted_mem hcounted
  obtain ⟨first, hfirst, htid, _, hcall⟩ := mem_ownCalls.mp hmem
  have heff := h.linked.effect (e := first) (by simp [hfirst])
  have husers : users = first.pre.listAdminUsers := (replied heff hcall).symm
  rw [husers, Db.listAdminUsers, Db.listAdminUsers, adminUsers_stay h hturn hop hfirst htid]

/-! ## What holds then -/

theorem anyEnabled_inTurn (h : ServerRun c state t start (before ++ e :: after) s ps)
    (hturn : ChangedInTurn (before ++ e :: after)) (hnamed : AccountsNamed e.pre) (hpre : AnyEnabled e.pre) :
    AnyEnabled e.post := by
  have hcounts : changesAccount e.op = true → ∀ n ∈ (seenAt before e).counted, 1 < n →
      1 < enabledCount e.pre.listAdminUsers := by
    intro hop n hn hmany
    rw [counted_current h hturn hop hn]
    exact hmany
  cases accountsStep (h.linked.effect (e := e) (by simp)) with
  | same hsame =>
    obtain ⟨user, hmem, henabled⟩ := hpre
    rw [Db.listAdminUsers, ← hsame] at hmem
    exact ⟨user, hmem, henabled⟩
  | written user hcall hset =>
    have hop : changesAccount e.op = true := by
      rw [show e.op = .setAdminUser user from congrArg Sigma.fst hcall]
      rfl
    rw [hset]
    cases henabled : user.enabled with
    | true => exact anyEnabled_setAdminUser e.pre henabled
    | false =>
      refine OtherEnabled.setAdminUser ?_
      rcases account_originates h hcall with hcreates | ⟨username, found, hrewrites⟩
      · refine otherEnabled_of_disabled hpre ?_
        rw [read_current h hturn hop hcreates.absent]
        rfl
      · have hstored := read_current h hturn hop hrewrites.read
        have hname : user.username = username := hrewrites.username.trans (hnamed _ _ hstored)
        rw [hname]
        cases hfound : found.enabled with
        | false =>
          refine otherEnabled_of_disabled hpre ?_
          rw [hstored, Option.any_some, hfound]
        | true =>
          have hdisables : (t.request e.tid).setsEnabled = some false := by
            have hkept := hrewrites.enabled
            rw [henabled, hfound] at hkept
            cases hset : (t.request e.tid).setsEnabled with
            | none =>
              rw [hset] at hkept
              cases hkept
            | some enabled =>
              rw [hset] at hkept
              exact congrArg some hkept.symm
          obtain ⟨n, hn, hmany⟩ := hrewrites.counted hdisables hfound
          exact otherEnabled_of_count _ (hcounts hop n hn hmany)
  | deleted username hcall hdelete =>
    have hop : changesAccount e.op = true := by
      rw [show e.op = .deleteAdminUser username from congrArg Sigma.fst hcall]
      rfl
    rw [hdelete]
    refine OtherEnabled.deleteAdminUser ?_
    obtain ⟨found, hremoves⟩ := removal_originates h hcall
    cases hfound : found.enabled with
    | false =>
      refine otherEnabled_of_disabled hpre ?_
      rw [read_current h hturn hop hremoves.read, Option.any_some, hfound]
    | true =>
      obtain ⟨n, hn, hmany⟩ := hremoves.counted hfound
      exact otherEnabled_of_count _ (hcounts hop n hn hmany)

theorem recordCurrent_inTurn (h : ServerRun c state t start (before ++ e :: after) s ps)
    (hturn : ChangedInTurn (before ++ e :: after)) (hnamed : AccountsNamed e.pre)
    (hvalid : (validRecords c).Hold e.pre) : RecordCurrentAt c t before e := by
  intro user hwritten hcreates found hseen
  have hcall := accountWritten_eq_some.mp hwritten
  have hop : changesAccount e.op = true := by
    rw [show e.op = .setAdminUser user from congrArg Sigma.fst hcall]
    rfl
  rcases account_originates h hcall with hcreated | ⟨username, found', hrewrites⟩
  · rw [hcreated.creates] at hcreates
    cases hcreates
  · obtain rfl : found' = found := by
      rw [AccountsSeen.found, seenAt, hrewrites.read] at hseen
      exact Option.some.inj hseen
    have hstored := read_current h hturn hop hrewrites.read
    have hname : user.username = username := hrewrites.username.trans (hnamed _ _ hstored)
    refine ⟨found', hname ▸ hstored, fun _ => rfl, fun _ henabled => henabled, ?_⟩
    have hbound : found'.sessionVersion ≤ u64Max := (hvalid.accounts _ found' hstored).counts.1
    unfold Request.versionAfter
    split
    · rw [saturatingAdd]
      omega
    · exact le_refl _

end Runs

/-- Where accounts change in turn, somebody can log in as long as that is so at the start, and
credentials hold. -/
theorem accounts_hold_inTurn {t : Traffic} {start s : Db} {log : List DbEvent}
    {ps : Nat → Program databaseSignature Answer} (hstart : Operated c (fun _ => True) start)
    (h : ServerRun c state t start log s ps) (hturn : ChangedInTurn log) :
    (AnyEnabled start → AnyEnabled s ∧ ∀ e ∈ log, AnyEnabled e.pre ∧ AnyEnabled e.post) ∧
      CredentialsHold c t log ps := by
  have hnamed : ∀ e ∈ log, AccountsNamed e.pre := by
    intro e he
    refine (h.linked.kept hstart.reachable.accountsNamed (fun before e' after hsplit hpre => ?_) e he).1
    exact accountsNamed_effect (h.linked.effect (e := e') (by simp [hsplit])) hpre
  have hvalid : ∀ e ∈ log, (validRecords c).Hold e.pre := fun e he =>
    ((Records.hold_run validRecords_usage validRecords_accounts (fun _ => validRecords_kept) h
      (Records.hold_operated validRecords_usage validRecords_accounts
        (fun _ _ _ _ _ => validRecords_kept) hstart)).2 e he).1
  constructor
  · intro hopen
    have hstep : ∀ before e after, log = before ++ e :: after → AnyEnabled e.pre → AnyEnabled e.post := by
      rintro before e after rfl hpre
      exact anyEnabled_inTurn h hturn (hnamed e (by simp)) hpre
    exact ⟨h.linked.history (I := fun _ => AnyEnabled) hopen hstep, h.linked.kept hopen hstep⟩
  · refine credentialsHold h ?_
    rintro before e after rfl
    exact recordCurrent_inTurn h hturn (hnamed e (by simp)) (hvalid e (by simp))

/-- Requests that are done one after the other. -/
theorem changedInTurn_of_sorted {log : List DbEvent} (h : log.Pairwise fun e e' => e.tid ≤ e'.tid) :
    ChangedInTurn log := by
  rintro before first between e after rfl htid _ e' he' _
  obtain ⟨_, hlater, _⟩ := List.pairwise_append.mp h
  obtain ⟨hfirst, hrest⟩ := List.pairwise_cons.mp hlater
  obtain ⟨_, _, hcross⟩ := List.pairwise_append.mp hrest
  have hlow := hfirst e' (List.mem_append_left _ he')
  have hhigh := hcross e' he' e List.mem_cons_self
  omega

/-! Two administrators delete each other, one after the other. -/

def administratorLife (username : String) : Life where
  cli :=
    { adminPassword := some adminPassword
      adminUsername := username }
  ambient := numberedAmbient (fun _ => "abcdefghijklmnopqrstuu") 0
  traffic := deletionTraffic

def startedFor (username : String) (s : Db) : Db :=
  ((startUp freshCrates (administratorLife username).ambient (administratorLife username).cli).run.run
    (DbCall.exec freshCrates) s).2

def administratorsDb : Db := startedFor "bob" (startedFor "admin" {})

theorem operated_startedFor {username : String} {s : Db} (h : Operated freshCrates (fun _ => True) s) :
    Operated freshCrates (fun _ => True) (startedFor username s) :=
  .started (administratorLife username) h trivial (steps_run _ _)

def playAdministrators (schedule : List (Nat × Option String)) :=
  play (S := databaseSignature) (DbCall.exec freshCrates) schedule administratorsDb
    (deletionTraffic.program freshCrates freshState)

theorem playAdministrators_run (schedule : List (Nat × Option String)) :
    ServerRun freshCrates freshState deletionTraffic administratorsDb (playAdministrators schedule).1
      (playAdministrators schedule).2.1 (playAdministrators schedule).2.2 := play_run _ _ _ _

theorem playAdministrators_short (schedule : List (Nat × Option String)) :
    playAdministrators schedule =
      playShortened freshCrates freshState deletionTraffic administratorsDb schedule :=
  play_shortened knowsAdmin_freshCrates scripted_deletions schedule administratorsDb

set_option maxRecDepth 10000 in
theorem accounts_hold_inTurn_deletions :
    (playAdministrators deletedInTurn).2.1.listAdminUsers.length = 1 ∧
      AnyEnabled (playAdministrators deletedInTurn).2.1 := by
  have hplay : (playAdministrators deletedInTurn).2.1.listAdminUsers.length = 1 ∧
      AnyEnabled administratorsDb ∧
      (playAdministrators deletedInTurn).1.Pairwise fun e e' => e.tid ≤ e'.tid := by
    rw [playAdministrators_short]
    decide +kernel
  have hhold := accounts_hold_inTurn (operated_startedFor (operated_startedFor .created))
    (playAdministrators_run deletedInTurn) (changedInTurn_of_sorted hplay.2.2)
  exact ⟨hplay.1, (hhold.1 hplay.2.1).1⟩

end CloudSync
