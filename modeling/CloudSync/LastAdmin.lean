import CloudSync.AccountWrites
import CloudSync.Reachable

/-!
# The last enabled account

The panel refuses to disable or delete the last enabled account, but it counts in one
transaction and writes in another one. The guard holds as long as what a request has seen
is still so when it writes.
-/

namespace CloudSync

open Rust Transactions

set_option autoImplicit false

/-- Somebody can log in. -/
def AnyEnabled (db : Db) : Prop := ∃ user ∈ db.listAdminUsers, user.enabled = true

/-- The account that was looked up last was there, and enabled. -/
def AccountsSeen.foundEnabled (seen : AccountsSeen) : Bool := seen.found.any (·.enabled)

/-- The name of the account that a committed call writes or deletes. -/
def accountChanged : databaseSignature.Call → Option String
  | ⟨.setAdminUser user, .ok ()⟩ => some user.username
  | ⟨.deleteAdminUser username, .ok ()⟩ => some username
  | _ => none

/-- An account that the event changes without enabling it is not enabled unless it was
found so, and more than one account is enabled if the request has counted them. -/
def FlagsCurrentAt (t : Traffic) (before : List DbEvent) (e : DbEvent) : Prop :=
  ∀ username ∈ accountChanged e.call,
    ((t.request e.tid).setsEnabled ≠ some true →
      (e.pre.getAdminUser username).any (·.enabled) = true → (seenAt before e).foundEnabled = true) ∧
    ((seenAt before e).counted ≠ none → 1 < enabledCount e.pre.listAdminUsers)

/-- What requests have seen of the flags is still so when they change an account. -/
def FlagsCurrent (t : Traffic) (log : List DbEvent) : Prop :=
  ∀ before e after, log = before ++ e :: after → FlagsCurrentAt t before e

instance (t : Traffic) (before : List DbEvent) (e : DbEvent) :
    Decidable (FlagsCurrentAt t before e) := by
  unfold FlagsCurrentAt
  infer_instance

/-! ## Counting -/

/-- Where two rows of a table satisfy `p`, one of them has another key than `k`. -/
theorem exists_other {V : Type} {t : Redb.Table V} {p : V → Bool} (h : 1 < t.values.countP p)
    (k : String) : ∃ key v, key ≠ k ∧ t[key]? = some v ∧ p v = true := by
  by_contra hnone
  simp only [not_exists, not_and, Bool.not_eq_true] at hnone
  rw [Redb.Table.values_eq, List.countP_map, List.countP_eq_length_filter] at h
  have hkey : ∀ entry ∈ t.toList.filter (p ∘ (·.2)), entry.1 = k := by
    intro entry hentry
    obtain ⟨hmem, hp⟩ := List.mem_filter.mp hentry
    by_contra hne
    have hstored := Std.ExtTreeMap.mem_toList_iff_getElem?_eq_some.mp hmem
    exact Bool.eq_false_iff.mp (hnone entry.1 entry.2 hne hstored) hp
  have hsorted := t.sorted_toList.filter (p ∘ (·.2))
  match hrows : t.toList.filter (p ∘ (·.2)) with
  | [] => simp [hrows] at h
  | [_] => simp [hrows] at h
  | first :: second :: rest =>
    rw [hrows] at hkey hsorted
    have hlt : first.1 < second.1 := (List.pairwise_cons.mp hsorted).1 second (by simp)
    rw [hkey first (by simp), hkey second (by simp)] at hlt
    exact lt_irrefl _ hlt

theorem anyEnabled_iff {db : Db} :
    AnyEnabled db ↔
      ∃ (key : String) (user : AdminUserRecord), db.adminUsers[key]? = some user ∧ user.enabled = true := by
  simp only [AnyEnabled, Db.listAdminUsers, Redb.Table.mem_values]
  constructor
  · rintro ⟨user, ⟨key, hkey⟩, henabled⟩
    exact ⟨key, user, hkey, henabled⟩
  · rintro ⟨key, user, hkey, henabled⟩
    exact ⟨user, ⟨key, hkey⟩, henabled⟩

/-- Another account than the one of that name is enabled. -/
def OtherEnabled (username : String) (db : Db) : Prop :=
  ∃ (key : String) (user : AdminUserRecord), key ≠ adminUserKey username ∧
    db.adminUsers[key]? = some user ∧ user.enabled = true

theorem otherEnabled_of_count {db : Db} (username : String) (h : 1 < enabledCount db.listAdminUsers) :
    OtherEnabled username db := exists_other h _

theorem otherEnabled_of_disabled {db : Db} {username : String} (h : AnyEnabled db)
    (hdisabled : (db.getAdminUser username).any (·.enabled) = false) : OtherEnabled username db := by
  obtain ⟨key, user, hstored, henabled⟩ := anyEnabled_iff.mp h
  refine ⟨key, user, ?_, hstored, henabled⟩
  rintro rfl
  rw [Db.getAdminUser, hstored] at hdisabled
  exact absurd henabled (by simpa using hdisabled)

theorem OtherEnabled.setAdminUser {db : Db} {user : AdminUserRecord}
    (h : OtherEnabled user.username db) : AnyEnabled (db.setAdminUser user) := by
  obtain ⟨key, other, hne, hstored, henabled⟩ := h
  refine anyEnabled_iff.mpr ⟨key, other, ?_, henabled⟩
  rw [Db.setAdminUser, Redb.Table.get_insert, if_neg hne.symm]
  exact hstored

theorem OtherEnabled.deleteAdminUser {db : Db} {username : String} (h : OtherEnabled username db) :
    AnyEnabled (db.deleteAdminUser username) := by
  obtain ⟨key, other, hne, hstored, henabled⟩ := h
  refine anyEnabled_iff.mpr ⟨key, other, ?_, henabled⟩
  rw [Db.deleteAdminUser, Redb.Table.get_erase, if_neg hne.symm]
  exact hstored

theorem anyEnabled_setAdminUser (db : Db) {user : AdminUserRecord} (h : user.enabled = true) :
    AnyEnabled (db.setAdminUser user) := by
  refine anyEnabled_iff.mpr ⟨adminUserKey user.username, user, ?_, h⟩
  rw [Db.setAdminUser, Redb.Table.get_insert, if_pos rfl]

/-! ## Runs -/

section Runs
variable {c : Crates} {state : AppState} {t : Traffic} {start s : Db}
  {ps : Nat → Program databaseSignature Answer} {log before after : List DbEvent} {e : DbEvent}

theorem foundEnabled_of_read {seen : AccountsSeen} {username : String} {found : Option AdminUserRecord}
    (h : seen.read = some (username, found)) : seen.foundEnabled = found.any (·.enabled) := by
  rw [AccountsSeen.foundEnabled, AccountsSeen.found, h]
  rfl

/-- Whoever is written without being enabled leaves another enabled account behind. -/
theorem otherEnabled_of_written {user : AdminUserRecord}
    (h : ServerRun c state t start (before ++ e :: after) s ps) (hcurrent : FlagsCurrentAt t before e)
    (hcall : e.call = ⟨.setAdminUser user, .ok ()⟩) (hpre : AnyEnabled e.pre)
    (hdisabled : user.enabled = false) : OtherEnabled user.username e.pre := by
  obtain ⟨hflag, hcount⟩ := hcurrent user.username (by rw [hcall]; rfl)
  have hstale : (t.request e.tid).setsEnabled ≠ some true → (seenAt before e).foundEnabled = false →
      OtherEnabled user.username e.pre := by
    intro hstated hfound
    refine otherEnabled_of_disabled hpre (Bool.eq_false_iff.mpr fun hany => ?_)
    rw [hflag hstated hany] at hfound
    cases hfound
  rcases account_originates h hcall with ⟨_, habsent, henabled⟩ | ⟨username, found, hrewrites⟩
  · rw [hdisabled] at henabled
    exact hstale (by rw [henabled]; simp) (foundEnabled_of_read habsent)
  · have hstated : (t.request e.tid).setsEnabled ≠ some true := by
      intro hstated
      rw [hrewrites.enabled, hstated] at hdisabled
      cases hdisabled
    cases hfound : found.enabled with
    | false => exact hstale hstated ((foundEnabled_of_read hrewrites.read).trans hfound)
    | true =>
      have hfalse : (t.request e.tid).setsEnabled = some false := by
        have hkept := hrewrites.enabled
        rw [hdisabled, hfound] at hkept
        cases hset : (t.request e.tid).setsEnabled with
        | none =>
          rw [hset] at hkept
          cases hkept
        | some enabled =>
          rw [hset] at hkept
          exact congrArg some hkept.symm
      obtain ⟨n, hn, _⟩ := hrewrites.counted hfalse hfound
      exact otherEnabled_of_count _ (hcount (by rw [seenAt, hn]; simp))

theorem otherEnabled_of_deleted {username : String}
    (h : ServerRun c state t start (before ++ e :: after) s ps) (hcurrent : FlagsCurrentAt t before e)
    (hcall : e.call = ⟨.deleteAdminUser username, .ok ()⟩) (hpre : AnyEnabled e.pre) :
    OtherEnabled username e.pre := by
  obtain ⟨hflag, hcount⟩ := hcurrent username (by rw [hcall]; rfl)
  obtain ⟨found, hremoves⟩ := removal_originates h hcall
  cases hfound : found.enabled with
  | true =>
    obtain ⟨n, hn, _⟩ := hremoves.counted hfound
    exact otherEnabled_of_count _ (hcount (by rw [seenAt, hn]; simp))
  | false =>
    refine otherEnabled_of_disabled hpre (Bool.eq_false_iff.mpr fun hany => ?_)
    have hseen := hflag (by rw [hremoves.enabled]; simp) hany
    rw [seenAt, foundEnabled_of_read hremoves.read] at hseen
    exact absurd hseen (by simp [hfound])

theorem anyEnabled_step (h : ServerRun c state t start (before ++ e :: after) s ps)
    (hcurrent : FlagsCurrentAt t before e) (hpre : AnyEnabled e.pre) : AnyEnabled e.post := by
  cases accountsStep (h.linked.effect (e := e) (by simp)) with
  | same hsame =>
    obtain ⟨user, hmem, henabled⟩ := hpre
    rw [Db.listAdminUsers, ← hsame] at hmem
    exact ⟨user, hmem, henabled⟩
  | written user hcall hset =>
    rw [hset]
    cases henabled : user.enabled with
    | true => exact anyEnabled_setAdminUser e.pre henabled
    | false => exact (otherEnabled_of_written h hcurrent hcall hpre henabled).setAdminUser
  | deleted username hcall hdelete =>
    rw [hdelete]
    exact (otherEnabled_of_deleted h hcurrent hcall hpre).deleteAdminUser

/-- The panel does not lock itself out in a run in which no request acts on a flag or a
count that has changed since. -/
theorem panel_stays_open (hopen : AnyEnabled start) (h : ServerRun c state t start log s ps)
    (hcurrent : FlagsCurrent t log) :
    AnyEnabled s ∧ ∀ e ∈ log, AnyEnabled e.pre ∧ AnyEnabled e.post := by
  have hstep : ∀ before e after, log = before ++ e :: after → AnyEnabled e.pre → AnyEnabled e.post := by
    rintro before e after rfl hpre
    exact anyEnabled_step h (hcurrent before e after rfl) hpre
  refine ⟨?_, h.linked.kept hopen hstep⟩
  exact h.linked.history (I := fun _ => AnyEnabled) hopen hstep

end Runs

/-! ## Two administrators -/

/-- The server was started once for `admin` and once for `bob`. -/
def twoAdminsDb : Db :=
  ((bootstrapAdmin freshCrates (numberedAmbient (fun _ => "abcdefghijklmnopqrstuu") 0) "bob"
    adminPassword).run.run (DbCall.exec freshCrates) freshDb).2

theorem reachable_twoAdminsDb : Reachable freshCrates twoAdminsDb :=
  .started _ _ _ reachable_freshDb

/-- Each account is to be deleted by one request. -/
def deletionTraffic : Traffic := Traffic.ofList
  [panelRequest (.adminDeleteUser "bob"), panelRequest (.adminDeleteUser "admin")]

def playDeletions (schedule : List (Nat × Option String)) :=
  play (S := databaseSignature) (DbCall.exec freshCrates) schedule twoAdminsDb
    (deletionTraffic.program freshCrates freshState)

theorem playDeletions_run (schedule : List (Nat × Option String)) :
    ServerRun freshCrates freshState deletionTraffic twoAdminsDb (playDeletions schedule).1
      (playDeletions schedule).2.1 (playDeletions schedule).2.2 := play_run _ _ _ _

theorem scripted_deletions : [panelRequest (.adminDeleteUser "bob"),
    panelRequest (.adminDeleteUser "admin")].Forall Scripted := ⟨.panel _ rfl, .panel _ rfl⟩

theorem playDeletions_short (schedule : List (Nat × Option String)) :
    playDeletions schedule = playShortened freshCrates freshState deletionTraffic twoAdminsDb schedule :=
  play_shortened knowsAdmin_freshCrates scripted_deletions schedule twoAdminsDb

instance (db : Db) : Decidable (AnyEnabled db) :=
  inferInstanceAs (Decidable (∃ user ∈ db.listAdminUsers, user.enabled = true))

/-- The first deletion is done before the second one starts. -/
def deletedInTurn : List (Nat × Option String) := steps 0 20 ++ steps 1 20

set_option maxRecDepth 10000 in
theorem panel_stays_open_inTurn : AnyEnabled (playDeletions deletedInTurn).2.1 := by
  have hplay : AnyEnabled twoAdminsDb ∧
      ∀ k < (playDeletions deletedInTurn).1.length, ∀ e ∈ (playDeletions deletedInTurn).1[k]?,
        FlagsCurrentAt deletionTraffic ((playDeletions deletedInTurn).1.take k) e := by
    rw [playDeletions_short]
    decide +kernel
  exact (panel_stays_open hplay.1 (playDeletions_run deletedInTurn) (forall_split hplay.2)).1

/-- Both requests count before one of them deletes. -/
def countedTogether : List (Nat × Option String) := steps 0 4 ++ steps 1 4 ++ steps 0 20 ++ steps 1 20

set_option maxRecDepth 10000 in
/-- Two administrators delete each other. -/
theorem panel_locked_out :
    ∃ (log : List DbEvent) (s : Db) (ps : Nat → Program databaseSignature Answer),
      Reachable freshCrates twoAdminsDb ∧ AnyEnabled twoAdminsDb ∧
      ServerRun freshCrates freshState deletionTraffic twoAdminsDb log s ps ∧ ¬ AnyEnabled s := by
  have hplay : AnyEnabled twoAdminsDb ∧ ¬ AnyEnabled (playDeletions countedTogether).2.1 := by
    rw [playDeletions_short]
    decide +kernel
  exact ⟨_, _, _, reachable_twoAdminsDb, hplay.1, playDeletions_run countedTogether, hplay.2⟩

end CloudSync
