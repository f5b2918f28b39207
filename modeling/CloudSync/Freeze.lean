import CloudSync.PurgeFrame
import CloudSync.SyncRequest

/-!
# Soft-deleted namespaces

Every write to a namespace comes behind a look at its tombstone, but the look is a
transaction of its own. The contents of a soft-deleted namespace stand still unless
a soft deletion commits between the look of a request and its write.
-/

namespace CloudSync

open Rust Redb Transactions Transactions.Fallible

set_option autoImplicit false

variable {c : Crates} {state : AppState} {amb : Ambient}

/-- The namespace whose contents the call writes; purges are apart. -/
def DbCall.contentTarget : DbCall → Option String
  | .setMetadata ns _ => some ns
  | .putBlobIfMatches ns _ _ _ _ => some ns
  | .putObjectIfMatches ns _ _ _ _ _ => some ns
  | .deleteObject ns _ => some ns
  | _ => none

/-! ## Every write comes behind a look at the tombstone -/

/-- The look that found no tombstone. -/
def foundActive (ns : String) : databaseSignature.Call := ⟨.isNamespaceDeleted ns, .ok false⟩

abbrev gateMonitor : Monitor databaseSignature :=
  recording (fun _ => true) fun calls op => ∀ ns ∈ op.contentTarget, foundActive ns ∈ calls

theorem contentTarget_of_within {area : Option Area} (harea : area ≠ some .data) {call : DbCall}
    (h : Within area call) : call.contentTarget = none := by
  cases call <;> simp_all [DbCall.contentTarget, Ne.symm]

section Gate
variable {r : Request}

/-- A part that writes no contents. -/
theorem triple_reads {α : Type} {x : Handler α} {calls : RecordedCalls}
    (h : Calls (fun call : DbCall => call.contentTarget = none) x) :
    Triple gateMonitor x (fun _ _ => True) (fun _ _ => True) calls := by
  refine Calls.triple_allowed (Program.Calls.mono ?_ h) (fun _ _ => trivial) fun _ _ => trivial
  intro call hcall calls _ ns hns
  rw [hcall] at hns
  cases hns

theorem calls_reads {ε α : Type} {area : Option Area} (harea : area ≠ some .data)
    {x : Fallible databaseSignature ε α} (h : Calls (Within area) x) :
    Calls (fun call : DbCall => call.contentTarget = none) x :=
  Program.Calls.mono (fun _ => contentTarget_of_within harea) h

/-- Behind the look, a part may write in the namespace. -/
theorem triple_behind {α : Type} {x : Handler α} {calls : RecordedCalls} {ns : String}
    (hlook : foundActive ns ∈ calls)
    (h : Calls (fun call : DbCall => ∀ ns' ∈ call.contentTarget, ns' = ns) x) :
    Triple gateMonitor x (fun calls _ => foundActive ns ∈ calls) (fun _ _ => True) calls := by
  refine (h.triple_within (M := gateMonitor) (Q := fun calls => foundActive ns ∈ calls) ?_ ?_
    hlook).mono (fun _ _ h => h) fun _ _ _ => trivial
  · intro calls call hlook hcall _ ns' hns'
    rw [hcall ns' hns']
    exact hlook
  · intro calls call reply hlook _
    exact List.mem_append_left _ hlook

theorem authorize_looks {ns : String} {permission : SyncPermission} {calls : RecordedCalls} :
    Triple gateMonitor
      (authorizeSyncRequestWithPermission c state amb r.headers ns permission r.peer)
      (fun calls _ => foundActive ns ∈ calls) (fun _ _ => True) calls := by
  unfold authorizeSyncRequestWithPermission ensureNamespaceActive
  rw [triple_bind, triple_bind, triple_db]
  refine ⟨fun _ _ hns => (nomatch hns), fun deleted => ?_, fun _ => trivial⟩
  rw [triple_ensure]
  refine ⟨fun hactive => ?_, fun _ => trivial⟩
  obtain rfl : deleted = false := by simpa using hactive
  refine triple_behind (by simp [foundActive]) ?_
  have hnone : ∀ call : DbCall, Within none call → ∀ ns' ∈ call.contentTarget, ns' = ns := by
    intro call hcall ns' hns'
    rw [contentTarget_of_within (by simp) hcall] at hns'
    cases hns'
  refine .bind (Program.Calls.mono hnone (extractAuth_calls _)) fun token => ?_
  cases checkToken c amb token ns permission with
  | error e => exact .bind (by simp [recordTokenFailure, DbCall.contentTarget]) fun _ => by simp
  | ok _ => exact .bind (by simp [DbCall.contentTarget]) fun _ => by simp

theorem mayCall_target {endpoint : Endpoint} {ns : String} {call : DbCall}
    (h : endpoint.MayCall ns call) : ∀ ns' ∈ call.contentTarget, ns' = ns := by
  intro ns' hns'
  cases call <;> cases hns' <;> exact h.1

theorem sync_looks {rawNs : String} {permission : SyncPermission}
    (hr : r.endpoint.syncTarget = some (rawNs, permission)) :
    Triple gateMonitor (handle c state amb r) (fun _ _ => True) (fun _ _ => True) [] := by
  obtain ⟨f, hhandle, hf⟩ := handle_sync c state amb hr
  rw [hhandle, triple_bind, triple_liftResult]
  refine ⟨fun ns _ => ?_, fun _ _ => trivial⟩
  rw [triple_bind]
  refine authorize_looks.mono (fun calls _ hlook => ?_) fun _ _ h => h
  exact (triple_behind hlook (Program.Calls.mono (fun _ => mayCall_target) (hf ns))).mono
    (fun _ _ _ => trivial) fun _ _ h => h

theorem adminCreateNamespace_looks {requested : String} :
    Triple gateMonitor (adminCreateNamespace c state amb r.headers requested)
      (fun _ _ => True) (fun _ _ => True) [] := by
  unfold adminCreateNamespace
  rw [triple_bind]
  refine (triple_reads (calls_reads (by simp) (verifyAdminMutation_calls ..))).mono ?_ fun _ _ h => h
  intro _ _ _
  rw [triple_bind]
  refine (triple_reads (ensureDiskCapacity_calls _ _)).mono ?_ fun _ _ h => h
  intro _ _ _
  rw [triple_bind, triple_liftResult]
  refine ⟨fun _ _ => ?_, fun _ _ => trivial⟩
  rw [triple_bind, triple_db]
  refine ⟨fun _ _ hns => (nomatch hns), fun deleted => ?_, fun _ => trivial⟩
  rw [triple_bind, triple_ensure]
  refine ⟨fun hactive => ?_, fun _ => trivial⟩
  obtain rfl : deleted = false := by simpa using hactive
  refine (triple_behind (by simp [foundActive] : foundActive (trim requested) ∈ _) ?_).mono
    (fun _ _ _ => trivial) fun _ _ h => h
  exact .bind (by simp [DbCall.contentTarget]) fun _ => .bind (by simp) fun _ =>
    .bind (by simp [DbCall.contentTarget]) fun _ => .bind (by simp) fun _ =>
    .bind (by simp [DbCall.contentTarget]) fun _ => by simp

theorem adminDeleteNamespace_reads {ns : String} {hard : Option Bool} {headers : HeaderMap} :
    Calls (fun call : DbCall => call.contentTarget = none)
      (adminDeleteNamespace c state amb ns hard headers) := by
  refine .bind (calls_reads (by simp) (verifyAdminMutation_calls ..)) fun _ => .ite ?_ ?_
  · exact .bind (by simp [DbCall.contentTarget]) fun _ => by simp
  · exact .bind (by simp [DbCall.contentTarget]) fun _ => .bind (by simp) fun _ =>
      .bind (by simp [DbCall.contentTarget]) fun _ =>
      .bind (calls_runIf.mpr fun _ => .bind (by simp [DbCall.contentTarget]) fun _ => by simp) fun _ =>
      .bind (ensureDiskCapacity_calls _ _) fun _ => .bind (by simp [DbCall.contentTarget]) fun _ =>
      .bind (calls_reads (by simp) (calls_orDatabaseError (refreshNamespaceUsage_calls ..))) fun _ => by simp

theorem adminListNamespaces_reads {headers : HeaderMap} :
    Calls (fun call : DbCall => call.contentTarget = none) (adminListNamespaces c state amb headers) := by
  have hinfo : ∀ ns deleted, Calls (fun call : DbCall => call.contentTarget = none)
      (namespaceInfo c ns deleted) := fun _ _ =>
    .bind (by simp [DbCall.contentTarget]) fun _ => .bind (by simp [DbCall.contentTarget]) fun _ =>
      .bind (by simp [DbCall.contentTarget]) fun _ => .bind (by simp [DbCall.contentTarget]) fun _ => by simp
  exact .bind (calls_reads (by simp) (verifyAdmin_calls ..)) fun _ =>
    .bind (by simp [DbCall.contentTarget]) fun _ => .bind (calls_mapM (fun _ => hinfo _ _) _) fun _ =>
    .bind (by simp [DbCall.contentTarget]) fun _ => .bind (calls_mapM (fun _ => hinfo _ _) _) fun _ => by simp

/-- Every request looks for the tombstone of a namespace before it writes there. -/
theorem handle_looks (r : Request) :
    (handle c state amb r).run.Obeys gateMonitor (fun _ _ => True) [] := by
  have hobeys : Triple gateMonitor (handle c state amb r) (fun _ _ => True) (fun _ _ => True) [] →
      (handle c state amb r).run.Obeys gateMonitor (fun _ _ => True) [] :=
    fun h => Program.Obeys.mono (fun _ _ _ => trivial) h
  have hwrapped {α : Type} {x : Handler α} {f : α → Response}
      (h : Triple gateMonitor x (fun _ _ => True) (fun _ _ => True) []) :
      (x >>= fun a => pure (f a)).run.Obeys gateMonitor (fun _ _ => True) [] :=
    obeys_wrapped h (fun _ _ _ => trivial) fun _ _ _ => trivial
  cases htarget : r.endpoint.syncTarget with
  | some target => exact hobeys (sync_looks htarget)
  | none =>
    by_cases harea : r.endpoint.area = some .data
    · obtain ⟨endpoint, peer, headers⟩ := r
      cases endpoint with
      | adminListNamespaces => exact hwrapped (triple_reads adminListNamespaces_reads)
      | adminCreateNamespace => exact hwrapped (adminCreateNamespace_looks (r := ⟨_, peer, headers⟩))
      | adminDeleteNamespace => exact hwrapped (triple_reads adminDeleteNamespace_reads)
      | _ => simp [Endpoint.area, Endpoint.syncTarget] at harea htarget
    · exact hobeys (triple_reads (calls_reads harea (handle_calls r)))

end Gate

/-! ## What one transaction does to contents and tombstone -/

/-- The namespace whose contents a committed call has written; purges are apart. -/
def contentWritten : databaseSignature.Call → Option String
  | ⟨.setMetadata ns _, .ok ()⟩ => some ns
  | ⟨.putBlobIfMatches ns _ _ _ _, .ok (.ok ())⟩ => some ns
  | ⟨.putObjectIfMatches ns _ _ _ _ _, .ok (.ok ())⟩ => some ns
  | ⟨.deleteObject ns _, .ok _⟩ => some ns
  | _ => none

theorem contentTarget_of_written {call : databaseSignature.Call} {ns : String}
    (h : contentWritten call = some ns) : call.1.contentTarget = some ns := by
  unfold contentWritten at h
  split at h <;> first | exact h | cases h

/-- The namespace that a look has found without a tombstone. -/
def looked : databaseSignature.Call → Option String
  | ⟨.isNamespaceDeleted ns, .ok false⟩ => some ns
  | _ => none

theorem looked_eq_some {call : databaseSignature.Call} {ns : String} (h : looked call = some ns) :
    call = foundActive ns := by
  unfold looked at h
  split at h
  · cases h
    rfl
  · cases h

/-- The namespace that a committed soft deletion has marked. -/
def softDeleted : databaseSignature.Call → Option String
  | ⟨.softDeleteNamespace ns _, .ok ()⟩ => some ns
  | _ => none

/-- The namespace whose tombstone a committed restore or purge has taken away. -/
def reopened : databaseSignature.Call → Option String
  | ⟨.restoreNamespace ns, .ok ()⟩ => some ns
  | ⟨.hardDeleteNamespace ns, .ok ()⟩ => some ns
  | _ => none

section Steps
variable {ns : String} {call : DbCall} {reply : databaseSignature.Reply call} {db db' : Db}

/-- The contents of a namespace change through a write to it, or through a purge that finds them. -/
theorem contents_step (hns : ValidNamespaceName c ns)
    (h : Effect (S := databaseSignature) (DbCall.exec c) call reply db db')
    (htarget : ∀ ns' ∈ call.contentTarget, ValidNamespaceName c ns') :
    SameContents ns db db' ∨ contentWritten ⟨call, reply⟩ = some ns ∨
      ∃ n, (⟨call, reply⟩ : databaseSignature.Call) = ⟨.hardDeleteNamespace n, .ok ()⟩ ∧
        (n = ns ∨ ¬ OutOfReach n ns db) := by
  by_contra hno
  obtain ⟨hchanged, hother, hpurge⟩ := by simpa only [not_or] using hno
  refine hchanged ⟨?_, fun path => ?_⟩
  · cases snapshotStep ns h with
    | same _ hs => exact hs
    | upload _ _ _ _ hcall _ => exact absurd (by rw [hcall]; rfl) hother
    | describe _ hcall _ => exact absurd (by rw [hcall]; rfl) hother
    | purge hcall _ => exact absurd ⟨ns, hcall, .inl rfl⟩ hpurge
  · cases objectStep (objectKey ns path) h with
    | same hs => exact hs
    | store ns' path' _ _ _ _ hcall hkey _ =>
      have hns' := htarget ns' (congrArg (fun call => call.1.contentTarget) hcall)
      obtain ⟨rfl, -⟩ := objectKey_inj (slash_notMem hns') (slash_notMem hns) hkey
      exact absurd (by rw [hcall]; rfl) hother
    | remove ns' path' _ hcall hkey _ =>
      have hns' := htarget ns' (congrArg (fun call => call.1.contentTarget) hcall)
      obtain ⟨rfl, -⟩ := objectKey_inj (slash_notMem hns') (slash_notMem hns) hkey
      exact absurd (by rw [hcall]; rfl) hother
    | purge n hcall hkey _ =>
      obtain ⟨hstored, hprefix⟩ := mem_purgedKeys.mp hkey
      rcases (startsWith_objectKey_iff (slash_notMem hns)).mp hprefix with rfl | ⟨q, rest, hn, hpath⟩
      · exact absurd ⟨n, hcall, .inl rfl⟩ hpurge
      · refine absurd ⟨n, hcall, .inr fun hreach => ?_⟩ hpurge
        exact hstored (hpath ▸ hreach q rest hn)

/-- A tombstone stays until a restore or a purge. -/
theorem tombstone_step (h : Effect (S := databaseSignature) (DbCall.exec c) call reply db db')
    (hdeleted : db.isNamespaceDeleted ns = true) (hclosed : reopened ⟨call, reply⟩ ≠ some ns) :
    db'.isNamespaceDeleted ns = true := by
  cases h with
  | fail f => exact hdeleted
  | commit =>
    have hreopens : call.reopens ≠ some ns := by
      cases call with
      | restoreNamespace ns' => exact hclosed
      | hardDeleteNamespace ns' => exact hclosed
      | _ => exact nofun
    rw [isNamespaceDeleted_exec, if_neg hreopens, hdeleted]
    exact ite_self true

end Steps

/-! ## Between the look and the write -/

section Looks
variable {i : Nat} {ns : String}

/-- How the look of request `i` stands after one more event: `none` before the look, then
whether the namespace has been soft-deleted since. -/
def lookStep (i : Nat) (ns : String) (look : Option Bool) (e : DbEvent) : Option Bool :=
  if e.tid = i ∧ looked e.call = some ns then some false
  else if softDeleted e.call = some ns then look.map fun _ => true
  else if reopened e.call = some ns then look.map fun _ => false
  else look

theorem lookStep_isSome {look : Option Bool} {e : DbEvent}
    (h : look.isSome ∨ e.tid = i ∧ looked e.call = some ns) : (lookStep i ns look e).isSome := by
  unfold lookStep
  split
  · rfl
  · rename_i hno
    have hlook := h.resolve_right hno
    split
    · simpa using hlook
    · split
      · simpa using hlook
      · exact hlook

/-- Once the request has looked, its look stands somehow. -/
theorem look_isSome {log : List DbEvent} (look : Option Bool)
    (h : look.isSome ∨ ∃ e ∈ log, e.tid = i ∧ looked e.call = some ns) :
    (log.foldl (lookStep i ns) look).isSome := by
  induction log generalizing look with
  | nil =>
    rcases h with h | ⟨e, he, _⟩
    · exact h
    · cases he
  | cons e log ih =>
    apply ih
    rcases h with h | ⟨e', he', hlooked⟩
    · exact .inl (lookStep_isSome (.inl h))
    · rcases List.mem_cons.mp he' with rfl | he'
      · exact .inl (lookStep_isSome (.inr hlooked))
      · exact .inr ⟨e', he', hlooked⟩

/-- A soft deletion since the look is only undone by another look or by a restore or purge. -/
theorem look_stays {log : List DbEvent}
    (h : ∀ e ∈ log, ¬ (e.tid = i ∧ looked e.call = some ns) ∧ reopened e.call ≠ some ns) :
    log.foldl (lookStep i ns) (some true) = some true := by
  induction log with
  | nil => rfl
  | cons e log ih =>
    obtain ⟨hlooked, hclosed⟩ := h e List.mem_cons_self
    have hstep : lookStep i ns (some true) e = some true := by
      rw [lookStep, if_neg hlooked, if_neg hclosed]
      split <;> rfl
    rw [List.foldl_cons, hstep]
    exact ih fun e' he' => h e' (List.mem_cons_of_mem _ he')

end Looks

/-- When a write commits, its namespace has not been soft-deleted since the request looked for
the tombstone, or it has been restored or purged again since then. -/
def WritesInTime (log : List DbEvent) : Prop :=
  ∀ before e after, log = before ++ e :: after → ∀ ns ∈ contentWritten e.call,
    before.foldl (lookStep e.tid ns) none ≠ some true

/-- No purge of another name finds objects of a soft-deleted namespace. -/
def PurgesApart (c : Crates) (log : List DbEvent) : Prop :=
  ∀ e ∈ log, ∀ n ∈ purgeOf e.call, ∀ ns, ValidNamespaceName c ns → ns ≠ n →
    e.pre.isNamespaceDeleted ns = true → OutOfReach n ns e.pre

/-- The contents of a soft-deleted namespace stand still. -/
structure FrozenWhileDeleted (c : Crates) (log : List DbEvent) : Prop where
  frozen : ∀ before sd between after ns, log = before ++ sd :: (between ++ after) →
    ValidNamespaceName c ns → softDeleted sd.call = some ns →
    (∀ e ∈ between, reopened e.call ≠ some ns) → ∀ e ∈ between, SameContents ns e.pre e.post
  /-- A restore brings back what was there when the soft deletion committed. -/
  restored : ∀ before sd between re after ns, log = before ++ sd :: (between ++ re :: after) →
    ValidNamespaceName c ns → softDeleted sd.call = some ns →
    (∀ e ∈ between, reopened e.call ≠ some ns) → re.call = ⟨.restoreNamespace ns, .ok ()⟩ →
    SameContents ns sd.post re.post

section Runs
variable {t : Traffic} {start s : Db} {ps : Nat → Program databaseSignature Answer}
  {log before between after : List DbEvent} {sd e : DbEvent} {ns : String}

theorem softDeleted_post (h : Effect (S := databaseSignature) (DbCall.exec c) sd.op sd.reply sd.pre sd.post)
    (hsd : softDeleted sd.call = some ns) : sd.post.isNamespaceDeleted ns = true := by
  obtain ⟨tid, op, reply, pre, post⟩ := sd
  unfold softDeleted Event.call at hsd
  split at hsd
  · rename_i ns' deletedAt hcall
    cases hsd
    obtain ⟨rfl, hreply⟩ := Sigma.mk.inj hcall
    obtain rfl := eq_of_heq hreply
    rw [show post = _ from h.of_ok.2]
    simp [DbCall.exec, Db.softDeleteNamespace, Db.isNamespaceDeleted]
  · cases hsd

/-- From its soft deletion until a restore or purge a namespace has its tombstone. -/
theorem deleted_between (h : Linked (S := databaseSignature) (DbCall.exec c) start
      (before ++ sd :: (between ++ after)) s) (hsd : softDeleted sd.call = some ns)
    (hclosed : ∀ e ∈ between, reopened e.call ≠ some ns) :
    ∀ e ∈ between, e.pre.isNamespaceDeleted ns = true := by
  obtain ⟨_, heffect, hrest⟩ := linked_middle h
  obtain ⟨s', hbetween, _⟩ := linked_append.mp hrest
  have hkept := hbetween.kept (J := fun db => db.isNamespaceDeleted ns = true)
    (softDeleted_post heffect hsd) ?_
  · exact fun e he => (hkept e he).1
  · rintro l e l' rfl hpre
    exact tombstone_step (hbetween.effect (by simp)) hpre (hclosed e (by simp))

/-- A request does not find a namespace without the tombstone that it has. -/
theorem looked_ne (h : Effect (S := databaseSignature) (DbCall.exec c) e.op e.reply e.pre e.post)
    (hdeleted : e.pre.isNamespaceDeleted ns = true) : looked e.call ≠ some ns := by
  intro hlooked
  obtain ⟨tid, op, reply, pre, post⟩ := e
  obtain ⟨rfl, hreply⟩ := Sigma.mk.inj (looked_eq_some hlooked)
  obtain rfl := eq_of_heq hreply
  have hout : false = pre.isNamespaceDeleted ns := h.of_ok.1
  rw [hdeleted] at hout
  cases hout

theorem target_valid (h : ServerRun c state t start (before ++ e :: after) s ps) :
    ∀ ns' ∈ e.op.contentTarget, ValidNamespaceName c ns' := by
  intro ns' hns'
  have ho := originates h
  cases hop : e.op with
  | setMetadata ns data =>
    rw [hop] at ho hns'
    exact snapshotTarget_valid ho hns'
  | putBlobIfMatches ns expectedEtag requireAbsent blob m =>
    rw [hop] at ho hns'
    exact snapshotTarget_valid ho hns'
  | putObjectIfMatches ns path expectedEtag requireAbsent data m =>
    rw [hop] at ho hns'
    cases hns'
    obtain ⟨_, _, _, _, _, hns, _⟩ := ho rfl
    exact decodeNamespace_valid hns
  | deleteObject ns path =>
    rw [hop] at ho hns'
    cases hns'
    obtain ⟨_, _, _, hns, _⟩ := ho rfl
    exact decodeNamespace_valid hns
  | _ =>
    rw [hop] at hns'
    cases hns'

/-- The one place where the order of steps matters: a write to a namespace that has its
tombstone would have been looked for before the soft deletion. -/
theorem frozen_step (h : ServerRun c state t start (before ++ sd :: (between ++ e :: after)) s ps)
    (hwrites : WritesInTime (before ++ sd :: (between ++ e :: after)))
    (hpurges : PurgesApart c (before ++ sd :: (between ++ e :: after)))
    (hns : ValidNamespaceName c ns) (hsd : softDeleted sd.call = some ns)
    (hclosed : ∀ e' ∈ between ++ [e], reopened e'.call ≠ some ns) : SameContents ns e.pre e.post := by
  have hsplit : before ++ sd :: (between ++ e :: after) = (before ++ sd :: between) ++ e :: after := by simp
  have hdeleted : ∀ e' ∈ between ++ [e], e'.pre.isNamespaceDeleted ns = true := by
    have hlinked : Linked (S := databaseSignature) (DbCall.exec c) start
        (before ++ sd :: ((between ++ [e]) ++ after)) s := by simpa using h.linked
    exact deleted_between hlinked hsd hclosed
  have hrun : ServerRun c state t start ((before ++ sd :: between) ++ e :: after) s ps := hsplit ▸ h
  have heffect := hrun.linked.effect (e := e) (by simp)
  rcases contents_step hns heffect (target_valid hrun) with hsame | hwritten | ⟨n, hcall, hn⟩
  · exact hsame
  · -- The request has looked, and not since the soft deletion.
    exfalso
    have hlook : foundActive ns ∈ ownCalls (fun _ => true) e.tid (before ++ sd :: between) :=
      hrun.recorded (handle_looks (t.request e.tid)) rfl ns (contentTarget_of_written hwritten)
    obtain ⟨chk, hchk, htid, -, hcall⟩ := mem_ownCalls.mp hlook
    have hlooked : looked chk.call = some ns := by rw [hcall]; rfl
    have hsince : ∀ e' ∈ between, looked e'.call ≠ some ns := by
      intro e' he'
      refine looked_ne (h.linked.effect (by simp [he'])) (hdeleted e' (by simp [he']))
    have hbefore : chk ∈ before := by
      rcases List.mem_append.mp hchk with hb | hb
      · exact hb
      · rcases List.mem_cons.mp hb with rfl | hb
        · rw [hcall] at hsd
          cases hsd
        · exact absurd hlooked (hsince chk hb)
    have hpending : (before ++ sd :: between).foldl (lookStep e.tid ns) none = some true := by
      rw [List.foldl_append, List.foldl_cons]
      obtain ⟨look, hsome⟩ := Option.isSome_iff_exists.mp
        (look_isSome none (.inr ⟨chk, hbefore, htid, hlooked⟩))
      have hmarked : lookStep e.tid ns (some look) sd = some true := by
        have hnot : ¬ (sd.tid = e.tid ∧ looked sd.call = some ns) := by
          rintro ⟨_, hl⟩
          rw [looked_eq_some hl] at hsd
          cases hsd
        rw [lookStep, if_neg hnot, if_pos hsd]
        rfl
      rw [hsome, hmarked]
      exact look_stays fun e' he' =>
        ⟨fun hl => hsince e' he' hl.2, hclosed e' (by simp [he'])⟩
    exact hwrites _ e after hsplit ns hwritten hpending
  · exfalso
    have hpurge : purgeOf e.call = some n := by rw [Event.call, hcall]; rfl
    have hreopened : reopened e.call = some n := by rw [Event.call, hcall]; rfl
    have hne : ns ≠ n := by
      rintro rfl
      exact hclosed e (by simp) hreopened
    have hreach := hpurges e (by simp) n hpurge ns hns hne (hdeleted e (by simp))
    exact hn.elim (fun heq => hne heq.symm) fun hno => hno hreach

theorem sameContents_restore {db db' : Db} {reply : databaseSignature.Reply (.restoreNamespace ns)}
    (h : Effect (S := databaseSignature) (DbCall.exec c) (.restoreNamespace ns) reply db db') :
    SameContents ns db db' := by
  cases h with
  | fail f => exact .refl _ _
  | commit => exact ⟨rfl, fun _ => rfl⟩

/-- In every run whose writes come in time and whose purges stay apart, soft-deleted
namespaces are frozen, and a restore brings their contents back as they were. -/
theorem frozenWhileDeleted (h : ServerRun c state t start log s ps) (hwrites : WritesInTime log)
    (hpurges : PurgesApart c log) : FrozenWhileDeleted c log := by
  have hfrozen : ∀ before sd between after ns, log = before ++ sd :: (between ++ after) →
      ValidNamespaceName c ns → softDeleted sd.call = some ns →
      (∀ e ∈ between, reopened e.call ≠ some ns) →
      ∀ l e l', between = l ++ e :: l' → SameContents ns e.pre e.post := by
    rintro before sd between after ns rfl hns hsd hclosed l e l' rfl
    have hlog : before ++ sd :: (l ++ e :: l' ++ after) = before ++ sd :: (l ++ e :: (l' ++ after)) := by
      simp
    rw [hlog] at h hwrites hpurges
    refine frozen_step h hwrites hpurges hns hsd fun e' he' => hclosed e' ?_
    simp only [List.mem_append, List.mem_cons, List.not_mem_nil, or_false] at he' ⊢
    exact he'.imp id .inl
  constructor
  · intro before sd between after ns hlog hns hsd hclosed e he
    obtain ⟨l, l', rfl⟩ := List.append_of_mem he
    exact hfrozen before sd _ after ns hlog hns hsd hclosed l e l' rfl
  · rintro before sd between re after ns rfl hns hsd hclosed hre
    obtain ⟨_, _, hrest⟩ := linked_middle h.linked
    obtain ⟨hbetween, heffect, _⟩ := linked_middle hrest
    have hpre : SameContents ns sd.post re.pre := by
      refine hbetween.history (I := fun _ db => SameContents ns sd.post db) (.refl _ _) ?_
      intro l e l' hsplit hsame
      exact hsame.trans (hfrozen before sd between (re :: after) ns rfl hns hsd hclosed l e l' hsplit)
    obtain ⟨tid, op, reply, pre, post⟩ := re
    obtain ⟨rfl, -⟩ := Sigma.mk.inj hre
    exact hpre.trans (sameContents_restore heffect)

end Runs

/-! ## A soft deletion during an upload -/

/-- An object is stored, and stored again while its namespace is soft-deleted and restored. -/
def freezeTraffic : List Request :=
  [issueRequest "*" "write" none,
   issuedRequest (.putObject "work" "notes" [1]) [],
   issuedRequest (.putObject "work" "notes" [2]) [],
   panelRequest (.adminDeleteNamespace "work" none),
   panelRequest (.adminRestoreNamespace "work")]

theorem scripted_freezeTraffic : freezeTraffic.Forall Scripted :=
  ⟨.issue _ _ _, .issued _ _ rfl, .issued _ _ rfl, .panel _ rfl, .panel _ rfl⟩

/-- Event `k` soft-deletes `work`, and none of the next `l` events reopens it. -/
def ClosedFor (log : List DbEvent) (k l : Nat) : Prop :=
  (∃ sd ∈ log[k]?, softDeleted sd.call = some "work") ∧
    ∀ e ∈ (log.drop (k + 1)).take l, reopened e.call ≠ some "work"

instance (log : List DbEvent) (k l : Nat) : Decidable (ClosedFor log k l) :=
  inferInstanceAs (Decidable (_ ∧ _))

theorem ClosedFor.split {log : List DbEvent} {k l : Nat} (h : ClosedFor log k l) :
    ∃ before sd, log = before ++ sd :: ((log.drop (k + 1)).take l ++ (log.drop (k + 1)).drop l) ∧
      softDeleted sd.call = some "work" := by
  obtain ⟨⟨sd, hsd, hdeleted⟩, _⟩ := h
  exact ⟨_, sd, by rw [List.take_append_drop]; exact split_at hsd, hdeleted⟩

theorem restored_of_reopened {call : databaseSignature.Call} {ns : String}
    (h : reopened call = some ns) (hpurge : purgeOf call = none) :
    call = ⟨.restoreNamespace ns, .ok ()⟩ := by
  unfold reopened at h
  split at h
  · cases h
    rfl
  · cases hpurge
  · cases h

/-- The soft deletion and the restore come after the first upload. -/
def deletedAfter : List (Nat × Option String) := steps 0 20 ++ steps 1 20 ++ steps 3 20 ++ steps 4 20

set_option maxRecDepth 10000 in
theorem frozenWhileDeleted_after :
    ∃ before sd between re after,
      (playFresh freezeTraffic deletedAfter).1 = before ++ sd :: (between ++ re :: after) ∧
      re.call = ⟨.restoreNamespace "work", .ok ()⟩ ∧ SameContents "work" sd.post re.post := by
  have hplay : (∀ k < (playFresh freezeTraffic deletedAfter).1.length,
        ∀ e ∈ (playFresh freezeTraffic deletedAfter).1[k]?, ∀ ns ∈ contentWritten e.call,
          ((playFresh freezeTraffic deletedAfter).1.take k).foldl (lookStep e.tid ns) none ≠ some true) ∧
      (∀ e ∈ (playFresh freezeTraffic deletedAfter).1, purgeOf e.call = none) ∧
      ClosedFor (playFresh freezeTraffic deletedAfter).1 16 6 ∧
      (∃ re ∈ ((playFresh freezeTraffic deletedAfter).1.drop 17)[6]?,
        reopened re.call = some "work" ∧ purgeOf re.call = none) ∧
      validateNamespace freshCrates "work" = .ok () := by
    rw [playFresh_short scripted_freezeTraffic]
    decide +kernel
  obtain ⟨hwrites, hpurges, hclosed, ⟨re, hre, hreopened, hnone⟩, hvalid⟩ := hplay
  obtain ⟨before, sd, hlog, hsd⟩ := hclosed.split
  have hcall := restored_of_reopened hreopened hnone
  have hrest := split_at hre
  rw [List.take_append_drop] at hlog
  have hsplit : (playFresh freezeTraffic deletedAfter).1 = before ++ sd ::
      (((playFresh freezeTraffic deletedAfter).1.drop 17).take 6 ++ re ::
        ((playFresh freezeTraffic deletedAfter).1.drop 17).drop 7) := by
    rw [← hrest]
    exact hlog
  have hfrozen := frozenWhileDeleted (playFresh_run freezeTraffic deletedAfter)
    (forall_split (P := fun before e => ∀ ns ∈ contentWritten e.call,
      before.foldl (lookStep e.tid ns) none ≠ some true) hwrites) fun e he n hn => by
      rw [hpurges e he] at hn
      cases hn
  exact ⟨before, sd, _, re, _, hsplit, hcall,
    hfrozen.restored before sd _ re _ "work" hsplit hvalid hsd hclosed.2 hcall⟩

/-- The soft deletion commits between the look of the second upload and its write. -/
def deletedDuring : List (Nat × Option String) :=
  steps 0 20 ++ steps 1 20 ++ steps 2 3 ++ steps 3 20 ++ steps 2 20 ++ steps 4 20

set_option maxRecDepth 10000 in
/-- The upload changes the object of the soft-deleted namespace. -/
theorem upload_thaws_deleted_namespace :
    ∃ (log : List DbEvent) (s : Db) (ps : Nat → Program databaseSignature Answer),
      Reachable freshCrates freshDb ∧
      ServerRun freshCrates freshState (Traffic.ofList freezeTraffic) freshDb log s ps ∧
      ¬ FrozenWhileDeleted freshCrates log := by
  refine ⟨_, _, _, reachable_freshDb, playFresh_run freezeTraffic deletedDuring, fun hfrozen => ?_⟩
  have hplay : ClosedFor (playFresh freezeTraffic deletedDuring).1 19 5 ∧
      (∃ e ∈ ((playFresh freezeTraffic deletedDuring).1.drop 20).take 5,
        e.pre.objectRow (objectKey "work" "notes") ≠ e.post.objectRow (objectKey "work" "notes")) ∧
      validateNamespace freshCrates "work" = .ok () := by
    rw [playFresh_short scripted_freezeTraffic]
    decide +kernel
  obtain ⟨hclosed, ⟨e, he, hchanged⟩, hvalid⟩ := hplay
  obtain ⟨before, sd, hlog, hsd⟩ := hclosed.split
  have hsame := hfrozen.frozen before sd _ _ "work" hlog hvalid hsd hclosed.2 e he
  exact hchanged (hsame.objects "notes").symm

end CloudSync
