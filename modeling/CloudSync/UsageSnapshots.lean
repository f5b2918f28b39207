import CloudSync.Accounting.Readings
import CloudSync.Freeze
import CloudSync.NamespaceListing

/-!
# Usage snapshots

Where every write is followed by a refresh, the stored snapshot of a namespace is
what its rows come to, and each snapshot tells how far the total has grown since
the one before.
-/

namespace CloudSync

open Rust Redb Transactions Transactions.Fallible Accounting

set_option autoImplicit false

variable {c : Crates} {state : AppState} {amb : Ambient}

/-! ## The snapshots that were written -/

/-- A purge starts anew. -/
def usageWritten (ns : String) (written : List NamespaceUsageRecord) (made : databaseSignature.Made) :
    List NamespaceUsageRecord :=
  match made.1 with
  | .setNamespaceUsage usage => if usage.namespace = ns then written ++ [usage] else written
  | .hardDeleteNamespace ns' => if ns' = ns then [] else written
  | _ => written

/-- The snapshots of `ns` since its last purge. -/
def writtenUsages (ns : String) (made : List databaseSignature.Made) : List NamespaceUsageRecord :=
  made.foldl (usageWritten ns) []

@[simp] theorem writtenUsages_snoc (ns : String) (made : List databaseSignature.Made)
    (last : databaseSignature.Made) :
    writtenUsages ns (made ++ [last]) = usageWritten ns (writtenUsages ns made) last :=
  List.foldl_concat ..

abbrev SuccessiveUsages : List NamespaceUsageRecord → Prop :=
  Successive (fun usage => (usage.totalBytes : Int)) (·.growthBytes) i64Min i64Max

/-! ## What a refresh would find -/

/-- The snapshot is what a refresh would find now. -/
structure Db.Observes (c : Crates) (db : Db) (ns : String) (usage : NamespaceUsageRecord) : Prop where
  blobBytes : usage.blobBytes = db.blobSize ns
  objectCount : usage.objectCount = (db.namespaceObjectStats c ns).1
  objectBytes : usage.objectBytes = (db.namespaceObjectStats c ns).2.1
  totalBytes : usage.totalBytes = saturatingAdd (db.blobSize ns) (db.namespaceObjectStats c ns).2.1

/-- The payloads of the namespace are the same in both databases. -/
structure SamePayloads (ns : String) (db db' : Db) : Prop where
  blob : db'.getBlob ns = db.getBlob ns
  objects : ∀ path, db'.getObject ns path = db.getObject ns path

theorem SameContents.payloads {ns : String} {db db' : Db} (h : SameContents ns db db') :
    SamePayloads ns db db' :=
  ⟨congrArg Prod.snd h.snapshot, fun path => congrArg Prod.fst (h.objects path)⟩

theorem Db.Observes.congr {db db' : Db} {ns : String} {usage : NamespaceUsageRecord}
    (h : db.Observes c ns usage) (hsame : SamePayloads ns db db') : db'.Observes c ns usage := by
  have hblob : db'.blobSize ns = db.blobSize ns := congrArg (Option.elim · 0 List.length) hsame.blob
  have hrows := @rowsOf_congr ns _ db.objects db'.objects hsame.objects
  have hcount : (db'.namespaceObjectStats c ns).1 = (db.namespaceObjectStats c ns).1 :=
    congrArg List.length hrows
  have hbytes : (db'.namespaceObjectStats c ns).2.1 = (db.namespaceObjectStats c ns).2.1 := by
    unfold Db.namespaceObjectStats
    dsimp only
    rw [hrows]
  constructor
  · rw [hblob, h.blobBytes]
  · rw [hcount, h.objectCount]
  · rw [hbytes, h.objectBytes]
  · rw [hblob, hbytes, h.totalBytes]

/-! ## Between a write and its refresh -/

/-- The snapshots follow on from each other and are up to date, but perhaps for `stale`. -/
structure Settled (c : Crates) (stale : Option String) (s : Recorded) : Prop where
  tombstones : s.1.TombstonesValid c
  current : ∀ ns, s.1.getNamespaceUsage ns = (writtenUsages ns s.2).getLast?
  successive : ∀ ns, SuccessiveUsages (writtenUsages ns s.2)
  valid : ∀ ns, s.1.getNamespaceUsage ns ≠ none → ValidNamespaceName c ns
  observed : ∀ ns, stale ≠ some ns → ∀ usage ∈ s.1.getNamespaceUsage ns, s.1.Observes c ns usage

theorem Settled.weaken {s : Recorded} (h : Settled c none s) (stale : Option String) :
    Settled c stale s :=
  ⟨h.1, h.2, h.3, h.4, fun ns _ => h.5 ns nofun⟩

theorem settled_new : Settled c none ({}, []) where
  tombstones ns h := by simp [Db.isNamespaceDeleted] at h
  current ns := by simp [Db.getNamespaceUsage, writtenUsages]
  successive ns := .nil
  valid ns h := absurd (by simp [Db.getNamespaceUsage]) h
  observed ns _ usage h := by simp [Db.getNamespaceUsage] at h

/-- A store and its log after one more call. -/
def Recorded.after (c : Crates) (call : DbCall) (s : Recorded) : Recorded :=
  (recorded (S := databaseSignature) (DbCall.exec c) call s).2

/-- The calls that change payloads or what is kept about them. -/
@[simp] def DbCall.bearsOnUsage : DbCall → Bool
  | .putBlobIfMatches .. | .putObjectIfMatches .. | .deleteObject .. => true
  | .hardDeleteNamespace _ | .setNamespaceUsage _ => true
  | .softDeleteNamespace .. | .restoreNamespace _ => true
  | _ => false

/-- What a call leaves that does not write snapshots: those that were written, and the tombstones
but for valid names. -/
structure KeepsUsages (c : Crates) (call : DbCall) (db : Db) : Prop where
  written : ∀ ns written, usageWritten ns written ⟨call, (call.exec c db).1⟩ = written
  usage : ∀ ns, (call.exec c db).2.getNamespaceUsage ns = db.getNamespaceUsage ns
  tombstones : db.TombstonesValid c → (call.exec c db).2.TombstonesValid c

theorem Settled.step {stale stale' : Option String} {s : Recorded} {call : DbCall}
    (h : Settled c stale s) (hkeeps : KeepsUsages c call s.1)
    (hpayloads : ∀ ns, ValidNamespaceName c ns → stale' ≠ some ns →
      stale ≠ some ns ∧ SamePayloads ns s.1 (call.exec c s.1).2) :
    Settled c stale' (s.after c call) where
  tombstones := hkeeps.tombstones h.tombstones
  current ns := by
    rw [Recorded.after, recorded, writtenUsages_snoc, hkeeps.written, ← h.current ns]
    exact hkeeps.usage ns
  successive ns := by
    rw [Recorded.after, recorded, writtenUsages_snoc, hkeeps.written]
    exact h.successive ns
  valid ns hns := by
    apply h.valid ns
    rw [← hkeeps.usage ns]
    exact hns
  observed ns hns usage husage := by
    have husage : usage ∈ s.1.getNamespaceUsage ns := (hkeeps.usage ns) ▸ husage
    have hvalid := h.valid ns (by rw [Option.mem_def.mp husage]; simp)
    obtain ⟨hstale, hsame⟩ := hpayloads ns hvalid hns
    exact (h.observed ns hstale usage husage).congr hsame

section Steps
variable {stale : Option String} {s : Recorded} {ns : String} {call : DbCall}

/-- Snapshots are written by a refresh and taken away by a purge. -/
theorem namespaceUsage_exec (hrefresh : ∀ usage, call ≠ .setNamespaceUsage usage)
    (hpurge : ∀ ns, call ≠ .hardDeleteNamespace ns) (db : Db) :
    (call.exec c db).2.namespaceUsage = db.namespaceUsage := by
  cases call with
  | setNamespaceUsage usage => exact absurd rfl (hrefresh usage)
  | hardDeleteNamespace ns => exact absurd rfl (hpurge ns)
  | putObjectIfMatches ns path expectedEtag requireAbsent data m =>
    rcases putObjectIfMatches_cases db ns path expectedEtag requireAbsent data m with
      ⟨message, h⟩ | ⟨_, h⟩ <;>
    · simp only [DbCall.exec, h]
  | putBlobIfMatches ns expectedEtag requireAbsent blob m =>
    rcases putBlobIfMatches_cases db ns expectedEtag requireAbsent blob m with
      ⟨message, h⟩ | ⟨revision, message, h⟩ | ⟨_, h⟩ <;>
    · simp only [DbCall.exec, h]
  | recordTokenUsage id ns permission clientIp clientVersion observedAt =>
    obtain ⟨tokens, devices, h⟩ :=
      db.recordTokenUsage_eq id ns permission clientIp clientVersion observedAt
    rw [DbCall.exec, h]
  | recordTokenFailure id =>
    obtain ⟨tokens, h⟩ := db.recordTokenFailure_eq id
    rw [DbCall.exec, h]
  | _ => rfl

theorem keepsUsages (hrefresh : ∀ usage, call ≠ .setNamespaceUsage usage)
    (hpurge : ∀ ns, call ≠ .hardDeleteNamespace ns) (hburies : call.BuriesValid c) (db : Db) :
    KeepsUsages c call db where
  written ns written := by
    cases call with
    | setNamespaceUsage usage => exact absurd rfl (hrefresh usage)
    | hardDeleteNamespace ns => exact absurd rfl (hpurge ns)
    | _ => rfl
  usage ns := congrArg (fun t : Table NamespaceUsageRecord => t[namespaceUsageKey ns]?)
    (namespaceUsage_exec hrefresh hpurge db)
  tombstones h := TombstonesValid.exec hburies h

/-- The payload tables change through the calls that bear on the usage only. -/
theorem samePayloads_exec (hcall : call.bearsOnUsage = false) (ns : String) (db : Db) :
    SamePayloads ns db (call.exec c db).2 := by
  cases call with
  | putBlobIfMatches | putObjectIfMatches | deleteObject => cases hcall
  | hardDeleteNamespace | setNamespaceUsage | softDeleteNamespace | restoreNamespace => cases hcall
  | recordTokenUsage id ns permission clientIp clientVersion observedAt =>
    obtain ⟨tokens, devices, h⟩ :=
      db.recordTokenUsage_eq id ns permission clientIp clientVersion observedAt
    rw [DbCall.exec, h]
    exact ⟨rfl, fun _ => rfl⟩
  | recordTokenFailure id =>
    obtain ⟨tokens, h⟩ := db.recordTokenFailure_eq id
    rw [DbCall.exec, h]
    exact ⟨rfl, fun _ => rfl⟩
  | _ => exact ⟨rfl, fun _ => rfl⟩

theorem Settled.quiet (h : Settled c stale s) (hcall : call.bearsOnUsage = false) :
    Settled c stale (s.after c call) := by
  apply h.step
  · apply keepsUsages
    · rintro usage rfl
      cases hcall
    · rintro ns rfl
      cases hcall
    · apply buriesValid_of_buries
      cases call with
      | softDeleteNamespace => cases hcall
      | _ => rfl
  · intro ns _ hns
    exact ⟨hns, samePayloads_exec hcall ns s.1⟩

/-- A write to a valid name leaves the payloads of the others. -/
theorem samePayloads_write {n : String} (hns : ValidNamespaceName c ns) (hn : ValidNamespaceName c n)
    (htarget : call.contentTarget = some ns) (hne : ns ≠ n) (db : Db) :
    SamePayloads n db (call.exec c db).2 := by
  have hvalid : ∀ ns' ∈ call.contentTarget, ValidNamespaceName c ns' := by
    intro ns' hns'
    rw [htarget] at hns'
    exact Option.some.inj hns' ▸ hns
  rcases contents_step hn (Effect.commit call db) hvalid with h | h | ⟨purged, h, _⟩
  · exact h.payloads
  · have hwritten := contentTarget_of_written h
    rw [htarget] at hwritten
    exact absurd (Option.some.inj hwritten) hne
  · obtain ⟨rfl, -⟩ := Sigma.mk.inj h
    cases htarget

theorem keepsUsages_write (htarget : call.contentTarget = some ns) (db : Db) : KeepsUsages c call db := by
  apply keepsUsages
  · rintro usage rfl
    cases htarget
  · rintro ns rfl
    cases htarget
  · apply buriesValid_of_buries
    cases call with
    | softDeleteNamespace => cases htarget
    | _ => rfl

theorem Settled.write (h : Settled c none s) (hns : ValidNamespaceName c ns)
    (htarget : call.contentTarget = some ns) : Settled c (some ns) (s.after c call) := by
  apply h.step (keepsUsages_write htarget s.1)
  intro n hn hne
  exact ⟨nofun, samePayloads_write hns hn htarget (fun heq => hne (congrArg some heq)) s.1⟩

/-- A write that is refused or finds nothing to delete. -/
theorem Settled.unwritten (h : Settled c none s) (hns : ValidNamespaceName c ns)
    (htarget : call.contentTarget = some ns) (hsame : SamePayloads ns s.1 (call.exec c s.1).2) :
    Settled c none (s.after c call) := by
  apply h.step (keepsUsages_write htarget s.1)
  intro n hn _
  refine ⟨nofun, ?_⟩
  by_cases heq : ns = n
  · rw [← heq]
    exact hsame
  · exact samePayloads_write hns hn htarget heq s.1

theorem Settled.softDelete (h : Settled c stale s) (hns : ValidNamespaceName c ns) (deletedAt : String) :
    Settled c stale (s.after c (.softDeleteNamespace ns deletedAt)) := by
  have hkeeps : KeepsUsages c (.softDeleteNamespace ns deletedAt) s.1 :=
    keepsUsages (by simp) (by simp) (fun _ h => Option.some.inj h ▸ hns) s.1
  apply h.step hkeeps
  intro _ _ hfresh
  exact ⟨hfresh, rfl, fun _ => rfl⟩

theorem Settled.restore (h : Settled c stale s) (ns : String) :
    Settled c stale (s.after c (.restoreNamespace ns)) := by
  have hkeeps : KeepsUsages c (.restoreNamespace ns) s.1 :=
    keepsUsages (by simp) (by simp) (buriesValid_of_buries rfl) s.1
  apply h.step hkeeps
  intro _ _ hfresh
  exact ⟨hfresh, rfl, fun _ => rfl⟩

theorem getNamespaceUsage_purged (db : Db) (n ns : String) :
    (db.hardDeleteNamespace n).getNamespaceUsage ns =
      if n = ns then none else db.getNamespaceUsage ns := by
  simp only [Db.getNamespaceUsage, Db.hardDeleteNamespace, Table.get_erase,
    namespaceUsageKey_injective.eq_iff]

theorem writtenUsages_purged (s : Recorded) (n ns : String) :
    writtenUsages ns (s.after c (.hardDeleteNamespace n)).2 =
      if n = ns then [] else writtenUsages ns s.2 := List.foldl_concat ..

theorem Settled.purge (h : Settled c none s) (hns : ValidNamespaceName c ns) :
    Settled c none (s.after c (.hardDeleteNamespace ns)) where
  tombstones := TombstonesValid.exec (buriesValid_of_buries rfl) h.tombstones
  current n := by
    rw [writtenUsages_purged]
    refine (getNamespaceUsage_purged s.1 ns n).trans ?_
    by_cases hsame : ns = n
    · rw [if_pos hsame, if_pos hsame, List.getLast?_nil]
    · rw [if_neg hsame, if_neg hsame, h.current n]
  successive n := by
    rw [writtenUsages_purged]
    by_cases hsame : ns = n
    · rw [if_pos hsame]
      exact .nil
    · rw [if_neg hsame]
      exact h.successive n
  valid n hn := by
    apply h.valid n
    intro hnone
    apply hn
    refine (getNamespaceUsage_purged s.1 ns n).trans ?_
    rw [hnone, ite_self]
  observed n _ usage husage := by
    have husage : usage ∈ (s.1.hardDeleteNamespace ns).getNamespaceUsage n := husage
    rw [getNamespaceUsage_purged] at husage
    by_cases hsame : ns = n
    · rw [if_pos hsame] at husage
      cases husage
    · rw [if_neg hsame] at husage
      have hn := h.valid n (by rw [Option.mem_def.mp husage]; simp)
      have hreach : OutOfReach ns n s.1 := by
        intro q rest hlonger
        refine absurd ?_ (slash_notMem hns)
        rw [hlonger]
        simp [toList_separator]
      have hrows := (sameRows_hardDelete_iff hn (Ne.symm hsame) s.1).mpr hreach
      exact (h.observed n nofun usage husage).congr hrows.toSameContents.payloads

theorem getNamespaceUsage_refreshed (db : Db) (usage : NamespaceUsageRecord) (ns : String) :
    (db.setNamespaceUsage usage).getNamespaceUsage ns =
      if usage.namespace = ns then some usage else db.getNamespaceUsage ns := by
  simp only [Db.getNamespaceUsage, Db.setNamespaceUsage, Table.get_insert,
    namespaceUsageKey_injective.eq_iff]

theorem writtenUsages_refreshed (s : Recorded) (usage : NamespaceUsageRecord) (ns : String) :
    writtenUsages ns (s.after c (.setNamespaceUsage usage)).2 =
      if usage.namespace = ns then writtenUsages ns s.2 ++ [usage] else writtenUsages ns s.2 :=
  List.foldl_concat ..

theorem Settled.refresh {usage : NamespaceUsageRecord} (h : Settled c (some usage.namespace) s)
    (hns : ValidNamespaceName c usage.namespace) (hobserves : s.1.Observes c usage.namespace usage)
    (hgrowth : usage.growthBytes = max i64Min (min i64Max ((usage.totalBytes : Int) -
      ((s.1.getNamespaceUsage usage.namespace).elim usage.totalBytes (·.totalBytes) : Nat)))) :
    Settled c none (s.after c (.setNamespaceUsage usage)) where
  tombstones := TombstonesValid.exec (buriesValid_of_buries rfl) h.tombstones
  current n := by
    rw [writtenUsages_refreshed]
    refine (getNamespaceUsage_refreshed s.1 usage n).trans ?_
    by_cases hsame : usage.namespace = n
    · rw [if_pos hsame, if_pos hsame, List.getLast?_concat]
    · rw [if_neg hsame, if_neg hsame, h.current n]
  successive n := by
    rw [writtenUsages_refreshed]
    by_cases hsame : usage.namespace = n
    · rw [if_pos hsame]
      refine .snoc (h.successive n) ?_
      rw [hgrowth, hsame, h.current n]
      cases (writtenUsages n s.2).getLast? <;> rfl
    · rw [if_neg hsame]
      exact h.successive n
  valid n hn := by
    by_cases hsame : usage.namespace = n
    · exact hsame ▸ hns
    · apply h.valid n
      intro hnone
      apply hn
      refine (getNamespaceUsage_refreshed s.1 usage n).trans ?_
      rw [if_neg hsame, hnone]
  observed n _ stored hstored := by
    have hstored : stored ∈ (s.1.setNamespaceUsage usage).getNamespaceUsage n := hstored
    rw [getNamespaceUsage_refreshed] at hstored
    by_cases hsame : usage.namespace = n
    · rw [if_pos hsame] at hstored
      obtain rfl := Option.some.inj hstored
      exact hsame ▸ hobserves.congr ⟨rfl, fun _ => rfl⟩
    · rw [if_neg hsame] at hstored
      have hstale : some usage.namespace ≠ some n := fun heq => hsame (Option.some.inj heq)
      exact (h.observed n hstale stored hstored).congr ⟨rfl, fun _ => rfl⟩

end Steps
/-! ## The handlers -/

/-- Alone on the store, the program leaves the snapshots up to date. -/
def KeepsSettled (c : Crates) {α : Type} (x : Handler α) (s : Recorded) : Prop :=
  Leaves (recorded (S := databaseSignature) (DbCall.exec c)) x s (fun _ => Settled c none)
    fun _ => Settled c none

section Rules
variable {α β : Type} {s : Recorded}

theorem leaves_made {call : DbCall} {ok : call.Out → Recorded → Prop} {err : AppError → Recorded → Prop} :
    Leaves (α := no_index call.Out) (recorded (S := databaseSignature) (DbCall.exec c)) (db call) s ok err ↔
      ok (call.exec c s.1).1 (s.after c call) := .rfl

theorem keepsSettled_quiet {x : Handler α} (hx : Calls (fun call : DbCall => call.bearsOnUsage = false) x)
    (h : Settled c none s) : KeepsSettled c x s :=
  hx.leaves (fun _ _ hcall hs => hs.quiet hcall) h

theorem keepsSettled_skip {x : Handler α} {f : α → Handler β}
    (hx : Calls (fun call : DbCall => call.bearsOnUsage = false) x) (h : Settled c none s)
    (hf : ∀ a s', Settled c none s' → KeepsSettled c (f a) s') : KeepsSettled c (x >>= f) s := by
  apply (leaves_bind x f).mpr
  exact (keepsSettled_quiet hx h).mono hf fun _ _ hs => hs

theorem keepsSettled_result {x : Except AppError α} {f : α → Handler β} (h : Settled c none s)
    (hf : ∀ a, x = .ok a → KeepsSettled c (f a) s) : KeepsSettled c (liftResult x >>= f) s := by
  apply (leaves_bind _ f).mpr
  rw [leaves_liftResult]
  exact ⟨hf, fun _ _ => h⟩

theorem keepsSettled_then {x : Handler α} {f : α → Handler β} (hx : KeepsSettled c x s)
    (hf : ∀ a s', Settled c none s' → KeepsSettled c (f a) s') : KeepsSettled c (x >>= f) s := by
  apply (leaves_bind x f).mpr
  exact hx.mono hf fun _ _ hs => hs

end Rules

section Refresh
variable {s : Recorded} {ns : String}

theorem refreshNamespaceUsage_keepsSettled {err : String → Recorded → Prop} (hns : ValidNamespaceName c ns)
    (h : Settled c (some ns) s) (observedAt : String) (softDeleted : Bool) :
    Leaves (recorded (S := databaseSignature) (DbCall.exec c))
      (refreshNamespaceUsage ns observedAt softDeleted) s (fun _ => Settled c none) err := by
  have hread : Settled c (some ns) (((s.after c (.blobSize ns)).after c (.namespaceObjectStats ns)).after c
      (.getNamespaceUsage ns)) := ((h.quiet rfl).quiet rfl).quiet rfl
  exact hread.refresh hns ⟨rfl, rfl, rfl, rfl⟩ rfl

theorem refreshUsageAfterWrite_keepsSettled (hinterval : state.usageRefreshIntervalSeconds ≤ 0)
    (hns : ValidNamespaceName c ns) (h : Settled c (some ns) s) (now : Instant) :
    KeepsSettled c (refreshUsageAfterWrite c state ns now) s := by
  apply (leaves_bind _ _).mpr
  refine (leaves_mapError _ _).mpr ?_
  unfold refreshNamespaceUsageIfStale
  rw [if_neg (not_lt.mpr hinterval)]
  exact (leaves_map _ _).mpr (refreshNamespaceUsage_keepsSettled hns h _ _)

end Refresh

section Writers
variable {s : Recorded} (peer : IpAddr) (headers : HeaderMap)

theorem refreshed_keepsSettled {α : Type} {ns : String} {a : α}
    (hinterval : state.usageRefreshIntervalSeconds ≤ 0) (hns : ValidNamespaceName c ns) (h : Settled c (some ns) s) (now : Instant) :
    KeepsSettled c (do refreshUsageAfterWrite c state ns now; pure a) s :=
  keepsSettled_then (refreshUsageAfterWrite_keepsSettled hinterval hns h now) fun _ _ hs => hs

theorem authorize_quiet (ns : String) (permission : SyncPermission) :
    Calls (fun call : DbCall => call.bearsOnUsage = false)
      (authorizeSyncRequestWithPermission c state amb headers ns permission peer) :=
  authorize_reads (by simp) (by simp) _ _ _ _ (by simp) (by simp) (by simp)

theorem putMetadata_keepsSettled (hinterval : state.usageRefreshIntervalSeconds ≤ 0) (h : Settled c none s)
    (rawNs : String) (body : MetadataWriteRequest) :
    KeepsSettled c (putMetadata c state amb rawNs peer headers body) s := by
  refine keepsSettled_result h fun ns hns => keepsSettled_skip (authorize_quiet peer headers ns _) h fun _ s h =>
    keepsSettled_skip (ensureDiskCapacity_calls _ _) h fun _ s h =>
    keepsSettled_skip (by simp) h fun row s h => keepsSettled_skip (by simp) h fun _ s h => ?_
  exact refreshed_keepsSettled hinterval (decodeNamespace_valid hns) (h.weaken _) _

theorem leaves_conditionally {ok : Except ConditionalWriteError Unit → Recorded → Prop}
    {err : AppError → Recorded → Prop} (write : DbProgram (Except ConditionalWriteError Unit)) :
    Leaves (recorded (S := databaseSignature) (DbCall.exec c)) (conditionally write) s ok err ↔
      Leaves (recorded (S := databaseSignature) (DbCall.exec c)) write s ok
        fun e => ok (.error (.storage e)) := by
  rw [conditionally, leaves_bind, leaves_attempt]
  rfl

/-- What a conditional write in `ns` may leave. -/
def WrittenOrNot (c : Crates) (ns : String) (result : Except ConditionalWriteError Unit) (s : Recorded) :
    Prop :=
  match result with
  | .ok _ => Settled c (some ns) s
  | .error _ => Settled c none s

/-- A refused write leaves the payloads, an accepted one is followed by a refresh. -/
theorem written_keepsSettled {α : Type} {ns : String} (hinterval : state.usageRefreshIntervalSeconds ≤ 0)
    (hns : ValidNamespaceName c ns) (result : Except ConditionalWriteError Unit)
    (observation : ConflictObservation) (now : Instant) (a : α) :
    WrittenOrNot c ns result s → KeepsSettled c (match result with
      | .error error => do
        recordConditionalWriteConflict c state amb observation error
        throw (mapConditionalWriteError error)
      | .ok () => do
        refreshUsageAfterWrite c state ns now
        pure a : Handler α) s := by
  intro h
  cases result with
  | error e =>
    refine keepsSettled_skip ?_ h fun _ _ hs => hs
    unfold recordConditionalWriteConflict
    refine .ite (by simp) ?_
    cases e <;> simp
  | ok _ => exact refreshed_keepsSettled hinterval hns h now

theorem putBlobIfMatches_leaves {ns : String} (hns : ValidNamespaceName c ns) (h : Settled c none s)
    (expectedEtag : Option String) (requireAbsent : Bool) (blob : Bytes) (m : SyncMetadata) :
    WrittenOrNot c ns ((DbCall.putBlobIfMatches ns expectedEtag requireAbsent blob m).exec c s.1).1
      (s.after c (.putBlobIfMatches ns expectedEtag requireAbsent blob m)) := by
  have hrefused {e : ConditionalWriteError}
      (hcall : s.1.putBlobIfMatches ns expectedEtag requireAbsent blob m = (.error e, s.1)) :
      Settled c none (s.after c (.putBlobIfMatches ns expectedEtag requireAbsent blob m)) := by
    apply h.unwritten hns rfl
    rw [DbCall.exec, hcall]
    exact ⟨rfl, fun _ => rfl⟩
  rcases putBlobIfMatches_cases s.1 ns expectedEtag requireAbsent blob m with
    ⟨message, hcall⟩ | ⟨revision, message, hcall⟩ | ⟨_, hcall⟩
  · rw [DbCall.exec, hcall]
    exact hrefused hcall
  · rw [DbCall.exec, hcall]
    exact hrefused hcall
  · rw [DbCall.exec, hcall]
    exact h.write hns rfl

theorem putObjectIfMatches_leaves {ns : String} (hns : ValidNamespaceName c ns) (h : Settled c none s)
    (path : String) (expectedEtag : Option String) (requireAbsent : Bool) (data : Bytes)
    (m : StoredObjectMetadata) :
    WrittenOrNot c ns ((DbCall.putObjectIfMatches ns path expectedEtag requireAbsent data m).exec c s.1).1
      (s.after c (.putObjectIfMatches ns path expectedEtag requireAbsent data m)) := by
  rcases putObjectIfMatches_cases s.1 ns path expectedEtag requireAbsent data m with
    ⟨message, hcall⟩ | ⟨_, hcall⟩
  · have hsame : SamePayloads ns s.1
        ((DbCall.putObjectIfMatches ns path expectedEtag requireAbsent data m).exec c s.1).2 := by
      rw [DbCall.exec, hcall]
      exact ⟨rfl, fun _ => rfl⟩
    have hs := h.unwritten hns rfl hsame
    rw [DbCall.exec, hcall]
    exact hs
  · rw [DbCall.exec, hcall]
    exact h.write hns rfl

theorem putBlob_keepsSettled (hinterval : state.usageRefreshIntervalSeconds ≤ 0) (h : Settled c none s)
    (rawNs : String) (sectionRevisions : Option SectionRevisions) (body : Bytes) :
    KeepsSettled c (putBlob c state amb rawNs peer headers sectionRevisions body) s := by
  refine keepsSettled_result h fun ns hns => keepsSettled_skip (authorize_quiet peer headers ns _) h fun _ s h =>
    keepsSettled_skip (by simp) h fun _ s h => keepsSettled_skip (ensureDiskCapacity_calls _ _) h fun _ s h =>
    keepsSettled_skip (by simp) h fun row s h => keepsSettled_skip (by simp) h fun encrypted s h => ?_
  have hvalid := decodeNamespace_valid hns
  apply (leaves_bind _ _).mpr
  refine (leaves_conditionally _).mpr ?_
  exact written_keepsSettled hinterval hvalid _ _ _ _ (putBlobIfMatches_leaves hvalid h _ _ _ _)

theorem putObject_keepsSettled (hinterval : state.usageRefreshIntervalSeconds ≤ 0) (h : Settled c none s)
    (rawNs rawPath : String) (body : Bytes) :
    KeepsSettled c (putObject c state amb rawNs rawPath peer headers body) s := by
  refine keepsSettled_result h fun ns hns => keepsSettled_skip (authorize_quiet peer headers ns _) h fun _ s h =>
    keepsSettled_skip (by simp) h fun path s h => keepsSettled_skip (by simp) h fun _ s h =>
    keepsSettled_skip (ensureDiskCapacity_calls _ _) h fun _ s h =>
    keepsSettled_skip (by simp) h fun encrypted s h => ?_
  have hvalid := decodeNamespace_valid hns
  apply (leaves_bind _ _).mpr
  refine (leaves_conditionally _).mpr ?_
  exact written_keepsSettled hinterval hvalid _ _ _ _ (putObjectIfMatches_leaves hvalid h _ _ _ _ _)

theorem deleteObject_keepsSettled (hinterval : state.usageRefreshIntervalSeconds ≤ 0) (h : Settled c none s)
    (rawNs rawPath : String) : KeepsSettled c (deleteObject c state amb rawNs rawPath peer headers) s := by
  refine keepsSettled_result h fun ns hns => keepsSettled_skip (authorize_quiet peer headers ns _) h fun _ s h =>
    keepsSettled_skip (by simp) h fun path s h => ?_
  have hvalid := decodeNamespace_valid hns
  apply (leaves_bind _ _).mpr
  rw [leaves_made]
  refine (leaves_runIf _ _).mpr ⟨fun _ => ?_, fun hmissing => ?_⟩
  · exact refreshUsageAfterWrite_keepsSettled hinterval hvalid (h.write hvalid rfl) _
  · -- There was nothing at the path, so no object has gone.
    have hnone : s.1.getObject ns path = none :=
      Option.isNone_iff_eq_none.mp (Option.isSome_eq_false_iff.mp hmissing)
    refine h.unwritten hvalid rfl ⟨rfl, fun other => ?_⟩
    simp only [DbCall.exec, Db.deleteObject, Db.getObject, Table.get_erase]
    split
    · rename_i hkey
      rw [← hkey]
      exact hnone.symm
    · rfl

theorem adminDeleteNamespace_keepsSettled {ns : String} (hns : ValidNamespaceName c ns)
    (h : Settled c none s) (hard : Option Bool) :
    KeepsSettled c (adminDeleteNamespace c state amb ns hard headers) s := by
  refine keepsSettled_skip (verifyAdminMutation_reads (by simp) ..) h fun _ s h => ?_
  cases hard.getD false with
  | true =>
    apply (leaves_bind _ _).mpr
    rw [leaves_made]
    exact h.purge hns
  | false =>
    refine keepsSettled_skip (by simp) h fun _ s h => keepsSettled_skip (by simp) h fun _ s h =>
      keepsSettled_skip (by simp) h fun row s h => keepsSettled_skip ?_ h fun _ s h =>
      keepsSettled_skip (ensureDiskCapacity_calls _ _) h fun _ s h => ?_
    · exact calls_runIf.mpr fun _ => .bind (by simp) fun _ => by simp
    have hburied := h.softDelete hns (c.toRfc3339 (amb.now 1))
    apply (leaves_bind _ _).mpr
    rw [leaves_made]
    apply (leaves_bind _ _).mpr
    exact (leaves_mapError _ _).mpr (refreshNamespaceUsage_keepsSettled hns (hburied.weaken _) _ _)

theorem adminRestoreNamespace_keepsSettled (h : Settled c none s) (ns : String) :
    KeepsSettled c (adminRestoreNamespace c state amb ns headers) s := by
  refine keepsSettled_skip (verifyAdminMutation_reads (by simp) ..) h fun _ s h =>
    keepsSettled_skip (ensureDiskCapacity_calls _ _) h fun _ s h => ?_
  apply (leaves_bind _ _).mpr
  rw [leaves_made]
  have hlook : Settled c none (s.after c (.isNamespaceDeleted ns)) := h.quiet rfl
  apply (leaves_bind _ _).mpr
  refine (leaves_ensure _ _).mpr ⟨fun hdeleted => ?_, fun _ => hlook⟩
  have hns := h.tombstones ns hdeleted
  have hrestored := hlook.restore ns
  apply (leaves_bind _ _).mpr
  rw [leaves_made]
  apply (leaves_bind _ _).mpr
  exact (leaves_mapError _ _).mpr (refreshNamespaceUsage_keepsSettled hns (hrestored.weaken _) _ _)

end Writers
/-! ## Every request -/

section Requests
variable {s : Recorded}

theorem quiet_of_panel {area : Option Area} (harea : area ≠ some .data) {call : DbCall}
    (h : PanelCall area call) : call.bearsOnUsage = false := by
  cases call <;> simp_all [Ne.symm]

theorem getMetadata_quiet (ns : String) (peer : IpAddr) (headers : HeaderMap) :
    Calls (fun call : DbCall => call.bearsOnUsage = false) (getMetadata c state amb ns peer headers) :=
  .bind (by simp) fun _ => .bind (authorize_quiet ..) fun _ => .bind (by simp) fun row => by
    cases row <;> simp

theorem getBlob_quiet (ns : String) (peer : IpAddr) (headers : HeaderMap) :
    Calls (fun call : DbCall => call.bearsOnUsage = false) (getBlob c state amb ns peer headers) :=
  .bind (by simp) fun _ => .bind (authorize_quiet ..) fun _ => .bind (by simp) fun _ =>
    .bind (by simp) fun _ => .bind (by simp) fun _ => .bind (by simp) fun _ => by simp

theorem getObject_quiet (ns path : String) (peer : IpAddr) (headers : HeaderMap) :
    Calls (fun call : DbCall => call.bearsOnUsage = false) (getObject c state amb ns path peer headers) := by
  refine .bind (by simp) fun _ => .bind (authorize_quiet ..) fun _ => .bind (by simp) fun _ =>
    .bind (by simp) fun stored => ?_
  cases stored with
  | none => trivial
  | some encrypted => exact .bind (by simp) fun _ => .bind (by simp) fun _ => by simp

theorem namespaceInfo_quiet (ns : String) (deleted : Option DeletedNamespaceRecord) :
    Calls (fun call : DbCall => call.bearsOnUsage = false) (namespaceInfo c ns deleted) :=
  .bind (by simp) fun _ => .bind (by simp) fun _ => .bind (by simp) fun _ => .bind (by simp) fun _ =>
    by simp

theorem adminListNamespaces_quiet (headers : HeaderMap) :
    Calls (fun call : DbCall => call.bearsOnUsage = false) (adminListNamespaces c state amb headers) :=
  .bind (verifyAdmin_reads (by simp) ..) fun _ => .bind (by simp) fun _ =>
    .bind (calls_mapM (fun _ => namespaceInfo_quiet _ _) _) fun _ => .bind (by simp) fun _ =>
    .bind (calls_mapM (fun _ => namespaceInfo_quiet _ _) _) fun _ => by simp

theorem adminCreateNamespace_quiet (requested : String) (headers : HeaderMap) :
    Calls (fun call : DbCall => call.bearsOnUsage = false)
      (adminCreateNamespace c state amb headers requested) :=
  .bind (verifyAdminMutation_reads (by simp) ..) fun _ =>
    .bind (ensureDiskCapacity_calls _ _) fun _ => .bind (by simp) fun _ => .bind (by simp) fun _ =>
    .bind (by simp) fun _ => .bind (by simp) fun _ => .bind (by simp) fun _ => .bind (by simp) fun _ =>
    .bind (by simp) fun _ => .bind (by simp) fun _ => by simp

/-- The requests that read payloads, and the creation of an empty namespace. -/
theorem reads_quiet {r : Request} (hwrites : r.endpoint.area = some .data)
    (hwriter : r.endpoint.syncTarget.all fun target => target.2 = .read)
    (hdelete : ∀ ns hard, r.endpoint ≠ .adminDeleteNamespace ns hard) :
    Calls (fun call : DbCall => call.bearsOnUsage = false) (handle c state amb r) := by
  obtain ⟨endpoint, peer, headers⟩ := r
  cases endpoint with
  | getMetadata ns => exact .bind (getMetadata_quiet ..) fun _ => by simp
  | getBlob ns => exact .bind (getBlob_quiet ..) fun _ => by simp
  | getObject ns path => exact .bind (getObject_quiet ..) fun _ => by simp
  | adminListNamespaces => exact .bind (adminListNamespaces_quiet ..) fun _ => by simp
  | adminCreateNamespace ns => exact .bind (adminCreateNamespace_quiet ..) fun _ => by simp
  | adminDeleteNamespace ns hard => exact absurd rfl (hdelete ns hard)
  | _ => simp [Endpoint.area, Endpoint.syncTarget] at hwrites hwriter

theorem handle_keepsSettled {r : Request} (hinterval : state.usageRefreshIntervalSeconds ≤ 0)
    (hr : r.NamesValid c) (h : Settled c none s) : KeepsSettled c (handle c state amb r) s := by
  have hdone {α : Type} {wrap : α → Response} {x : Handler α} (hx : KeepsSettled c x s) :
      KeepsSettled c (do return wrap (← x)) s := keepsSettled_then hx fun _ _ hs => hs
  have hreads (hwrites : r.endpoint.area = some .data)
      (hwriter : r.endpoint.syncTarget.all fun target => target.2 = .read)
      (hdelete : ∀ ns hard, r.endpoint ≠ .adminDeleteNamespace ns hard) :
      KeepsSettled c (handle c state amb r) s := keepsSettled_quiet (reads_quiet hwrites hwriter hdelete) h
  have hpanel (hbooks : r.endpoint.leavesBooks = true) (harea : r.endpoint.area ≠ some .data) :
      KeepsSettled c (handle c state amb r) s :=
    keepsSettled_quiet (Program.Calls.mono (fun _ => quiet_of_panel harea) (handle_panel_calls r hbooks)) h
  obtain ⟨endpoint, peer, headers⟩ := r
  cases endpoint with
  | putMetadata ns body => exact hdone (putMetadata_keepsSettled peer headers hinterval h ns body)
  | putBlob ns sectionRevisions body =>
    exact hdone (putBlob_keepsSettled peer headers hinterval h ns sectionRevisions body)
  | putObject ns path body => exact hdone (putObject_keepsSettled peer headers hinterval h ns path body)
  | deleteObject ns path => exact hdone (deleteObject_keepsSettled peer headers hinterval h ns path)
  | adminDeleteNamespace ns hard =>
    exact hdone (adminDeleteNamespace_keepsSettled headers (hr ns hard rfl) h hard)
  | adminRestoreNamespace ns => exact hdone (adminRestoreNamespace_keepsSettled headers h ns)
  | getMetadata | getBlob | getObject => exact hreads rfl (by simp [Endpoint.syncTarget]) (by simp)
  | adminListNamespaces | adminCreateNamespace => exact hreads rfl rfl (by simp)
  | listObjects ns query =>
    refine hdone (keepsSettled_quiet ?_ h)
    exact .bind (by simp) fun _ => .bind (authorize_quiet ..) fun _ => .bind (by simp) fun _ =>
      .bind (by simp) fun _ => by simp
  | _ => exact hpanel rfl (by simp [Endpoint.area])

end Requests
/-- Every server refreshes at once, and the names are valid. -/
abbrev RefreshesAtOnce (c : Crates) (state : AppState) (r : Request) : Prop :=
  state.usageRefreshIntervalSeconds ≤ 0 ∧ r.NamesValid c

theorem InTurn.settled {s : Recorded} (h : InTurn c (RefreshesAtOnce c) s) : Settled c none s := by
  refine InTurn.invariant (J := Settled c none) settled_new ?_ ?_ h
  · intro db made user hs
    exact ⟨hs.1, hs.2, hs.3, hs.4, fun ns hns usage husage =>
      (hs.5 ns hns usage husage).congr ⟨rfl, fun _ => rfl⟩⟩
  · intro s state amb r _ hr hs
    have hkeeps : KeepsSettled c (handle c state amb r) s := handle_keepsSettled hr.1 hr.2 hs
    unfold KeepsSettled Leaves at hkeeps
    unfold serveRecorded
    split at hkeeps <;>
    · rename_i heq
      rw [heq]
      exact hkeeps

/-! ## Storage -/

section Storage
variable {db : Db} {s : Recorded}

/-- What the statistics count for a namespace. -/
def Db.countedBytes (c : Crates) (db : Db) (ns : String) : Nat :=
  (db.getNamespaceUsage ns).elim (saturatingAdd (db.blobSize ns) (db.namespaceObjectStats c ns).2.1)
    (·.totalBytes)

theorem alone_namespaceTotalBytes (ns : String) :
    (namespaceTotalBytes ns).alone (DbCall.exec c) db = (.ok (db.countedBytes c ns), db) := by
  unfold namespaceTotalBytes Db.countedBytes
  rw [alone_bind, alone_db]
  dsimp only [DbCall.exec]
  cases db.getNamespaceUsage ns with
  | none => rfl
  | some usage => rfl

theorem alone_adminStats {headers : HeaderMap} (h : Admitted c state amb headers db) :
    ∃ stats, (adminStats c state amb headers).alone (DbCall.exec c) db = (.ok stats, db) ∧
      stats.namespaceStorageBytes =
        ((db.listNamespaces ++ db.listDeletedNamespaces.map (·.1)).map (db.countedBytes c)).foldl
          saturatingAdd 0 := by
  unfold adminStats
  simp only [alone_bind, h.alone, alone_db, alone_attempt, alone_redb, DbCall.exec,
    alone_mapM _ alone_namespaceTotalBytes]
  exact ⟨_, rfl, rfl⟩

/-- Where no snapshot is out of date, they add up to the totals of the listing. -/
theorem storage_eq (hs : Settled c none s) :
    ((s.1.listNamespaces ++ s.1.listDeletedNamespaces.map (·.1)).map (s.1.countedBytes c)).foldl
        saturatingAdd 0 = min ((s.1.namespaceInfos c).map (·.totalBytes)).sum u64Max := by
  have hcounted (ns : String) :
      s.1.countedBytes c ns = saturatingAdd (s.1.blobSize ns) (s.1.namespaceObjectStats c ns).2.1 := by
    unfold Db.countedBytes
    cases husage : s.1.getNamespaceUsage ns with
    | none => rfl
    | some usage => exact (hs.observed ns nofun usage husage).totalBytes
  have htotals : ((s.1.namespaceInfos c).map (·.totalBytes)).Perm
      ((s.1.listNamespaces ++ s.1.listDeletedNamespaces.map (·.1)).map (s.1.countedBytes c)) := by
    have hentries : (s.1.listNamespaces ++ s.1.listDeletedNamespaces.map (·.1)).map (s.1.countedBytes c) =
        (s.1.listNamespaces.map (fun ns => s.1.infoOf c ns none) ++
          s.1.listDeletedNamespaces.map fun entry => s.1.infoOf c entry.1 (some entry.2)).map
            (·.totalBytes) := by
      rw [List.map_congr_left fun ns _ => hcounted ns]
      simp only [List.map_append, List.map_map]
      rfl
    rw [hentries]
    exact (List.mergeSort_perm _ _).map _
  rw [htotals.sum_eq, foldl_saturatingAdd (fun total => total) _ (Nat.zero_le _), List.map_id', Nat.zero_add]

end Storage

/-- The snapshot is what the rows of the namespace come to. -/
structure Db.UsageExact (db : Db) (ns : String) (usage : NamespaceUsageRecord) : Prop where
  blobBytes : usage.blobBytes = (db.getBlob ns).elim 0 List.length
  objectCount : usage.objectCount = (db.pathsWith ns "").length
  objectBytes : usage.objectBytes = min (db.objectBytes ns) u64Max
  totalBytes : usage.totalBytes = min (usage.blobBytes + db.objectBytes ns) u64Max

theorem Db.Observes.exact {db : Db} {ns : String} {usage : NamespaceUsageRecord}
    (h : db.Observes c ns usage) : db.UsageExact ns usage where
  blobBytes := h.blobBytes
  objectCount := h.objectCount.trans stats_count
  objectBytes := h.objectBytes.trans stats_bytes_min
  totalBytes := by
    rw [h.totalBytes, h.blobBytes, stats_bytes_min, saturatingAdd]
    omega

/-- Snapshots are exact, growths add up, and the statistics agree with the listing. -/
structure UsagesExact (c : Crates) (s : Recorded) : Prop where
  exact : ∀ ns usage, s.1.getNamespaceUsage ns = some usage → s.1.UsageExact ns usage
  current : ∀ ns, s.1.getNamespaceUsage ns = (writtenUsages ns s.2).getLast?
  grown : ∀ ns first last, (writtenUsages ns s.2).head? = some first →
    s.1.getNamespaceUsage ns = some last → (∀ usage ∈ writtenUsages ns s.2, usage.totalBytes < 2 ^ 63) →
      ((writtenUsages ns s.2).map (·.growthBytes)).sum = (last.totalBytes : Int) - first.totalBytes
  storage : ∀ state amb peer headers, Admitted c state amb headers s.1 →
    ∃ stats infos, serve c state amb ⟨.adminStats, peer, headers⟩ s.1 = (.ok (.stats stats), s.1) ∧
      serve c state amb ⟨.adminListNamespaces, peer, headers⟩ s.1 = (.ok (.namespaces infos), s.1) ∧
      stats.namespaceStorageBytes = min (infos.map (·.totalBytes)).sum u64Max

/-- Whatever requests came before, one after the other, on servers that refresh at once. -/
theorem usages_exactInTurn {s : Recorded} (h : InTurn c (RefreshesAtOnce c) s) : UsagesExact c s where
  exact ns usage husage := (h.settled.observed ns nofun usage husage).exact
  current := h.settled.current
  grown ns first last hfirst hlast hsmall := by
    apply (h.settled.successive ns).sum_growth ?_ (by decide) hfirst
    · rw [← h.settled.current ns, hlast]
    · intro usage husage
      have hlt := hsmall usage husage
      unfold i64Max
      omega
  storage state amb peer headers hadmin := by
    obtain ⟨stats, hstats, hstorage⟩ := alone_adminStats hadmin
    refine ⟨stats, s.1.namespaceInfos c, ?_, ?_, hstorage.trans (storage_eq h.settled)⟩
    · rw [serve]
      simp only [handle, alone_bind, hstats]
      rfl
    · rw [serve]
      simp only [handle, alone_bind, alone_adminListNamespaces hadmin]
      rfl

/-- Every write refreshes the usage. -/
def eagerState : AppState := { freshState with usageRefreshIntervalSeconds := 0 }

/-- An object and a snapshot are stored, the object goes again. -/
def usageTraffic : List Request :=
  [issueRequest "*" "write" none,
   issuedRequest (.putObject "work" "notes" [1, 2]) [],
   issuedRequest (.putBlob "work" none [3]) [],
   issuedRequest (.deleteObject "work" "notes") []]

theorem scripted_usageTraffic : usageTraffic.Forall Scripted :=
  ⟨.issue _ _ _, .issued _ _ rfl, .issued _ _ rfl, .issued _ _ rfl⟩

set_option maxRecDepth 10000 in
theorem usages_exactInTurn_shrunk :
    UsagesExact freshCrates (servedInTurn eagerState 0 usageTraffic (freshDb, [])) ∧
      (writtenUsages "work" (servedInTurn eagerState 0 usageTraffic (freshDb, [])).2).map (·.growthBytes) =
        [0, 1, -2] := by
  have hrequests : ∀ r ∈ usageTraffic, RefreshesAtOnce freshCrates eagerState r := by
    intro r hr
    refine ⟨le_rfl, fun ns hard hdelete => ?_⟩
    simp only [usageTraffic, List.mem_cons, List.not_mem_nil, or_false] at hr
    rcases hr with rfl | rfl | rfl | rfl <;> cases hdelete
  refine ⟨usages_exactInTurn (inTurn_freshDb.servedInTurn hrequests 0), ?_⟩
  rw [servedInTurn_short scripted_usageTraffic]
  decide +kernel

end CloudSync
