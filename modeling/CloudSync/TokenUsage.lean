import CloudSync.Accounting.Totals
import CloudSync.DeviceLinks
import CloudSync.SyncFrame

/-!
# Counting the use of a token

A sync request that finds its token is counted on it, as a read, a write or a refusal,
in a transaction of its own. Requests may come between each other at will: when they
have finished, each counter has grown by the number of the requests booked on it.
-/

namespace CloudSync

open Rust Redb Transactions Transactions.Fallible

set_option autoImplicit false

/-! ## What a request books -/

/-- The counters of a token. -/
inductive UsageCounter where
  | reads
  | writes
  | failures
  deriving DecidableEq

def SyncPermission.counter : SyncPermission → UsageCounter
  | .read => .reads
  | .write => .writes

structure Booking where
  tokenId : String
  counter : UsageCounter
  deriving DecidableEq

/-- The calls by which a request looks at its token and is counted on it. -/
def bookedCall : DbCall → Bool
  | .getToken _ | .recordTokenUsage .. | .recordTokenFailure _ => true
  | _ => false

def tokenFound (calls : RecordedCalls) : Option ApiToken :=
  calls.findSome? fun call =>
    match call with
    | ⟨.getToken _, .ok found⟩ => found
    | _ => none

/-- The counting itself failed: the request is answered with an error of the server. -/
def bookingFailed (calls : RecordedCalls) : Bool :=
  calls.any fun call =>
    match call with
    | ⟨.recordTokenUsage .., .error _⟩ | ⟨.recordTokenFailure _, .error _⟩ => true
    | _ => false

/-- The token that the request was checked against, and the counter that the outcome belongs on. -/
def Request.booking (c : Crates) (amb : Ambient) (r : Request) (calls : RecordedCalls) :
    Option Booking :=
  match r.endpoint.syncTarget with
  | none => none
  | some (rawNs, permission) =>
    match decodeNamespace c rawNs, tokenFound calls with
    | .ok ns, some token =>
      if bookingFailed calls then none
      else match checkToken c amb token ns permission with
        | .ok () => some ⟨token.id, permission.counter⟩
        | .error _ => some ⟨token.id, .failures⟩
    | _, _ => none

/-- The committed calls that raise the counter. -/
def Booking.raisedBy (booking : Booking) (call : databaseSignature.Call) : Bool :=
  match call with
  | ⟨.recordTokenUsage id _ permission _ _ _, .ok _⟩ =>
    id == booking.tokenId && match booking.counter with
      | .reads => permission == "read"
      | .writes => permission == "write"
      | .failures => false
  | ⟨.recordTokenFailure id, .ok _⟩ => id == booking.tokenId && booking.counter == .failures
  | _ => false

/-- The request has raised the counter it is booked on, once, and no other. -/
def CountedOnce (c : Crates) (amb : Ambient) (r : Request) (calls : RecordedCalls) : Prop :=
  ∀ booking : Booking,
    calls.countP booking.raisedBy = if r.booking c amb calls = some booking then 1 else 0

abbrev bookedMonitor : Monitor databaseSignature := recording bookedCall fun _ _ => True

variable {c : Crates} {state : AppState} {amb : Ambient} {r : Request}

theorem bookedCall_of_raisedBy {booking : Booking} {call : databaseSignature.Call}
    (h : booking.raisedBy call = true) : bookedCall call.1 = true := by
  unfold Booking.raisedBy at h
  split at h
  · rfl
  · rfl
  · cases h

theorem booking_of_lost {calls : RecordedCalls} (hlost : tokenFound calls = none) :
    r.booking c amb calls = none := by
  unfold Request.booking
  rw [hlost]
  cases r.endpoint.syncTarget with
  | none => rfl
  | some target =>
    obtain ⟨rawNs, permission⟩ := target
    dsimp only
    cases decodeNamespace c rawNs <;> rfl

theorem countedOnce_of_none {calls : RecordedCalls}
    (hraised : ∀ booking : Booking, ∀ call ∈ calls, booking.raisedBy call = false)
    (hbooking : r.booking c amb calls = none) : CountedOnce c amb r calls := by
  intro booking
  have hzero : calls.countP booking.raisedBy = 0 :=
    List.countP_eq_zero.mpr fun call hcall => by simp [hraised booking call hcall]
  rw [hzero, hbooking]
  rfl

theorem countedOnce_nil : CountedOnce c amb r [] := by
  apply countedOnce_of_none
  · intro booking call hcall
    cases hcall
  · exact booking_of_lost rfl

/-- The token was looked up in vain. -/
theorem countedOnce_lost (id : String) {reply : databaseSignature.Reply (.getToken id)}
    (hreply : ∀ token, reply ≠ .ok (some token)) :
    CountedOnce c amb r [⟨.getToken id, reply⟩] := by
  apply countedOnce_of_none
  · intro booking call hcall
    obtain rfl := List.mem_singleton.mp hcall
    rfl
  · apply booking_of_lost
    cases reply with
    | error e => rfl
    | ok found =>
      cases found with
      | none => rfl
      | some token => exact absurd rfl (hreply token)

section Sync
variable {rawNs ns : String} {permission : SyncPermission}

theorem booking_eq (hr : r.endpoint.syncTarget = some (rawNs, permission))
    (hns : decodeNamespace c rawNs = .ok ns) (calls : RecordedCalls) :
    r.booking c amb calls = match tokenFound calls with
      | none => none
      | some token =>
        if bookingFailed calls then none
        else match checkToken c amb token ns permission with
          | .ok () => some ⟨token.id, permission.counter⟩
          | .error _ => some ⟨token.id, .failures⟩ := by
  unfold Request.booking
  rw [hr]
  dsimp only
  rw [hns]
  cases tokenFound calls <;> rfl

/-- A token was found and the outcome was counted on it. -/
theorem countedOnce_used (hr : r.endpoint.syncTarget = some (rawNs, permission))
    (hns : decodeNamespace c rawNs = .ok ns) {id : String} {token : ApiToken}
    (hcheck : checkToken c amb token ns permission = .ok ()) {clientIp : String}
    {clientVersion : Option String} {observedAt : String}
    (reply : databaseSignature.Reply
      (.recordTokenUsage token.id ns permission.asStr clientIp clientVersion observedAt)) :
    CountedOnce c amb r [⟨.getToken id, .ok (some token)⟩,
      ⟨.recordTokenUsage token.id ns permission.asStr clientIp clientVersion observedAt, reply⟩] := by
  intro booking
  rw [booking_eq hr hns]
  obtain ⟨tokenId, counter⟩ := booking
  cases reply with
  | error e => rfl
  | ok out =>
    simp only [tokenFound, List.findSome?_cons, hcheck]
    cases permission <;> cases counter <;>
      simp [bookingFailed, Booking.raisedBy, SyncPermission.asStr, SyncPermission.counter,
        List.countP_cons]

theorem countedOnce_refused (hr : r.endpoint.syncTarget = some (rawNs, permission))
    (hns : decodeNamespace c rawNs = .ok ns) {id : String} {token : ApiToken} {e : AppError}
    (hcheck : checkToken c amb token ns permission = .error e)
    (reply : databaseSignature.Reply (.recordTokenFailure token.id)) :
    CountedOnce c amb r [⟨.getToken id, .ok (some token)⟩, ⟨.recordTokenFailure token.id, reply⟩] := by
  intro booking
  rw [booking_eq hr hns]
  obtain ⟨tokenId, counter⟩ := booking
  cases reply with
  | error e => rfl
  | ok out =>
    simp only [tokenFound, List.findSome?_cons, hcheck]
    cases counter <;> simp [bookingFailed, Booking.raisedBy, List.countP_cons]

/-- With the interval at 0, an authorization that finds a token counts its outcome. -/
theorem authorize_countedOnce (hinterval : state.tokenUsageWriteIntervalSeconds ≤ 0)
    (hr : r.endpoint.syncTarget = some (rawNs, permission))
    (hns : decodeNamespace c rawNs = .ok ns) :
    Triple bookedMonitor
      (authorizeSyncRequestWithPermission c state amb r.headers ns permission r.peer)
      (fun calls _ => CountedOnce c amb r calls) (fun calls _ => CountedOnce c amb r calls) [] := by
  unfold authorizeSyncRequestWithPermission ensureNamespaceActive extractAuth getTokenByHash
  rw [triple_bind, triple_bind, triple_db]
  refine ⟨fun _ => trivial, fun deleted => ?_, fun _ => countedOnce_nil⟩
  rw [triple_ensure]
  refine ⟨fun _ => ?_, fun _ => countedOnce_nil⟩
  rw [triple_bind, triple_bind, triple_liftResult]
  refine ⟨fun secret hsecret => ?_, fun _ _ => countedOnce_nil⟩
  rw [triple_bind, triple_mapError, triple_bind, triple_redb]
  refine ⟨fun _ => trivial, fun found => ?_, fun _ => countedOnce_nil⟩
  cases found with
  | none => exact countedOnce_nil
  | some id =>
    rw [triple_redb]
    refine ⟨fun _ => trivial, fun stored => ?_, fun e => countedOnce_lost id (by simp)⟩
    rw [triple_okOr]
    refine ⟨?_, fun hnone => countedOnce_lost id (by simp [hnone])⟩
    intro token htoken
    rw [htoken]
    cases hcheck : checkToken c amb token ns permission with
    | error e =>
      rw [triple_bind, recordTokenFailure, dbOr, triple_txn]
      refine ⟨fun _ => trivial, fun _ => ?_, fun _ => ?_⟩
      · exact countedOnce_refused hr hns hcheck _
      · exact countedOnce_refused hr hns hcheck _
    | ok _ =>
      have hdue : tokenUsageUpdateDue c token (amb.now 1) state.tokenUsageWriteIntervalSeconds = true :=
        if_pos hinterval
      rw [triple_bind, triple_runIf, hdue]
      refine ⟨fun _ => ?_, fun hno => by cases hno⟩
      rw [dbOr, triple_txn]
      refine ⟨fun _ => trivial, fun _ => ?_, fun _ => ?_⟩
      · exact countedOnce_used hr hns hcheck _
      · exact countedOnce_used hr hns hcheck _

theorem bookedCall_of_mayCall {endpoint : Endpoint} {call : DbCall} (h : endpoint.MayCall ns call) :
    bookedCall call = false := by
  cases call <;> first | rfl | cases h

theorem handle_sync_countedOnce (hinterval : state.tokenUsageWriteIntervalSeconds ≤ 0)
    (hr : r.endpoint.syncTarget = some (rawNs, permission)) :
    (handle c state amb r).run.Obeys bookedMonitor (fun calls _ => CountedOnce c amb r calls) [] := by
  obtain ⟨f, hhandle, hf⟩ := handle_sync c state amb hr
  have hcounted : Triple bookedMonitor (handle c state amb r) (fun calls _ => CountedOnce c amb r calls)
      (fun calls _ => CountedOnce c amb r calls) [] := by
    rw [hhandle, triple_bind, triple_liftResult]
    refine ⟨fun ns hns => ?_, fun _ _ => countedOnce_nil⟩
    rw [triple_bind]
    refine (authorize_countedOnce hinterval hr hns).mono (fun calls _ hcalls => ?_) fun _ _ h => h
    -- What follows does not look at tokens any more.
    have hignores : Calls bookedMonitor.Ignores (f ns) :=
      Program.Calls.mono (fun _ hcall => recording_ignores (bookedCall_of_mayCall hcall)) (hf ns)
    exact hignores.triple (raises_true _) (fun _ => hcalls) fun _ _ => hcalls
  apply Program.Obeys.mono _ hcounted
  intro calls answer h
  cases answer <;> exact h

end Sync

/-! ## Requests of the panel -/

/-- The calls that count on a token. -/
@[simp] def DbCall.countsUse : DbCall → Bool
  | .recordTokenUsage .. | .recordTokenFailure _ => true
  | _ => false

theorem countsUse_of_keepsBooks {call : DbCall} (h : call.keepsBooks = false) :
    call.countsUse = false := by
  cases call with
  | recordTokenUsage => cases h
  | recordTokenFailure => cases h
  | _ => rfl

theorem refreshNamespaceUsage_countsNoUse (ns observedAt : String) (softDeleted : Bool) :
    Calls (fun call : DbCall => call.countsUse = false) (refreshNamespaceUsage ns observedAt softDeleted) :=
  .bind (by simp) fun _ => .bind (by simp) fun _ => .bind (by simp) fun _ => .bind (by simp) fun _ =>
    by simp

theorem handle_countsNoUse (hr : r.endpoint.syncTarget = none) :
    Calls (fun call : DbCall => call.countsUse = false) (handle c state amb r) := by
  by_cases hpanel : r.endpoint.leavesBooks = true
  · exact Program.Calls.mono (fun _ hcall => countsUse_of_keepsBooks hcall.2)
      (handle_panel_calls r hpanel)
  obtain ⟨endpoint, peer, headers⟩ := r
  cases endpoint with
  | adminDeleteNamespace ns hard =>
    refine .bind (.bind (verifyAdminMutation_reads (by simp) ..) fun _ => .ite ?_ ?_) fun _ => by simp
    · exact .bind (by simp) fun _ => by simp
    · refine .bind (by simp) fun _ => .bind (by simp) fun _ => .bind (by simp) fun _ =>
        .bind (calls_runIf.mpr fun _ => ?_) fun _ => .bind (ensureDiskCapacity_calls _ _) fun _ =>
        .bind (by simp) fun _ =>
        .bind (calls_orDatabaseError (refreshNamespaceUsage_countsNoUse ..)) fun _ => by simp
      exact .bind (by simp) fun _ => by simp
  | adminRestoreNamespace ns =>
    refine .bind (.bind (verifyAdminMutation_reads (by simp) ..) fun _ => ?_) fun _ => by simp
    exact .bind (ensureDiskCapacity_calls _ _) fun _ => .bind (by simp) fun _ => .bind (by simp) fun _ =>
      .bind (by simp) fun _ =>
      .bind (calls_orDatabaseError (refreshNamespaceUsage_countsNoUse ..)) fun _ => by simp
  | _ => simp [Endpoint.leavesBooks, Endpoint.syncTarget] at hpanel hr

theorem countsUse_of_raisedBy {booking : Booking} {call : databaseSignature.Call}
    (h : booking.raisedBy call = true) : call.1.countsUse = true := by
  unfold Booking.raisedBy at h
  split at h
  · rfl
  · rfl
  · cases h

/-- Every request is counted once, or not at all. -/
theorem handle_countedOnce (hinterval : state.tokenUsageWriteIntervalSeconds ≤ 0) (r : Request) :
    (handle c state amb r).run.Obeys bookedMonitor (fun calls _ => CountedOnce c amb r calls) [] := by
  cases hr : r.endpoint.syncTarget with
  | some target => exact handle_sync_countedOnce hinterval hr
  | none =>
    have huncounted : (handle c state amb r).run.Obeys bookedMonitor
        (fun calls _ => ∀ call ∈ calls, call.1.countsUse = false) [] := by
      apply Program.Calls.obeys_within (handle_countsNoUse hr) (fun _ _ _ _ _ => trivial)
      · intro calls call reply hcalls hcall
        unfold bookedMonitor recording
        dsimp only
        split
        · intro call' hcall'
          rcases List.mem_append.mp hcall' with hcall' | hcall'
          · exact hcalls call' hcall'
          · obtain rfl := List.mem_singleton.mp hcall'
            exact hcall
        · exact hcalls
      · intro call hcall
        cases hcall
    apply Program.Obeys.mono _ huncounted
    intro calls _ hcalls
    apply countedOnce_of_none
    · intro booking call hcall
      by_contra hraised
      have hcounts := countsUse_of_raisedBy (by simpa using hraised)
      rw [hcalls call hcall] at hcounts
      cases hcounts
    · rw [Request.booking, hr]

/-! ## All requests of a run -/

/-- What the requests of the run have booked. -/
def bookings (c : Crates) (t : Traffic) (log : List DbEvent) : List Booking :=
  (log.map (·.tid)).dedup.filterMap fun i =>
    (t.request i).booking c (t.ambient i) (ownCalls bookedCall i log)

section Counts
variable {t : Traffic} {start s : Db} {log : List DbEvent} {ps : Nat → Program databaseSignature Answer}

/-- The transactions of one request that raise the counter. -/
theorem length_raisedBy_own (booking : Booking) (i : Nat) :
    ((log.filter fun e => booking.raisedBy e.call).filter fun e => e.tid == i).length =
      (ownCalls bookedCall i log).countP booking.raisedBy := by
  rw [ownCalls, List.countP_map, List.countP_filter, List.filter_filter,
    ← List.countP_eq_length_filter]
  apply List.countP_congr
  intro e _
  cases hraised : booking.raisedBy e.call with
  | false => simp [hraised]
  | true =>
    have husage : bookedCall e.op = true := bookedCall_of_raisedBy hraised
    simp [hraised, husage]

/-- Each booking has raised its counter by one transaction of the run. -/
theorem countP_raisedBy (hrun : ServerRun c state t start log s ps)
    (hinterval : state.tokenUsageWriteIntervalSeconds ≤ 0)
    (hdone : ∀ e ∈ log, (ps e.tid).answer.isSome = true) (booking : Booking) :
    log.countP (fun e => booking.raisedBy e.call) = (bookings c t log).count booking := by
  rw [List.countP_eq_length_filter]
  apply Accounting.length_eq_count_bookings (List.nodup_dedup _) (fun e : DbEvent => e.tid)
  · intro e he
    exact List.mem_dedup.mpr (List.mem_map_of_mem (List.mem_filter.mp he).1)
  · intro i hi
    obtain ⟨e, he, rfl⟩ := List.mem_map.mp (List.mem_dedup.mp hi)
    obtain ⟨answer, hanswer⟩ := Option.isSome_iff_exists.mp (hdone e he)
    rw [length_raisedBy_own]
    exact hrun.concluded (Program.answer_eq_some.mp hanswer)
      (handle_countedOnce hinterval (t.request e.tid)) booking

end Counts

/-! ## What the counters come to -/

/-- A counter that was raised `n` times, by one each time, and not past `u64::MAX`. -/
def raised (before n : Nat) : Nat := if n = 0 then before else saturatingAdd before n

@[simp] theorem raised_zero (before : Nat) : raised before 0 = before := rfl

@[simp] theorem raised_one (before : Nat) : raised before 1 = saturatingAdd before 1 := rfl

theorem raised_of_le {before : Nat} (h : before ≤ u64Max) (n : Nat) :
    raised before n = saturatingAdd before n := by
  unfold raised
  split
  · subst n
    exact (min_eq_left h).symm
  · rfl

theorem raised_add_one (before n : Nat) :
    raised before (n + 1) = saturatingAdd (raised before n) 1 := by
  unfold raised
  rw [if_neg (Nat.succ_ne_zero n)]
  split
  · subst n
    rfl
  · unfold saturatingAdd
    omega

theorem raised_toNat (before : Nat) (holds : Bool) :
    raised before holds.toNat = if holds = true then saturatingAdd before 1 else before := by
  cases holds <;> rfl

theorem raised_raised (before n : Nat) (holds : Bool) :
    raised (raised before n) holds.toNat = raised before (n + holds.toNat) := by
  cases holds with
  | false => rfl
  | true => exact (raised_add_one before n).symm

def ApiToken.count (token : ApiToken) : UsageCounter → Nat
  | .reads => token.readCount
  | .writes => token.writeCount
  | .failures => token.failedCount

/-- The token with other usage: its counters and what was seen last. -/
structure SameButUsage (before after : ApiToken) : Prop where
  kept : after = { before with
    readCount := after.readCount
    writeCount := after.writeCount
    failedCount := after.failedCount
    lastUsedAt := after.lastUsedAt
    lastNamespace := after.lastNamespace
    lastPermission := after.lastPermission
    lastClientIp := after.lastClientIp
    lastClientVersion := after.lastClientVersion }

theorem SameButUsage.refl (token : ApiToken) : SameButUsage token token := ⟨rfl⟩

theorem SameButUsage.trans {first second third : ApiToken} (h : SameButUsage first second)
    (h' : SameButUsage second third) : SameButUsage first third := by
  obtain ⟨h⟩ := h
  obtain ⟨h'⟩ := h'
  constructor
  rw [h', h]

/-- The device with other marks of its last use; a missing link may have been filled in. -/
structure SameButSeen (before after : DeviceRecord) : Prop where
  kept : after = { before with
    tokenId := after.tokenId
    lastSeenAt := after.lastSeenAt
    lastClientIp := after.lastClientIp
    lastClientVersion := after.lastClientVersion
    updatedAt := after.updatedAt }
  link : ∀ tokenId, before.tokenId = some tokenId → after.tokenId = some tokenId

theorem SameButSeen.refl (device : DeviceRecord) : SameButSeen device device := ⟨rfl, fun _ h => h⟩

theorem SameButSeen.trans {first second third : DeviceRecord} (h : SameButSeen first second)
    (h' : SameButSeen second third) : SameButSeen first third where
  kept := by rw [h'.kept, h.kept]
  link tokenId htoken := h'.link tokenId (h.link tokenId htoken)

/-- A committed write of the token by an admin. -/
def EditsToken (id : String) (call : databaseSignature.Call) : Prop :=
  (∃ token, call = ⟨.setToken token, .ok ()⟩ ∧ token.id = id) ∨ call = ⟨.deleteToken id, .ok ()⟩

/-- A committed write of the device by an admin. -/
def EditsDevice (id : String) (call : databaseSignature.Call) : Prop :=
  (∃ device, call = ⟨.setDevice device, .ok ()⟩ ∧ device.id = id) ∨ call = ⟨.deleteDevice id, .ok ()⟩

section Steps
variable {db db' : Db} {id : String}

/-- The token after one more use. -/
def ApiToken.withUse (token : ApiToken) (ns permission clientIp : String) (clientVersion : Option String)
    (observedAt : String) : ApiToken :=
  { token with
    lastUsedAt := some observedAt
    lastNamespace := some ns
    lastPermission := some permission
    lastClientIp := some clientIp
    lastClientVersion := clientVersion
    readCount := if permission = "read" then saturatingAdd token.readCount 1 else token.readCount
    writeCount := if permission = "write" then saturatingAdd token.writeCount 1 else token.writeCount }

theorem getToken_insert {tokens : Table ApiToken} {token : ApiToken} {id' : String} :
    (tokens.insert (tokenKey id') token)[tokenKey id]? =
      if id' = id then some token else tokens[tokenKey id]? := by
  rw [Table.get_insert]
  by_cases hid : id' = id
  · rw [if_pos (congrArg tokenKey hid), if_pos hid]
  · rw [if_neg fun hkey => hid (tokenKey_injective hkey), if_neg hid]

theorem getToken_recordTokenUsage (id' ns permission clientIp : String) (clientVersion : Option String)
    (observedAt : String) :
    (db.recordTokenUsage id' ns permission clientIp clientVersion observedAt).getToken id =
      if id' = id then
        (db.getToken id).map fun token => token.withUse ns permission clientIp clientVersion observedAt
      else db.getToken id := by
  unfold Db.recordTokenUsage Db.getToken
  cases hstored : db.tokens[tokenKey id']? with
  | none =>
    dsimp only
    split
    · rename_i hid
      rw [← hid, hstored]
      rfl
    · rfl
  | some token =>
    have hrow : (db.tokens.insert (tokenKey id')
        (token.withUse ns permission clientIp clientVersion observedAt))[tokenKey id]? =
          if id' = id then
            (db.tokens[tokenKey id]?).map fun token =>
              token.withUse ns permission clientIp clientVersion observedAt
          else db.tokens[tokenKey id]? := by
      rw [getToken_insert]
      split
      · rename_i hid
        rw [← hid, hstored]
        rfl
      · rfl
    rw [← hrow]
    dsimp only
    split
    · rfl
    · split <;> rfl

theorem getToken_recordTokenFailure (id' : String) :
    (db.recordTokenFailure id').getToken id =
      if id' = id then (db.getToken id).map ApiToken.withFailure else db.getToken id := by
  unfold Db.recordTokenFailure Db.getToken
  cases hstored : db.tokens[tokenKey id']? with
  | none =>
    dsimp only
    split
    · rename_i hid
      rw [← hid, hstored]
      rfl
    · rfl
  | some token =>
    dsimp only
    rw [getToken_insert]
    split
    · rename_i hid
      rw [← hid, hstored]
      rfl
    · rfl

/-- The device after a use of its token. -/
def DeviceRecord.withUse (device : DeviceRecord) (tokenId clientIp : String)
    (clientVersion : Option String) (observedAt : String) : DeviceRecord :=
  { device with
    tokenId := some (device.tokenId.getD tokenId)
    lastSeenAt := some observedAt
    lastClientIp := some clientIp
    lastClientVersion := clientVersion.or device.lastClientVersion
    updatedAt := observedAt }

theorem sameButSeen_withUse (device : DeviceRecord) (tokenId clientIp : String)
    (clientVersion : Option String) (observedAt : String) :
    SameButSeen device (device.withUse tokenId clientIp clientVersion observedAt) where
  kept := rfl
  link linked hlinked := by simp [DeviceRecord.withUse, hlinked]

/-- A use leaves every device as it is, or marks it as seen. -/
theorem getDevice_recordTokenUsage (id' ns permission clientIp : String) (clientVersion : Option String)
    (observedAt : String) {device : DeviceRecord} (hdevice : db.getDevice id = some device) :
    ∃ device', (db.recordTokenUsage id' ns permission clientIp clientVersion observedAt).getDevice id =
      some device' ∧ SameButSeen device device' := by
  unfold Db.recordTokenUsage
  split
  · exact ⟨device, hdevice, .refl device⟩
  · dsimp only
    split
    · exact ⟨device, hdevice, .refl device⟩
    · rename_i linked _
      split
      · exact ⟨device, hdevice, .refl device⟩
      · rename_i stored hstored
        unfold Db.getDevice
        dsimp only
        rw [Table.get_insert]
        split
        · rename_i hkey
          obtain rfl : stored = device := by
            rw [hkey] at hstored
            exact Option.some.inj (hstored.symm.trans hdevice)
          exact ⟨_, rfl, sameButSeen_withUse stored id' clientIp clientVersion observedAt⟩
        · exact ⟨device, hdevice, .refl device⟩

/-- Nothing but these calls changes a token or a device. -/
theorem tables_of_effect {call : DbCall} {reply : databaseSignature.Reply call}
    (h : Effect (S := databaseSignature) (DbCall.exec c) call reply db db')
    (hcall : call.countsUse = false) (harea : call.area ≠ some .tokens) :
    db'.tokens = db.tokens ∧ db'.devices = db.devices := by
  cases h with
  | fail f => exact ⟨rfl, rfl⟩
  | commit =>
    cases call with
    | setToken | deleteToken | setDevice | deleteDevice => exact absurd rfl harea
    | recordTokenUsage | recordTokenFailure => cases hcall
    | putObjectIfMatches ns path expectedEtag requireAbsent data m =>
      rcases putObjectIfMatches_cases db ns path expectedEtag requireAbsent data m with
        ⟨_, h⟩ | ⟨_, h⟩
      · simp [DbCall.exec, h]
      · simp [DbCall.exec, h]
    | putBlobIfMatches ns expectedEtag requireAbsent blob m =>
      rcases putBlobIfMatches_cases db ns expectedEtag requireAbsent blob m with
        ⟨_, h⟩ | ⟨_, _, h⟩ | ⟨_, h⟩
      · simp [DbCall.exec, h]
      · simp [DbCall.exec, h]
      · simp [DbCall.exec, h]
    | _ => exact ⟨rfl, rfl⟩

theorem raisedBy_eq_false {booking : Booking} {call : databaseSignature.Call}
    (h : call.1.countsUse = false) : booking.raisedBy call = false := by
  by_contra hraised
  have hcounts := countsUse_of_raisedBy (by simpa using hraised)
  rw [h] at hcounts
  cases hcounts

/-- The counters of the token after one transaction, or several: the token is otherwise the same. -/
structure CountedBy (raisedBy : UsageCounter → Nat) (before after : ApiToken) : Prop where
  same : SameButUsage before after
  counts : ∀ counter, after.count counter = raised (before.count counter) (raisedBy counter)

theorem CountedBy.unraised (token : ApiToken) : CountedBy (fun _ => 0) token token :=
  ⟨.refl token, fun _ => rfl⟩

/-- One transaction raises a counter of the token if it is booked there, by one. -/
theorem token_step {call : DbCall} {reply : databaseSignature.Reply call}
    (h : Effect (S := databaseSignature) (DbCall.exec c) call reply db db')
    (hkept : ¬ EditsToken id ⟨call, reply⟩) {token : ApiToken} (htoken : db.getToken id = some token) :
    ∃ token', db'.getToken id = some token' ∧
      CountedBy (fun counter => ((⟨id, counter⟩ : Booking).raisedBy ⟨call, reply⟩).toNat) token token' := by
  have hsame (hrow : db'.getToken id = db.getToken id)
      (hraised : ∀ counter, (⟨id, counter⟩ : Booking).raisedBy ⟨call, reply⟩ = false) :
      ∃ token', db'.getToken id = some token' ∧
        CountedBy (fun counter => ((⟨id, counter⟩ : Booking).raisedBy ⟨call, reply⟩).toNat) token
          token' := by
    refine ⟨token, hrow.trans htoken, .refl token, fun counter => ?_⟩
    rw [hraised counter]
    rfl
  cases h with
  | fail f =>
    apply hsame rfl
    intro counter
    cases call <;> rfl
  | commit =>
    cases call with
    | setToken written =>
      have hne : written.id ≠ id := fun hid => hkept (.inl ⟨written, rfl, hid⟩)
      refine hsame ?_ fun _ => rfl
      rw [DbCall.exec, getToken_setToken, if_neg hne]
    | deleteToken erased =>
      have hne : erased ≠ id := by
        intro hid
        subst hid
        exact hkept (.inr rfl)
      refine hsame ?_ fun _ => rfl
      rw [DbCall.exec, getToken_deleteToken, if_neg hne]
    | recordTokenUsage used ns permission clientIp clientVersion observedAt =>
      by_cases hid : used = id
      · refine ⟨token.withUse ns permission clientIp clientVersion observedAt, ?_, ⟨rfl⟩, ?_⟩
        · rw [DbCall.exec, getToken_recordTokenUsage, if_pos hid, htoken]
          rfl
        · intro counter
          cases counter <;> simp [Booking.raisedBy, hid, ApiToken.count, ApiToken.withUse, raised_toNat]
      · refine hsame ?_ fun counter => ?_
        · rw [DbCall.exec, getToken_recordTokenUsage, if_neg hid]
        · simp [Booking.raisedBy, hid]
    | recordTokenFailure used =>
      by_cases hid : used = id
      · refine ⟨token.withFailure, ?_, ⟨rfl⟩, ?_⟩
        · rw [DbCall.exec, getToken_recordTokenFailure, if_pos hid, htoken]
          rfl
        · intro counter
          cases counter <;> simp [Booking.raisedBy, hid, ApiToken.count, ApiToken.withFailure, raised_toNat]
      · refine hsame ?_ fun counter => ?_
        · rw [DbCall.exec, getToken_recordTokenFailure, if_neg hid]
        · simp [Booking.raisedBy, hid]
    | setDevice | deleteDevice => exact hsame rfl fun _ => rfl
    | _ =>
      refine hsame ?_ fun _ => raisedBy_eq_false rfl
      rw [Db.getToken, (tables_of_effect (.commit _ db) rfl (by simp)).1]
      rfl

/-- A transaction that is no edit of the device leaves it, or marks it as seen. -/
theorem device_step {call : DbCall} {reply : databaseSignature.Reply call}
    (h : Effect (S := databaseSignature) (DbCall.exec c) call reply db db')
    (hkept : ¬ EditsDevice id ⟨call, reply⟩) {device : DeviceRecord}
    (hdevice : db.getDevice id = some device) :
    ∃ device', db'.getDevice id = some device' ∧ SameButSeen device device' := by
  cases h with
  | fail f => exact ⟨device, hdevice, .refl device⟩
  | commit =>
    cases call with
    | setDevice written =>
      have hne : deviceKey written.id ≠ deviceKey id := fun hkey =>
        hkept (.inl ⟨written, rfl, deviceKey_injective hkey⟩)
      refine ⟨device, ?_, .refl device⟩
      rw [DbCall.exec, Db.getDevice, Db.setDevice, Table.get_insert, if_neg hne]
      exact hdevice
    | deleteDevice erased =>
      have hne : deviceKey erased ≠ deviceKey id := by
        intro hkey
        obtain rfl := deviceKey_injective hkey
        exact hkept (.inr rfl)
      refine ⟨device, ?_, .refl device⟩
      rw [DbCall.exec, Db.getDevice, Db.deleteDevice, Table.get_erase, if_neg hne]
      exact hdevice
    | recordTokenUsage used ns permission clientIp clientVersion observedAt =>
      exact getDevice_recordTokenUsage used ns permission clientIp clientVersion observedAt hdevice
    | recordTokenFailure used =>
      obtain ⟨tokens, htokens⟩ := Db.recordTokenFailure_eq db used
      refine ⟨device, ?_, .refl device⟩
      rw [DbCall.exec, htokens]
      exact hdevice
    | setToken | deleteToken => exact ⟨device, hdevice, .refl device⟩
    | _ =>
      refine ⟨device, ?_, .refl device⟩
      rw [Db.getDevice, (tables_of_effect (.commit _ db) rfl (by simp)).2]
      exact hdevice

end Steps

section Runs
variable {start s : Db} {log : List DbEvent} {id : String}

/-- After a whole log, each counter is raised by the number of its transactions. -/
theorem token_log (h : Linked (DbCall.exec c) start log s)
    (hkept : ∀ e ∈ log, ¬ EditsToken id e.call) {before : ApiToken}
    (hbefore : start.getToken id = some before) :
    ∃ after, s.getToken id = some after ∧
      CountedBy (fun counter => log.countP fun e => (⟨id, counter⟩ : Booking).raisedBy e.call)
        before after := by
  induction log using List.reverseRecOn generalizing s with
  | nil =>
    obtain rfl : s = start := h
    exact ⟨before, hbefore, .unraised before⟩
  | append_singleton log e ih =>
    obtain ⟨hlog, heffect, hpost⟩ := linked_middle h
    obtain rfl : s = e.post := hpost
    obtain ⟨token, htoken, hcounted⟩ := ih hlog fun e' he' => hkept e' (by simp [he'])
    obtain ⟨after, hafter, hstep⟩ := token_step heffect (hkept e (by simp)) htoken
    refine ⟨after, hafter, hcounted.same.trans hstep.same, fun counter => ?_⟩
    rw [hstep.counts counter, hcounted.counts counter, raised_raised, List.countP_append,
      List.countP_singleton]
    change raised _ (_ + ((⟨id, counter⟩ : Booking).raisedBy e.call).toNat) = _
    cases (⟨id, counter⟩ : Booking).raisedBy e.call <;> rfl

theorem device_log (h : Linked (DbCall.exec c) start log s)
    (hkept : ∀ e ∈ log, ¬ EditsDevice id e.call) {before : DeviceRecord}
    (hbefore : start.getDevice id = some before) :
    ∃ after, s.getDevice id = some after ∧ SameButSeen before after := by
  induction log using List.reverseRecOn generalizing s with
  | nil =>
    obtain rfl : s = start := h
    exact ⟨before, hbefore, .refl before⟩
  | append_singleton log e ih =>
    obtain ⟨hlog, heffect, hpost⟩ := linked_middle h
    obtain rfl : s = e.post := hpost
    obtain ⟨device, hdevice, hseen⟩ := ih hlog fun e' he' => hkept e' (by simp [he'])
    obtain ⟨after, hafter, hstep⟩ := device_step heffect (hkept e (by simp)) hdevice
    exact ⟨after, hafter, hseen.trans hstep⟩

end Runs

/-- The counters of a token and its device after the requests that have booked `bookings`. -/
structure UsageCounted (id : String) (bookings : List Booking) (start final : Db) (log : List DbEvent)
    (before : ApiToken) : Prop where
  token : ∃ after, final.getToken id = some after ∧ SameButUsage before after ∧
    after.readCount = raised before.readCount (bookings.count ⟨id, .reads⟩) ∧
    after.writeCount = raised before.writeCount (bookings.count ⟨id, .writes⟩) ∧
    after.failedCount = raised before.failedCount (bookings.count ⟨id, .failures⟩)
  device : ∀ deviceId, before.deviceId = some deviceId →
    (∀ e ∈ log, ¬ EditsDevice deviceId e.call) →
    ∀ seen, start.getDevice deviceId = some seen →
      ∃ device, final.getDevice deviceId = some device ∧ SameButSeen seen device

/-- However the transactions of the requests came between each other. -/
theorem token_usage_counted {t : Traffic} {start s : Db} {log : List DbEvent}
    {ps : Nat → Program databaseSignature Answer} (hrun : ServerRun c state t start log s ps)
    (hinterval : state.tokenUsageWriteIntervalSeconds ≤ 0)
    (hdone : ∀ e ∈ log, (ps e.tid).answer.isSome = true) {id : String}
    (hkept : ∀ e ∈ log, ¬ EditsToken id e.call) {before : ApiToken}
    (hbefore : start.getToken id = some before) :
    UsageCounted id (bookings c t log) start s log before := by
  obtain ⟨after, hafter, hcounted⟩ := token_log hrun.linked hkept hbefore
  have hcount (counter : UsageCounter) :
      after.count counter = raised (before.count counter) ((bookings c t log).count ⟨id, counter⟩) := by
    rw [hcounted.counts counter, countP_raisedBy hrun hinterval hdone]
  constructor
  · exact ⟨after, hafter, hcounted.same, hcount .reads, hcount .writes, hcount .failures⟩
  · intro deviceId _ hdevice seen hseen
    exact device_log hrun.linked hdevice hseen

/-- An edit belongs to the routes that write tokens and devices. -/
theorem area_of_editsToken {id : String} {call : databaseSignature.Call} (h : EditsToken id call) :
    call.1.area = some .tokens := by
  rcases h with ⟨token, rfl, _⟩ | rfl
  · rfl
  · rfl

/-- Two writes, and a read for which the token has no permission. -/
def countedTraffic : Traffic := Traffic.ofList
  [issuedRequest (.putObject "work" "notes" [1]) [],
   issuedRequest (.getMetadata "work") [],
   issuedRequest (.putBlob "work" none [2]) []]

def countingState : AppState := { freshState with tokenUsageWriteIntervalSeconds := 0 }

def playCounted (schedule : List (Nat × Option String)) :=
  play (S := databaseSignature) (DbCall.exec freshCrates) schedule issuedDb
    (countedTraffic.program freshCrates countingState)

theorem playCounted_run (schedule : List (Nat × Option String)) :
    ServerRun freshCrates countingState countedTraffic issuedDb (playCounted schedule).1
      (playCounted schedule).2.1 (playCounted schedule).2.2 := play_run _ _ _ _

/-- The three requests move by turns, one transaction each. -/
def byTurns : List (Nat × Option String) :=
  (List.range 20).flatMap fun _ => [(0, none), (1, none), (2, none)]

set_option maxRecDepth 10000 in
theorem token_usage_counted_issued :
    (bookings freshCrates countedTraffic (playCounted byTurns).1).Perm
      [⟨numberedUuid 0 1, .writes⟩, ⟨numberedUuid 0 1, .failures⟩, ⟨numberedUuid 0 1, .writes⟩] ∧
    ∃ before, issuedDb.getToken (numberedUuid 0 1) = some before ∧
      UsageCounted (numberedUuid 0 1) (bookings freshCrates countedTraffic (playCounted byTurns).1) issuedDb
        (playCounted byTurns).2.1 (playCounted byTurns).1 before := by
  have hplay : (bookings freshCrates countedTraffic (playCounted byTurns).1).Perm
        [⟨numberedUuid 0 1, .writes⟩, ⟨numberedUuid 0 1, .failures⟩, ⟨numberedUuid 0 1, .writes⟩] ∧
      (issuedDb.getToken (numberedUuid 0 1)).isSome = true ∧
      (∀ e ∈ (playCounted byTurns).1, ((playCounted byTurns).2.2 e.tid).answer.isSome = true) ∧
      ∀ e ∈ (playCounted byTurns).1, e.op.area ≠ some .tokens := by
    rw [playCounted, issuedDb_short]
    decide +kernel
  obtain ⟨hbookings, hstored, hdone, hpanel⟩ := hplay
  obtain ⟨before, hbefore⟩ := Option.isSome_iff_exists.mp hstored
  refine ⟨hbookings, before, hbefore, ?_⟩
  refine token_usage_counted (playCounted_run byTurns) (Int.le_refl 0) hdone ?_ hbefore
  intro e he hedits
  exact hpanel e he (area_of_editsToken hedits)

end CloudSync
