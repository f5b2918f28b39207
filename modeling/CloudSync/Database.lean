import CloudSync.Redb.Table
import CloudSync.AppState

/-!
# The database (`db.rs`)

Every definition of the `Transactions` section is one redb transaction: a function from
the tables to a result and the tables after the commit. A transaction that
returns early is dropped and so leaves the tables as they were.
-/

namespace CloudSync

open Rust Redb

set_option autoImplicit false

structure Db where
  metadata : Table SyncMetadata := ∅
  blobs : Table Bytes := ∅
  objects : Table Bytes := ∅
  objectMetadata : Table StoredObjectMetadata := ∅
  tokens : Table ApiToken := ∅
  tokenHashes : Table String := ∅
  loginAttempts : Table LoginAttemptRecord := ∅
  deletedNamespaces : Table DeletedNamespaceRecord := ∅
  devices : Table DeviceRecord := ∅
  syncConflicts : Table SyncConflictRecord := ∅
  namespaceUsage : Table NamespaceUsageRecord := ∅
  adminUsers : Table AdminUserRecord := ∅

def metadataKey (ns : String) : String := "ns:" ++ ns

def blobKey (ns : String) : String := "ns:" ++ ns

def objectKey (ns path : String) : String := "ns:" ++ ns ++ "/obj:" ++ path

def objectMetaKey (ns path : String) : String := objectKey ns path

def tokenKey (id : String) : String := "tok:" ++ id

def deviceKey (id : String) : String := "dev:" ++ id

def syncConflictKey (occurredAt id : String) : String := "conflict:" ++ occurredAt ++ ":" ++ id

def namespaceUsageKey (ns : String) : String := "usage:" ++ ns

def adminUserKey (username : String) : String := "admin:" ++ username

theorem metadataKey_injective : Function.Injective metadataKey :=
  fun _ _ h => (String.append_right_inj _).mp h

theorem blobKey_injective : Function.Injective blobKey :=
  fun _ _ h => (String.append_right_inj _).mp h

theorem tokenKey_injective : Function.Injective tokenKey :=
  fun _ _ h => (String.append_right_inj _).mp h

theorem adminUserKey_injective : Function.Injective adminUserKey :=
  fun _ _ h => (String.append_right_inj _).mp h

inductive ConditionalWriteError where
  | conflict (remoteRevision remoteEtag : Option String) (message : String)
  | storage (error : String)
  | serialization (error : String)
  deriving Repr, DecidableEq

/-- `split_once("/obj:")` on a key without its `ns:`. -/
def splitAtObj : List Char → Option (List Char × List Char)
  | [] => none
  | ch :: rest =>
    if ['/', 'o', 'b', 'j', ':'].isPrefixOf (ch :: rest) then some ([], rest.drop 4)
    else (splitAtObj rest).map fun (before, after) => (ch :: before, after)

variable (c : Crates)

def timestampIsAfter (current : Option String) (candidate : String) : Bool :=
  match current with
  | none => true
  | some current =>
    match c.parseFromRfc3339 candidate, c.parseFromRfc3339 current with
    | some candidate, some current => current < candidate
    | _, _ => false

namespace Db

section Transactions
variable (db : Db)

/-! ### Metadata and blobs -/

def getMetadata (ns : String) : Option SyncMetadata := db.metadata[metadataKey ns]?

def setMetadata (ns : String) (data : SyncMetadata) : Db :=
  { db with metadata := db.metadata.insert (metadataKey ns) data }

def getBlob (ns : String) : Option Bytes := db.blobs[blobKey ns]?

def putBlobIfMatches (ns : String) (expectedEtag : Option String) (requireAbsent : Bool)
    (blob : Bytes) (metadata : SyncMetadata) : Except ConditionalWriteError Unit × Db :=
  let write : Except ConditionalWriteError Unit × Db :=
    (.ok (), { db with
      blobs := db.blobs.insert (blobKey ns) blob
      metadata := db.metadata.insert (metadataKey ns) metadata })
  -- The decoded record, or `none` for a missing row.
  let check (currentMeta : Option SyncMetadata) : Except ConditionalWriteError Unit × Db :=
    let remoteRevision := currentMeta.bind (·.revision)
    let remoteEtag := currentMeta.bind (·.etag)
    match expectedEtag with
    | some expected =>
      if remoteEtag.getD "" ≠ expected then
        (.error (.conflict remoteRevision remoteEtag
          "Remote snapshot changed before upload completed"), db)
      else write
    | none =>
      if requireAbsent && currentMeta.any (·.exists) then
        (.error (.conflict remoteRevision remoteEtag "Remote snapshot already exists"), db)
      else write
  match db.metadata[metadataKey ns]? with
  | none => check none
  | some row =>
    match row.fromSlice with
    | none => (.error (.serialization "recursion limit exceeded"), db)
    | some current => check (some current)

/-! ### Objects -/

/-- Seek to the cursor, read up to `limit` rows, stop at the first key of another prefix. -/
def listObjectPaths (ns pre : String) (after : Option String) (limit : Nat) : List String :=
  let lower := match after with
    | some path => Bound.excluded (objectKey ns path)
    | none => Bound.included (objectKey ns pre)
  (((db.objects.rangeFrom lower).take limit).takeWhile
      fun entry => startsWith entry.1 (objectKey ns pre)).map
    fun entry => dropChars entry.1 (objectKey ns "").length

def deleteObject (ns path : String) : Bool × Db :=
  ((db.objects[objectKey ns path]?).isSome,
    { db with
      objects := db.objects.erase (objectKey ns path)
      objectMetadata := db.objectMetadata.erase (objectMetaKey ns path) })

def getObject (ns path : String) : Option Bytes := db.objects[objectKey ns path]?

def getObjectMetadata (ns path : String) : Option StoredObjectMetadata :=
  db.objectMetadata[objectMetaKey ns path]?

def putObjectIfMatches (ns path : String) (expectedEtag : Option String) (requireAbsent : Bool)
    (data : Bytes) (metadata : StoredObjectMetadata) : Except ConditionalWriteError Unit × Db :=
  let currentMeta := db.objectMetadata[objectMetaKey ns path]?
  let remoteEtag := currentMeta.map (·.etag)
  let write : Except ConditionalWriteError Unit × Db :=
    (.ok (), { db with
      objects := db.objects.insert (objectKey ns path) data
      objectMetadata := db.objectMetadata.insert (objectMetaKey ns path) metadata })
  match expectedEtag with
  | some expected =>
    if remoteEtag.getD "" ≠ expected then
      (.error (.conflict none remoteEtag "Remote object changed before upload completed"), db)
    else write
  | none =>
    if requireAbsent && currentMeta.isSome then
      (.error (.conflict none remoteEtag "Remote object already exists"), db)
    else write

def blobSize (ns : String) : Nat := (db.blobs[blobKey ns]?).elim 0 List.length

/-- Number of objects, their stored bytes, and the latest `updatedAt`. -/
def namespaceObjectStats (ns : String) : Nat × Nat × Option String :=
  let inNamespace {V : Type} (entry : String × V) : Bool := startsWith entry.1 (objectKey ns "")
  let objects := (db.objects.rangeFrom (.included (objectKey ns ""))).takeWhile inNamespace
  let metas := (db.objectMetadata.rangeFrom (.included (objectKey ns ""))).takeWhile inNamespace
  (objects.length,
    objects.foldl (fun bytes entry => saturatingAdd bytes entry.2.length) 0,
    metas.foldl (fun lastWriteAt entry =>
      if timestampIsAfter c lastWriteAt entry.2.updatedAt then some entry.2.updatedAt
      else lastWriteAt) none)

/-! ### Usage -/

def getNamespaceUsage (ns : String) : Option NamespaceUsageRecord :=
  db.namespaceUsage[namespaceUsageKey ns]?

/-- The writing transaction of `refresh_namespace_usage`. -/
def setNamespaceUsage (usage : NamespaceUsageRecord) : Db :=
  { db with
    namespaceUsage := db.namespaceUsage.insert (namespaceUsageKey usage.namespace) usage }

/-! ### Sync conflicts -/

def addSyncConflict (conflict : SyncConflictRecord) (maxRecords : Nat) : Db :=
  let key := syncConflictKey conflict.occurredAt conflict.id
  let table : Table SyncConflictRecord := db.syncConflicts.insert key conflict
  let excess := table.size - maxRecords
  { db with syncConflicts := Table.eraseAll table (table.keys.take excess) }

def listSyncConflicts (limit : Nat) : List SyncConflictRecord :=
  (db.syncConflicts.values.mergeSort fun a b => b.occurredAt ≤ a.occurredAt).take limit

/-! ### Admin users -/

def listAdminUsers : List AdminUserRecord := db.adminUsers.values

def getAdminUser (username : String) : Option AdminUserRecord :=
  db.adminUsers[adminUserKey username]?

def setAdminUser (user : AdminUserRecord) : Db :=
  { db with adminUsers := db.adminUsers.insert (adminUserKey user.username) user }

def deleteAdminUser (username : String) : Db :=
  { db with adminUsers := db.adminUsers.erase (adminUserKey username) }

/-! ### Tokens -/

def getAllTokens : List ApiToken := db.tokens.values

/-- The first transaction of `get_token_by_hash`; `get_token` is the second. -/
def getTokenIdByHash (tokenHash : String) : Option String := db.tokenHashes[tokenHash]?

def getToken (id : String) : Option ApiToken := db.tokens[tokenKey id]?

def setToken (token : ApiToken) : Db :=
  let hashes := match db.tokens[tokenKey token.id]? with
    | some existing => db.tokenHashes.erase existing.tokenHash
    | none => db.tokenHashes
  { db with
    tokens := db.tokens.insert (tokenKey token.id) token
    tokenHashes := hashes.insert token.tokenHash token.id }

def recordTokenUsage (id ns permission clientIp : String) (clientVersion : Option String)
    (observedAt : String) : Db :=
  match db.tokens[tokenKey id]? with
  | none => db
  | some token =>
    let token := { token with
      lastUsedAt := some observedAt
      lastNamespace := some ns
      lastPermission := some permission
      lastClientIp := some clientIp
      lastClientVersion := clientVersion
      readCount := if permission = "read" then saturatingAdd token.readCount 1
        else token.readCount
      writeCount := if permission = "write" then saturatingAdd token.writeCount 1
        else token.writeCount }
    let db := { db with tokens := db.tokens.insert (tokenKey id) token }
    match token.deviceId with
    | none => db
    | some deviceId =>
      match db.devices[deviceKey deviceId]? with
      | none => db
      | some device =>
        let device := { device with
          tokenId := some (device.tokenId.getD id)
          lastSeenAt := some observedAt
          lastClientIp := some clientIp
          lastClientVersion := clientVersion.or device.lastClientVersion
          updatedAt := observedAt }
        { db with devices := db.devices.insert (deviceKey deviceId) device }

def recordTokenFailure (id : String) : Db :=
  match db.tokens[tokenKey id]? with
  | none => db
  | some token =>
    let token := { token with failedCount := saturatingAdd token.failedCount 1 }
    { db with tokens := db.tokens.insert (tokenKey id) token }

/-- Usage is kept on the token and on its device. -/
theorem recordTokenUsage_eq (id ns permission clientIp : String) (clientVersion : Option String)
    (observedAt : String) :
    ∃ tokens devices, db.recordTokenUsage id ns permission clientIp clientVersion observedAt =
      { db with tokens := tokens, devices := devices } := by
  unfold recordTokenUsage
  split
  · exact ⟨_, _, rfl⟩
  · dsimp only
    split
    · exact ⟨_, _, rfl⟩
    · split <;> exact ⟨_, _, rfl⟩

theorem recordTokenFailure_eq (id : String) :
    ∃ tokens, db.recordTokenFailure id = { db with tokens := tokens } := by
  unfold recordTokenFailure
  split <;> exact ⟨_, rfl⟩

def deleteToken (id : String) : Db :=
  let hashes := match db.tokens[tokenKey id]? with
    | some existing => db.tokenHashes.erase existing.tokenHash
    | none => db.tokenHashes
  { db with tokens := db.tokens.erase (tokenKey id), tokenHashes := hashes }

/-! ### Devices -/

def listDevices : List DeviceRecord := db.devices.values

def getDevice (id : String) : Option DeviceRecord := db.devices[deviceKey id]?

def setDevice (device : DeviceRecord) : Db :=
  { db with devices := db.devices.insert (deviceKey device.id) device }

def deleteDevice (id : String) : Db := { db with devices := db.devices.erase (deviceKey id) }

/-! ### Login attempts -/

def getLoginAttempt (ip : String) : Option LoginAttemptRecord := db.loginAttempts[ip]?

def setLoginAttempt (ip : String) (attempt : LoginAttemptRecord) : Db :=
  { db with loginAttempts := db.loginAttempts.insert ip attempt }

def deleteLoginAttempt (ip : String) : Db := { db with loginAttempts := db.loginAttempts.erase ip }

def shouldKeepAttempt (now : Instant) (windowSeconds : Int) (record : LoginAttemptRecord) : Bool :=
  match record.blockedUntil.bind c.parseFromRfc3339 with
  | some blockedUntil => now < blockedUntil
  | none =>
    match c.parseFromRfc3339 record.firstFailureAt with
    | some firstFailureAt => numSeconds (now - firstFailureAt) ≤ windowSeconds
    | none => false

def cleanupLoginAttempts (now : Instant) (windowSeconds : Int) : Db :=
  { db with loginAttempts :=
      db.loginAttempts.filter fun _ record => shouldKeepAttempt c now windowSeconds record }

/-! ### Namespaces -/

def listNamespaces : List String :=
  let live (ns : String) : Bool := (db.deletedNamespaces[ns]?).isNone
  let fromMetadata := db.metadata.keys.filterMap fun key => stripPrefix key "ns:"
  let fromObjects := db.objects.keys.filterMap fun key =>
    (stripPrefix key "ns:").bind fun rest =>
      (splitAtObj (chars rest)).map fun parts => String.ofList parts.1
  (((fromMetadata ++ fromObjects).filter live).foldl (fun (set : Std.ExtTreeSet String) ns =>
    set.insert ns) ∅).toList

def listDeletedNamespaces : List (String × DeletedNamespaceRecord) := db.deletedNamespaces.toList

def isNamespaceDeleted (ns : String) : Bool := (db.deletedNamespaces[ns]?).isSome

def softDeleteNamespace (ns deletedAt : String) : Db :=
  { db with deletedNamespaces := db.deletedNamespaces.insert ns ⟨deletedAt⟩ }

def restoreNamespace (ns : String) : Db :=
  { db with deletedNamespaces := db.deletedNamespaces.erase ns }

/-- The object keys a purge of `ns` finds. -/
def purgedKeys (ns : String) : List String :=
  db.objects.keys.filter fun key => startsWith key ("ns:" ++ ns ++ "/obj:")

def hardDeleteNamespace (ns : String) : Db :=
  { db with
    metadata := db.metadata.erase (metadataKey ns)
    blobs := db.blobs.erase (blobKey ns)
    deletedNamespaces := db.deletedNamespaces.erase ns
    namespaceUsage := db.namespaceUsage.erase (namespaceUsageKey ns)
    objects := db.objects.eraseAll (db.purgedKeys ns)
    objectMetadata := db.objectMetadata.eraseAll (db.purgedKeys ns) }

end Transactions

end Db

/-! ## The calls -/

inductive DbCall where
  | checkWritable
  | getMetadata (ns : String)
  | setMetadata (ns : String) (data : SyncMetadata)
  | getBlob (ns : String)
  | putBlobIfMatches (ns : String) (expectedEtag : Option String) (requireAbsent : Bool)
      (blob : Bytes) (metadata : SyncMetadata)
  | listObjectPaths (ns pre : String) (after : Option String) (limit : Nat)
  | deleteObject (ns path : String)
  | getObject (ns path : String)
  | getObjectMetadata (ns path : String)
  | putObjectIfMatches (ns path : String) (expectedEtag : Option String) (requireAbsent : Bool)
      (data : Bytes) (metadata : StoredObjectMetadata)
  | blobSize (ns : String)
  | namespaceObjectStats (ns : String)
  | getNamespaceUsage (ns : String)
  | setNamespaceUsage (usage : NamespaceUsageRecord)
  | addSyncConflict (conflict : SyncConflictRecord) (maxRecords : Nat)
  | listSyncConflicts (limit : Nat)
  | listAdminUsers
  | getAdminUser (username : String)
  | setAdminUser (user : AdminUserRecord)
  | deleteAdminUser (username : String)
  | getAllTokens
  | getTokenIdByHash (tokenHash : String)
  | getToken (id : String)
  | setToken (token : ApiToken)
  | recordTokenUsage (id ns permission clientIp : String) (clientVersion : Option String)
      (observedAt : String)
  | recordTokenFailure (id : String)
  | deleteToken (id : String)
  | listDevices
  | getDevice (id : String)
  | setDevice (device : DeviceRecord)
  | deleteDevice (id : String)
  | getLoginAttempt (ip : String)
  | setLoginAttempt (ip : String) (attempt : LoginAttemptRecord)
  | deleteLoginAttempt (ip : String)
  | cleanupLoginAttempts (now : Instant) (windowSeconds : Int)
  | listNamespaces
  | listDeletedNamespaces
  | isNamespaceDeleted (ns : String)
  | softDeleteNamespace (ns deletedAt : String)
  | restoreNamespace (ns : String)
  | hardDeleteNamespace (ns : String)

abbrev DbCall.Out : DbCall → Type
  | .checkWritable => Unit
  | .getMetadata _ => Option SyncMetadata
  | .setMetadata .. => Unit
  | .getBlob _ => Option Bytes
  | .putBlobIfMatches .. => Except ConditionalWriteError Unit
  | .listObjectPaths .. => List String
  | .deleteObject .. => Bool
  | .getObject .. => Option Bytes
  | .getObjectMetadata .. => Option StoredObjectMetadata
  | .putObjectIfMatches .. => Except ConditionalWriteError Unit
  | .blobSize _ => Nat
  | .namespaceObjectStats _ => Nat × Nat × Option String
  | .getNamespaceUsage _ => Option NamespaceUsageRecord
  | .setNamespaceUsage _ => Unit
  | .addSyncConflict .. => Unit
  | .listSyncConflicts _ => List SyncConflictRecord
  | .listAdminUsers => List AdminUserRecord
  | .getAdminUser _ => Option AdminUserRecord
  | .setAdminUser _ => Unit
  | .deleteAdminUser _ => Unit
  | .getAllTokens => List ApiToken
  | .getTokenIdByHash _ => Option String
  | .getToken _ => Option ApiToken
  | .setToken _ => Unit
  | .recordTokenUsage .. => Unit
  | .recordTokenFailure _ => Unit
  | .deleteToken _ => Unit
  | .listDevices => List DeviceRecord
  | .getDevice _ => Option DeviceRecord
  | .setDevice _ => Unit
  | .deleteDevice _ => Unit
  | .getLoginAttempt _ => Option LoginAttemptRecord
  | .setLoginAttempt .. => Unit
  | .deleteLoginAttempt _ => Unit
  | .cleanupLoginAttempts .. => Unit
  | .listNamespaces => List String
  | .listDeletedNamespaces => List (String × DeletedNamespaceRecord)
  | .isNamespaceDeleted _ => Bool
  | .softDeleteNamespace .. => Unit
  | .restoreNamespace _ => Unit
  | .hardDeleteNamespace _ => Unit

def DbCall.exec : (call : DbCall) → Db → call.Out × Db
  | .checkWritable, db => ((), db)
  | .getMetadata ns, db => (db.getMetadata ns, db)
  | .setMetadata ns data, db => ((), db.setMetadata ns data)
  | .getBlob ns, db => (db.getBlob ns, db)
  | .putBlobIfMatches ns expectedEtag requireAbsent blob metadata, db =>
    db.putBlobIfMatches ns expectedEtag requireAbsent blob metadata
  | .listObjectPaths ns pre after limit, db => (db.listObjectPaths ns pre after limit, db)
  | .deleteObject ns path, db => db.deleteObject ns path
  | .getObject ns path, db => (db.getObject ns path, db)
  | .getObjectMetadata ns path, db => (db.getObjectMetadata ns path, db)
  | .putObjectIfMatches ns path expectedEtag requireAbsent data metadata, db =>
    db.putObjectIfMatches ns path expectedEtag requireAbsent data metadata
  | .blobSize ns, db => (db.blobSize ns, db)
  | .namespaceObjectStats ns, db => (db.namespaceObjectStats c ns, db)
  | .getNamespaceUsage ns, db => (db.getNamespaceUsage ns, db)
  | .setNamespaceUsage usage, db => ((), db.setNamespaceUsage usage)
  | .addSyncConflict conflict maxRecords, db => ((), db.addSyncConflict conflict maxRecords)
  | .listSyncConflicts limit, db => (db.listSyncConflicts limit, db)
  | .listAdminUsers, db => (db.listAdminUsers, db)
  | .getAdminUser username, db => (db.getAdminUser username, db)
  | .setAdminUser user, db => ((), db.setAdminUser user)
  | .deleteAdminUser username, db => ((), db.deleteAdminUser username)
  | .getAllTokens, db => (db.getAllTokens, db)
  | .getTokenIdByHash tokenHash, db => (db.getTokenIdByHash tokenHash, db)
  | .getToken id, db => (db.getToken id, db)
  | .setToken token, db => ((), db.setToken token)
  | .recordTokenUsage id ns permission clientIp clientVersion observedAt, db =>
    ((), db.recordTokenUsage id ns permission clientIp clientVersion observedAt)
  | .recordTokenFailure id, db => ((), db.recordTokenFailure id)
  | .deleteToken id, db => ((), db.deleteToken id)
  | .listDevices, db => (db.listDevices, db)
  | .getDevice id, db => (db.getDevice id, db)
  | .setDevice device, db => ((), db.setDevice device)
  | .deleteDevice id, db => ((), db.deleteDevice id)
  | .getLoginAttempt ip, db => (db.getLoginAttempt ip, db)
  | .setLoginAttempt ip attempt, db => ((), db.setLoginAttempt ip attempt)
  | .deleteLoginAttempt ip, db => ((), db.deleteLoginAttempt ip)
  | .cleanupLoginAttempts now windowSeconds, db =>
    ((), db.cleanupLoginAttempts c now windowSeconds)
  | .listNamespaces, db => (db.listNamespaces, db)
  | .listDeletedNamespaces, db => (db.listDeletedNamespaces, db)
  | .isNamespaceDeleted ns, db => (db.isNamespaceDeleted ns, db)
  | .softDeleteNamespace ns deletedAt, db => ((), db.softDeleteNamespace ns deletedAt)
  | .restoreNamespace ns, db => ((), db.restoreNamespace ns)
  | .hardDeleteNamespace ns, db => ((), db.hardDeleteNamespace ns)

end CloudSync
