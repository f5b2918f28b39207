import CloudSync.Rust.Text

/-!
# Records of the store and of the API (`config.rs`)

Rows of the database are kept as the records themselves. What the round trip
through `serde_json` can lose is one thing only, the recursion limit of its
parser, and `SyncMetadata.fromSlice` applies it; every other record has a fixed
depth far below the limit.
-/

namespace CloudSync

open Rust

set_option autoImplicit false

mutual
/-- `serde_json::Value`. Numbers are kept as their text. -/
inductive Json where
  | null
  | bool (b : Bool)
  | number (text : String)
  | string (s : String)
  | array (items : JsonItems)
  | object (fields : JsonFields)
  deriving Repr, DecidableEq
inductive JsonItems where
  | nil
  | cons (head : Json) (tail : JsonItems)
  deriving Repr, DecidableEq
inductive JsonFields where
  | nil
  | cons (name : String) (value : Json) (rest : JsonFields)
  deriving Repr, DecidableEq
end

mutual
/-- Nesting of arrays and objects; a scalar has depth 0. -/
def Json.depth : Json → Nat
  | .array items => items.depth + 1
  | .object fields => fields.depth + 1
  | _ => 0
def JsonItems.depth : JsonItems → Nat
  | .nil => 0
  | .cons head tail => max head.depth tail.depth
def JsonFields.depth : JsonFields → Nat
  | .nil => 0
  | .cons _ value rest => max value.depth rest.depth
end

structure SectionRevisions where
  connections : Option String
  forwards : Option String
  appSettings : Option JsonFields
  pluginSettings : Option JsonFields
  deriving Repr, DecidableEq

/-- Namespace-scoped metadata as stored in the database and served via API. -/
structure SyncMetadata where
  «exists» : Bool
  format : Option String
  revision : Option String
  etag : Option String
  contentHash : Option String
  uploadedAt : Option String
  deviceId : Option String
  contentLength : Nat
  sectionRevisions : Option SectionRevisions
  sections : Option Json
  contentType : Option String
  scope : Option Json
  deriving Repr, DecidableEq

def SyncMetadata.empty : SyncMetadata where
  «exists» := false
  format := none
  revision := none
  etag := none
  contentHash := none
  uploadedAt := none
  deviceId := none
  contentLength := 0
  sectionRevisions := none
  sections := none
  contentType := none
  scope := none

def SectionRevisions.depth (r : SectionRevisions) : Nat :=
  1 + max (r.appSettings.elim 0 fun m => m.depth + 1) (r.pluginSettings.elim 0 fun m => m.depth + 1)

def SyncMetadata.depth (m : SyncMetadata) : Nat :=
  1 + max (m.sectionRevisions.elim 0 SectionRevisions.depth)
    (max (m.sections.elim 0 Json.depth) (m.scope.elim 0 Json.depth))

/-- The parser of `serde_json` refuses JSON nested more than 127 levels deep. -/
def jsonRecursionLimit : Nat := 127

/-- `serde_json::from_slice` on the text that `serde_json::to_vec` wrote for `m`. -/
def SyncMetadata.fromSlice (m : SyncMetadata) : Option SyncMetadata :=
  if m.depth ≤ jsonRecursionLimit then some m else none

theorem SyncMetadata.fromSlice_eq_some {m m' : SyncMetadata} :
    m.fromSlice = some m' ↔ m' = m ∧ m.depth ≤ jsonRecursionLimit := by
  unfold fromSlice
  split <;> rename_i h <;> simp [h, eq_comm]

/-- A record can be stored and read back unless it is too deep, and the empty one is not. -/
@[simp] theorem SyncMetadata.fromSlice_empty : SyncMetadata.empty.fromSlice = some .empty := rfl

structure WriteResponse where
  ok : Bool
  revision : Option String
  etag : Option String
  sectionRevisions : Option SectionRevisions
  deriving Repr, DecidableEq

structure StoredObjectMetadata where
  etag : String
  updatedAt : String
  deriving Repr, DecidableEq

/-- Metadata write request body (PUT /metadata). -/
structure MetadataWriteRequest where
  format : Option String
  revision : String
  uploadedAt : Option String
  deviceId : Option String
  contentType : Option String
  scope : Option Json
  sections : Option Json
  sectionRevisions : Option SectionRevisions
  deriving Repr, DecidableEq

/-- Admin panel: user/namespace listing. -/
structure NamespaceInfo where
  «namespace» : String
  revision : Option String
  uploadedAt : Option String
  deviceId : Option String
  blobSize : Nat
  objectCount : Nat
  objectBytes : Nat
  totalBytes : Nat
  growthBytes : Int
  lastWriteAt : Option String
  storageObservedAt : Option String
  deletedBytes : Nat
  format : Option String
  deletedAt : Option String
  deriving Repr, DecidableEq

structure ApiToken where
  id : String
  name : String
  tokenHash : String
  encryptedToken : Option String
  namespacePattern : String
  permissions : List String
  createdAt : String
  enabled : Bool
  expiresAt : Option String
  rotatedAt : Option String
  disabledAt : Option String
  lastUsedAt : Option String
  deviceId : Option String
  readCount : Nat
  writeCount : Nat
  failedCount : Nat
  lastNamespace : Option String
  lastPermission : Option String
  lastClientIp : Option String
  lastClientVersion : Option String
  deriving Repr, DecidableEq

structure DeviceRecord where
  id : String
  name : String
  namespacePattern : Option String
  tokenId : Option String
  enabled : Bool
  createdAt : String
  updatedAt : String
  lastSeenAt : Option String
  lastClientIp : Option String
  lastClientVersion : Option String
  notes : Option String
  deriving Repr, DecidableEq

structure MetadataRetentionConfig where
  storeRevision : Bool
  storeUploadedAt : Bool
  storeDeviceId : Bool
  storeContentHash : Bool
  deriving Repr, DecidableEq

structure LoginAttemptRecord where
  firstFailureAt : String
  failures : Nat
  blockedUntil : Option String
  deriving Repr, DecidableEq

structure DeletedNamespaceRecord where
  deletedAt : String
  deriving Repr, DecidableEq

/-- Recent optimistic-lock conflict observed by the sync API. -/
structure SyncConflictRecord where
  id : String
  occurredAt : String
  «namespace» : String
  operation : String
  objectPath : Option String
  deviceId : Option String
  requestedRevision : Option String
  requestedEtag : Option String
  remoteRevision : Option String
  remoteEtag : Option String
  message : String
  deriving Repr, DecidableEq

structure NamespaceUsageRecord where
  «namespace» : String
  observedAt : String
  blobBytes : Nat
  objectCount : Nat
  objectBytes : Nat
  totalBytes : Nat
  growthBytes : Int
  softDeleted : Bool
  deriving Repr, DecidableEq

/-- Admin panel user account. Password hashes are bcrypt values, never plaintext. -/
structure AdminUserRecord where
  username : String
  passwordHash : String
  role : String
  sessionVersion : Nat
  enabled : Bool
  createdAt : String
  updatedAt : String
  lastLoginAt : Option String
  lastLoginIp : Option String
  failedLoginCount : Nat
  lastFailedLoginAt : Option String
  passwordUpdatedAt : Option String
  disabledAt : Option String
  deriving Repr, DecidableEq

end CloudSync
