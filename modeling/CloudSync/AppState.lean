import CloudSync.Config

/-!
# Server state besides the database

`Crates` collects the functions the server takes from third-party crates,
`AppState` its configuration, `Ambient` what one request reads from its
surroundings: the clock, fresh identifiers, nonces and the free disk space.
-/

namespace CloudSync

open Rust

set_option autoImplicit false

/-- Instants are nanoseconds since the epoch, in UTC. -/
abbrev Instant := Int

/-- An IP address in the form its `Display` writes. -/
abbrev IpAddr := String

structure AdminClaims where
  sub : String
  exp : Nat
  iat : Nat
  ver : Nat
  deriving Repr, DecidableEq

structure Crates where
  /-- `char::is_alphanumeric`; beyond ASCII it follows the Unicode tables. -/
  isAlphanumeric : Char → Bool
  isAlphanumeric_ascii : ∀ ch : Char, ch.toNat < 128 → isAlphanumeric ch = ch.isAlphanum
  parseIpAddr : String → Option IpAddr
  /-- `chrono`: `parse_from_rfc3339(..).with_timezone(&Utc)`, `to_rfc3339` and the range of
  `DateTime<Utc>`. -/
  parseFromRfc3339 : String → Option Instant
  toRfc3339 : Instant → String
  minUtc : Instant
  maxUtc : Instant
  sha256 : Bytes → Bytes
  /-- ChaCha20-Poly1305 with key and nonce. -/
  aeadEncrypt : Bytes → Bytes → Bytes → Except String Bytes
  aeadDecrypt : Bytes → Bytes → Bytes → Except String Bytes
  base64Encode : Bytes → String
  base64Decode : String → Option Bytes
  /-- `bcrypt::hash` with the salt it draws, `bcrypt::verify`. -/
  bcryptHash : String → String → Except String String
  bcryptVerify : String → String → Option Bool
  /-- `jsonwebtoken::encode` and `decode` with a secret; decoding checks `exp` against the clock. -/
  jwtEncode : String → AdminClaims → Except String String
  jwtDecode : String → String → Instant → Option AdminClaims

structure AppState where
  encryptionKey : Option Bytes
  adminEnabled : Bool
  jwtSecret : String
  adminJwtSecretPersistent : Bool
  adminCookieSecure : Bool
  tokenRevealKey : Bytes
  tokenRevealPersistent : Bool
  trustProxyHeaders : Bool
  maxBlobSize : Nat
  maxObjectSize : Nat
  minFreeDiskBytes : Nat
  loginWindowSeconds : Int
  loginLockoutSeconds : Int
  maxLoginFailures : Nat
  tokenUsageWriteIntervalSeconds : Int
  usageRefreshIntervalSeconds : Int
  maxSyncConflictRecords : Nat
  defaultTokenTtlSeconds : Option Int
  metadataRetention : MetadataRetentionConfig
  deriving Repr, DecidableEq

/-- The `k`-th reading of each source in the course of one request. -/
structure Ambient where
  now : Nat → Instant
  newUuid : Nat → String
  nonce : Nat → Bytes
  salt : Nat → String
  diskFreeBytes : Option Nat

def nanosPerSecond : Int := 1000000000

/-- `Duration::num_seconds`, truncating towards zero. -/
def numSeconds (duration : Int) : Int := duration.tdiv nanosPerSecond

def i64Max : Int := 2 ^ 63 - 1

def i64Min : Int := -2 ^ 63

/-- `now + Duration::seconds(s)`; `none` where `chrono` panics. -/
def addSeconds (c : Crates) (now : Instant) (s : Int) : Option Instant :=
  let t := now + s * nanosPerSecond
  if s.natAbs ≤ i64Max.natAbs / 1000 ∧ c.minUtc ≤ t ∧ t ≤ c.maxUtc then some t else none

/-! ## Errors (`error.rs`) -/

inductive AppError where
  | badRequest (message : String)
  | unauthorized (message : String)
  | forbidden (message : String)
  | notFound (message : String)
  | conflict (code message : String) (remoteRevision remoteEtag : Option String)
  | payloadTooLarge (message : String)
  | insufficientStorage (message : String)
  | tooManyRequests (message : String)
  | internal (message : String)
  /-- Not an answer: the task handling the request panics. -/
  | panicked (message : String)
  deriving Repr, DecidableEq

/-- The HTTP status of the answer, `none` for a dropped connection. -/
def AppError.status : AppError → Option Nat
  | .badRequest _ => some 400
  | .unauthorized _ => some 401
  | .forbidden _ => some 403
  | .notFound _ => some 404
  | .conflict .. => some 412
  | .payloadTooLarge _ => some 413
  | .insufficientStorage _ => some 507
  | .tooManyRequests _ => some 429
  | .internal _ => some 500
  | .panicked _ => none

/-! ## Encryption at rest (`crypto.rs`) -/

variable (c : Crates)

def hexEncode (bytes : Bytes) : String :=
  String.ofList (bytes.flatMap fun b =>
    [Nat.digitChar (b.toNat / 16), Nat.digitChar (b.toNat % 16)])

def sha256Hex (data : Bytes) : String := hexEncode (c.sha256 data)

/-- Nonce, then ciphertext with the authentication tag appended. -/
def encrypt (key nonce plaintext : Bytes) : Except String Bytes :=
  match c.aeadEncrypt key nonce plaintext with
  | .ok ciphertext => .ok (nonce ++ ciphertext)
  | .error e => .error ("Encryption failed: " ++ e)

def decrypt (key encrypted : Bytes) : Except String Bytes :=
  if encrypted.length < 12 + 16 then .error "Encrypted data too short"
  else match c.aeadDecrypt key (encrypted.take 12) (encrypted.drop 12) with
    | .ok plaintext => .ok plaintext
    | .error e => .error ("Decryption failed: " ++ e)

def encryptIfNeeded (state : AppState) (nonce data : Bytes) : Except AppError Bytes :=
  match state.encryptionKey with
  | some key => (encrypt c key nonce data).mapError .internal
  | none => .ok data

def decryptIfNeeded (state : AppState) (data : Bytes) : Except AppError Bytes :=
  match state.encryptionKey with
  | some key => (decrypt c key data).mapError .internal
  | none => .ok data

/-- What the cipher promises: the tag has 16 bytes, and decryption inverts encryption. -/
def Crates.AeadInverts : Prop :=
  ∀ key nonce plaintext ciphertext, nonce.length = 12 →
    c.aeadEncrypt key nonce plaintext = .ok ciphertext →
      16 ≤ ciphertext.length ∧ c.aeadDecrypt key nonce ciphertext = .ok plaintext

variable {c}

theorem decrypt_encrypt (hc : c.AeadInverts) {key nonce plaintext encrypted : Bytes}
    (hn : nonce.length = 12) (h : encrypt c key nonce plaintext = .ok encrypted) :
    decrypt c key encrypted = .ok plaintext := by
  unfold encrypt at h
  split at h
  · rename_i ciphertext hct
    obtain rfl := Except.ok.inj h
    obtain ⟨htag, hdec⟩ := hc _ _ _ _ hn hct
    have htake : (nonce ++ ciphertext).take 12 = nonce := by rw [← hn, List.take_left]
    have hdrop : (nonce ++ ciphertext).drop 12 = ciphertext := by rw [← hn, List.drop_left]
    have hlen : ¬ (nonce ++ ciphertext).length < 12 + 16 := by
      rw [List.length_append]
      omega
    simp only [decrypt, if_neg hlen, htake, hdrop, hdec]
  · cases h

/-- What is stored decrypts to what was uploaded, with or without a key. -/
theorem decryptIfNeeded_encryptIfNeeded (hc : c.AeadInverts) {state : AppState}
    {nonce data stored : Bytes} (hn : nonce.length = 12)
    (h : encryptIfNeeded c state nonce data = .ok stored) :
    decryptIfNeeded c state stored = .ok data := by
  unfold encryptIfNeeded at h
  unfold decryptIfNeeded
  split at h
  · rename_i key _
    cases hk : encrypt c key nonce data with
    | ok encrypted =>
      rw [hk] at h
      obtain rfl := Except.ok.inj h
      simp [decrypt_encrypt hc hn hk, Except.mapError]
    | error e =>
      rw [hk] at h
      cases h
  · exact h ▸ rfl

end CloudSync
