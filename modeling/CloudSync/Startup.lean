import CloudSync.Reachable
import CloudSync.Rust.Hex
import CloudSync.Transactions.Contracts

/-!
# Starting a server (`main.rs`)

`startUp` is what `main` does between the command line and the first request. A
database is used by one process after another; each of them starts up and then
serves, and it may die at any point.
-/

namespace CloudSync

open Rust Transactions Transactions.Fallible

set_option autoImplicit false

/-- The options of a server, as the environment or the command line sets them. -/
structure Cli where
  encryptionKey : Option String := none
  adminPassword : Option String := none
  adminUsername : String := "admin"
  adminJwtSecret : Option String := none
  adminCookieSecure : Bool := true
  trustProxyHeaders : Bool := false
  maxBlobSize : Nat := 67108864
  maxObjectSize : Nat := 16777216
  minFreeDiskBytes : Nat := 104857600
  loginWindowSeconds : Int := 900
  loginLockoutSeconds : Int := 900
  maxLoginFailures : Nat := 5
  tokenUsageWriteIntervalSeconds : Int := 60
  usageRefreshIntervalSeconds : Int := 60
  maxSyncConflictRecords : Nat := 500
  defaultTokenTtlSeconds : Option Int := none
  storeMetadataRevision : Bool := true
  storeMetadataUploadedAt : Bool := true
  storeMetadataDeviceId : Bool := true
  storeMetadataContentHash : Bool := true

def emptyToNone (value : Option String) : Option String :=
  value.bind fun value => if (trim value).isEmpty then none else some (trim value)

/-- The error texts of `parse_hex_key`. -/
inductive HexKeyError where
  | invalidHex (e : FromHexError)
  | wrongLength (got : Nat)
  deriving Repr, DecidableEq

def parseHexKey (hexStr : String) : Except HexKeyError Bytes :=
  match hexDecode hexStr with
  | .error e => .error (.invalidHex e)
  | .ok bytes => if bytes.length ≠ 32 then .error (.wrongLength bytes.length) else .ok bytes

/-- The key for the payloads. `expect` adds the error of `parseHexKey` to the message. -/
def configuredKey (cli : Cli) : Except AppError (Option Bytes) :=
  match emptyToNone cli.encryptionKey with
  | none => .ok none
  | some hexKey =>
    match parseHexKey hexKey with
    | .ok key => .ok (some key)
    | .error _ => .error (.panicked "ENCRYPTION_KEY must be 64 hex chars (32 bytes)")

/-- The settings of the server that this command line starts. -/
def Cli.appState (cli : Cli) (encryptionKey : Option Bytes) (jwtSecret : String) (tokenRevealKey : Bytes)
    (adminEnabled : Bool) : AppState where
  encryptionKey := encryptionKey
  adminEnabled := adminEnabled
  jwtSecret := jwtSecret
  adminJwtSecretPersistent := (emptyToNone cli.adminJwtSecret).isSome
  adminCookieSecure := cli.adminCookieSecure
  tokenRevealKey := tokenRevealKey
  tokenRevealPersistent := encryptionKey.isSome || (emptyToNone cli.adminJwtSecret).isSome
  trustProxyHeaders := cli.trustProxyHeaders
  maxBlobSize := cli.maxBlobSize
  maxObjectSize := cli.maxObjectSize
  minFreeDiskBytes := cli.minFreeDiskBytes
  loginWindowSeconds := cli.loginWindowSeconds
  loginLockoutSeconds := cli.loginLockoutSeconds
  maxLoginFailures := cli.maxLoginFailures
  tokenUsageWriteIntervalSeconds := cli.tokenUsageWriteIntervalSeconds
  usageRefreshIntervalSeconds := cli.usageRefreshIntervalSeconds
  maxSyncConflictRecords := cli.maxSyncConflictRecords
  defaultTokenTtlSeconds := cli.defaultTokenTtlSeconds
  metadataRetention :=
    { storeRevision := cli.storeMetadataRevision
      storeUploadedAt := cli.storeMetadataUploadedAt
      storeDeviceId := cli.storeMetadataDeviceId
      storeContentHash := cli.storeMetadataContentHash }

variable (c : Crates)

/-- `Sha256::digest` has 32 bytes, as many as a key. -/
def deriveKey (secretMaterial : Bytes) : Bytes := c.sha256 secretMaterial

/-- From the command line to the state of the server; a panic ends the process. -/
def startUp (amb : Ambient) (cli : Cli) : Handler AppState := do
  let encryptionKey ← liftResult (configuredKey cli)
  let jwtSecret := (emptyToNone cli.adminJwtSecret).getD (amb.newUuid 0)
  let tokenRevealKey := encryptionKey.getD (deriveKey c (asBytes jwtSecret))
  ifSome (emptyToNone cli.adminPassword) fun password =>
    bootstrapAdmin c amb cli.adminUsername password
  let users : List AdminUserRecord ← (redb .listAdminUsers).mapError fun e : String =>
    AppError.panicked ("Failed to list admin users: " ++ e)
  pure (cli.appState encryptionKey jwtSecret tokenRevealKey (!users.isEmpty))

/-! ## One process after another -/

/-- One process: how it is started and what it is asked. -/
structure Life where
  cli : Cli
  ambient : Ambient
  traffic : Traffic

/-- The databases that processes with `P` can leave behind, whenever they die. -/
inductive Operated (c : Crates) (P : Life → Prop) : Db → Prop where
  | created : Operated c P {}
  | started {s s' : Db} {rest : Program databaseSignature (Except AppError AppState)} (life : Life) :
      Operated c P s → P life →
      Steps (DbCall.exec c) (startUp c life.ambient life.cli).run s rest s' → Operated c P s'
  | served {s s₁ s' : Db} {state : AppState} {log : List DbEvent}
      {ps : Nat → Program databaseSignature Answer} (life : Life) :
      Operated c P s → P life →
      Steps (DbCall.exec c) (startUp c life.ambient life.cli).run s (.ret (.ok state)) s₁ →
      ServerRun c state life.traffic s₁ log s' ps → Operated c P s'

variable {c}

/-- A start that is left alone takes the steps to its result. -/
theorem Life.starts {life : Life} {s : Db} {state : AppState}
    (h : ((startUp c life.ambient life.cli).run.run (DbCall.exec c) s).1 = .ok state) :
    Steps (DbCall.exec c) (startUp c life.ambient life.cli).run s (.ret (.ok state))
      ((startUp c life.ambient life.cli).run.run (DbCall.exec c) s).2 := h ▸ steps_run _ _

section Rules
variable {K : Contract databaseSignature} (call : DbCall) {ok : call.Out → Prop}

theorem honours_redb {err : String → Prop} :
    Honours (α := no_index call.Out) K (redb call) ok err ↔
      K.guarantee call ∧ (∀ out, K.rely call out → ok out) ∧ ∀ f : String, err f := honours_txn _ _

theorem honours_db {err : AppError → Prop} :
    Honours (α := no_index call.Out) K (db call) ok err ↔
      K.guarantee call ∧ (∀ out, K.rely call out → ok out) ∧
        ∀ f : String, err (.internal ("Database error: " ++ f)) := honours_txn _ _

end Rules

theorem parseHexKey_eq_ok {s : String} {key : Bytes} :
    parseHexKey s = .ok key ↔ (asBytes s).map lowerDigit = digitsOf key ∧ key.length = 32 := by
  rw [← hexDecode_eq_ok]
  unfold parseHexKey
  cases hexDecode s with
  | error e => simp
  | ok bytes =>
    by_cases hlen : bytes.length = 32
    · simp only [hlen, ne_eq, not_true_eq_false, if_false, Except.ok.injEq]
      refine ⟨fun h => ⟨h, h ▸ hlen⟩, fun h => h.1⟩
    · simp only [hlen, ne_eq, not_false_eq_true, if_true, reduceCtorEq, false_iff, not_and, Except.ok.injEq]
      rintro rfl
      exact hlen

theorem asBytes_hexEncode (bytes : Bytes) : asBytes (hexEncode bytes) = digitsOf bytes := by
  have hdigits : ∀ b : UInt8,
      [Nat.digitChar (b.toNat / 16), Nat.digitChar (b.toNat % 16)].flatMap String.utf8EncodeChar =
        [digitOf (b >>> 4), digitOf (b &&& 15)] := by decide +kernel
  rw [asBytes_eq, hexEncode, String.toList_ofList, List.flatMap_assoc, digitsOf]
  simp only [hdigits]

theorem map_lowerDigit_digitsOf (bytes : Bytes) : (digitsOf bytes).map lowerDigit = digitsOf bytes := by
  have hdigit : ∀ n : UInt8, n < 16 → lowerDigit (digitOf n) = digitOf n := by decide +kernel
  induction bytes with
  | nil => rfl
  | cons b bytes ih =>
    obtain ⟨hhigh, hlow, _⟩ := join_byte b
    rw [digitsOf_cons, List.map_cons, List.map_cons, hdigit _ hhigh, hdigit _ hlow, ih]

/-- What `openssl rand -hex 32` prints is taken as the key it stands for. -/
theorem parseHexKey_hexEncode {key : Bytes} (hlen : key.length = 32) :
    parseHexKey (hexEncode key) = .ok key :=
  parseHexKey_eq_ok.mpr ⟨by rw [asBytes_hexEncode, map_lowerDigit_digitsOf], hlen⟩

/-- The bootstrap reads an account and writes it back under the trimmed name. -/
theorem bootstrapAdmin_honours {K : Contract databaseSignature} {amb : Ambient}
    {adminUsername adminPassword : String} (hget : K.guarantee (.getAdminUser (trim adminUsername)))
    (hset : ∀ existing unchanged passwordHash, K.rely (.getAdminUser (trim adminUsername)) existing →
      (trim adminUsername).isEmpty = false →
      K.guarantee (.setAdminUser (bootstrapUser existing unchanged (trim adminUsername) passwordHash
        (c.toRfc3339 (amb.now 0)) (c.toRfc3339 (amb.now 1))))) :
    Honours K (bootstrapAdmin c amb adminUsername adminPassword) (fun _ => True) fun _ => True := by
  unfold bootstrapAdmin
  rw [honours_bind, honours_ensure]
  refine ⟨fun hname => ?_, fun _ => trivial⟩
  rw [honours_bind, honours_mapError, honours_redb]
  refine ⟨hget, fun existing hrely => ?_, fun _ => trivial⟩
  have hwrite : ∀ unchanged passwordHash, Honours K
      ((redb (.setAdminUser (bootstrapUser existing unchanged (trim adminUsername) passwordHash
        (c.toRfc3339 (amb.now 0)) (c.toRfc3339 (amb.now 1))))).mapError fun e : String =>
          AppError.panicked ("Failed to bootstrap admin user: " ++ e)) (fun _ => True) fun _ => True := by
    intro unchanged passwordHash
    rw [honours_mapError, honours_redb]
    refine ⟨hset existing unchanged passwordHash hrely ?_, fun _ _ => trivial, fun _ => trivial⟩
    simpa using hname
  dsimp only
  cases (existing.filter fun user => verifyAdminPassword c adminPassword user.passwordHash) with
  | some user => exact (honours_bind _ _).mpr (hwrite _ _)
  | none =>
    rw [honours_bind, honours_mapError, hashAdminPassword, honours_liftResult]
    exact ⟨fun passwordHash _ => hwrite _ _, fun _ _ => trivial⟩

/-- What a process that has started up is configured with. -/
structure Configured (c : Crates) (life : Life) (state : AppState) : Prop where
  key : configuredKey life.cli = .ok state.encryptionKey
  secret : state.jwtSecret = (emptyToNone life.cli.adminJwtSecret).getD (life.ambient.newUuid 0)
  revealKey : state.tokenRevealKey =
    state.encryptionKey.getD (deriveKey c (asBytes state.jwtSecret))
  settings : state =
    life.cli.appState state.encryptionKey state.jwtSecret state.tokenRevealKey state.adminEnabled

theorem startUp_honours {K : Contract databaseSignature} {life : Life}
    (hget : K.guarantee (.getAdminUser (trim life.cli.adminUsername)))
    (hlist : K.guarantee .listAdminUsers)
    (hset : ∀ existing unchanged passwordHash,
      K.rely (.getAdminUser (trim life.cli.adminUsername)) existing →
      (trim life.cli.adminUsername).isEmpty = false →
      K.guarantee (.setAdminUser (bootstrapUser existing unchanged (trim life.cli.adminUsername)
        passwordHash (c.toRfc3339 (life.ambient.now 0)) (c.toRfc3339 (life.ambient.now 1))))) :
    Honours K (startUp c life.ambient life.cli) (Configured c life) fun _ => True := by
  unfold startUp
  rw [honours_bind, honours_liftResult]
  refine ⟨fun encryptionKey hkey => ?_, fun _ _ => trivial⟩
  have hrest : Honours K (do
      let users : List AdminUserRecord ← (redb .listAdminUsers).mapError fun e : String =>
        AppError.panicked ("Failed to list admin users: " ++ e)
      let jwtSecret := (emptyToNone life.cli.adminJwtSecret).getD (life.ambient.newUuid 0)
      let tokenRevealKey := encryptionKey.getD (deriveKey c (asBytes jwtSecret))
      pure (life.cli.appState encryptionKey jwtSecret tokenRevealKey (!users.isEmpty)))
      (Configured c life) fun _ => True := by
    rw [honours_bind, honours_mapError, honours_redb]
    exact ⟨hlist, fun users _ => ⟨hkey, rfl, rfl, rfl⟩, fun _ => trivial⟩
  dsimp only
  rw [honours_bind, honours_ifSome]
  refine ⟨fun password _ => ?_, fun _ => hrest⟩
  exact (bootstrapAdmin_honours hget hset).mono (fun _ _ => hrest) fun _ _ => trivial

/-- Every finished start leaves the settings of its command line. -/
theorem configured {life : Life} {state : AppState} {s s₁ : Db}
    (h : Steps (DbCall.exec c) (startUp c life.ambient life.cli).run s (.ret (.ok state)) s₁) :
    Configured c life state := by
  have hK : (⟨fun _ _ => True, fun _ => True⟩ : Contract databaseSignature).Sound (DbCall.exec c)
      fun _ => True := ⟨fun _ _ _ => trivial, fun _ _ _ _ => trivial⟩
  exact (h.honours hK (startUp_honours trivial trivial fun _ _ _ _ _ => trivial) trivial).2

end CloudSync
