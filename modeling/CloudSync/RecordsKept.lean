import CloudSync.StoredCells
import CloudSync.Startup

/-!
# Properties of stored records

`Records` is a property of tokens, devices and accounts, each taken alone. The
contract of the handlers is that the records they read have it and that the
records they write have it. `Records.Kept` lists what the handlers do to records,
so that a property which survives each of these holds in every state.
-/

namespace CloudSync

open Rust Redb Transactions Transactions.Fallible

set_option autoImplicit false

structure Records where
  token : ApiToken → Prop
  device : DeviceRecord → Prop
  account : AdminUserRecord → Prop

/-- All rows of the three tables. -/
structure Records.Hold (R : Records) (db : Db) : Prop where
  tokens : ∀ (key : String) token, db.tokens[key]? = some token → R.token token
  devices : ∀ (key : String) device, db.devices[key]? = some device → R.device device
  accounts : ∀ (key : String) user, db.adminUsers[key]? = some user → R.account user

def Records.rely (R : Records) : (call : DbCall) → call.Out → Prop
  | .getToken _, found => ∀ token, found = some token → R.token token
  | .getDevice _, found => ∀ device, found = some device → R.device device
  | .listDevices, devices => ∀ device ∈ devices, R.device device
  | .getAdminUser _, found => ∀ user, found = some user → R.account user
  | _, _ => True

def Records.guarantee (R : Records) : DbCall → Prop
  | .setToken token => R.token token
  | .setDevice device => R.device device
  | .setAdminUser user => R.account user
  | _ => True

def Records.contract (R : Records) : Contract databaseSignature where
  rely := R.rely
  guarantee := R.guarantee

/-! ## What the handlers write -/

variable (c : Crates) (state : AppState) (amb : Ambient)

/-- The record of a new token with the revealable copy `sealed`. -/
def newToken (body : CreateTokenRequest) (sealed : Bytes) (expiresAt : Option String) : ApiToken where
  id := amb.newUuid 1
  name := body.name
  tokenHash := hashApiToken c (amb.newUuid 0)
  encryptedToken := some (c.base64Encode sealed)
  namespacePattern := body.namespacePattern
  permissions := normalizePermissions (body.permissions.getD ["read", "write"])
  createdAt := c.toRfc3339 (amb.now 2)
  enabled := true
  expiresAt := expiresAt
  rotatedAt := none
  disabledAt := none
  lastUsedAt := none
  deviceId := normalizeOptionalText body.deviceId
  readCount := 0
  writeCount := 0
  failedCount := 0
  lastNamespace := none
  lastPermission := none
  lastClientIp := none
  lastClientVersion := none

def rotatedToken (stored : ApiToken) (sealed : Bytes) : ApiToken :=
  { stored with
    tokenHash := hashApiToken c (amb.newUuid 0)
    encryptedToken := some (c.base64Encode sealed)
    rotatedAt := some (c.toRfc3339 (amb.now 1)) }

def newDevice (body : CreateDeviceRequest) : DeviceRecord where
  id := amb.newUuid 0
  name := trim body.name
  namespacePattern := normalizeOptionalText body.namespacePattern
  tokenId := normalizeOptionalText body.tokenId
  enabled := body.enabled.getD true
  createdAt := c.toRfc3339 (amb.now 1)
  updatedAt := c.toRfc3339 (amb.now 1)
  lastSeenAt := none
  lastClientIp := none
  lastClientVersion := normalizeOptionalText body.lastClientVersion
  notes := normalizeOptionalText body.notes

def patchedDevice (stored : DeviceRecord) (body : UpdateDeviceRequest) : DeviceRecord :=
  { stored with
    name := (body.name.map trim).getD stored.name
    namespacePattern := (body.namespacePattern.map normalizeOptionalText).getD stored.namespacePattern
    tokenId := (body.tokenId.map normalizeOptionalText).getD stored.tokenId
    enabled := body.enabled.getD stored.enabled
    notes := (body.notes.map normalizeOptionalText).getD stored.notes
    updatedAt := c.toRfc3339 (amb.now 1) }

/-- The secret drawn for a token, sealed for the panel. -/
def SealsDrawn (sealed : Bytes) : Prop :=
  encrypt c state.tokenRevealKey (amb.nonce 0) (asBytes (amb.newUuid 0)) = .ok sealed

/-- The changes of handlers to tokens and devices. -/
structure Records.Kept (R : Records) : Prop where
  created : ∀ body sealed expiresAt, validateNamespacePattern c body.namespacePattern = true →
    validatePermissions (normalizePermissions (body.permissions.getD ["read", "write"])) = true →
    SealsDrawn c state amb sealed → effectiveTokenExpiry c state body.expiresAt (amb.now 1) = .ok expiresAt →
    R.token (newToken c amb body sealed expiresAt)
  rotated : ∀ stored sealed, R.token stored → SealsDrawn c state amb sealed →
    R.token (rotatedToken c amb stored sealed)
  switched : ∀ token enabled, R.token token → R.token (tokenWithEnabled c token enabled (amb.now 1))
  dated : ∀ token token' expiresAt, R.token token → tokenWithExpiry c token expiresAt = .ok token' →
    R.token token'
  linked : ∀ token deviceId, R.token token → R.token { token with deviceId := deviceId }
  added : ∀ body, (trim body.name).isEmpty = false →
    (normalizeOptionalText body.namespacePattern).all (validateNamespacePattern c) = true →
    R.device (newDevice c amb body)
  patched : ∀ stored body, R.device stored →
    (body.name.isSome = true → ((body.name.map trim).getD stored.name).isEmpty = false) →
    (body.namespacePattern.isSome = true →
      ((body.namespacePattern.map normalizeOptionalText).getD stored.namespacePattern).all
        (validateNamespacePattern c) = true) →
    R.device (patchedDevice c amb stored body)
  relinked : ∀ device tokenId updatedAt, R.device device →
    R.device { device with tokenId := tokenId, updatedAt := updatedAt }

/-- The changes of handlers to accounts. -/
structure Records.AccountsKept (R : Records) : Prop where
  created : ∀ username hash enabled now passwordUpdatedAt, validateAdminUsername (trim username) = .ok () →
    R.account (newAdminUser (trim username) hash enabled now passwordUpdatedAt)
  failed : ∀ user failedAt updatedAt, R.account user → R.account (failedLogin user failedAt updatedAt)
  loggedIn : ∀ user ip loginAt updatedAt, R.account user → R.account (loggedIn user ip loginAt updatedAt)
  changed : ∀ user hash now, R.account user → R.account (passwordChanged user hash now)
  patched : ∀ user newHash enabled passwordUpdatedAt disabledAt updatedAt, R.account user →
    R.account (patchedUser user newHash enabled passwordUpdatedAt disabledAt updatedAt)
  bootstrapped : ∀ existing unchanged username hash now passwordUpdatedAt,
    (∀ user, existing = some user → R.account user) → (trim username).isEmpty = false →
    R.account (bootstrapUser existing unchanged (trim username) hash now passwordUpdatedAt)

/-- The use of tokens, which the database notes on its own. -/
structure Records.UsageKept (R : Records) : Prop where
  used : ∀ db id ns permission clientIp clientVersion observedAt, R.Hold db →
    R.Hold (db.recordTokenUsage id ns permission clientIp clientVersion observedAt)
  failed : ∀ db id, R.Hold db → R.Hold (db.recordTokenFailure id)

variable {c state amb} {R : Records}

/-! ## The contract and the tables -/

theorem Records.Hold.of_tables {db db' : Db} (h : R.Hold db) (ht : db'.tokens = db.tokens)
    (hd : db'.devices = db.devices) (hu : db'.adminUsers = db.adminUsers) : R.Hold db' where
  tokens := ht ▸ h.tokens
  devices := hd ▸ h.devices
  accounts := hu ▸ h.accounts

theorem Records.hold_empty : R.Hold {} := by
  constructor <;>
  · intro key row h
    simp at h

theorem insert_kept {V : Type} {P : V → Prop} {t : Table V} {key : String} {row : V}
    (h : ∀ (k : String) v, t[k]? = some v → P v) (hrow : P row) :
    ∀ (k : String) v, (t.insert key row)[k]? = some v → P v := by
  intro k v hv
  rw [Table.get_insert] at hv
  split at hv
  · cases hv
    exact hrow
  · exact h k v hv

theorem erase_kept {V : Type} {P : V → Prop} {t : Table V} {key : String}
    (h : ∀ (k : String) v, t[k]? = some v → P v) :
    ∀ (k : String) v, (t.erase key)[k]? = some v → P v := by
  intro k v hv
  rw [Table.get_erase] at hv
  split at hv
  · cases hv
  · exact h k v hv

theorem Records.sound (hR : R.UsageKept) : R.contract.Sound (DbCall.exec c) R.Hold where
  justified call db h := by
    cases call with
    | getToken id => exact fun token htoken => h.tokens _ token htoken
    | getDevice id => exact fun device hdevice => h.devices _ device hdevice
    | getAdminUser username => exact fun user huser => h.accounts _ user huser
    | listDevices =>
      intro device hmem
      obtain ⟨key, hkey⟩ := Table.mem_values.mp hmem
      exact h.devices key device hkey
    | _ => trivial
  kept call db h hcall := by
    cases call with
    | setToken token => exact ⟨insert_kept h.tokens hcall, h.devices, h.accounts⟩
    | deleteToken id => exact ⟨erase_kept h.tokens, h.devices, h.accounts⟩
    | setDevice device => exact ⟨h.tokens, insert_kept h.devices hcall, h.accounts⟩
    | deleteDevice id => exact ⟨h.tokens, erase_kept h.devices, h.accounts⟩
    | setAdminUser user => exact ⟨h.tokens, h.devices, insert_kept h.accounts hcall⟩
    | deleteAdminUser username => exact ⟨h.tokens, h.devices, erase_kept h.accounts⟩
    | recordTokenUsage id ns permission clientIp clientVersion observedAt => exact hR.used db _ _ _ _ _ _ h
    | recordTokenFailure id => exact hR.failed db id h
    | putObjectIfMatches ns path expectedEtag requireAbsent data m =>
      rcases putObjectIfMatches_cases db ns path expectedEtag requireAbsent data m with
        ⟨_, heq⟩ | ⟨_, heq⟩ <;>
      · simp only [DbCall.exec, heq]
        exact h.of_tables rfl rfl rfl
    | putBlobIfMatches ns expectedEtag requireAbsent blob m =>
      rcases putBlobIfMatches_cases db ns expectedEtag requireAbsent blob m with
        ⟨_, heq⟩ | ⟨_, _, heq⟩ | ⟨_, heq⟩ <;>
      · simp only [DbCall.exec, heq]
        exact h.of_tables rfl rfl rfl
    | _ => exact h.of_tables rfl rfl rfl

/-! ## Every request honours the contract -/

section Handlers
variable {headers : HeaderMap}

abbrev Keeps {α : Type} (R : Records) (x : Handler α) : Prop :=
  Honours R.contract x (fun _ => True) fun _ => True

theorem keeps_guarded {α : Type} {now : Instant} {f : Handler α} {ok : α → Prop}
    (h : Honours R.contract f ok fun _ => True) :
    Honours R.contract (do
      verifyAdminMutation c state headers now
      f) ok fun _ => True :=
  .skip (verifyAdminMutation_reads (fun _ => trivial) _ _) fun _ => h

theorem keeps_capacity {α : Type} {bytes : Nat} {f : Handler α} {ok : α → Prop}
    (h : Honours R.contract f ok fun _ => True) :
    Honours R.contract (do
      ensureDiskCapacity state amb bytes
      f) ok fun _ => True :=
  .skip (ensureDiskCapacity_calls _ _) fun _ => h

/-- Calls of no area write no record. -/
theorem calls_guarantee {α : Type} {x : Handler α} (h : Calls (PanelCall none) x) :
    Calls R.contract.guarantee x := by
  refine Program.Calls.mono ?_ h
  intro call hcall
  have hnone : call.area = none := hcall.1.elim id id
  cases call with
  | setToken token => cases hnone
  | setDevice device => cases hnone
  | setAdminUser user => cases hnone
  | _ => trivial

theorem relinkDevice_keeps (hR : R.Kept c state amb) (deviceId : String) (applies : DeviceRecord → Bool)
    (tokenId : Option String) (now : Instant) : Keeps R (relinkDevice c deviceId applies tokenId now) := by
  unfold relinkDevice
  rw [Keeps, honours_bind, honours_db]
  refine ⟨trivial, fun found hfound => ?_, fun _ => trivial⟩
  rw [honours_ifSome]
  refine ⟨fun device hdevice => ?_, fun _ => trivial⟩
  rw [honours_runIf]
  refine ⟨fun _ => ?_, fun _ => trivial⟩
  rw [honours_db]
  exact ⟨hR.relinked device _ _ (hfound device hdevice), fun _ _ => trivial, fun _ => trivial⟩

theorem changeTokenDevice_keeps (hR : R.Kept c state amb) {token : ApiToken} (htoken : R.token token)
    (requested : Option (Option String)) :
    Honours R.contract (changeTokenDevice c amb token requested) R.token fun _ => True := by
  unfold changeTokenDevice
  cases requested with
  | none => exact htoken
  | some requested =>
    refine .skip (ensureDeviceExists_calls (fun _ => trivial) _) fun _ => ?_
    have hend : Honours R.contract (pure { token with deviceId := normalizeOptionalText requested } :
        Handler ApiToken) R.token fun _ => True := hR.linked token _ htoken
    unfold moveDeviceLink
    rw [honours_bind, honours_runIf]
    refine ⟨fun _ => ?_, fun _ => hend⟩
    have hnext : Honours R.contract (ifSome (normalizeOptionalText requested) fun nextDeviceId =>
        relinkDevice c nextDeviceId (fun _ => true) (some token.id) (amb.now 3))
        (fun _ => Honours R.contract (pure { token with deviceId := normalizeOptionalText requested } :
          Handler ApiToken) R.token fun _ => True) fun _ => True := by
      rw [honours_ifSome]
      refine ⟨fun nextDeviceId _ => ?_, fun _ => hend⟩
      exact (relinkDevice_keeps hR _ _ _ _).mono (fun _ _ => hend) fun _ _ => trivial
    rw [honours_bind, honours_ifSome]
    refine ⟨fun oldDeviceId _ => ?_, fun _ => hnext⟩
    exact (relinkDevice_keeps hR _ _ _ _).mono (fun _ _ => hnext) fun _ _ => trivial

/-- A secret is sealed before it is stored. -/
theorem encryptToken_keeps :
    Honours R.contract (encryptToken c state amb (amb.newUuid 0))
      (fun copy => ∃ sealed, copy = c.base64Encode sealed ∧ SealsDrawn c state amb sealed)
      fun _ => True := by
  unfold encryptToken
  rw [honours_liftResult]
  refine ⟨fun copy hcopy => ?_, fun _ _ => trivial⟩
  unfold SealsDrawn
  cases hsealed : encrypt c state.tokenRevealKey (amb.nonce 0) (asBytes (amb.newUuid 0)) with
  | ok sealed =>
    rw [hsealed] at hcopy
    exact ⟨sealed, (Except.ok.inj hcopy).symm, rfl⟩
  | error e =>
    rw [hsealed] at hcopy
    cases hcopy

theorem adminCreateToken_keeps (hR : R.Kept c state amb) (body : CreateTokenRequest) :
    Keeps R (adminCreateToken c state amb headers body) := by
  refine keeps_guarded (keeps_capacity ?_)
  rw [honours_bind, honours_ensure]
  refine ⟨fun hpattern => ?_, fun _ => trivial⟩
  rw [honours_bind, honours_ensure]
  refine ⟨fun hpermissions => ?_, fun _ => trivial⟩
  rw [honours_bind]
  refine encryptToken_keeps.mono ?_ fun _ _ => trivial
  rintro _ ⟨sealed, rfl, hsealed⟩
  rw [honours_bind, honours_liftResult]
  refine ⟨fun expiresAt hexpires => ?_, fun _ _ => trivial⟩
  refine .skip (ensureDeviceExists_calls (fun _ => trivial) _) fun _ => ?_
  rw [honours_bind, honours_db]
  refine ⟨hR.created body sealed expiresAt hpattern hpermissions hsealed hexpires, fun _ _ => ?_,
    fun _ => trivial⟩
  rw [honours_bind, honours_ifSome]
  refine ⟨fun deviceId _ => ?_, fun _ => trivial⟩
  exact (relinkDevice_keeps hR _ _ _ _).mono (fun _ _ => trivial) fun _ _ => trivial

theorem adminUpdateToken_keeps (hR : R.Kept c state amb) (id : String) (body : UpdateTokenRequest) :
    Keeps R (adminUpdateToken c state amb id headers body) := by
  refine keeps_guarded (keeps_capacity ?_)
  rw [honours_bind, honours_db]
  refine ⟨trivial, fun found hfound => ?_, fun _ => trivial⟩
  rw [honours_bind, honours_okOr]
  refine ⟨fun stored hstored => ?_, fun _ => trivial⟩
  rw [honours_bind, honours_liftResult]
  refine ⟨fun dated hdated => ?_, fun _ _ => trivial⟩
  have htoken : R.token dated :=
    hR.dated _ dated _ (hR.switched stored body.enabled (hfound stored hstored)) hdated
  rw [honours_bind]
  refine (changeTokenDevice_keeps hR htoken _).mono (fun token hnew => ?_) fun _ _ => trivial
  rw [honours_bind, honours_db]
  exact ⟨hnew, fun _ _ => trivial, fun _ => trivial⟩

theorem adminRotateToken_keeps (hR : R.Kept c state amb) (id : String) :
    Keeps R (adminRotateToken c state amb id headers) := by
  refine keeps_guarded (keeps_capacity ?_)
  rw [honours_bind, honours_db]
  refine ⟨trivial, fun found hfound => ?_, fun _ => trivial⟩
  rw [honours_bind, honours_okOr]
  refine ⟨fun stored hstored => ?_, fun _ => trivial⟩
  rw [honours_bind]
  refine encryptToken_keeps.mono ?_ fun _ _ => trivial
  rintro _ ⟨sealed, rfl, hsealed⟩
  rw [honours_bind, honours_db]
  exact ⟨hR.rotated stored sealed (hfound stored hstored) hsealed, fun _ _ => trivial, fun _ => trivial⟩

theorem adminDeleteToken_keeps (hR : R.Kept c state amb) (id : String) :
    Keeps R (adminDeleteToken c state amb id headers) := by
  refine keeps_guarded ?_
  rw [honours_bind, honours_db]
  refine ⟨trivial, fun (devices : List DeviceRecord) hdevices => ?_, fun _ => trivial⟩
  have hunlink : ∀ device ∈ devices, Keeps R (runIf (device.tokenId == some id)
      (db (.setDevice { device with tokenId := none, updatedAt := c.toRfc3339 (amb.now 1) }))) := by
    intro device hmem
    rw [Keeps, honours_runIf]
    refine ⟨fun _ => ?_, fun _ => trivial⟩
    rw [honours_db]
    exact ⟨hR.relinked device _ _ (hdevices device hmem), fun _ _ => trivial, fun _ => trivial⟩
  rw [honours_bind]
  refine (Honours.forM hunlink).mono (fun _ _ => ?_) fun _ _ => trivial
  rw [honours_db]
  exact ⟨trivial, fun _ _ => trivial, fun _ => trivial⟩

theorem setTokenDeviceLink_keeps (hR : R.Kept c state amb) (oldTokenId newTokenId : Option String)
    (deviceId : String) : Keeps R (setTokenDeviceLink oldTokenId newTokenId deviceId) := by
  unfold setTokenDeviceLink
  rw [Keeps, honours_runIf]
  refine ⟨fun _ => ?_, fun _ => trivial⟩
  have hnew : Keeps R (ifSome newTokenId fun newTokenId => do
      let found : Option ApiToken ← db (.getToken newTokenId)
      let token ← okOr found (.badRequest s!"Token '{newTokenId}' not found")
      db (.setToken { token with deviceId := some deviceId })) := by
    rw [Keeps, honours_ifSome]
    refine ⟨fun newTokenId _ => ?_, fun _ => trivial⟩
    rw [honours_bind, honours_db]
    refine ⟨trivial, fun found hfound => ?_, fun _ => trivial⟩
    rw [honours_bind, honours_okOr]
    refine ⟨fun token htoken => ?_, fun _ => trivial⟩
    rw [honours_db]
    exact ⟨hR.linked token _ (hfound token htoken), fun _ _ => trivial, fun _ => trivial⟩
  rw [honours_bind, honours_ifSome]
  refine ⟨fun oldTokenId _ => ?_, fun _ => hnew⟩
  rw [honours_bind, honours_db]
  refine ⟨trivial, fun found hfound => ?_, fun _ => trivial⟩
  rw [honours_ifSome]
  refine ⟨fun token htoken => ?_, fun _ => hnew⟩
  rw [honours_runIf]
  refine ⟨fun _ => ?_, fun _ => hnew⟩
  rw [honours_db]
  exact ⟨hR.linked token _ (hfound token htoken), fun _ _ => hnew, fun _ => trivial⟩

theorem adminCreateDevice_keeps (hR : R.Kept c state amb) (body : CreateDeviceRequest) :
    Keeps R (adminCreateDevice c state amb headers body) := by
  refine keeps_guarded (keeps_capacity ?_)
  rw [honours_bind, ensureDeviceName, honours_ensure]
  refine ⟨fun hname => ?_, fun _ => trivial⟩
  rw [honours_bind, ensurePatternValid, honours_ensure]
  refine ⟨fun hpattern => ?_, fun _ => trivial⟩
  refine .skip (calls_guarantee (ensureTokenExists_calls _)) fun _ => ?_
  rw [honours_bind, honours_db]
  refine ⟨hR.added body (by simpa using hname) hpattern, fun _ _ => ?_, fun _ => trivial⟩
  rw [honours_bind]
  exact setTokenDeviceLink_keeps hR _ _ _

theorem adminUpdateDevice_keeps (hR : R.Kept c state amb) (id : String) (body : UpdateDeviceRequest) :
    Keeps R (adminUpdateDevice c state amb id headers body) := by
  refine keeps_guarded (keeps_capacity ?_)
  rw [honours_bind, honours_db]
  refine ⟨trivial, fun found hfound => ?_, fun _ => trivial⟩
  rw [honours_bind, honours_okOr]
  refine ⟨fun stored hstored => ?_, fun _ => trivial⟩
  have hrest : (body.name.isSome = true → ((body.name.map trim).getD stored.name).isEmpty = false) →
      (body.namespacePattern.isSome = true →
        ((body.namespacePattern.map normalizeOptionalText).getD stored.namespacePattern).all
          (validateNamespacePattern c) = true) → Keeps R (do
      runIf body.tokenId.isSome
        (ensureTokenExists ((body.tokenId.map normalizeOptionalText).getD stored.tokenId))
      db (.setDevice (patchedDevice c amb stored body))
      setTokenDeviceLink stored.tokenId (patchedDevice c amb stored body).tokenId
        (patchedDevice c amb stored body).id
      pure (patchedDevice c amb stored body)) := by
    intro hname hpattern
    refine .skip (calls_runIf.mpr fun _ => calls_guarantee (ensureTokenExists_calls _)) fun _ => ?_
    rw [honours_bind, honours_db]
    refine ⟨hR.patched stored body (hfound stored hstored) hname hpattern, fun _ _ => ?_,
      fun _ => trivial⟩
    rw [honours_bind]
    exact setTokenDeviceLink_keeps hR _ _ _
  have hpatterned : (body.name.isSome = true → ((body.name.map trim).getD stored.name).isEmpty = false) →
      Keeps R (do
      runIf body.namespacePattern.isSome (ensurePatternValid c
        ((body.namespacePattern.map normalizeOptionalText).getD stored.namespacePattern))
      runIf body.tokenId.isSome
        (ensureTokenExists ((body.tokenId.map normalizeOptionalText).getD stored.tokenId))
      db (.setDevice (patchedDevice c amb stored body))
      setTokenDeviceLink stored.tokenId (patchedDevice c amb stored body).tokenId
        (patchedDevice c amb stored body).id
      pure (patchedDevice c amb stored body)) := by
    intro hname
    rw [Keeps, honours_bind, honours_runIf, ensurePatternValid, honours_ensure]
    refine ⟨fun _ => ⟨fun hpattern => hrest hname fun _ => hpattern, fun _ => trivial⟩, fun hnone => ?_⟩
    exact hrest hname fun h => absurd h (by simp [hnone])
  rw [honours_bind, honours_runIf, ensureDeviceName, honours_ensure]
  refine ⟨fun _ => ⟨fun hname => hpatterned fun _ => ?_, fun _ => trivial⟩, fun hnone => ?_⟩
  · simpa using hname
  · exact hpatterned fun h => absurd h (by simp [hnone])

theorem adminDeleteDevice_keeps (hR : R.Kept c state amb) (id : String) :
    Keeps R (adminDeleteDevice c state amb id headers) := by
  refine keeps_guarded ?_
  rw [honours_bind, honours_db]
  refine ⟨trivial, fun found _ => ?_, fun _ => trivial⟩
  rw [honours_bind, honours_okOr]
  refine ⟨fun device _ => ?_, fun _ => trivial⟩
  rw [honours_bind]
  refine (setTokenDeviceLink_keeps hR _ _ _).mono (fun _ _ => ?_) fun _ _ => trivial
  rw [honours_db]
  exact ⟨trivial, fun _ _ => trivial, fun _ => trivial⟩

theorem adminLogin_keeps (hR : R.AccountsKept) (peer : IpAddr) (body : LoginRequest) :
    Keeps R (adminLogin c state amb peer headers body) := by
  have hfailure : ∀ (ip : IpAddr) (now : Instant) {α : Type} (f : LoginAttemptRecord → Handler α),
      (∀ attempt, Keeps R (f attempt)) → Keeps R (recordLoginFailure c state ip now >>= f) :=
    fun ip now {α} f hf => .skip (calls_guarantee (recordLoginFailure_calls ip now)) hf
  unfold adminLogin
  refine .skip (calls_guarantee (ensureLoginAllowed_calls _ _)) fun _ => ?_
  refine .skip (by simp) fun _ => ?_
  rw [honours_bind, honours_db]
  refine ⟨trivial, fun found hfound => ?_, fun _ => trivial⟩
  cases found with
  | none => exact hfailure _ _ _ fun _ => trivial
  | some user =>
    have huser := hfound user rfl
    dsimp only
    split
    · rw [recordUserLoginFailure, honours_bind, honours_db]
      refine ⟨hR.failed user _ _ huser, fun _ _ => ?_, fun _ => trivial⟩
      exact hfailure _ _ _ fun _ => trivial
    · refine .skip ((calls_db _).mpr trivial) fun _ => ?_
      rw [honours_bind, honours_db]
      refine ⟨hR.loggedIn user _ _ _ huser, fun _ _ => ?_, fun _ => trivial⟩
      exact Calls.honours (.bind (by simp [createAdminJwtForUser]) fun _ => .bind (by simp) fun _ =>
        .bind (by simp) fun _ => by simp)

theorem adminChangeOwnPassword_keeps (hR : R.AccountsKept) (body : ChangeOwnPasswordRequest) :
    Keeps R (adminChangeOwnPassword c state amb headers body) := by
  refine keeps_guarded (keeps_capacity ?_)
  refine .skip (validateAdminSession_reads (fun _ => trivial) _ _) fun username => ?_
  refine .skip (by simp [ensurePasswordLength]) fun _ => ?_
  rw [honours_bind, honours_db]
  refine ⟨trivial, fun found hfound => ?_, fun _ => trivial⟩
  rw [honours_bind, honours_okOr]
  refine ⟨fun user huser => ?_, fun _ => trivial⟩
  have hread := hfound user huser
  split
  · rw [recordUserLoginFailure, honours_bind, honours_db]
    exact ⟨hR.failed user _ _ hread, fun _ _ => trivial, fun _ => trivial⟩
  · refine .skip (by simp [hashAdminPassword]) fun passwordHash => ?_
    rw [honours_bind, honours_db]
    refine ⟨hR.changed user _ _ hread, fun _ _ => ?_, fun _ => trivial⟩
    exact Calls.honours (.bind (by simp [createAdminJwtForUser]) fun _ => .bind (by simp) fun _ => by simp)

theorem adminCreateUser_keeps (hR : R.AccountsKept) (body : CreateUserRequest) :
    Keeps R (adminCreateUser c state amb headers body) := by
  refine keeps_guarded (keeps_capacity ?_)
  refine .skip (validateAdminSession_reads (fun _ => trivial) _ _) fun _ => ?_
  rw [honours_bind, honours_liftResult]
  refine ⟨fun _ hname => ?_, fun _ _ => trivial⟩
  refine .skip (by simp [ensurePasswordLength]) fun _ => ?_
  refine .skip ((calls_db _).mpr trivial) fun _ => .skip (by simp) fun _ =>
    .skip (by simp [hashAdminPassword]) fun passwordHash => ?_
  rw [honours_bind, honours_db]
  exact ⟨hR.created body.username passwordHash _ _ _ hname, fun _ _ => trivial, fun _ => trivial⟩

theorem adminUpdateUser_keeps (hR : R.AccountsKept) (username : String) (body : UpdateUserRequest) :
    Keeps R (adminUpdateUser c state amb username headers body) := by
  refine keeps_guarded (keeps_capacity ?_)
  refine .skip (validateAdminSession_reads (fun _ => trivial) _ _) fun _ => ?_
  refine .skip (by simp) fun _ => ?_
  rw [honours_bind, honours_db]
  refine ⟨trivial, fun found hfound => ?_, fun _ => trivial⟩
  rw [honours_bind, honours_okOr]
  refine ⟨fun user huser => ?_, fun _ => trivial⟩
  refine .skip (hashNewPassword_calls _) fun newHash => ?_
  refine .skip (calls_runIf.mpr fun _ => calls_guarantee (ensureOtherEnabledAdmin_calls _)) fun _ => ?_
  rw [honours_bind, honours_db]
  exact ⟨hR.patched user _ _ _ _ _ (hfound user huser), fun _ _ => trivial, fun _ => trivial⟩

theorem adminDeleteUser_keeps (username : String) :
    Keeps R (adminDeleteUser c state amb username headers) := by
  refine keeps_guarded ?_
  refine .skip (validateAdminSession_reads (fun _ => trivial) _ _) fun _ => ?_
  refine .skip (by simp) fun _ => .skip ((calls_db _).mpr trivial) fun _ => .skip (by simp) fun _ => ?_
  refine .skip (calls_runIf.mpr fun _ => calls_guarantee (ensureOtherEnabledAdmin_calls _)) fun _ => ?_
  rw [honours_db]
  exact ⟨trivial, fun _ _ => trivial, fun _ => trivial⟩

end Handlers

theorem keeps_wrapped {α : Type} {x : Handler α} {f : α → Response} (h : Keeps R x) :
    Keeps R (x >>= fun a => pure (f a)) :=
  (honours_bind _ _).mpr (h.mono (fun _ _ => trivial) fun _ _ => trivial)

theorem handle_keeps_outside (r : Request) (htokens : r.endpoint.area ≠ some .tokens)
    (husers : r.endpoint.area ≠ some .users) : Keeps R (handle c state amb r) := by
  apply Calls.honours
  refine Program.Calls.mono ?_ (handle_calls r)
  intro call hcall
  cases call with
  | setToken token =>
    rcases hcall with hnone | hsome
    · cases hnone
    · exact absurd hsome.symm htokens
  | setDevice device =>
    rcases hcall with hnone | hsome
    · cases hnone
    · exact absurd hsome.symm htokens
  | setAdminUser user =>
    rcases hcall with hnone | hsome
    · cases hnone
    · exact absurd hsome.symm husers
  | _ => trivial

/-- Every request honours the contract of a property that handlers keep. -/
theorem handle_keeps (hR : R.Kept c state amb) (haccounts : R.AccountsKept) (r : Request) :
    Keeps R (handle c state amb r) := by
  obtain ⟨endpoint, peer, headers⟩ := r
  cases endpoint with
  | adminCreateToken body => exact keeps_wrapped (adminCreateToken_keeps hR body)
  | adminUpdateToken id body => exact keeps_wrapped (adminUpdateToken_keeps hR id body)
  | adminRotateToken id => exact keeps_wrapped (adminRotateToken_keeps hR id)
  | adminDeleteToken id => exact keeps_wrapped (adminDeleteToken_keeps hR id)
  | adminCreateDevice body => exact keeps_wrapped (adminCreateDevice_keeps hR body)
  | adminUpdateDevice id body => exact keeps_wrapped (adminUpdateDevice_keeps hR id body)
  | adminDeleteDevice id => exact keeps_wrapped (adminDeleteDevice_keeps hR id)
  | adminLogin body => exact keeps_wrapped (adminLogin_keeps haccounts peer body)
  | adminChangeOwnPassword body => exact keeps_wrapped (adminChangeOwnPassword_keeps haccounts body)
  | adminCreateUser body => exact keeps_wrapped (adminCreateUser_keeps haccounts body)
  | adminUpdateUser username body => exact keeps_wrapped (adminUpdateUser_keeps haccounts username body)
  | adminDeleteUser username => exact keeps_wrapped (adminDeleteUser_keeps username)
  | _ => exact handle_keeps_outside _ (by simp [Endpoint.area]) (by simp [Endpoint.area])

/-! ## Every state -/

theorem startUp_keeps (haccounts : R.AccountsKept) (life : Life) :
    Honours R.contract (startUp c life.ambient life.cli) (Configured c life) fun _ => True :=
  startUp_honours trivial trivial fun existing unchanged hash hrely hname =>
    haccounts.bootstrapped existing unchanged _ hash _ _ hrely hname

section Runs
variable {t : Traffic} {s s' : Db} {log : List DbEvent} {ps : Nat → Program databaseSignature Answer}

/-- Whatever requests are served at once, the property holds of all records all the time. -/
theorem Records.hold_run (husage : R.UsageKept) (haccounts : R.AccountsKept)
    (hR : ∀ i, R.Kept c state (t.ambient i)) (h : ServerRun c state t s log s' ps) (hs : R.Hold s) :
    R.Hold s' ∧ ∀ e ∈ log, R.Hold e.pre ∧ R.Hold e.post := by
  have hprog : ∀ i, (t.program c state i).Honours R.contract fun _ => True := by
    intro i
    exact Program.Honours.mono (fun _ _ => trivial) (handle_keeps (hR i) haccounts (t.request i))
  refine ⟨(h.honours (sound husage) hs hprog).1, fun e he => ?_⟩
  obtain ⟨hpre, hpost, _⟩ := h.honoured (sound husage) hs hprog e he
  exact ⟨hpre, hpost⟩

/-- And it holds when one process follows another. -/
theorem Records.hold_operated {P : Life → Prop} (husage : R.UsageKept) (haccounts : R.AccountsKept)
    (hR : ∀ life state, P life → Configured c life state → ∀ i, R.Kept c state (life.traffic.ambient i))
    (h : Operated c P s) : R.Hold s := by
  induction h with
  | created => exact hold_empty
  | started life _ _ hsteps ih =>
    exact (hsteps.honours (sound husage) (startUp_keeps haccounts life) ih).1
  | served life _ hlife hsteps hrun ih =>
    have hstarted := (hsteps.honours (sound husage) (startUp_keeps haccounts life) ih).1
    exact (hold_run husage haccounts (hR life _ hlife (configured hsteps)) hrun hstarted).1

end Runs

end CloudSync
