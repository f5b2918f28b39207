import CloudSync.SyncApi

/-!
# The admin panel (`panel.rs`)

Sessions, login throttling and the handlers behind `/admin/api`. Every handler
that changes a record reads it in one transaction and writes it back whole in a
later one.
-/

namespace CloudSync

open Rust Transactions Transactions.Fallible

set_option autoImplicit false

variable (c : Crates) (state : AppState) (amb : Ambient)

/-! ## Sessions -/

def adminCookieName : String := "admin_session"

def adminCsrfCookieName : String := "admin_csrf"

def extractCookie (headers : HeaderMap) (name : String) : Option String :=
  (headers.getStr "cookie").bind fun value =>
    (splitChars ';' (chars value)).findSome? fun part =>
      match splitOnceChars '=' (trimChars part) with
      | some (cookieName, cookieValue) =>
        if cookieName = chars name then some (String.ofList cookieValue) else none
      | none => none

def extractAdminToken (headers : HeaderMap) : Option String :=
  (extractCookie headers adminCookieName).or
    (((headers.getStr "authorization").bind fun v => stripPrefix v "Bearer ").map trim)

def secureAttribute (secure : Bool) : String := if secure then "; Secure" else ""

def buildAdminSessionCookie (token : String) (secure : Bool) : String :=
  adminCookieName ++ "=" ++ token ++ "; HttpOnly; Max-Age=86400; Path=/admin; SameSite=Strict"
    ++ secureAttribute secure

def buildCsrfCookie (token : String) (secure : Bool) : String :=
  adminCsrfCookieName ++ "=" ++ token ++ "; Max-Age=86400; Path=/admin; SameSite=Strict"
    ++ secureAttribute secure

def clearCookie (name : String) (httpOnly secure : Bool) : String :=
  name ++ "=" ++ (if httpOnly then "; HttpOnly" else "")
    ++ "; Max-Age=0; Path=/admin; SameSite=Strict; Expires=Thu, 01 Jan 1970 00:00:00 GMT"
    ++ secureAttribute secure

def validateAdminSession (headers : HeaderMap) (now : Instant) : Handler String := do
  ensure state.adminEnabled (.notFound "Admin panel disabled")
  let token ← okOr (extractAdminToken headers) (.unauthorized "Missing admin session")
  let claims ← okOr (c.jwtDecode state.jwtSecret (trim token) now)
    (.unauthorized "Invalid or expired admin session")
  let found : Option AdminUserRecord ← db (.getAdminUser claims.sub)
  let user ← okOr found (.unauthorized "Admin user no longer exists")
  ensure user.enabled (.unauthorized "Admin user is disabled")
  ensure (claims.ver == user.sessionVersion) (.unauthorized "Admin session was invalidated")
  pure user.username

def verifyAdmin (headers : HeaderMap) (now : Instant) : Handler Unit := do
  let _ ← validateAdminSession c state headers now

def verifyCsrf (headers : HeaderMap) : Except AppError Unit :=
  match extractCookie headers adminCsrfCookieName, headers.getStr "x-csrf-token" with
  | none, _ => .error (.forbidden "Missing CSRF cookie")
  | some _, none => .error (.forbidden "Missing CSRF token")
  | some cookieToken, some headerToken =>
    if cookieToken.isEmpty || cookieToken != headerToken then
      .error (.forbidden "Invalid CSRF token")
    else .ok ()

def verifyAdminMutation (headers : HeaderMap) (now : Instant) : Handler Unit := do
  verifyAdmin c state headers now
  liftResult (verifyCsrf headers)

def requestUsesHttps (headers : HeaderMap) : Bool :=
  state.trustProxyHeaders &&
    (headers.getStr "x-forwarded-proto").any fun value =>
      trim ((split value ',').headD "") == "https"

def effectiveAdminCookieSecure (headers : HeaderMap) : Bool :=
  state.adminCookieSecure && requestUsesHttps state headers

def verifyAdminPassword (password hash : String) : Bool := (c.bcryptVerify password hash).getD false

def hashAdminPassword (salt password : String) : Handler String :=
  liftResult ((c.bcryptHash salt password).mapError fun e =>
    .internal ("Password hashing failed: " ++ e))

def createAdminJwtForUser (username : String) (sessionVersion : Nat) (now : Instant) :
    Handler String :=
  let timestamp := (now.ediv nanosPerSecond).toNat
  let claims : AdminClaims :=
    { sub := username, exp := timestamp + 86400, iat := timestamp, ver := sessionVersion }
  liftResult ((c.jwtEncode state.jwtSecret claims).mapError fun e =>
    .internal ("JWT creation failed: " ++ e))

/-! ## Normalisation -/

def normalizeOptionalTimestamp (value : Option String) : Except AppError (Option String) :=
  match value with
  | none => .ok none
  | some value =>
    match c.parseFromRfc3339 (trim value) with
    | some instant => .ok (some (c.toRfc3339 instant))
    | none => .error (.badRequest "Timestamp must be valid RFC3339 / ISO-8601")

def normalizeOptionalText (value : Option String) : Option String :=
  (value.map trim).filter fun trimmed => !trimmed.isEmpty

def validateAdminUsername (username : String) : Except AppError Unit :=
  if username.isEmpty || 64 < len username then
    .error (.badRequest "Username must be 1-64 characters")
  else if !(chars username).all fun ch =>
      isAsciiAlphanumeric ch || ch == '-' || ch == '_' || ch == '.' then
    .error (.badRequest "Username may only contain ASCII letters, numbers, dash, underscore, and dot")
  else .ok ()

def timestampMax (left right : Option String) : Option String :=
  match left, right with
  | some left, some right =>
    match c.parseFromRfc3339 right, c.parseFromRfc3339 left with
    | some rightDt, some leftDt => if leftDt < rightDt then some right else some left
    | _, _ => some left
  | some value, none => some value
  | none, right => right

def effectiveTokenExpiry (requested : Option String) (now : Instant) :
    Except AppError (Option String) :=
  match normalizeOptionalTimestamp c requested with
  | .error e => .error e
  | .ok (some expiresAt) => .ok (some expiresAt)
  | .ok none =>
    match state.defaultTokenTtlSeconds with
    | none => .ok none
    | some ttl =>
      match addSeconds c now ttl with
      | some expiresAt => .ok (some (c.toRfc3339 expiresAt))
      | none => .error (.panicked "DateTime + Duration overflowed")

/-- `password.len() < 8` is refused. -/
def ensurePasswordLength (password : String) : Handler Unit :=
  ensure (8 ≤ len password) (.badRequest "Password must be at least 8 characters")

/-! ## Views -/

structure TokenSummary where
  id : String
  name : String
  canReveal : Bool
  namespacePattern : String
  permissions : List String
  createdAt : String
  lastUsedAt : Option String
  enabled : Bool
  expiresAt : Option String
  rotatedAt : Option String
  disabledAt : Option String
  deviceId : Option String
  readCount : Nat
  writeCount : Nat
  failedCount : Nat
  lastNamespace : Option String
  lastPermission : Option String
  lastClientIp : Option String
  lastClientVersion : Option String
  expired : Bool
  deriving Repr, DecidableEq

def serializeTokenSummary (token : ApiToken) (now : Instant) : TokenSummary where
  id := token.id
  name := token.name
  canReveal := token.encryptedToken.isSome
  namespacePattern := token.namespacePattern
  permissions := token.permissions
  createdAt := token.createdAt
  lastUsedAt := token.lastUsedAt
  enabled := token.enabled
  expiresAt := token.expiresAt
  rotatedAt := token.rotatedAt
  disabledAt := token.disabledAt
  deviceId := token.deviceId
  readCount := token.readCount
  writeCount := token.writeCount
  failedCount := token.failedCount
  lastNamespace := token.lastNamespace
  lastPermission := token.lastPermission
  lastClientIp := token.lastClientIp
  lastClientVersion := token.lastClientVersion
  expired := tokenExpired c token now

structure AdminUserSummary where
  username : String
  role : String
  enabled : Bool
  createdAt : String
  updatedAt : String
  lastLoginAt : Option String
  lastLoginIp : Option String
  failedLoginCount : Nat
  lastFailedLoginAt : Option String
  passwordUpdatedAt : Option String
  disabledAt : Option String
  deriving Repr, DecidableEq

def serializeAdminUser (user : AdminUserRecord) : AdminUserSummary where
  username := user.username
  role := user.role
  enabled := user.enabled
  createdAt := user.createdAt
  updatedAt := user.updatedAt
  lastLoginAt := user.lastLoginAt
  lastLoginIp := user.lastLoginIp
  failedLoginCount := user.failedLoginCount
  lastFailedLoginAt := user.lastFailedLoginAt
  passwordUpdatedAt := user.passwordUpdatedAt
  disabledAt := user.disabledAt

/-! ## Login -/

def ensureLoginAllowed (ip : IpAddr) (now : Instant) : Handler Unit := do
  db (.cleanupLoginAttempts now state.loginWindowSeconds)
  let attempt : Option LoginAttemptRecord ← db (.getLoginAttempt ip)
  match (attempt.bind (·.blockedUntil)).bind c.parseFromRfc3339 with
  | none => pure ()
  | some blockedUntil =>
    let retryAfter := max (numSeconds (blockedUntil - now)) 1
    ensure (blockedUntil ≤ now)
      (.tooManyRequests s!"Too many login attempts. Retry in {retryAfter} seconds")

/-- The counter after one more failure; `none` where computing the end of the lockout panics. -/
def countFailure (attempt : Option LoginAttemptRecord) (now : Instant) : Option LoginAttemptRecord :=
  let fresh : LoginAttemptRecord :=
    { firstFailureAt := c.toRfc3339 now, failures := 0, blockedUntil := none }
  let attempt := attempt.getD fresh
  let attempt := match c.parseFromRfc3339 attempt.firstFailureAt with
    | none => fresh
    | some firstFailureAt =>
      if state.loginWindowSeconds < numSeconds (now - firstFailureAt) then fresh else attempt
  let failures := (attempt.failures + 1) % 2 ^ 32
  if state.maxLoginFailures ≤ failures then
    (addSeconds c now state.loginLockoutSeconds).map fun blockedUntil =>
      { attempt with failures := failures, blockedUntil := some (c.toRfc3339 blockedUntil) }
  else some { attempt with failures := failures }

def recordLoginFailure (ip : IpAddr) (now : Instant) : Handler LoginAttemptRecord := do
  let attempt : Option LoginAttemptRecord ← db (.getLoginAttempt ip)
  let attempt ← okOr (countFailure c state attempt now) (.panicked "DateTime + Duration overflowed")
  db (.setLoginAttempt ip attempt)
  pure attempt

def clearLoginFailures (ip : IpAddr) : Handler Unit := db (.deleteLoginAttempt ip)

/-- The record with one more failed login. -/
def failedLogin (user : AdminUserRecord) (failedAt updatedAt : String) : AdminUserRecord :=
  { user with
    failedLoginCount := saturatingAdd user.failedLoginCount 1
    lastFailedLoginAt := some failedAt
    updatedAt := updatedAt }

def recordUserLoginFailure (user : AdminUserRecord) (failedAt updatedAt : Instant) : Handler Unit :=
  db (.setAdminUser (failedLogin user (c.toRfc3339 failedAt) (c.toRfc3339 updatedAt)))

/-- The record after a successful login. -/
def loggedIn (user : AdminUserRecord) (ip : IpAddr) (loginAt updatedAt : String) : AdminUserRecord :=
  { user with
    lastLoginAt := some loginAt
    lastLoginIp := some ip
    failedLoginCount := 0
    lastFailedLoginAt := none
    updatedAt := updatedAt }

structure LoginRequest where
  username : Option String
  password : String

/-- The session token is the value of the `admin_session` cookie. -/
structure SessionResponse where
  jwt : String
  cookies : List String
  csrfToken : Option String
  user : Option AdminUserSummary
  deriving Repr, DecidableEq

def loginUsername (body : LoginRequest) : String :=
  (normalizeOptionalText body.username).getD "admin"

def invalidCredentials : AppError := .unauthorized "Invalid username or password"

def adminLogin (peer : IpAddr) (headers : HeaderMap) (body : LoginRequest) :
    Handler SessionResponse := do
  let clientIp := resolveClientIp c state headers peer
  ensureLoginAllowed c state clientIp (amb.now 0)
  ensure state.adminEnabled (.notFound "Admin panel disabled")
  let username := loginUsername body
  let found : Option AdminUserRecord ← db (.getAdminUser username)
  match found with
  | none => do
    let _ ← recordLoginFailure c state clientIp (amb.now 1)
    throw invalidCredentials
  | some user =>
    if !user.enabled || !verifyAdminPassword c body.password user.passwordHash then do
      recordUserLoginFailure c user (amb.now 1) (amb.now 2)
      let _ ← recordLoginFailure c state clientIp (amb.now 3)
      throw invalidCredentials
    else do
      clearLoginFailures clientIp
      let user := loggedIn user clientIp (c.toRfc3339 (amb.now 1)) (c.toRfc3339 (amb.now 2))
      db (.setAdminUser user)
      let jwt ← createAdminJwtForUser c state username user.sessionVersion (amb.now 3)
      let csrf := amb.newUuid 0
      let secureCookie := effectiveAdminCookieSecure state headers
      let cookie ← okOr (parseHeaderValue (buildAdminSessionCookie jwt secureCookie))
        (.internal "Invalid session cookie: failed to parse header value")
      let csrfCookie ← okOr (parseHeaderValue (buildCsrfCookie csrf secureCookie))
        (.internal "Invalid CSRF cookie: failed to parse header value")
      pure { jwt := jwt, cookies := [cookie, csrfCookie], csrfToken := some csrf, user := none }

def adminLogout (headers : HeaderMap) : Handler (List String) := do
  verifyAdminMutation c state headers (amb.now 0)
  let secureCookie := effectiveAdminCookieSecure state headers
  pure [clearCookie adminCookieName true secureCookie,
    clearCookie adminCsrfCookieName false secureCookie]

def adminCurrentUser (headers : HeaderMap) : Handler AdminUserSummary := do
  let username ← validateAdminSession c state headers (amb.now 0)
  let found : Option AdminUserRecord ← db (.getAdminUser username)
  let user ← okOr found (.unauthorized "Admin user no longer exists")
  pure (serializeAdminUser user)

/-! ## Admin users -/

structure ChangeOwnPasswordRequest where
  currentPassword : String
  newPassword : String

/-- The record with a new password set by its owner. -/
def passwordChanged (user : AdminUserRecord) (passwordHash now : String) : AdminUserRecord :=
  { user with
    passwordHash := passwordHash
    sessionVersion := saturatingAdd user.sessionVersion 1
    passwordUpdatedAt := some now
    updatedAt := now }

def adminChangeOwnPassword (headers : HeaderMap) (body : ChangeOwnPasswordRequest) :
    Handler SessionResponse := do
  verifyAdminMutation c state headers (amb.now 0)
  ensureDiskCapacity state amb (256 * 1024)
  let username ← validateAdminSession c state headers (amb.now 1)
  ensurePasswordLength body.newPassword
  let found : Option AdminUserRecord ← db (.getAdminUser username)
  let user ← okOr found (.unauthorized "Admin user no longer exists")
  if !verifyAdminPassword c body.currentPassword user.passwordHash then do
    recordUserLoginFailure c user (amb.now 2) (amb.now 3)
    throw (.unauthorized "Current password is incorrect")
  else do
    let passwordHash ← hashAdminPassword c (amb.salt 0) body.newPassword
    let user := passwordChanged user passwordHash (c.toRfc3339 (amb.now 2))
    db (.setAdminUser user)
    let jwt ← createAdminJwtForUser c state username user.sessionVersion (amb.now 3)
    let cookie ← okOr (parseHeaderValue
        (buildAdminSessionCookie jwt (effectiveAdminCookieSecure state headers)))
      (.internal "Invalid session cookie: failed to parse header value")
    pure { jwt := jwt, cookies := [cookie], csrfToken := none, user := some (serializeAdminUser user) }

def adminListUsers (headers : HeaderMap) : Handler (List AdminUserSummary) := do
  verifyAdmin c state headers (amb.now 0)
  let users : List AdminUserRecord ← db .listAdminUsers
  pure ((users.mergeSort fun a b => a.username ≤ b.username).map serializeAdminUser)

structure CreateUserRequest where
  username : String
  password : String
  enabled : Option Bool

def newAdminUser (username passwordHash : String) (enabled : Bool) (now passwordUpdatedAt : String) :
    AdminUserRecord where
  username := username
  passwordHash := passwordHash
  role := "admin"
  sessionVersion := 0
  enabled := enabled
  createdAt := now
  updatedAt := now
  lastLoginAt := none
  lastLoginIp := none
  failedLoginCount := 0
  lastFailedLoginAt := none
  passwordUpdatedAt := some passwordUpdatedAt
  disabledAt := none

def adminCreateUser (headers : HeaderMap) (body : CreateUserRequest) : Handler AdminUserSummary := do
  verifyAdminMutation c state headers (amb.now 0)
  ensureDiskCapacity state amb (256 * 1024)
  let _ ← validateAdminSession c state headers (amb.now 1)
  let username := trim body.username
  liftResult (validateAdminUsername username)
  ensurePasswordLength body.password
  let found : Option AdminUserRecord ← db (.getAdminUser username)
  ensure found.isNone (.badRequest s!"Admin user '{username}' already exists")
  let passwordHash ← hashAdminPassword c (amb.salt 0) body.password
  let user := newAdminUser username passwordHash (body.enabled.getD true)
    (c.toRfc3339 (amb.now 2)) (c.toRfc3339 (amb.now 3))
  db (.setAdminUser user)
  pure (serializeAdminUser user)

structure UpdateUserRequest where
  password : Option String
  enabled : Option Bool

def enabledAdminUserCount : Handler Nat := do
  let users : List AdminUserRecord ← db .listAdminUsers
  pure (users.countP (·.enabled))

/-- The record after a PATCH; `newHash` is there when the body sets a password. -/
def patchedUser (user : AdminUserRecord) (newHash : Option String) (enabled : Option Bool)
    (passwordUpdatedAt disabledAt updatedAt : String) : AdminUserRecord :=
  let changed := newHash.isSome || enabled.any (· != user.enabled)
  { user with
    passwordHash := newHash.getD user.passwordHash
    passwordUpdatedAt := if newHash.isSome then some passwordUpdatedAt else user.passwordUpdatedAt
    enabled := enabled.getD user.enabled
    disabledAt := match enabled with
      | none => user.disabledAt
      | some true => none
      | some false => some disabledAt
    sessionVersion := if changed then saturatingAdd user.sessionVersion 1 else user.sessionVersion
    updatedAt := updatedAt }

def hashNewPassword (password : Option String) : Handler (Option String) :=
  match password with
  | none => pure none
  | some password => do
    ensurePasswordLength password
    let hash ← hashAdminPassword c (amb.salt 0) password
    pure (some hash)

/-- The guard of the handlers that take an enabled account away. -/
def ensureOtherEnabledAdmin (message : String) : Handler Unit := do
  let count ← enabledAdminUserCount
  ensure (1 < count) (.badRequest message)

def adminUpdateUser (username : String) (headers : HeaderMap) (body : UpdateUserRequest) :
    Handler AdminUserSummary := do
  verifyAdminMutation c state headers (amb.now 0)
  ensureDiskCapacity state amb (256 * 1024)
  let _ ← validateAdminSession c state headers (amb.now 1)
  liftResult (validateAdminUsername username)
  let found : Option AdminUserRecord ← db (.getAdminUser username)
  let user ← okOr found (.notFound s!"Admin user '{username}' not found")
  let newHash ← hashNewPassword c amb body.password
  runIf (body.enabled == some false && user.enabled)
    (ensureOtherEnabledAdmin "Cannot disable the last enabled admin user")
  let user := patchedUser user newHash body.enabled (c.toRfc3339 (amb.now 2))
    (c.toRfc3339 (amb.now 3)) (c.toRfc3339 (amb.now 4))
  db (.setAdminUser user)
  pure (serializeAdminUser user)

def adminDeleteUser (username : String) (headers : HeaderMap) : Handler Unit := do
  verifyAdminMutation c state headers (amb.now 0)
  let _ ← validateAdminSession c state headers (amb.now 1)
  liftResult (validateAdminUsername username)
  let found : Option AdminUserRecord ← db (.getAdminUser username)
  let user ← okOr found (.notFound s!"Admin user '{username}' not found")
  runIf user.enabled (ensureOtherEnabledAdmin "Cannot delete the last enabled admin user")
  db (.deleteAdminUser username)

/-! ## Namespaces -/

/-- One entry of the listing; `deleted` is the tombstone of a soft-deleted namespace. -/
def namespaceInfo (ns : String) (deleted : Option DeletedNamespaceRecord) : Handler NamespaceInfo := do
  let row : Option SyncMetadata ← db (.getMetadata ns)
  let data := row.bind (·.fromSlice)
  let stats : Nat × Nat × Option String ← db (.namespaceObjectStats ns)
  let blobSize : Nat ← db (.blobSize ns)
  let totalBytes := saturatingAdd blobSize stats.2.1
  let usage : Option NamespaceUsageRecord ← db (.getNamespaceUsage ns)
  pure
    { «namespace» := ns
      revision := data.bind (·.revision)
      uploadedAt := data.bind (·.uploadedAt)
      deviceId := data.bind (·.deviceId)
      blobSize := blobSize
      objectCount := stats.1
      objectBytes := stats.2.1
      totalBytes := totalBytes
      growthBytes := usage.elim 0 (·.growthBytes)
      lastWriteAt := timestampMax c (data.bind (·.uploadedAt)) stats.2.2
      storageObservedAt := usage.map (·.observedAt)
      deletedBytes := if deleted.isSome then totalBytes else 0
      format := data.bind (·.format)
      deletedAt := deleted.map (·.deletedAt) }

def adminListNamespaces (headers : HeaderMap) : Handler (List NamespaceInfo) := do
  verifyAdmin c state headers (amb.now 0)
  let live : List String ← db .listNamespaces
  let liveInfos ← live.mapM fun ns => namespaceInfo c ns none
  let deleted : List (String × DeletedNamespaceRecord) ← db .listDeletedNamespaces
  let deletedInfos ← deleted.mapM fun entry => namespaceInfo c entry.1 (some entry.2)
  pure ((liveInfos ++ deletedInfos).mergeSort fun a b => a.namespace ≤ b.namespace)

def adminCreateNamespace (headers : HeaderMap) (requested : String) : Handler String := do
  verifyAdminMutation c state headers (amb.now 0)
  ensureDiskCapacity state amb (256 * 1024)
  let ns := trim requested
  liftResult (validateNamespace c ns)
  let deleted : Bool ← db (.isNamespaceDeleted ns)
  ensure (!deleted) (.badRequest s!"Namespace '{ns}' is soft-deleted. Restore or purge it first.")
  let row : Option SyncMetadata ← db (.getMetadata ns)
  ensure row.isNone (.badRequest s!"Namespace '{ns}' already exists")
  let paths : List String ← db (.listObjectPaths ns "" none 1)
  ensure paths.isEmpty (.badRequest s!"Namespace '{ns}' already exists")
  db (.setMetadata ns .empty)
  pure ns

inductive DeleteMode where
  | hard
  | soft
  deriving Repr, DecidableEq

def adminDeleteNamespace (ns : String) (hard : Option Bool) (headers : HeaderMap) :
    Handler DeleteMode := do
  verifyAdminMutation c state headers (amb.now 0)
  if hard.getD false then do
    db (.hardDeleteNamespace ns)
    pure .hard
  else do
    let deleted : Bool ← db (.isNamespaceDeleted ns)
    ensure (!deleted) (.badRequest s!"Namespace '{ns}' is already soft-deleted")
    let row : Option SyncMetadata ← db (.getMetadata ns)
    runIf row.isNone do
      let paths : List String ← db (.listObjectPaths ns "" none 1)
      ensure (!paths.isEmpty) (.notFound s!"Namespace '{ns}' not found")
    ensureDiskCapacity state amb (256 * 1024)
    db (.softDeleteNamespace ns (c.toRfc3339 (amb.now 1)))
    let _ ← orDatabaseError (refreshNamespaceUsage ns (c.toRfc3339 (amb.now 2)) true)
    pure .soft

def adminRestoreNamespace (ns : String) (headers : HeaderMap) : Handler Unit := do
  verifyAdminMutation c state headers (amb.now 0)
  ensureDiskCapacity state amb (256 * 1024)
  let deleted : Bool ← db (.isNamespaceDeleted ns)
  ensure deleted (.notFound s!"Namespace '{ns}' is not soft-deleted")
  db (.restoreNamespace ns)
  let _ ← orDatabaseError (refreshNamespaceUsage ns (c.toRfc3339 (amb.now 1)) false)

/-! ## Tokens -/

def adminListTokens (headers : HeaderMap) : Handler (List TokenSummary) := do
  verifyAdmin c state headers (amb.now 0)
  let tokens : List ApiToken ← db .getAllTokens
  pure (tokens.map fun token => serializeTokenSummary c token (amb.now 1))

structure CreateTokenRequest where
  name : String
  namespacePattern : String
  permissions : Option (List String)
  expiresAt : Option String
  deviceId : Option String

structure IssuedToken where
  id : String
  token : String
  record : TokenSummary
  deriving Repr, DecidableEq

def invalidNamespacePattern : AppError :=
  .badRequest "Namespace pattern must be '*' , an exact namespace, or a prefix ending with '*'"

/-- The copy of a secret that the panel can reveal later. -/
def encryptToken (rawToken : String) : Handler String :=
  liftResult (match encrypt c state.tokenRevealKey (amb.nonce 0) (asBytes rawToken) with
    | .ok bytes => .ok (c.base64Encode bytes)
    | .error e => .error (.internal ("Token encryption failed: " ++ e)))

def ensureDeviceExists (deviceId : Option String) : Handler Unit :=
  ifSome deviceId fun deviceId => do
    let found : Option DeviceRecord ← db (.getDevice deviceId)
    ensure found.isSome (.badRequest s!"Device '{deviceId}' not found")

/-- Read a device and, if it is there and `applies`, write it back with this token link. -/
def relinkDevice (deviceId : String) (applies : DeviceRecord → Bool) (tokenId : Option String)
    (now : Instant) : Handler Unit := do
  let found : Option DeviceRecord ← db (.getDevice deviceId)
  ifSome found fun device => runIf (applies device)
    (db (.setDevice { device with tokenId := tokenId, updatedAt := c.toRfc3339 now }))

def adminCreateToken (headers : HeaderMap) (body : CreateTokenRequest) : Handler IssuedToken := do
  verifyAdminMutation c state headers (amb.now 0)
  ensureDiskCapacity state amb (256 * 1024)
  ensure (validateNamespacePattern c body.namespacePattern) invalidNamespacePattern
  let permissions := normalizePermissions (body.permissions.getD ["read", "write"])
  ensure (validatePermissions permissions)
    (.badRequest "Permissions must be a non-empty subset of ['read', 'write']")
  let rawToken := amb.newUuid 0
  let encryptedToken ← encryptToken c state amb rawToken
  let id := amb.newUuid 1
  let expiresAt ← liftResult (effectiveTokenExpiry c state body.expiresAt (amb.now 1))
  let deviceId := normalizeOptionalText body.deviceId
  ensureDeviceExists deviceId
  let token : ApiToken :=
    { id := id
      name := body.name
      tokenHash := hashApiToken c rawToken
      encryptedToken := some encryptedToken
      namespacePattern := body.namespacePattern
      permissions := permissions
      createdAt := c.toRfc3339 (amb.now 2)
      enabled := true
      expiresAt := expiresAt
      rotatedAt := none
      disabledAt := none
      lastUsedAt := none
      deviceId := deviceId
      readCount := 0
      writeCount := 0
      failedCount := 0
      lastNamespace := none
      lastPermission := none
      lastClientIp := none
      lastClientVersion := none }
  db (.setToken token)
  ifSome deviceId fun deviceId => relinkDevice c deviceId (fun _ => true) (some id) (amb.now 3)
  pure { id := id, token := rawToken, record := serializeTokenSummary c token (amb.now 4) }

/-- For the nullable fields the outer `none` is an absent field, `some none` is `null`. -/
structure UpdateTokenRequest where
  enabled : Option Bool
  expiresAt : Option (Option String)
  deviceId : Option (Option String)

/-- The record with `enabled` set as the body says. -/
def tokenWithEnabled (token : ApiToken) (enabled : Option Bool) (now : Instant) : ApiToken :=
  match enabled with
  | none => token
  | some enabled =>
    { token with
      enabled := enabled
      disabledAt := if enabled then none else some (c.toRfc3339 now) }

def tokenWithExpiry (token : ApiToken) (expiresAt : Option (Option String)) :
    Except AppError ApiToken :=
  match expiresAt with
  | none => .ok token
  | some expiresAt =>
    (normalizeOptionalTimestamp c expiresAt).map fun expiresAt =>
      { token with expiresAt := expiresAt }

/-- Move the device side of the link from the old device to the next one. -/
def moveDeviceLink (tokenId : String) (oldDeviceId nextDeviceId : Option String) : Handler Unit :=
  runIf (oldDeviceId != nextDeviceId) do
    ifSome oldDeviceId fun oldDeviceId =>
      relinkDevice c oldDeviceId (fun device => device.tokenId == some tokenId) none (amb.now 2)
    ifSome nextDeviceId fun nextDeviceId =>
      relinkDevice c nextDeviceId (fun _ => true) (some tokenId) (amb.now 3)

/-- The part of a PATCH about `device_id`. -/
def changeTokenDevice (token : ApiToken) (requested : Option (Option String)) : Handler ApiToken :=
  match requested with
  | none => pure token
  | some requested => do
    let nextDeviceId := normalizeOptionalText requested
    ensureDeviceExists nextDeviceId
    moveDeviceLink c amb token.id token.deviceId nextDeviceId
    pure { token with deviceId := nextDeviceId }

def adminUpdateToken (id : String) (headers : HeaderMap) (body : UpdateTokenRequest) :
    Handler TokenSummary := do
  verifyAdminMutation c state headers (amb.now 0)
  ensureDiskCapacity state amb (256 * 1024)
  let found : Option ApiToken ← db (.getToken id)
  let stored ← okOr found (.notFound s!"Token '{id}' not found")
  let token := tokenWithEnabled c stored body.enabled (amb.now 1)
  let token ← liftResult (tokenWithExpiry c token body.expiresAt)
  let token ← changeTokenDevice c amb token body.deviceId
  db (.setToken token)
  pure (serializeTokenSummary c token (amb.now 4))

def adminRotateToken (id : String) (headers : HeaderMap) : Handler IssuedToken := do
  verifyAdminMutation c state headers (amb.now 0)
  ensureDiskCapacity state amb (256 * 1024)
  let found : Option ApiToken ← db (.getToken id)
  let stored ← okOr found (.notFound s!"Token '{id}' not found")
  let rawToken := amb.newUuid 0
  let encryptedToken ← encryptToken c state amb rawToken
  let token := { stored with
    tokenHash := hashApiToken c rawToken
    encryptedToken := some encryptedToken
    rotatedAt := some (c.toRfc3339 (amb.now 1)) }
  db (.setToken token)
  pure { id := token.id, token := rawToken, record := serializeTokenSummary c token (amb.now 1) }

def adminRevealToken (id : String) (headers : HeaderMap) : Handler IssuedToken := do
  verifyAdminMutation c state headers (amb.now 0)
  let found : Option ApiToken ← db (.getToken id)
  let token ← okOr found (.notFound s!"Token '{id}' not found")
  let encryptedToken ← okOr token.encryptedToken (.badRequest
    "This token was created before reveal support and cannot be recovered. Create a new token to enable reveal.")
  let encryptedBytes ← okOr (c.base64Decode encryptedToken)
    (.internal "Stored token decode failed")
  let bytes ← liftResult ((decrypt c state.tokenRevealKey encryptedBytes).mapError fun _ =>
    .badRequest "This token can no longer be revealed because the server secret changed. Re-create it to recover access.")
  let rawToken ← okOr (fromUtf8 bytes) (.internal "Stored token is not valid UTF-8")
  pure { id := token.id, token := rawToken, record := serializeTokenSummary c token (amb.now 1) }

def adminDeleteToken (id : String) (headers : HeaderMap) : Handler Unit := do
  verifyAdminMutation c state headers (amb.now 0)
  let devices : List DeviceRecord ← db .listDevices
  devices.forM fun device => runIf (device.tokenId == some id)
    (db (.setDevice { device with tokenId := none, updatedAt := c.toRfc3339 (amb.now 1) }))
  db (.deleteToken id)

/-! ## Devices -/

def setTokenDeviceLink (oldTokenId newTokenId : Option String) (deviceId : String) : Handler Unit :=
  runIf (oldTokenId != newTokenId) do
    ifSome oldTokenId fun oldTokenId => do
      let found : Option ApiToken ← db (.getToken oldTokenId)
      ifSome found fun token => runIf (token.deviceId == some deviceId)
        (db (.setToken { token with deviceId := none }))
    ifSome newTokenId fun newTokenId => do
      let found : Option ApiToken ← db (.getToken newTokenId)
      let token ← okOr found (.badRequest s!"Token '{newTokenId}' not found")
      db (.setToken { token with deviceId := some deviceId })

def adminListDevices (headers : HeaderMap) : Handler (List DeviceRecord) := do
  verifyAdmin c state headers (amb.now 0)
  let devices : List DeviceRecord ← db .listDevices
  pure (devices.mergeSort fun a b => a.name < b.name || (a.name == b.name && a.id ≤ b.id))

structure CreateDeviceRequest where
  name : String
  namespacePattern : Option String
  tokenId : Option String
  enabled : Option Bool
  lastClientVersion : Option String
  notes : Option String

def ensurePatternValid (pattern : Option String) : Handler Unit :=
  ensure (pattern.all (validateNamespacePattern c)) invalidNamespacePattern

def ensureTokenExists (tokenId : Option String) : Handler Unit :=
  ifSome tokenId fun tokenId => do
    let found : Option ApiToken ← db (.getToken tokenId)
    ensure found.isSome (.badRequest s!"Token '{tokenId}' not found")

def ensureDeviceName (name : String) : Handler Unit :=
  ensure (!name.isEmpty) (.badRequest "Device name must not be empty")

def adminCreateDevice (headers : HeaderMap) (body : CreateDeviceRequest) : Handler DeviceRecord := do
  verifyAdminMutation c state headers (amb.now 0)
  ensureDiskCapacity state amb (256 * 1024)
  let name := trim body.name
  ensureDeviceName name
  let namespacePattern := normalizeOptionalText body.namespacePattern
  ensurePatternValid c namespacePattern
  let tokenId := normalizeOptionalText body.tokenId
  ensureTokenExists tokenId
  let now := c.toRfc3339 (amb.now 1)
  let device : DeviceRecord :=
    { id := amb.newUuid 0
      name := name
      namespacePattern := namespacePattern
      tokenId := tokenId
      enabled := body.enabled.getD true
      createdAt := now
      updatedAt := now
      lastSeenAt := none
      lastClientIp := none
      lastClientVersion := normalizeOptionalText body.lastClientVersion
      notes := normalizeOptionalText body.notes }
  db (.setDevice device)
  setTokenDeviceLink none tokenId device.id
  pure device

structure UpdateDeviceRequest where
  name : Option String
  namespacePattern : Option (Option String)
  tokenId : Option (Option String)
  enabled : Option Bool
  notes : Option (Option String)

def adminUpdateDevice (id : String) (headers : HeaderMap) (body : UpdateDeviceRequest) :
    Handler DeviceRecord := do
  verifyAdminMutation c state headers (amb.now 0)
  ensureDiskCapacity state amb (256 * 1024)
  let found : Option DeviceRecord ← db (.getDevice id)
  let stored ← okOr found (.notFound s!"Device '{id}' not found")
  let name := (body.name.map trim).getD stored.name
  runIf body.name.isSome (ensureDeviceName name)
  let namespacePattern := (body.namespacePattern.map normalizeOptionalText).getD stored.namespacePattern
  runIf body.namespacePattern.isSome (ensurePatternValid c namespacePattern)
  let tokenId := (body.tokenId.map normalizeOptionalText).getD stored.tokenId
  runIf body.tokenId.isSome (ensureTokenExists tokenId)
  let device := { stored with
    name := name
    namespacePattern := namespacePattern
    tokenId := tokenId
    enabled := body.enabled.getD stored.enabled
    notes := (body.notes.map normalizeOptionalText).getD stored.notes
    updatedAt := c.toRfc3339 (amb.now 1) }
  db (.setDevice device)
  setTokenDeviceLink stored.tokenId device.tokenId device.id
  pure device

def adminDeleteDevice (id : String) (headers : HeaderMap) : Handler Unit := do
  verifyAdminMutation c state headers (amb.now 0)
  let found : Option DeviceRecord ← db (.getDevice id)
  let device ← okOr found (.notFound s!"Device '{id}' not found")
  setTokenDeviceLink device.tokenId none device.id
  db (.deleteDevice id)

/-! ## Conflicts and statistics -/

def adminListConflicts (headers : HeaderMap) : Handler (List SyncConflictRecord) := do
  verifyAdmin c state headers (amb.now 0)
  db (.listSyncConflicts 50)

/-- The counts of `admin_stats`; the configuration it repeats is left out. -/
structure AdminStats where
  namespaceCount : Nat
  deletedNamespaceCount : Nat
  tokenCount : Nat
  disabledTokenCount : Nat
  expiredTokenCount : Nat
  deviceCount : Nat
  disabledDeviceCount : Nat
  adminUserCount : Nat
  recentConflictCount : Nat
  namespaceStorageBytes : Nat
  dbWritable : Bool
  deriving Repr, DecidableEq

/-- The usage snapshot, or the current sizes where there is none yet. -/
def namespaceTotalBytes (ns : String) : Handler Nat := do
  let usage : Option NamespaceUsageRecord ← db (.getNamespaceUsage ns)
  match usage with
  | some usage => pure usage.totalBytes
  | none => do
    let blobSize : Nat ← db (.blobSize ns)
    let stats : Nat × Nat × Option String ← db (.namespaceObjectStats ns)
    pure (saturatingAdd blobSize stats.2.1)

def adminStats (headers : HeaderMap) : Handler AdminStats := do
  verifyAdmin c state headers (amb.now 0)
  let namespaces : List String ← db .listNamespaces
  let deleted : List (String × DeletedNamespaceRecord) ← db .listDeletedNamespaces
  let tokens : List ApiToken ← db .getAllTokens
  let devices : List DeviceRecord ← db .listDevices
  let conflicts : List SyncConflictRecord ← db (.listSyncConflicts 50)
  let adminUsers : List AdminUserRecord ← db .listAdminUsers
  let writable ← (redb .checkWritable).attempt
  let totals ← (namespaces ++ deleted.map (·.1)).mapM namespaceTotalBytes
  pure
    { namespaceCount := namespaces.length
      deletedNamespaceCount := deleted.length
      tokenCount := tokens.length
      disabledTokenCount := tokens.countP fun token => !token.enabled
      expiredTokenCount := tokens.countP fun token => tokenExpired c token (amb.now 1)
      deviceCount := devices.length
      disabledDeviceCount := devices.countP fun device => !device.enabled
      adminUserCount := adminUsers.length
      recentConflictCount := conflicts.length
      namespaceStorageBytes := totals.foldl saturatingAdd 0
      dbWritable := writable.toBool }

end CloudSync
