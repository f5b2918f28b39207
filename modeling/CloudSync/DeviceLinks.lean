import CloudSync.Links.Mutual
import CloudSync.Reachable
import CloudSync.Serial
import CloudSync.TokenStore

/-!
# Tokens and their devices

A token names its device and a device names its token. The panel edits both
records, but what the other end of an old link still says is only repaired where
the edited record itself was linked.
-/

namespace CloudSync

open Rust Redb Transactions Transactions.Fallible Links

set_option autoImplicit false

def Db.tokenDevice (db : Db) (id : String) : Option String := (db.getToken id).bind (·.deviceId)

def Db.deviceToken (db : Db) (deviceId : String) : Option String :=
  (db.getDevice deviceId).bind (·.tokenId)

/-- The links are mutual, and no link leads to a record that is not there. -/
structure LinksHold (db : Db) : Prop where
  agree : ∀ id deviceId, db.tokenDevice id = some deviceId ↔ db.deviceToken deviceId = some id
  deviceExists : ∀ id deviceId, db.tokenDevice id = some deviceId → db.getDevice deviceId ≠ none
  tokenExists : ∀ id deviceId, db.deviceToken deviceId = some id → db.getToken id ≠ none

/-- What a request links is linked to nothing else. -/
def LinksApart (amb : Ambient) (r : Request) (db : Db) : Prop :=
  match r.endpoint with
  | .adminCreateToken body =>
    db.tokenDevice (amb.newUuid 1) = normalizeOptionalText body.deviceId ∨
      db.tokenDevice (amb.newUuid 1) = none ∧
        ∀ deviceId ∈ normalizeOptionalText body.deviceId, db.deviceToken deviceId = none
  | .adminUpdateToken id body =>
    ∀ requested ∈ body.deviceId, ∀ deviceId ∈ normalizeOptionalText requested,
      db.tokenDevice id = some deviceId ∨ db.deviceToken deviceId = none
  | .adminCreateDevice body =>
    db.deviceToken (amb.newUuid 0) = normalizeOptionalText body.tokenId ∨
      db.deviceToken (amb.newUuid 0) = none ∧
        ∀ id ∈ normalizeOptionalText body.tokenId, db.tokenDevice id = none
  | .adminUpdateDevice deviceId body =>
    ∀ requested ∈ body.tokenId, ∀ id ∈ normalizeOptionalText requested,
      db.deviceToken deviceId = some id ∨ db.tokenDevice id = none
  | _ => True

/-- Records stand under their own identifiers. -/
structure Db.RecordsKeyed (db : Db) : Prop where
  tokensKeyed : ∀ id token, db.getToken id = some token → token.id = id
  devicesKeyed : ∀ key device, db.devices[key]? = some device → deviceKey device.id = key

structure Db.HasLinks (db : Db) (f g : String → Option String) : Prop extends db.RecordsKeyed where
  tokens : db.tokenDevice = f
  devices : db.deviceToken = g

/-! ## Transactions -/

section Store
variable {db db' : Db} {f g : String → Option String}

theorem deviceKey_injective : Function.Injective deviceKey :=
  fun _ _ h => String.append_right_inj _ |>.mp h

theorem getDevice_setDevice (db : Db) (device : DeviceRecord) (deviceId : String) :
    (db.setDevice device).getDevice deviceId =
      if device.id = deviceId then some device else db.getDevice deviceId := by
  simp [Db.setDevice, Db.getDevice, deviceKey_injective.eq_iff]

theorem getDevice_deleteDevice (db : Db) (id deviceId : String) :
    (db.deleteDevice id).getDevice deviceId = if id = deviceId then none else db.getDevice deviceId := by
  simp [Db.deleteDevice, Db.getDevice, deviceKey_injective.eq_iff]

theorem Db.HasLinks.device_id (h : db.HasLinks f g) {deviceId : String} {device : DeviceRecord}
    (hdevice : db.getDevice deviceId = some device) : device.id = deviceId :=
  deviceKey_injective (h.devicesKeyed _ device hdevice)

theorem Db.HasLinks.of_tables (h : db.HasLinks f g) (ht : db'.tokens = db.tokens)
    (hd : db'.devices = db.devices) : db'.HasLinks f g := by
  have hgetToken : db'.getToken = db.getToken := by
    funext id
    rw [Db.getToken, Db.getToken, ht]
  have hgetDevice : db'.getDevice = db.getDevice := by
    funext deviceId
    rw [Db.getDevice, Db.getDevice, hd]
  obtain ⟨⟨htokens, hdevices⟩, hf, hg⟩ := h
  unfold Db.tokenDevice at hf
  unfold Db.deviceToken at hg
  refine ⟨⟨?_, ?_⟩, ?_, ?_⟩
  · rwa [hgetToken]
  · rwa [hd]
  · unfold Db.tokenDevice
    rwa [hgetToken]
  · unfold Db.deviceToken
    rwa [hgetDevice]

theorem Db.HasLinks.setToken (h : db.HasLinks f g) (token : ApiToken) :
    (db.setToken token).HasLinks (Function.update f token.id token.deviceId) g where
  tokensKeyed id token' htoken := by
    rw [getToken_setToken] at htoken
    split at htoken
    · cases htoken
      assumption
    · exact h.tokensKeyed id token' htoken
  devicesKeyed := h.devicesKeyed
  tokens := by
    funext id
    rw [Db.tokenDevice, getToken_setToken]
    by_cases hid : token.id = id
    · simp [hid]
    · have hid' : id ≠ token.id := fun h => hid h.symm
      rw [if_neg hid, Function.update_of_ne hid', ← h.tokens]
      rfl
  devices := h.devices

theorem Db.HasLinks.deleteToken (h : db.HasLinks f g) (id : String) :
    (db.deleteToken id).HasLinks (Function.update f id none) g where
  tokensKeyed id' token htoken := by
    rw [getToken_deleteToken] at htoken
    split at htoken
    · cases htoken
    · exact h.tokensKeyed id' token htoken
  devicesKeyed := h.devicesKeyed
  tokens := by
    funext id'
    rw [Db.tokenDevice, getToken_deleteToken]
    by_cases hid : id = id'
    · simp [hid]
    · have hid' : id' ≠ id := fun h => hid h.symm
      rw [if_neg hid, Function.update_of_ne hid', ← h.tokens]
      rfl
  devices := h.devices

theorem Db.HasLinks.setDevice (h : db.HasLinks f g) (device : DeviceRecord) :
    (db.setDevice device).HasLinks f (Function.update g device.id device.tokenId) where
  tokensKeyed := h.tokensKeyed
  devicesKeyed key device' hdevice := by
    rw [Db.setDevice, Table.get_insert] at hdevice
    split at hdevice
    · cases hdevice
      assumption
    · exact h.devicesKeyed key device' hdevice
  tokens := h.tokens
  devices := by
    funext deviceId
    rw [Db.deviceToken, getDevice_setDevice]
    by_cases hid : device.id = deviceId
    · simp [hid]
    · have hid' : deviceId ≠ device.id := fun h => hid h.symm
      rw [if_neg hid, Function.update_of_ne hid', ← h.devices]
      rfl

theorem Db.HasLinks.deleteDevice (h : db.HasLinks f g) (id : String) :
    (db.deleteDevice id).HasLinks f (Function.update g id none) where
  tokensKeyed := h.tokensKeyed
  devicesKeyed key device hdevice := by
    rw [Db.deleteDevice, Table.get_erase] at hdevice
    split at hdevice
    · cases hdevice
    · exact h.devicesKeyed key device hdevice
  tokens := h.tokens
  devices := by
    funext deviceId
    rw [Db.deviceToken, getDevice_deleteDevice]
    by_cases hid : id = deviceId
    · simp [hid]
    · have hid' : deviceId ≠ id := fun h => hid h.symm
      rw [if_neg hid, Function.update_of_ne hid', ← h.devices]
      rfl

/-- A token record that is rewritten with its old device. -/
theorem Db.HasLinks.rewriteToken (h : db.HasLinks f g) {id : String} {token token' : ApiToken}
    (hstored : db.tokens[tokenKey id]? = some token)
    (ht : db'.tokens = db.tokens.insert (tokenKey id) token') (hd : db'.devices = db.devices)
    (hid : token'.id = token.id) (hdevice : token'.deviceId = token.deviceId) :
    db'.HasLinks f g := by
  have hkeyed : token.id = id := h.tokensKeyed id token hstored
  have hlink : f token'.id = token'.deviceId := by
    rw [hid, hdevice, ← h.tokens, Db.tokenDevice, Db.getToken, hkeyed, hstored]
    rfl
  have hwritten := h.setToken token'
  rw [← hlink, Function.update_eq_self] at hwritten
  apply hwritten.of_tables
  · rw [ht, ← hkeyed, ← hid]
    rfl
  · exact hd

theorem Db.HasLinks.setToken_same (h : db.HasLinks f g) {id : String} {token token' : ApiToken}
    (hstored : db.getToken id = some token) (hid : token'.id = token.id)
    (hdevice : token'.deviceId = token.deviceId) : (db.setToken token').HasLinks f g := by
  refine h.rewriteToken hstored ?_ rfl hid hdevice
  rw [← h.tokensKeyed id token hstored, ← hid]
  rfl

/-- A device record that is rewritten with its old token. -/
theorem Db.HasLinks.rewriteDevice (h : db.HasLinks f g) {deviceId : String}
    {device device' : DeviceRecord} (hstored : db.devices[deviceKey deviceId]? = some device)
    (ht : db'.tokens = db.tokens) (hd : db'.devices = db.devices.insert (deviceKey deviceId) device')
    (hid : device'.id = device.id) (htoken : device'.tokenId = device.tokenId) :
    db'.HasLinks f g := by
  have hkeyed : device.id = deviceId := h.device_id hstored
  have hlink : g device'.id = device'.tokenId := by
    rw [hid, htoken, ← h.devices, Db.deviceToken, Db.getDevice, hkeyed, hstored]
    rfl
  have hwritten := h.setDevice device'
  rw [← hlink, Function.update_eq_self] at hwritten
  apply hwritten.of_tables
  · exact ht
  · rw [hd, ← hkeyed, ← hid]
    rfl

theorem Db.HasLinks.recordTokenFailure (h : db.HasLinks f g) (id : String) :
    (db.recordTokenFailure id).HasLinks f g := by
  unfold Db.recordTokenFailure
  split
  · exact h
  · rename_i token htoken
    exact h.rewriteToken htoken rfl rfl rfl rfl

/-- The usage of a token links its device only where it is linked already. -/
theorem Db.HasLinks.recordTokenUsage (h : db.HasLinks f g) (hm : Mutual f g)
    (id ns permission clientIp : String) (clientVersion : Option String) (observedAt : String) :
    (db.recordTokenUsage id ns permission clientIp clientVersion observedAt).HasLinks f g := by
  unfold Db.recordTokenUsage
  split
  · exact h
  · rename_i token htoken
    dsimp only
    split
    · exact h.rewriteToken htoken rfl rfl rfl rfl
    · rename_i deviceId hdeviceId
      split
      · exact h.rewriteToken htoken rfl rfl rfl rfl
      · rename_i device hdevice
        -- The device of a linked token already names it.
        have hlink : f id = some deviceId := by
          rw [← h.tokens, Db.tokenDevice, Db.getToken, htoken]
          exact hdeviceId
        have hback : device.tokenId = some id := by
          have hg : g deviceId = some id := (hm id deviceId).mp hlink
          rw [← h.devices, Db.deviceToken, Db.getDevice, hdevice] at hg
          exact hg
        have hused : ∀ used : ApiToken, used.id = token.id → used.deviceId = token.deviceId →
            Db.HasLinks { db with tokens := db.tokens.insert (tokenKey id) used } f g :=
          fun used => h.rewriteToken htoken rfl rfl
        refine (hused _ ?_ ?_).rewriteDevice hdevice rfl rfl rfl ?_
        · rfl
        · rfl
        rw [hback]
        rfl

/-- Calls outside the area of tokens and devices leave the links alone. -/
theorem Db.HasLinks.kept {c : Crates} {call : DbCall} (hcall : call.area ≠ some .tokens)
    (h : db.HasLinks f g) (hm : Mutual f g) : (call.exec c db).2.HasLinks f g := by
  cases call with
  | recordTokenUsage id ns permission clientIp clientVersion observedAt =>
    exact h.recordTokenUsage hm id ns permission clientIp clientVersion observedAt
  | recordTokenFailure id => exact h.recordTokenFailure id
  | setToken => exact absurd rfl hcall
  | deleteToken => exact absurd rfl hcall
  | setDevice => exact absurd rfl hcall
  | deleteDevice => exact absurd rfl hcall
  | putObjectIfMatches ns path expectedEtag requireAbsent data m =>
    rcases putObjectIfMatches_cases db ns path expectedEtag requireAbsent data m with
      ⟨_, hput⟩ | ⟨_, hput⟩
    · simpa only [DbCall.exec, hput] using h
    · simp only [DbCall.exec, hput]
      exact h.of_tables rfl rfl
  | putBlobIfMatches ns expectedEtag requireAbsent blob m =>
    rcases putBlobIfMatches_cases db ns expectedEtag requireAbsent blob m with
      ⟨_, hput⟩ | ⟨_, _, hput⟩ | ⟨_, hput⟩
    · simpa only [DbCall.exec, hput] using h
    · simpa only [DbCall.exec, hput] using h
    · simp only [DbCall.exec, hput]
      exact h.of_tables rfl rfl
  | _ => exact h.of_tables rfl rfl

end Store

/-! ## Handlers -/

section Handlers
variable {c : Crates} {state : AppState} {amb : Ambient} {headers : HeaderMap} {s : Db}
  {f g : String → Option String} {err : AppError → Db → Prop}

/-- Behind the guard of the panel the store is still the same. -/
theorem leaves_guarded {α : Type} {now : Instant} {x : Handler α} {ok : α → Db → Prop}
    (herr : ∀ e, err e s) (hx : Leaves (DbCall.exec c) x s ok err) :
    Leaves (DbCall.exec c) (do
      verifyAdminMutation c state headers now
      x) s ok err := by
  apply (leaves_bind _ _).mpr
  have hreads : Calls (fun call : DbCall => ∃ username, call = .getAdminUser username)
      (verifyAdminMutation c state headers now) :=
    verifyAdminMutation_reads (fun username => ⟨username, rfl⟩) headers now
  apply (hreads.leaves (J := fun s' => s' = s) ?_ rfl).mono
  · rintro _ s' rfl
    exact hx
  · rintro e s' rfl
    exact herr e
  · rintro _ s' ⟨username, rfl⟩ hs'
    exact hs'

/-- A check that makes no transaction. -/
theorem leaves_check {α : Type} {check : Handler Unit} {x : Handler α} {ok : α → Db → Prop}
    (hcheck : Calls (fun _ => False) check) (herr : ∀ e, err e s)
    (hx : Leaves (DbCall.exec c) x s ok err) :
    Leaves (DbCall.exec c) (do
      check
      x) s ok err := by
  apply (leaves_bind _ _).mpr
  apply (hcheck.leaves (J := fun s' => s' = s) ?_ rfl).mono
  · rintro _ s' rfl
    exact hx
  · rintro e s' rfl
    exact herr e
  · intro call _ hcall
    exact hcall.elim

theorem leaves_capacity {α : Type} {bytes : Nat} {x : Handler α} {ok : α → Db → Prop}
    (herr : ∀ e, err e s) (hx : Leaves (DbCall.exec c) x s ok err) :
    Leaves (DbCall.exec c) (do
      ensureDiskCapacity state amb bytes
      x) s ok err :=
  leaves_check (ensureDiskCapacity_calls _ bytes) herr hx

theorem leaves_ensureDeviceExists {deviceId : Option String} {ok : Unit → Db → Prop}
    (herr : ∀ e, err e s) (hok : (∀ d ∈ deviceId, (s.getDevice d).isSome) → ok () s) :
    Leaves (DbCall.exec c) (ensureDeviceExists deviceId) s ok err := by
  unfold ensureDeviceExists
  rw [leaves_ifSome]
  constructor
  · intro d hd
    rw [leaves_bind, leaves_db, leaves_ensure]
    refine ⟨fun hfound => hok ?_, fun _ => herr _⟩
    intro d' hd'
    rw [hd] at hd'
    cases hd'
    exact hfound
  · intro hnone
    apply hok
    intro d hd
    rw [hnone] at hd
    cases hd

theorem leaves_ensureTokenExists {tokenId : Option String} {ok : Unit → Db → Prop}
    (herr : ∀ e, err e s) (hok : (∀ id ∈ tokenId, (s.getToken id).isSome) → ok () s) :
    Leaves (DbCall.exec c) (ensureTokenExists tokenId) s ok err := by
  unfold ensureTokenExists
  rw [leaves_ifSome]
  constructor
  · intro id hid
    rw [leaves_bind, leaves_db, leaves_ensure]
    refine ⟨fun hfound => hok ?_, fun _ => herr _⟩
    intro id' hid'
    rw [hid] at hid'
    cases hid'
    exact hfound
  · intro hnone
    apply hok
    intro id hid
    rw [hnone] at hid
    cases hid

/-- The device is there and gets the new link; no device disappears. -/
theorem leaves_relinkDevice (h : s.HasLinks f g) {deviceId : String} {applies : DeviceRecord → Bool}
    {tokenId : Option String} {now : Instant} {device : DeviceRecord}
    (hdevice : s.getDevice deviceId = some device) (happlies : applies device = true) :
    Leaves (DbCall.exec c) (relinkDevice c deviceId applies tokenId now) s
      (fun _ s' => s'.HasLinks f (Function.update g deviceId tokenId) ∧
        ∀ d, (s.getDevice d).isSome → (s'.getDevice d).isSome) err := by
  have hkeyed := h.device_id hdevice
  unfold relinkDevice
  rw [leaves_bind, leaves_db]
  change Leaves _ (ifSome (s.getDevice deviceId) _) s _ _
  rw [hdevice, leaves_ifSome]
  refine ⟨?_, fun hnone => nomatch hnone⟩
  rintro _ ⟨⟩
  rw [leaves_runIf]
  refine ⟨fun _ => ?_, fun hnot => ?_⟩
  · rw [leaves_db]
    constructor
    · rw [← hkeyed]
      exact h.setDevice _
    · intro d hd
      change (Db.getDevice (s.setDevice _) d).isSome
      rw [getDevice_setDevice]
      split
      · rfl
      · exact hd
  · rw [happlies] at hnot
    cases hnot

/-- The device side follows the token from its old device to the next one. -/
theorem leaves_moveDeviceLink (h : s.HasLinks f g) (hm : Mutual f g) {id : String}
    {next : Option String} (hnext : ∀ d ∈ next, (s.getDevice d).isSome) :
    Leaves (DbCall.exec c) (moveDeviceLink c amb id (f id) next) s
      (fun _ s' => s'.HasLinks f (linkTo (unlinkFrom g (f id)) id next)) err := by
  unfold moveDeviceLink
  rw [leaves_runIf]
  constructor
  · intro _
    apply (leaves_bind _ _).mpr
    have hold : Leaves (DbCall.exec c) (ifSome (f id) fun oldDeviceId =>
        relinkDevice c oldDeviceId (fun device => device.tokenId == some id) none (amb.now 2)) s
        (fun _ s' => s'.HasLinks f (unlinkFrom g (f id)) ∧
          ∀ d, (s.getDevice d).isSome → (s'.getDevice d).isSome) err := by
      rw [leaves_ifSome]
      constructor
      · intro old hold
        have hback : s.deviceToken old = some id := by
          rw [h.devices]
          exact (hm id old).mp hold
        obtain ⟨device, hdevice, htoken⟩ := Option.bind_eq_some_iff.mp hback
        rw [hold]
        exact leaves_relinkDevice h hdevice (by simp [htoken])
      · intro hnone
        rw [hnone]
        exact ⟨h, fun _ hd => hd⟩
    refine hold.mono ?_ fun _ _ h => h
    rintro _ s' ⟨hlinks, hexists⟩
    rw [leaves_ifSome]
    constructor
    · rintro d rfl
      obtain ⟨device, hdevice⟩ := Option.isSome_iff_exists.mp (hexists d (hnext d rfl))
      exact (leaves_relinkDevice hlinks hdevice rfl).mono (fun _ _ h => h.1) fun _ _ h => h
    · rintro rfl
      exact hlinks
  · intro hsame
    obtain rfl : f id = next := by simpa using hsame
    rw [relink_same fun d hd => (hm id d).mp hd]
    exact h

theorem adminCreateToken_links (h : s.HasLinks f g) (body : CreateTokenRequest) :
    Leaves (DbCall.exec c) (adminCreateToken c state amb headers body) s
      (fun _ s' => s'.HasLinks
        (Function.update f (amb.newUuid 1) (normalizeOptionalText body.deviceId))
        (linkTo g (amb.newUuid 1) (normalizeOptionalText body.deviceId)))
      (fun _ s' => s'.HasLinks f g) := by
  apply leaves_guarded fun _ => h
  apply leaves_capacity fun _ => h
  rw [leaves_bind, leaves_ensure]
  refine ⟨fun _ => ?_, fun _ => h⟩
  rw [leaves_bind, leaves_ensure]
  refine ⟨fun _ => ?_, fun _ => h⟩
  rw [leaves_bind, encryptToken, leaves_liftResult]
  refine ⟨fun _ _ => ?_, fun _ _ => h⟩
  rw [leaves_bind, leaves_liftResult]
  refine ⟨fun _ _ => ?_, fun _ _ => h⟩
  apply (leaves_bind _ _).mpr
  apply leaves_ensureDeviceExists fun _ => h
  intro hexists
  rw [leaves_bind, leaves_db, leaves_bind]
  apply (leaves_ifSome _ _).mpr
  have hwritten := h.setToken
  constructor
  · intro d hd
    obtain ⟨device, hdevice⟩ := Option.isSome_iff_exists.mp (hexists d hd)
    rw [hd]
    exact (leaves_relinkDevice (hwritten _) hdevice rfl).mono (fun _ _ h => h.1) fun _ _ h => h
  · intro hnone
    rw [hnone]
    exact hwritten _

/-- The expiry of a token has nothing to do with its device. -/
theorem tokenWithExpiry_links {token token' : ApiToken} {expiresAt : Option (Option String)}
    (h : tokenWithExpiry c token expiresAt = .ok token') :
    token'.id = token.id ∧ token'.deviceId = token.deviceId := by
  unfold tokenWithExpiry at h
  split at h
  · cases h
    exact ⟨rfl, rfl⟩
  · rename_i requested
    cases hnorm : normalizeOptionalTimestamp c requested with
    | ok value =>
      rw [hnorm] at h
      cases h
      exact ⟨rfl, rfl⟩
    | error e =>
      rw [hnorm] at h
      cases h

theorem tokenWithEnabled_links (token : ApiToken) (enabled : Option Bool) (now : Instant) :
    (tokenWithEnabled c token enabled now).id = token.id ∧
      (tokenWithEnabled c token enabled now).deviceId = token.deviceId := by
  cases enabled <;> exact ⟨rfl, rfl⟩

/-- The device a token is to have after a PATCH. -/
def requestedDevice (f : String → Option String) (id : String) (body : UpdateTokenRequest) :
    Option String :=
  match body.deviceId with
  | none => f id
  | some requested => normalizeOptionalText requested

theorem adminUpdateToken_links (h : s.HasLinks f g) (hm : Mutual f g) (id : String)
    (body : UpdateTokenRequest) :
    Leaves (DbCall.exec c) (adminUpdateToken c state amb id headers body) s
      (fun _ s' => s'.HasLinks (Function.update f id (requestedDevice f id body))
        (linkTo (unlinkFrom g (f id)) id (requestedDevice f id body)))
      (fun _ s' => s'.HasLinks f g) := by
  apply leaves_guarded fun _ => h
  apply leaves_capacity fun _ => h
  rw [leaves_bind, leaves_db, leaves_bind, leaves_okOr]
  refine ⟨fun stored hstored => ?_, fun _ => h⟩
  have hid : stored.id = id := h.tokensKeyed id stored hstored
  have hlink : f id = stored.deviceId := by
    rw [← h.tokens, Db.tokenDevice, show s.getToken id = some stored from hstored]
    rfl
  obtain ⟨henabledId, henabledDevice⟩ := tokenWithEnabled_links (c := c) stored body.enabled (amb.now 1)
  rw [leaves_bind, leaves_liftResult]
  refine ⟨fun token htoken => ?_, fun _ _ => h⟩
  obtain ⟨htokenId, htokenDevice⟩ := tokenWithExpiry_links htoken
  have hid' : token.id = id := by rw [htokenId, henabledId, hid]
  have hlink' : token.deviceId = f id := by rw [htokenDevice, henabledDevice, hlink]
  unfold changeTokenDevice requestedDevice
  rw [leaves_bind]
  cases hbody : body.deviceId with
  | none =>
    rw [leaves_pure, leaves_bind, leaves_db, leaves_pure]
    dsimp only
    rw [relink_same fun d hd => (hm id d).mp hd, ← hlink', ← hid']
    exact h.setToken token
  | some requested =>
    dsimp only
    apply (leaves_bind _ _).mpr
    apply leaves_ensureDeviceExists fun _ => h
    intro hexists
    rw [leaves_bind, hid', hlink']
    refine (leaves_moveDeviceLink h hm hexists).mono ?_ fun _ _ h => h
    intro _ s' hmoved
    rw [leaves_pure, leaves_bind, leaves_db, leaves_pure, ← hid']
    exact hid' ▸ hmoved.setToken _

theorem adminRotateToken_links (h : s.HasLinks f g) (id : String) :
    Leaves (DbCall.exec c) (adminRotateToken c state amb id headers) s (fun _ s' => s'.HasLinks f g)
      (fun _ s' => s'.HasLinks f g) := by
  apply leaves_guarded fun _ => h
  apply leaves_capacity fun _ => h
  rw [leaves_bind, leaves_db, leaves_bind, leaves_okOr]
  refine ⟨fun stored hstored => ?_, fun _ => h⟩
  rw [leaves_bind, encryptToken, leaves_liftResult]
  refine ⟨fun _ _ => ?_, fun _ _ => h⟩
  rw [leaves_bind, leaves_db, leaves_pure]
  exact h.setToken_same hstored rfl rfl

/-- Every device of the token is unlinked before the token is removed. -/
theorem adminDeleteToken_links (h : s.HasLinks f g) (hm : Mutual f g) (id : String) :
    Leaves (DbCall.exec c) (adminDeleteToken c state amb id headers) s
      (fun _ s' => s'.HasLinks (Function.update f id none) (unlinkFrom g (f id)))
      (fun _ s' => s'.HasLinks f g) := by
  apply leaves_guarded fun _ => h
  rw [leaves_bind, leaves_db, leaves_bind]
  change Leaves _ (s.listDevices.forM _) s _ _
  -- Only devices in the rest of the list may still name the token.
  apply leaves_forM (J := fun rest s' => ∃ g', s'.HasLinks f g' ∧
    (∀ d, g' d = g d ∨ g d = some id ∧ g' d = none) ∧
    (∀ d, g' d = some id → ∃ device ∈ rest, device.id = d) ∧
    ∀ device ∈ rest, g device.id = device.tokenId)
  · have hvalues : ∀ device, device ∈ s.listDevices → s.getDevice device.id = some device := by
      intro device hdevice
      obtain ⟨key, hkey⟩ := Table.mem_values.mp hdevice
      rw [Db.getDevice, h.devicesKeyed key device hkey]
      exact hkey
    refine ⟨g, h, fun _ => .inl rfl, ?_, ?_⟩
    · intro d hd
      rw [← h.devices] at hd
      obtain ⟨device, hdevice, -⟩ := Option.bind_eq_some_iff.mp hd
      exact ⟨device, Table.mem_values.mpr ⟨_, hdevice⟩, h.device_id hdevice⟩
    · intro device hdevice
      rw [← h.devices, Db.deviceToken, hvalues device hdevice]
      rfl
  · rintro s' ⟨g', hlinks, hkept, hlast, -⟩
    rw [leaves_db]
    have hg' : g' = unlinkFrom g (f id) := by
      funext d
      rw [unlinkFrom_apply]
      rcases hkept d with hd | ⟨hd, hd'⟩
      · split
        · rename_i hlink
          obtain ⟨device, hdevice, -⟩ := hlast d (hd.trans ((hm id d).mp hlink))
          cases hdevice
        · exact hd
      · rw [if_pos ((hm id d).mpr hd), hd']
    rw [← hg']
    exact hlinks.deleteToken id
  · rintro device rest s' ⟨g', hlinks, hkept, hlast, hread⟩
    rw [leaves_runIf]
    have hdevice : g device.id = device.tokenId := hread device List.mem_cons_self
    have hrest : ∀ device' ∈ rest, g device'.id = device'.tokenId :=
      fun device' hdevice' => hread device' (List.mem_cons_of_mem _ hdevice')
    constructor
    · intro hnames
      rw [leaves_db]
      refine ⟨Function.update g' device.id none, hlinks.setDevice _, ?_, ?_, hrest⟩
      · intro d
        by_cases hd : d = device.id
        · subst hd
          right
          exact ⟨by simpa [hdevice] using hnames, Function.update_self _ _ _⟩
        · rw [Function.update_of_ne hd]
          exact hkept d
      · intro d hd
        by_cases hne : d = device.id
        · rw [hne, Function.update_self] at hd
          cases hd
        · rw [Function.update_of_ne hne] at hd
          obtain ⟨device', hdevice', rfl⟩ := hlast d hd
          rcases List.mem_cons.mp hdevice' with rfl | hdevice'
          · exact absurd rfl hne
          · exact ⟨device', hdevice', rfl⟩
    · intro hother
      refine ⟨g', hlinks, hkept, ?_, hrest⟩
      intro d hd
      obtain ⟨device', hdevice', rfl⟩ := hlast d hd
      rcases List.mem_cons.mp hdevice' with rfl | hdevice'
      · -- This device names another token.
        rcases hkept device'.id with hsame | ⟨-, hnone⟩
        · rw [hsame, hdevice] at hd
          simp [hd] at hother
        · rw [hd] at hnone
          cases hnone
      · exact ⟨device', hdevice', rfl⟩

/-- The token side follows the device from its old token to the next one. -/
theorem leaves_setTokenDeviceLink (h : s.HasLinks f g) {deviceId : String} {old next : Option String}
    (hlink : ∀ id ∈ old, f id = some deviceId) (hnext : ∀ id ∈ next, (s.getToken id).isSome) :
    Leaves (DbCall.exec c) (setTokenDeviceLink old next deviceId) s
      (fun _ s' => s'.HasLinks (linkTo (unlinkFrom f old) deviceId next) g) err := by
  unfold setTokenDeviceLink
  rw [leaves_runIf]
  constructor
  · intro _
    apply (leaves_bind _ _).mpr
    have hold : Leaves (DbCall.exec c) (ifSome old fun oldTokenId => do
        let found : Option ApiToken ← db (.getToken oldTokenId)
        ifSome found fun token => runIf (token.deviceId == some deviceId)
          (db (.setToken { token with deviceId := none }))) s
        (fun _ s' => s'.HasLinks (unlinkFrom f old) g ∧
          ∀ id, (s.getToken id).isSome → (s'.getToken id).isSome) err := by
      rw [leaves_ifSome]
      constructor
      · rintro oldId rfl
        have hback : s.tokenDevice oldId = some deviceId := by
          rw [h.tokens]
          exact hlink oldId rfl
        obtain ⟨token, htoken, hdevice⟩ := Option.bind_eq_some_iff.mp hback
        have hid : token.id = oldId := h.tokensKeyed oldId token htoken
        rw [leaves_bind, leaves_db]
        change Leaves _ (ifSome (s.getToken oldId) _) s _ _
        rw [htoken, leaves_ifSome]
        refine ⟨?_, fun hnone => nomatch hnone⟩
        rintro _ ⟨⟩
        rw [leaves_runIf]
        refine ⟨fun _ => ?_, fun hnot => ?_⟩
        · rw [leaves_db]
          constructor
          · rw [← hid]
            exact h.setToken _
          · intro id hid
            change (Db.getToken (s.setToken _) id).isSome
            rw [getToken_setToken]
            split
            · rfl
            · exact hid
        · simp [hdevice] at hnot
      · rintro rfl
        exact ⟨h, fun _ hid => hid⟩
    refine hold.mono ?_ fun _ _ h => h
    rintro _ s' ⟨hlinks, hexists⟩
    rw [leaves_ifSome]
    constructor
    · rintro id rfl
      obtain ⟨token, htoken⟩ := Option.isSome_iff_exists.mp (hexists id (hnext id rfl))
      have hid : token.id = id := hlinks.tokensKeyed id token htoken
      rw [leaves_bind, leaves_db]
      change Leaves _ (okOr (s'.getToken id) _ >>= _) s' _ _
      rw [htoken, leaves_bind, leaves_okOr]
      refine ⟨?_, fun hnone => nomatch hnone⟩
      rintro _ ⟨⟩
      rw [leaves_db, ← hid]
      exact hlinks.setToken _
    · rintro rfl
      exact hlinks
  · intro hsame
    obtain rfl : old = next := by simpa using hsame
    rw [relink_same hlink]
    exact h

theorem adminCreateDevice_links (h : s.HasLinks f g) (body : CreateDeviceRequest) :
    Leaves (DbCall.exec c) (adminCreateDevice c state amb headers body) s
      (fun _ s' => s'.HasLinks (linkTo f (amb.newUuid 0) (normalizeOptionalText body.tokenId))
        (Function.update g (amb.newUuid 0) (normalizeOptionalText body.tokenId)))
      (fun _ s' => s'.HasLinks f g) := by
  apply leaves_guarded fun _ => h
  apply leaves_capacity fun _ => h
  rw [leaves_bind, ensureDeviceName, leaves_ensure]
  refine ⟨fun _ => ?_, fun _ => h⟩
  rw [leaves_bind, ensurePatternValid, leaves_ensure]
  refine ⟨fun _ => ?_, fun _ => h⟩
  apply (leaves_bind _ _).mpr
  apply leaves_ensureTokenExists fun _ => h
  intro hexists
  rw [leaves_bind, leaves_db, leaves_bind]
  refine (leaves_setTokenDeviceLink (h.setDevice _) (fun _ hnone => by cases hnone) hexists).mono ?_
    fun _ _ h => h
  intro _ s' h'
  exact h'

theorem adminUpdateDevice_links (h : s.HasLinks f g) (hm : Mutual f g) (deviceId : String)
    (body : UpdateDeviceRequest) :
    Leaves (DbCall.exec c) (adminUpdateDevice c state amb deviceId headers body) s
      (fun _ s' => s'.HasLinks
        (linkTo (unlinkFrom f (g deviceId)) deviceId
          ((body.tokenId.map normalizeOptionalText).getD (g deviceId)))
        (Function.update g deviceId ((body.tokenId.map normalizeOptionalText).getD (g deviceId))))
      (fun _ s' => s'.HasLinks f g) := by
  apply leaves_guarded fun _ => h
  apply leaves_capacity fun _ => h
  rw [leaves_bind, leaves_db, leaves_bind, leaves_okOr]
  refine ⟨fun stored hstored => ?_, fun _ => h⟩
  have hid : stored.id = deviceId := h.device_id hstored
  have hlink : stored.tokenId = g deviceId := by
    rw [← h.devices, Db.deviceToken, show s.getDevice deviceId = some stored from hstored]
    rfl
  have hlinked : ∀ id ∈ g deviceId, f id = some deviceId := fun id hback => (hm id deviceId).mpr hback
  apply leaves_check (by simp [ensureDeviceName]) fun _ => h
  apply leaves_check (by simp [ensurePatternValid]) fun _ => h
  rw [hlink, hid]
  generalize hnext : (body.tokenId.map normalizeOptionalText).getD (g deviceId) = next
  apply (leaves_bind _ _).mpr
  -- A token that is asked for is looked up, and the old one is there because it is linked.
  have hchecked : Leaves (DbCall.exec c) (runIf body.tokenId.isSome (ensureTokenExists next)) s
      (fun _ s' => s' = s ∧ ∀ id ∈ next, (s.getToken id).isSome) (fun _ s' => s' = s) := by
    rw [leaves_runIf]
    constructor
    · intro _
      exact leaves_ensureTokenExists (fun _ => rfl) fun hexists => ⟨rfl, hexists⟩
    · intro habsent
      refine ⟨rfl, fun id hrequested => ?_⟩
      rw [Option.isSome_eq_false_iff, Option.isNone_iff_eq_none] at habsent
      rw [← hnext, habsent] at hrequested
      have htoken := hlinked id hrequested
      rw [← h.tokens] at htoken
      obtain ⟨token, htoken, -⟩ := Option.bind_eq_some_iff.mp htoken
      rw [htoken]
      rfl
  refine hchecked.mono ?_ ?_
  · rintro _ s' ⟨rfl, hexists⟩
    rw [leaves_bind, leaves_db, leaves_bind]
    exact (leaves_setTokenDeviceLink (h.setDevice _) hlinked hexists).mono (fun _ _ h' => h') fun _ _ h' => h'
  · rintro e s' rfl
    exact h

theorem adminDeleteDevice_links (h : s.HasLinks f g) (hm : Mutual f g) (deviceId : String) :
    Leaves (DbCall.exec c) (adminDeleteDevice c state amb deviceId headers) s
      (fun _ s' => s'.HasLinks (unlinkFrom f (g deviceId)) (Function.update g deviceId none))
      (fun _ s' => s'.HasLinks f g) := by
  apply leaves_guarded fun _ => h
  rw [leaves_bind, leaves_db, leaves_bind, leaves_okOr]
  refine ⟨fun stored hstored => ?_, fun _ => h⟩
  have hid : stored.id = deviceId := h.device_id hstored
  have hlink : stored.tokenId = g deviceId := by
    rw [← h.devices, Db.deviceToken, show s.getDevice deviceId = some stored from hstored]
    rfl
  rw [leaves_bind, hlink, hid]
  refine (leaves_setTokenDeviceLink h (fun id hback => (hm id deviceId).mpr hback)
    fun _ hnone => by cases hnone).mono ?_ fun _ _ h => h
  intro _ s' h'
  rw [leaves_db]
  exact h'.deleteDevice deviceId

/-- After a request that is refused the links are what they were; after one that is accepted
they are mutual exactly if it has linked what was free. -/
theorem serve_links (c : Crates) (state : AppState) (h : s.HasLinks f g) (hm : Mutual f g)
    (amb : Ambient) (r : Request) :
    Leaves (DbCall.exec c) (handle c state amb r) s
      (fun _ s' => ∃ f' g', s'.HasLinks f' g' ∧ (Mutual f' g' ↔ LinksApart amb r s))
      (fun _ s' => s'.HasLinks f g) := by
  have hwrapped : ∀ {α : Type} {x : Handler α} {wrap : α → Response} {f' g' : String → Option String},
      Leaves (DbCall.exec c) x s (fun _ s' => s'.HasLinks f' g') (fun _ s' => s'.HasLinks f g) →
      (Mutual f' g' ↔ LinksApart amb r s) →
      Leaves (DbCall.exec c) (x >>= fun a => pure (wrap a)) s
        (fun _ s' => ∃ f' g', s'.HasLinks f' g' ∧ (Mutual f' g' ↔ LinksApart amb r s))
        (fun _ s' => s'.HasLinks f g) := by
    intro α x wrap f' g' hx hiff
    rw [leaves_bind]
    exact hx.mono (fun _ _ h' => ⟨f', g', h', hiff⟩) fun _ _ h' => h'
  by_cases harea : r.endpoint.area = some .tokens
  · obtain ⟨endpoint, peer, headers⟩ := r
    cases endpoint with
    | adminCreateToken body =>
      apply hwrapped (adminCreateToken_links h body)
      rw [mutual_link_iff hm, ← h.tokens, ← h.devices]
      rfl
    | adminUpdateToken id body =>
      apply hwrapped (adminUpdateToken_links h hm id body)
      rw [mutual_relink_iff hm, ← h.tokens, ← h.devices, requestedDevice]
      change _ ↔ ∀ requested ∈ body.deviceId, _
      cases body.deviceId with
      | none => exact iff_of_true (fun _ hlink => .inl hlink) fun _ hnone => by cases hnone
      | some requested => simp
    | adminRotateToken id =>
      exact hwrapped (adminRotateToken_links h id) (iff_of_true hm trivial)
    | adminDeleteToken id =>
      exact hwrapped (adminDeleteToken_links h hm id) (iff_of_true (hm.release id) trivial)
    | adminCreateDevice body =>
      apply hwrapped (adminCreateDevice_links h body)
      rw [mutual_comm, mutual_link_iff hm.symm, ← h.tokens, ← h.devices]
      rfl
    | adminUpdateDevice deviceId body =>
      apply hwrapped (adminUpdateDevice_links h hm deviceId body)
      rw [mutual_comm, mutual_relink_iff hm.symm, ← h.tokens, ← h.devices]
      change _ ↔ ∀ requested ∈ body.tokenId, _
      cases body.tokenId with
      | none => exact iff_of_true (fun _ hlink => .inl hlink) fun _ hnone => by cases hnone
      | some requested => simp
    | adminDeleteDevice deviceId =>
      exact hwrapped (adminDeleteDevice_links h hm deviceId)
        (iff_of_true (hm.symm.release deviceId).symm trivial)
    | _ => cases harea
  · have houtside : ∀ call, Within r.endpoint.area call → call.area ≠ some .tokens := by
      intro call hcall htokens
      rcases hcall with hnone | hsame
      · rw [hnone] at htokens
        cases htokens
      · exact harea (hsame.symm.trans htokens)
    have hkept : Leaves (DbCall.exec c) (handle c state amb r) s (fun _ s' => s'.HasLinks f g)
        (fun _ s' => s'.HasLinks f g) :=
      (handle_calls r).leaves (fun call s' hcall h' => h'.kept (houtside call hcall) hm) h
    have hapart : LinksApart amb r s := by
      obtain ⟨endpoint, peer, headers⟩ := r
      cases endpoint <;> trivial
    exact hkept.mono (fun _ _ h' => ⟨f, g, h', iff_of_true hm hapart⟩) fun _ _ h' => h'

end Handlers

/-! ## Sequences of requests -/

section Sequences
variable {c : Crates} {state : AppState} {start s : Db} {f g : String → Option String}

/-- Mutual links cannot dangle. -/
theorem Db.HasLinks.linksHold (h : s.HasLinks f g) (hm : Mutual f g) : LinksHold s where
  agree := by
    rw [h.tokens, h.devices]
    exact hm
  deviceExists id deviceId hlink hnone := by
    have hback : s.deviceToken deviceId = some id := by
      rw [h.tokens] at hlink
      rw [h.devices]
      exact (hm id deviceId).mp hlink
    rw [Db.deviceToken, hnone] at hback
    cases hback
  tokenExists id deviceId hlink hnone := by
    have hback : s.tokenDevice id = some deviceId := by
      rw [h.devices] at hlink
      rw [h.tokens]
      exact (hm id deviceId).mpr hlink
    rw [Db.tokenDevice, hnone] at hback
    cases hback

theorem LinksHold.agree_of (h : LinksHold s) (hlinks : s.HasLinks f g) : Mutual f g := by
  rw [← hlinks.tokens, ← hlinks.devices]
  exact h.agree

/-- One request at a time, the links hold in all states exactly if every request that is
accepted links what is free. -/
theorem linksHold_iff {requests : List (Ambient × Request)} (hkeyed : start.RecordsKeyed)
    (hstart : LinksHold start) :
    Throughout c state LinksHold requests start ↔
      EachServed c state (fun amb r s => (serve c state amb r s).1.isOk = true → LinksApart amb r s)
        requests start := by
  induction requests generalizing start with
  | nil => exact iff_of_true hstart trivial
  | cons head rest ih =>
    obtain ⟨amb, r⟩ := head
    have hlinks : start.HasLinks start.tokenDevice start.deviceToken := ⟨hkeyed, rfl, rfl⟩
    have hserve := serve_links c state hlinks (hstart.agree_of hlinks) amb r
    change LinksHold start ∧ Throughout c state LinksHold rest (serve c state amb r start).2 ↔
      ((serve c state amb r start).1.isOk = true → LinksApart amb r start) ∧ _
    unfold Leaves at hserve
    split at hserve
    · rename_i response s' halone
      rw [serve, halone]
      obtain ⟨f', g', hlinks', hiff⟩ := hserve
      constructor
      · rintro ⟨-, hrest⟩
        have hhold : LinksHold s' := hrest.start
        exact ⟨fun _ => hiff.mp (hhold.agree_of hlinks'), (ih hlinks'.toRecordsKeyed hhold).mp hrest⟩
      · rintro ⟨hapart, hrest⟩
        have hhold : LinksHold s' := hlinks'.linksHold (hiff.mpr (hapart rfl))
        exact ⟨hstart, (ih hlinks'.toRecordsKeyed hhold).mpr hrest⟩
    · rename_i e s' halone
      rw [serve, halone]
      have hhold : LinksHold s' := hserve.linksHold (hstart.agree_of hlinks)
      constructor
      · rintro ⟨-, hrest⟩
        exact ⟨fun hok => (by cases hok), (ih hserve.toRecordsKeyed hhold).mp hrest⟩
      · rintro ⟨-, hrest⟩
        exact ⟨hstart, (ih hserve.toRecordsKeyed hhold).mpr hrest⟩

end Sequences

/-! ## Two devices for one token -/

/-- A database with neither tokens nor devices. -/
theorem linksHold_of_empty {db : Db} (ht : db.tokens = ∅) (hd : db.devices = ∅) :
    db.RecordsKeyed ∧ LinksHold db := by
  have htoken : ∀ id, db.getToken id = none := fun id => by simp [Db.getToken, ht]
  have hdevice : ∀ key : String, db.devices[key]? = none := fun key => by simp [hd]
  have hlinks : db.HasLinks (fun _ => none) fun _ => none := by
    refine ⟨⟨fun id token h => ?_, fun key device h => ?_⟩, ?_, ?_⟩
    · rw [htoken] at h
      cases h
    · rw [hdevice] at h
      cases h
    · funext id
      rw [Db.tokenDevice, htoken]
      rfl
    · funext deviceId
      rw [Db.deviceToken, Db.getDevice, hdevice]
      rfl
  refine ⟨hlinks.toRecordsKeyed, hlinks.linksHold fun _ _ => ?_⟩
  constructor
  · intro h
    cases h
  · intro h
    cases h

theorem linksHold_freshDb : freshDb.RecordsKeyed ∧ LinksHold freshDb := by
  have hempty : freshDb.tokens = ∅ ∧ freshDb.devices = ∅ := by
    refine Program.run_invariant (J := fun db : Db => db.tokens = ∅ ∧ db.devices = ∅) ?_
      (bootstrapAdmin_calls _ _ _) ⟨rfl, rfl⟩
    intro call db hcall hdb
    rcases hcall with ⟨username, rfl⟩ | ⟨user, rfl⟩
    · exact hdb
    · exact hdb
  exact linksHold_of_empty hempty.1 hempty.2

def deviceRequest (tokenId : Option String) : Request :=
  panelRequest (.adminCreateDevice
    { name := "desk"
      namespacePattern := none
      tokenId := tokenId
      enabled := none
      lastClientVersion := none
      notes := none })

/-- The requests one after another, each with the identifiers of its number. -/
def numbered (requests : List Request) : List (Ambient × Request) :=
  requests.mapIdx fun i r => (numberedAmbient (fun _ => "") i, r)

/-- The token that request 0 issues gets a device, which is then deleted. -/
def linkedOnce : List (Ambient × Request) := numbered
  [issueRequest "work" "write" none, deviceRequest (some (numberedUuid 0 1)),
   panelRequest (.adminDeleteDevice (numberedUuid 1 0))]

set_option maxRecDepth 10000 in
theorem linksHold_linkedOnce : Throughout freshCrates freshState LinksHold linkedOnce freshDb := by
  refine (linksHold_iff linksHold_freshDb.1 linksHold_freshDb.2).mpr ⟨fun _ => .inl ?_, fun _ => .inr ?_,
    fun _ => trivial, trivial⟩
  · decide +kernel
  · rw [serve_shortened knowsAdmin_freshCrates (.issue _ _ _)]
    decide +kernel

/-- The token gets a second device while the first one still names it. -/
def linkedTwice : List (Ambient × Request) := numbered
  [issueRequest "work" "write" none, deviceRequest (some (numberedUuid 0 1)),
   deviceRequest (some (numberedUuid 0 1))]

theorem scripted_linkedTwice : linkedTwice.Forall fun entry => Scripted entry.2 :=
  ⟨.issue _ _ _, .panel _ rfl, .panel _ rfl⟩

set_option maxRecDepth 10000 in
theorem second_device_breaks_link :
    Reachable freshCrates freshDb ∧ freshDb.RecordsKeyed ∧ LinksHold freshDb ∧
      ¬ LinksHold (serveAll freshCrates freshState linkedTwice freshDb).2 := by
  refine ⟨reachable_freshDb, linksHold_freshDb.1, linksHold_freshDb.2, fun hhold => ?_⟩
  have hplay : (serveAll freshCrates freshState linkedTwice freshDb).2.deviceToken (numberedUuid 1 0) =
        some (numberedUuid 0 1) ∧
      (serveAll freshCrates freshState linkedTwice freshDb).2.tokenDevice (numberedUuid 0 1) =
        some (numberedUuid 2 0) := by
    rw [serveAll_shortened knowsAdmin_freshCrates scripted_linkedTwice]
    decide +kernel
  have hback := (hhold.agree _ _).mpr hplay.1
  rw [hplay.2] at hback
  exact absurd hback (by decide)

end CloudSync
