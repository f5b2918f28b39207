import CloudSync.DeviceLinks
import CloudSync.InTurn
import CloudSync.SyncFrame

/-!
# What a PATCH leaves in the record

A body may leave a field out, give it as `null` or give it a value. The derived
decoding of the bodies does not keep the first two apart.
-/

namespace CloudSync

open Rust Redb Transactions Transactions.Fallible

set_option autoImplicit false

/-! ## Bodies -/

def JsonItems.toList : JsonItems → List Json
  | .nil => []
  | .cons head tail => head :: tail.toList

def JsonFields.toList : JsonFields → List (String × Json)
  | .nil => []
  | .cons name value rest => (name, value) :: rest.toList

/-- What a derived `Deserialize` takes for the fields of a struct: in an object those with the names,
none of them twice, in an array all of them in order. -/
def Json.structFields (names : List String) : Json → Option (List (String × Json))
  | .object fields =>
    let known := fields.toList.filter fun field => names.contains field.1
    if (known.map (·.1)).Nodup then some known else none
  | .array items => if items.toList.length = names.length then some (names.zip items.toList) else none
  | _ => none

def Json.asBool : Json → Option Bool
  | .bool b => some b
  | _ => none

def Json.asString : Json → Option String
  | .string s => some s
  | _ => none

/-- A derived `Option<T>` field. -/
def optionField {α : Type} (read : Json → Option α) : Option Json → Option (Option α)
  | none => some none
  | some .null => some none
  | some value => (read value).map some

/-- A derived `Option<Option<String>>` field. -/
def nullableText : Option Json → Option (Option (Option String)) :=
  optionField fun value => optionField Json.asString (some value)

def UpdateTokenRequest.fieldNames : List String := ["enabled", "expiresAt", "deviceId"]

def UpdateTokenRequest.fromFields (fields : List (String × Json)) : Option UpdateTokenRequest := do
  let enabled ← optionField Json.asBool (fields.lookup "enabled")
  let expiresAt ← nullableText (fields.lookup "expiresAt")
  let deviceId ← nullableText (fields.lookup "deviceId")
  pure { enabled := enabled, expiresAt := expiresAt, deviceId := deviceId }

def UpdateDeviceRequest.fieldNames : List String :=
  ["name", "namespacePattern", "tokenId", "enabled", "notes"]

def UpdateDeviceRequest.fromFields (fields : List (String × Json)) : Option UpdateDeviceRequest := do
  let name ← optionField Json.asString (fields.lookup "name")
  let namespacePattern ← nullableText (fields.lookup "namespacePattern")
  let tokenId ← nullableText (fields.lookup "tokenId")
  let enabled ← optionField Json.asBool (fields.lookup "enabled")
  let notes ← nullableText (fields.lookup "notes")
  pure
    { name := name
      namespacePattern := namespacePattern
      tokenId := tokenId
      enabled := enabled
      notes := notes }

variable (c : Crates) (state : AppState) (amb : Ambient)

/-- A body that does not decode is refused before the handler is called. -/
def servePatch (endpoint : Option Endpoint) (peer : IpAddr) (headers : HeaderMap) (db : Db) :
    Option Answer × Db :=
  match endpoint with
  | none => (none, db)
  | some endpoint =>
    let (answer, db') := serve c state amb ⟨endpoint, peer, headers⟩ db
    (some answer, db')

theorem servePatch_none (peer : IpAddr) (headers : HeaderMap) (db : Db) :
    servePatch c state amb none peer headers db = (none, db) := rfl

theorem servePatch_some (endpoint : Endpoint) (peer : IpAddr) (headers : HeaderMap) (db : Db) :
    servePatch c state amb (some endpoint) peer headers db =
      (some (serve c state amb ⟨endpoint, peer, headers⟩ db).1,
        (serve c state amb ⟨endpoint, peer, headers⟩ db).2) := rfl

def patchToken (id : String) (peer : IpAddr) (headers : HeaderMap) (body : Json) (db : Db) :
    Option Answer × Db :=
  servePatch c state amb (((body.structFields UpdateTokenRequest.fieldNames).bind
    UpdateTokenRequest.fromFields).map (.adminUpdateToken id)) peer headers db

def patchDevice (id : String) (peer : IpAddr) (headers : HeaderMap) (body : Json) (db : Db) :
    Option Answer × Db :=
  servePatch c state amb (((body.structFields UpdateDeviceRequest.fieldNames).bind
    UpdateDeviceRequest.fromFields).map (.adminUpdateDevice id)) peer headers db

/-! ## Three ways -/

/-- The field is as the body gives it; `normalised` relates a value to what is stored for it. -/
def FieldPatched (normalised : Option String → Option String → Prop) (given : Option Json)
    (stored after : Option String) : Prop :=
  match given with
  | none => after = stored
  | some .null => after = none
  | some (.string text) => normalised (some text) after
  | some _ => False

def TextNormalised (value after : Option String) : Prop := after = normalizeOptionalText value

def TimestampNormalised (value after : Option String) : Prop :=
  normalizeOptionalTimestamp c value = .ok after

/-- A flag and a name cannot be cleared. -/
def FlagPatched (given : Option Json) (stored after : Bool) : Prop :=
  match given with
  | none => after = stored
  | some (.bool b) => after = b
  | some _ => True

def NamePatched (given : Option Json) (stored after : String) : Prop :=
  match given with
  | none => after = stored
  | some (.string text) => after = trim text
  | some _ => True

structure TokenPatched (fields : List (String × Json)) (stored after : ApiToken) : Prop where
  enabled : FlagPatched (fields.lookup "enabled") stored.enabled after.enabled
  expiresAt : FieldPatched (TimestampNormalised c) (fields.lookup "expiresAt") stored.expiresAt
    after.expiresAt
  deviceId : FieldPatched TextNormalised (fields.lookup "deviceId") stored.deviceId after.deviceId

structure DevicePatched (fields : List (String × Json)) (stored after : DeviceRecord) : Prop where
  name : NamePatched (fields.lookup "name") stored.name after.name
  namespacePattern : FieldPatched TextNormalised (fields.lookup "namespacePattern")
    stored.namespacePattern after.namespacePattern
  tokenId : FieldPatched TextNormalised (fields.lookup "tokenId") stored.tokenId after.tokenId
  enabled : FlagPatched (fields.lookup "enabled") stored.enabled after.enabled
  notes : FieldPatched TextNormalised (fields.lookup "notes") stored.notes after.notes

/-- What the body gives as `null` is empty already. -/
def NullsIdle (fields : List (String × Json)) (stored : List (String × Option String)) : Prop :=
  ∀ field ∈ stored, fields.lookup field.1 = some .null → field.2 = none

def tokenNullables (token : ApiToken) : List (String × Option String) :=
  [("expiresAt", token.expiresAt), ("deviceId", token.deviceId)]

def deviceNullables (device : DeviceRecord) : List (String × Option String) :=
  [("namespacePattern", device.namespacePattern), ("tokenId", device.tokenId), ("notes", device.notes)]

variable {c state amb} {db : Db}

/-- What a handler makes of a decoded field. -/
def Requested (normalised : Option String → Option String → Prop) (requested : Option (Option String))
    (stored after : Option String) : Prop :=
  match requested with
  | none => after = stored
  | some value => normalised value after

/-- A field that is missing and one that is `null` are decoded alike. -/
theorem fieldPatched_iff {normalised : Option String → Option String → Prop} {given : Option Json}
    {requested : Option (Option String)} {stored after : Option String}
    (hgiven : nullableText given = some requested) (h : Requested normalised requested stored after) :
    FieldPatched normalised given stored after ↔ (given = some .null → stored = none) := by
  cases given with
  | none =>
    obtain rfl := Option.some.inj hgiven
    exact ⟨fun _ hnull => (nomatch hnull), fun _ => h⟩
  | some value =>
    cases value with
    | null =>
      obtain rfl := Option.some.inj hgiven
      obtain rfl : after = stored := h
      exact ⟨fun hnone _ => hnone, fun hidle => hidle rfl⟩
    | string text =>
      obtain rfl := Option.some.inj hgiven
      exact ⟨fun _ hnull => (nomatch hnull), fun _ => h⟩
    | bool | number | array | object => cases hgiven

theorem flagPatched {given : Option Json} {requested : Option Bool} {stored : Bool}
    (hgiven : optionField Json.asBool given = some requested) :
    FlagPatched given stored (requested.getD stored) := by
  cases given with
  | none =>
    obtain rfl := Option.some.inj hgiven
    rfl
  | some value =>
    cases value with
    | bool b =>
      obtain rfl := Option.some.inj hgiven
      rfl
    | null | number | string | array | object => trivial

theorem namePatched {given : Option Json} {requested : Option String} {stored : String}
    (hgiven : optionField Json.asString given = some requested) :
    NamePatched given stored ((requested.map trim).getD stored) := by
  cases given with
  | none =>
    obtain rfl := Option.some.inj hgiven
    rfl
  | some value =>
    cases value with
    | string text =>
      obtain rfl := Option.some.inj hgiven
      rfl
    | null | bool | number | array | object => trivial

/-! ## Records under their keys -/

def DevicesKeyed (db : Db) : Prop :=
  ∀ id device, db.getDevice id = some device → device.id = id

theorem DevicesKeyed.insert {db db' : Db} (h : DevicesKeyed db) {deviceId : String} {device : DeviceRecord}
    (hd : db'.devices = db.devices.insert (deviceKey deviceId) device) (hid : device.id = deviceId) :
    DevicesKeyed db' := by
  intro id stored hstored
  rw [Db.getDevice, hd, Table.get_insert] at hstored
  by_cases hkey : deviceKey deviceId = deviceKey id
  · rw [if_pos hkey] at hstored
    obtain rfl := Option.some.inj hstored
    exact hid.trans (deviceKey_injective hkey)
  · rw [if_neg hkey] at hstored
    exact h id stored hstored

theorem devicesKeyed_exec {call : DbCall} {db : Db} (h : DevicesKeyed db) :
    DevicesKeyed (call.exec c db).2 := by
  cases call with
  | setDevice device => exact h.insert rfl rfl
  | deleteDevice deleted =>
    intro id stored hstored
    have hstored : (db.deleteDevice deleted).getDevice id = some stored := hstored
    rw [getDevice_deleteDevice] at hstored
    split at hstored
    · cases hstored
    · exact h id stored hstored
  | recordTokenUsage id ns permission clientIp clientVersion observedAt =>
    simp only [DbCall.exec, Db.recordTokenUsage]
    split
    · exact h
    · split
      · exact h
      · rename_i deviceId _
        split
        · exact h
        · rename_i device hdevice
          exact h.insert rfl (h deviceId device hdevice)
  | recordTokenFailure id =>
    obtain ⟨tokens, h'⟩ := db.recordTokenFailure_eq id
    rw [DbCall.exec, h']
    exact h
  | putBlobIfMatches ns expectedEtag requireAbsent blob m =>
    rcases putBlobIfMatches_cases db ns expectedEtag requireAbsent blob m with
      ⟨message, h'⟩ | ⟨revision, message, h'⟩ | ⟨_, h'⟩ <;>
    · simp only [DbCall.exec, h']
      exact h
  | putObjectIfMatches ns path expectedEtag requireAbsent data m =>
    rcases putObjectIfMatches_cases db ns path expectedEtag requireAbsent data m with
      ⟨message, h'⟩ | ⟨_, h'⟩ <;>
    · simp only [DbCall.exec, h']
      exact h
  | _ => exact h

theorem Reachable.devicesKeyed {db : Db} (h : Reachable c db) : DevicesKeyed db := by
  refine h.invariant ?_ (fun _ _ hd => hd) fun hd hrun =>
    hrun.linked.invariant (I := DevicesKeyed) ?_ hd
  · intro id device hdevice
    simp [Db.getDevice] at hdevice
  · intro call reply db db' heffect hdb
    cases heffect with
    | fail f => exact hdb
    | commit => exact devicesKeyed_exec hdb

/-! ## The handlers -/

section Handlers
variable {s : Db} {headers : HeaderMap} {err : AppError → Db → Prop}

theorem leaves_relinkDevice_tokens (deviceId : String) (applies : DeviceRecord → Bool)
    (tokenId : Option String) (now : Instant) :
    Leaves (DbCall.exec c) (relinkDevice c deviceId applies tokenId now) s
      (fun _ s' => s'.tokens = s.tokens) err := by
  unfold relinkDevice
  rw [leaves_bind, leaves_db, leaves_ifSome]
  refine ⟨fun device _ => ?_, fun _ => rfl⟩
  rw [leaves_runIf]
  exact ⟨fun _ => rfl, fun _ => rfl⟩

/-- Moving the device side of a link leaves the tokens. -/
theorem leaves_moveDeviceLink_tokens (tokenId : String) (old next : Option String) :
    Leaves (DbCall.exec c) (moveDeviceLink c amb tokenId old next) s
      (fun _ s' => s'.tokens = s.tokens) err := by
  unfold moveDeviceLink
  rw [leaves_runIf]
  refine ⟨fun _ => ?_, fun _ => rfl⟩
  apply (leaves_bind _ _).mpr
  have hold : Leaves (DbCall.exec c) (ifSome old fun oldDeviceId =>
      relinkDevice c oldDeviceId (fun device => device.tokenId == some tokenId) none (amb.now 2)) s
      (fun _ s' => s'.tokens = s.tokens) err := by
    rw [leaves_ifSome]
    exact ⟨fun _ _ => leaves_relinkDevice_tokens .., fun _ => rfl⟩
  apply hold.mono ?_ fun _ _ h => h
  intro _ s' htokens
  rw [leaves_ifSome]
  refine ⟨fun deviceId _ => ?_, fun _ => htokens⟩
  exact (leaves_relinkDevice_tokens deviceId _ _ _).mono (fun _ _ h => h.trans htokens) fun _ _ h => h

/-- What the handler makes of a decoded body. -/
structure TokenRequested (c : Crates) (body : UpdateTokenRequest) (stored after : ApiToken) : Prop where
  enabled : after.enabled = body.enabled.getD stored.enabled
  expiresAt : Requested (TimestampNormalised c) body.expiresAt stored.expiresAt after.expiresAt
  deviceId : Requested TextNormalised body.deviceId stored.deviceId after.deviceId

theorem tokenWithEnabled_fields (token : ApiToken) (enabled : Option Bool) (now : Instant) :
    (tokenWithEnabled c token enabled now).enabled = enabled.getD token.enabled ∧
      (tokenWithEnabled c token enabled now).expiresAt = token.expiresAt := by
  cases enabled <;> exact ⟨rfl, rfl⟩

theorem tokenWithExpiry_fields {token token' : ApiToken} {expiresAt : Option (Option String)}
    (h : tokenWithExpiry c token expiresAt = .ok token') :
    token'.enabled = token.enabled ∧
      Requested (TimestampNormalised c) expiresAt token.expiresAt token'.expiresAt := by
  cases expiresAt with
  | none =>
    cases h
    exact ⟨rfl, rfl⟩
  | some requested =>
    unfold tokenWithExpiry at h
    dsimp only at h
    cases hnorm : normalizeOptionalTimestamp c requested with
    | ok value =>
      rw [hnorm] at h
      cases h
      exact ⟨rfl, hnorm⟩
    | error e =>
      rw [hnorm] at h
      cases h

theorem leaves_adminUpdateToken {id : String} (hkeyed : ∀ token, s.getToken id = some token → token.id = id)
    (body : UpdateTokenRequest) :
    Leaves (DbCall.exec c) (adminUpdateToken c state amb id headers body) s
      (fun _ s' => ∃ stored after, s.getToken id = some stored ∧ s'.getToken id = some after ∧
        TokenRequested c body stored after)
      (fun _ s' => s' = s) := by
  refine leaves_guarded ?_ (leaves_capacity ?_ ?_)
  · exact fun _ => rfl
  · exact fun _ => rfl
  rw [leaves_bind, leaves_db, leaves_bind, leaves_okOr]
  refine ⟨fun stored hstored => ?_, fun _ => rfl⟩
  have hid : stored.id = id := hkeyed stored hstored
  obtain ⟨henabledId, henabledDevice⟩ := tokenWithEnabled_links (c := c) stored body.enabled (amb.now 1)
  obtain ⟨henabled, henabledExpiry⟩ := tokenWithEnabled_fields (c := c) stored body.enabled (amb.now 1)
  rw [leaves_bind, leaves_liftResult]
  refine ⟨fun token htoken => ?_, fun _ _ => rfl⟩
  obtain ⟨htokenId, htokenDevice⟩ := tokenWithExpiry_links htoken
  obtain ⟨htokenEnabled, hexpiry⟩ := tokenWithExpiry_fields htoken
  rw [henabledExpiry] at hexpiry
  have hid' : token.id = id := by rw [htokenId, henabledId, hid]
  have hstoredAfter (s' : Db) (after : ApiToken) (hafter : after.id = id) :
      (s'.setToken after).getToken id = some after := by
    rw [getToken_setToken, if_pos hafter]
  unfold changeTokenDevice
  rw [leaves_bind]
  cases hbody : body.deviceId with
  | none =>
    rw [leaves_pure, leaves_bind, leaves_db, leaves_pure]
    refine ⟨stored, token, hstored, hstoredAfter s token hid', ?_, hexpiry, ?_⟩
    · rw [htokenEnabled, henabled]
    · rw [hbody]
      exact htokenDevice.trans henabledDevice
  | some requested =>
    dsimp only
    refine (leaves_bind _ _).mpr (leaves_ensureDeviceExists ?_ fun _ => ?_)
    · exact fun _ => rfl
    rw [leaves_bind]
    apply (leaves_moveDeviceLink_tokens _ _ _).mono ?_ fun _ _ h => h
    intro _ s' _
    rw [leaves_pure, leaves_bind, leaves_db, leaves_pure]
    refine ⟨stored, _, hstored, hstoredAfter s' _ hid', ?_, hexpiry, ?_⟩
    · rw [← henabled]
      exact htokenEnabled
    · rw [hbody]
      rfl

theorem isSome_getToken_setToken (s : Db) (token : ApiToken) {id : String}
    (h : (s.getToken id).isSome) : ((s.setToken token).getToken id).isSome := by
  rw [getToken_setToken]
  split
  · rfl
  · exact h

/-- Moving the token side of a link leaves the devices, and finds a token that is there. -/
theorem leaves_setTokenDeviceLink_devices {old next : Option String} (deviceId : String)
    (hnext : old ≠ next → ∀ id ∈ next, (s.getToken id).isSome) :
    Leaves (DbCall.exec c) (setTokenDeviceLink old next deviceId) s
      (fun _ s' => s'.devices = s.devices) err := by
  unfold setTokenDeviceLink
  rw [leaves_runIf]
  refine ⟨fun hne => ?_, fun _ => rfl⟩
  have hexists := hnext (bne_iff_ne.mp hne)
  apply (leaves_bind _ _).mpr
  have hold : Leaves (DbCall.exec c) (ifSome old fun oldTokenId => do
      let found : Option ApiToken ← db (.getToken oldTokenId)
      ifSome found fun token => runIf (token.deviceId == some deviceId)
        (db (.setToken { token with deviceId := none }))) s
      (fun _ s' => s'.devices = s.devices ∧ ∀ id ∈ next, (s'.getToken id).isSome) err := by
    rw [leaves_ifSome]
    refine ⟨fun oldId _ => ?_, fun _ => ⟨rfl, hexists⟩⟩
    rw [leaves_bind, leaves_db, leaves_ifSome]
    refine ⟨fun token _ => ?_, fun _ => ⟨rfl, hexists⟩⟩
    rw [leaves_runIf]
    refine ⟨fun _ => ?_, fun _ => ⟨rfl, hexists⟩⟩
    exact ⟨rfl, fun id hid => isSome_getToken_setToken s _ (hexists id hid)⟩
  apply hold.mono ?_ fun _ _ h => h
  intro _ s' hs'
  rw [leaves_ifSome]
  refine ⟨fun id hid => ?_, fun _ => hs'.1⟩
  obtain ⟨token, htoken⟩ := Option.isSome_iff_exists.mp (hs'.2 id hid)
  rw [leaves_bind, leaves_db, leaves_bind, leaves_okOr]
  refine ⟨fun _ _ => hs'.1, fun hnone => ?_⟩
  rw [show s'.getToken id = none from hnone] at htoken
  cases htoken

structure DeviceRequested (body : UpdateDeviceRequest) (stored after : DeviceRecord) : Prop where
  name : after.name = (body.name.map trim).getD stored.name
  namespacePattern : Requested TextNormalised body.namespacePattern stored.namespacePattern
    after.namespacePattern
  tokenId : Requested TextNormalised body.tokenId stored.tokenId after.tokenId
  enabled : after.enabled = body.enabled.getD stored.enabled
  notes : Requested TextNormalised body.notes stored.notes after.notes

theorem requested_text (requested : Option (Option String)) (stored : Option String) :
    Requested TextNormalised requested stored ((requested.map normalizeOptionalText).getD stored) := by
  cases requested <;> rfl

theorem getDevice_of_devices {s s' : Db} {device : DeviceRecord}
    (h : s'.devices = (s.setDevice device).devices) : s'.getDevice device.id = some device := by
  rw [Db.getDevice, h]
  exact (getDevice_setDevice s device device.id).trans (if_pos rfl)

theorem leaves_adminUpdateDevice {id : String}
    (hkeyed : ∀ device, s.getDevice id = some device → device.id = id) (body : UpdateDeviceRequest) :
    Leaves (DbCall.exec c) (adminUpdateDevice c state amb id headers body) s
      (fun _ s' => ∃ stored after, s.getDevice id = some stored ∧ s'.getDevice id = some after ∧
        DeviceRequested body stored after)
      (fun _ s' => s' = s) := by
  refine leaves_guarded ?_ (leaves_capacity ?_ ?_)
  · exact fun _ => rfl
  · exact fun _ => rfl
  rw [leaves_bind, leaves_db, leaves_bind, leaves_okOr]
  refine ⟨fun stored hstored => ?_, fun _ => rfl⟩
  have hid : stored.id = id := hkeyed stored hstored
  refine leaves_check (by simp [ensureDeviceName]) ?_ (leaves_check (by simp [ensurePatternValid]) ?_ ?_)
  · exact fun _ => rfl
  · exact fun _ => rfl
  generalize hnext : (body.tokenId.map normalizeOptionalText).getD stored.tokenId = next
  apply (leaves_bind _ _).mpr
  -- A link that changes leads to a token that has been looked up.
  have hchecked : Leaves (DbCall.exec c) (runIf body.tokenId.isSome (ensureTokenExists next)) s
      (fun _ s' => s' = s ∧ (stored.tokenId ≠ next → ∀ id ∈ next, (s.getToken id).isSome))
      (fun _ s' => s' = s) := by
    rw [leaves_runIf]
    constructor
    · intro _
      exact leaves_ensureTokenExists (fun _ => rfl) fun hexists => ⟨rfl, fun _ => hexists⟩
    · intro habsent
      refine ⟨rfl, fun hne => ?_⟩
      rw [Option.isSome_eq_false_iff, Option.isNone_iff_eq_none] at habsent
      rw [habsent] at hnext
      exact absurd hnext hne
  refine hchecked.mono ?_ fun _ _ h => h
  intro _ s' h
  obtain ⟨rfl, hexists⟩ := h
  rw [leaves_bind, leaves_db, leaves_bind]
  refine (leaves_setTokenDeviceLink_devices _ ?_).mono ?_ fun _ _ h => h
  · exact hexists
  intro _ s'' hdevices
  have hafter := getDevice_of_devices hdevices
  change s''.getDevice stored.id = _ at hafter
  rw [hid] at hafter
  refine ⟨stored, _, hstored, hafter, rfl, requested_text _ _, ?_, rfl, requested_text _ _⟩
  rw [← hnext]
  exact requested_text _ _

end Handlers
/-! ## The answers -/

/-- An accepted PATCH of a token leaves in the record what the body gives if and only if it gives
no `null` for anything stored; a refused one leaves the database. -/
def TokenPatchDecided (c : Crates) (id : String) (body : Json) (db : Db) : Option Answer × Db → Prop
  | (some (.ok _), db') => ∃ fields stored after,
    body.structFields UpdateTokenRequest.fieldNames = some fields ∧ db.getToken id = some stored ∧
      db'.getToken id = some after ∧
      (TokenPatched c fields stored after ↔ NullsIdle fields (tokenNullables stored))
  | (_, db') => db' = db

/-- The same for a device. -/
def DevicePatchDecided (id : String) (body : Json) (db : Db) : Option Answer × Db → Prop
  | (some (.ok _), db') => ∃ fields stored after,
    body.structFields UpdateDeviceRequest.fieldNames = some fields ∧ db.getDevice id = some stored ∧
      db'.getDevice id = some after ∧
      (DevicePatched fields stored after ↔ NullsIdle fields (deviceNullables stored))
  | (_, db') => db' = db

theorem nullsIdle_cons {fields : List (String × Json)} {name : String} {stored : Option String}
    {rest : List (String × Option String)} :
    NullsIdle fields ((name, stored) :: rest) ↔
      (fields.lookup name = some .null → stored = none) ∧ NullsIdle fields rest :=
  List.forall_mem_cons

theorem tokenPatched_iff {fields : List (String × Json)} {request : UpdateTokenRequest}
    {stored after : ApiToken} (hdecoded : UpdateTokenRequest.fromFields fields = some request)
    (h : TokenRequested c request stored after) :
    TokenPatched c fields stored after ↔ NullsIdle fields (tokenNullables stored) := by
  simp only [UpdateTokenRequest.fromFields, Option.bind_eq_bind, Option.bind_eq_some_iff,
    Option.pure_def] at hdecoded
  obtain ⟨enabled, henabled, expiresAt, hexpiresAt, deviceId, hdeviceId, hrequest⟩ := hdecoded
  obtain rfl := Option.some.inj hrequest
  have hexpiry := fieldPatched_iff hexpiresAt h.expiresAt
  have hdevice := fieldPatched_iff hdeviceId h.deviceId
  rw [tokenNullables, nullsIdle_cons, nullsIdle_cons, ← hexpiry, ← hdevice]
  constructor
  · intro hpatched
    exact ⟨hpatched.expiresAt, hpatched.deviceId, fun _ hnil => nomatch hnil⟩
  · intro hidle
    refine ⟨?_, hidle.1, hidle.2.1⟩
    rw [h.enabled]
    exact flagPatched henabled

theorem devicePatched_iff {fields : List (String × Json)} {request : UpdateDeviceRequest}
    {stored after : DeviceRecord} (hdecoded : UpdateDeviceRequest.fromFields fields = some request)
    (h : DeviceRequested request stored after) :
    DevicePatched fields stored after ↔ NullsIdle fields (deviceNullables stored) := by
  simp only [UpdateDeviceRequest.fromFields, Option.bind_eq_bind, Option.bind_eq_some_iff,
    Option.pure_def] at hdecoded
  obtain ⟨name, hname, pattern, hpattern, tokenId, htokenId, enabled, henabled, notes, hnotes, hrequest⟩ :=
    hdecoded
  obtain rfl := Option.some.inj hrequest
  have hpatternIff := fieldPatched_iff hpattern h.namespacePattern
  have htokenIff := fieldPatched_iff htokenId h.tokenId
  have hnotesIff := fieldPatched_iff hnotes h.notes
  rw [deviceNullables, nullsIdle_cons, nullsIdle_cons, nullsIdle_cons, ← hpatternIff, ← htokenIff,
    ← hnotesIff]
  constructor
  · intro hpatched
    exact ⟨hpatched.namespacePattern, hpatched.tokenId, hpatched.notes, fun _ hnil => nomatch hnil⟩
  · intro hidle
    refine ⟨?_, hidle.1, hidle.2.1, ?_, hidle.2.2.1⟩
    · rw [h.name]
      exact namePatched hname
    · rw [h.enabled]
      exact flagPatched henabled

/-- A served handler that keeps its promise for every answer. -/
theorem serve_of_leaves {α : Type} {x : Handler α} {wrap : α → Response} {endpoint : Endpoint}
    {peer : IpAddr} {headers : HeaderMap} {db : Db} {kept : Db → Prop}
    (hhandle : handle c state amb ⟨endpoint, peer, headers⟩ = (do return wrap (← x)))
    (h : Leaves (DbCall.exec c) x db (fun _ db' => kept db') fun _ db' => db' = db) :
    match serve c state amb ⟨endpoint, peer, headers⟩ db with
    | (.ok _, db') => kept db'
    | (.error _, db') => db' = db := by
  rw [serve, hhandle, alone_bind]
  unfold Leaves at h
  generalize x.alone (DbCall.exec c) db = out at h ⊢
  obtain ⟨_ | _, _⟩ := out
  · exact h
  · exact h

theorem patchToken_decided (hdb : Reachable c db) (id : String) (peer : IpAddr) (headers : HeaderMap)
    (body : Json) : TokenPatchDecided c id body db (patchToken c state amb id peer headers body db) := by
  unfold patchToken
  cases hfields : body.structFields UpdateTokenRequest.fieldNames with
  | none => exact rfl
  | some fields =>
    rw [Option.bind_some]
    cases hrequest : UpdateTokenRequest.fromFields fields with
    | none => exact rfl
    | some request =>
      have hhandle : handle c state amb ⟨.adminUpdateToken id request, peer, headers⟩ =
          (do return .token (← adminUpdateToken c state amb id headers request)) := rfl
      have hserved := serve_of_leaves hhandle
        (leaves_adminUpdateToken (fun token => hdb.tokensIndexed.keyed id token) request)
      rw [Option.map_some, servePatch]
      generalize serve c state amb ⟨.adminUpdateToken id request, peer, headers⟩ db = out at hserved ⊢
      obtain ⟨_ | _, db'⟩ := out
      · exact hserved
      · obtain ⟨stored, after, hstored, hafter, hrequested⟩ := hserved
        exact ⟨fields, stored, after, hfields, hstored, hafter, tokenPatched_iff hrequest hrequested⟩

theorem patchDevice_decided (hdb : Reachable c db) (id : String) (peer : IpAddr) (headers : HeaderMap)
    (body : Json) : DevicePatchDecided id body db (patchDevice c state amb id peer headers body db) := by
  unfold patchDevice
  cases hfields : body.structFields UpdateDeviceRequest.fieldNames with
  | none => exact rfl
  | some fields =>
    rw [Option.bind_some]
    cases hrequest : UpdateDeviceRequest.fromFields fields with
    | none => exact rfl
    | some request =>
      have hhandle : handle c state amb ⟨.adminUpdateDevice id request, peer, headers⟩ =
          (do return .device (← adminUpdateDevice c state amb id headers request)) := rfl
      have hserved := serve_of_leaves hhandle
        (leaves_adminUpdateDevice (hdb.devicesKeyed id) request)
      rw [Option.map_some, servePatch]
      generalize serve c state amb ⟨.adminUpdateDevice id request, peer, headers⟩ db = out at hserved ⊢
      obtain ⟨_ | _, db'⟩ := out
      · exact hserved
      · obtain ⟨stored, after, hstored, hafter, hrequested⟩ := hserved
        exact ⟨fields, stored, after, hfields, hstored, hafter, devicePatched_iff hrequest hrequested⟩

/-- In every reachable database, for every body. -/
theorem patches_threeWay_iff (hdb : Reachable c db) (id : String) (peer : IpAddr) (headers : HeaderMap)
    (body : Json) :
    TokenPatchDecided c id body db (patchToken c state amb id peer headers body db) ∧
      DevicePatchDecided id body db (patchDevice c state amb id peer headers body db) :=
  ⟨patchToken_decided hdb id peer headers body, patchDevice_decided hdb id peer headers body⟩

/-! ## A note that stays -/

/-- A new database in which a device has been created, with notes. -/
def notedDb : Db :=
  (serve freshCrates freshState (numberedAmbient (fun _ => "") 0) (panelRequest (.adminCreateDevice
    { name := "laptop"
      namespacePattern := none
      tokenId := none
      enabled := none
      lastClientVersion := none
      notes := some "spare" })) freshDb).2

theorem notedDb_eq : notedDb = servedFresh 0 (panelRequest (.adminCreateDevice
    { name := "laptop"
      namespacePattern := none
      tokenId := none
      enabled := none
      lastClientVersion := none
      notes := some "spare" })) := rfl

theorem reachable_notedDb : Reachable freshCrates notedDb := by
  rw [notedDb_eq]
  exact reachable_servedFresh _ _

/-- `{"name": " desk ", "notes": null}` -/
def clearNotes : Json := .object (.cons "name" (.string " desk ") (.cons "notes" .null .nil))

def patchNoted (body : Json) : Option Answer × Db :=
  patchDevice freshCrates freshState (numberedAmbient (fun _ => "") 1) (numberedUuid 0 0)
    "127.0.0.1" (panelRequest .adminListDevices).headers body notedDb

set_option maxRecDepth 10000 in
theorem patches_threeWay_iff_noted :
    DevicePatchDecided (numberedUuid 0 0) clearNotes notedDb (patchNoted clearNotes) := by
  rw [patchNoted]
  exact (patches_threeWay_iff reachable_notedDb (numberedUuid 0 0) "127.0.0.1"
    (panelRequest .adminListDevices).headers clearNotes).2

theorem patchDevice_short (i : Nat) (id : String) (body : Json) (db : Db) :
    patchDevice freshCrates freshState (numberedAmbient (fun _ => "") i) id "127.0.0.1"
        (panelRequest .adminListDevices).headers body db =
      patchDevice freshCrates.shortened freshState (numberedAmbient (fun _ => "") i) id "127.0.0.1"
        (sessionRequest shortJwt .adminListDevices).headers body db := by
  have hserve (request : UpdateDeviceRequest) :
      serve freshCrates freshState (numberedAmbient (fun _ => "") i)
          ⟨.adminUpdateDevice id request, "127.0.0.1", (panelRequest .adminListDevices).headers⟩ db =
        serve freshCrates.shortened freshState (numberedAmbient (fun _ => "") i)
          ⟨.adminUpdateDevice id request, "127.0.0.1", (sessionRequest shortJwt .adminListDevices).headers⟩
          db := by
    have hpanel : serve freshCrates freshState (numberedAmbient (fun _ => "") i)
          (panelRequest (.adminUpdateDevice id request)) db =
        serve freshCrates.shortened freshState (numberedAmbient (fun _ => "") i)
          (sessionRequest shortJwt (.adminUpdateDevice id request)) db := by
      rw [serve_shortened knowsAdmin_freshCrates (.panel _ rfl), shortened_panel]
    exact hpanel
  unfold patchDevice
  cases (body.structFields UpdateDeviceRequest.fieldNames).bind UpdateDeviceRequest.fromFields with
  | none => rw [Option.map_none, servePatch_none, servePatch_none]
  | some request => rw [Option.map_some, servePatch_some, servePatch_some, hserve]

set_option maxRecDepth 10000 in
/-- The answer is a success, the name has changed, and the notes have stayed. -/
theorem null_keeps_notes :
    ∃ answer stored after, (patchNoted clearNotes).1 = some (.ok answer) ∧
      notedDb.getDevice (numberedUuid 0 0) = some stored ∧
      (patchNoted clearNotes).2.getDevice (numberedUuid 0 0) = some after ∧
      after.name = "desk" ∧ ∃ fields, clearNotes.structFields UpdateDeviceRequest.fieldNames = some fields ∧
        ¬ DevicePatched fields stored after := by
  have hplay : ((patchNoted clearNotes).1.bind Except.toOption).isSome = true ∧
      (notedDb.getDevice (numberedUuid 0 0)).isSome = true ∧
      ((patchNoted clearNotes).2.getDevice (numberedUuid 0 0)).map (fun after =>
        (after.name, after.notes)) = some ("desk", some "spare") := by
    rw [patchNoted, patchDevice_short, notedDb_eq, servedFresh_short (.panel _ rfl)]
    decide +kernel
  obtain ⟨hanswer, hstored, hafter⟩ := hplay
  have hfields : clearNotes.structFields UpdateDeviceRequest.fieldNames =
      some [("name", .string " desk "), ("notes", .null)] := by decide +kernel
  obtain ⟨response, hresponse⟩ := Option.isSome_iff_exists.mp hanswer
  obtain ⟨answer, hanswer, hok⟩ := Option.bind_eq_some_iff.mp hresponse
  obtain ⟨stored, hstored⟩ := Option.isSome_iff_exists.mp hstored
  obtain ⟨after, hafter, hkept⟩ := Option.map_eq_some_iff.mp hafter
  obtain ⟨hname, hnotes⟩ := Prod.mk.inj hkept
  cases answer with
  | error e => cases hok
  | ok answer =>
    refine ⟨answer, stored, after, hanswer, hstored, hafter, hname, _, hfields, fun hpatched => ?_⟩
    have hcleared : after.notes = none := hpatched.notes
    rw [hnotes] at hcleared
    cases hcleared

end CloudSync
