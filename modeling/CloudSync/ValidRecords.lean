import CloudSync.RevealedSecrets

/-!
# Stored records stay well formed

What handlers check before they store a record holds of every stored record, in
every state of every process, however requests overlap: a handler that writes
back a record it has read changes it in ways that keep it well formed.
-/

namespace CloudSync

open Rust Redb Transactions Transactions.Fallible

set_option autoImplicit false

/-! ## Normal forms -/

theorem dropWhile_initial {α : Type} {p : α → Bool} {l t : List α} (h : t <+: l.dropWhile p) :
    t.dropWhile p = t := by
  cases t with
  | nil => rfl
  | cons a t =>
    obtain ⟨rest, hrest⟩ := h
    have hhead : (l.dropWhile p).head? = some a := by
      rw [← hrest]
      rfl
    have ha : p a = false := by
      have hnot := List.head?_dropWhile_not p l
      rw [hhead] at hnot
      simpa using hnot
    exact List.dropWhile_cons_of_neg (by simp [ha])

theorem trimChars_idem (l : List Char) : trimChars (trimChars l) = trimChars l := by
  have hprefix : trimChars l <+: l.dropWhile isWhitespace := List.rdropWhile_prefix _ _
  unfold trimChars at hprefix ⊢
  rw [dropWhile_initial hprefix, List.reverse_reverse, List.dropWhile_idempotent]

@[simp] theorem trim_trim (s : String) : trim (trim s) = trim s := by
  simp [trim, trimChars_idem]

theorem normalizeOptionalText_eq_some {value : Option String} {text : String}
    (h : normalizeOptionalText value = some text) : trim text = text ∧ text ≠ "" := by
  unfold normalizeOptionalText at h
  obtain ⟨hmap, hne⟩ := Option.filter_eq_some_iff.mp h
  obtain ⟨raw, _, rfl⟩ := Option.map_eq_some_iff.mp hmap
  refine ⟨trim_trim raw, ?_⟩
  simpa using hne

/-- Sorted and without repetitions. -/
theorem normalizePermissions_increasing (permissions : List String) :
    (normalizePermissions permissions).Pairwise (· < ·) := by
  unfold normalizePermissions
  generalize permissions.map (fun p => toAsciiLowercase (trim p)) = l
  have hsorted : (l.mergeSort fun a b => a ≤ b).Pairwise (· ≤ ·) := by
    have h : (l.mergeSort fun a b => decide (a ≤ b)).Pairwise fun a b => decide (a ≤ b) = true :=
      List.pairwise_mergeSort
        (fun a b c hab hbc => by simpa using le_trans (by simpa using hab) (by simpa using hbc))
        (fun a b => by simpa using le_total a b) l
    simpa using h
  have hle := hsorted.sublist (List.destutter_sublist (· ≠ ·) (l.mergeSort fun a b => a ≤ b))
  have hne := List.isChain_destutter (· ≠ ·) (l.mergeSort fun a b => a ≤ b)
  rw [← List.isChain_iff_pairwise] at hle ⊢
  generalize (l.mergeSort fun a b => a ≤ b).destutter (· ≠ ·) = m at hle hne ⊢
  induction m with
  | nil => exact .nil
  | cons a m ih =>
    cases m with
    | nil => exact .singleton a
    | cons b m =>
      rw [List.isChain_cons_cons] at hle hne ⊢
      exact ⟨lt_of_le_of_ne hle.1 hne.1, ih hle.2 hne.2⟩

theorem read_lt_write {a b : String} (ha : a = "read" ∨ a = "write") (hb : b = "read" ∨ b = "write")
    (h : a < b) : a = "read" ∧ b = "write" := by
  rcases ha with rfl | rfl
  · rcases hb with rfl | rfl
    · exact absurd h (lt_irrefl _)
    · exact ⟨rfl, rfl⟩
  · rcases hb with rfl | rfl
    · exact absurd h (by decide)
    · exact absurd h (lt_irrefl _)

/-- The permissions a token can have. -/
theorem validPermissions_cases {permissions : List String}
    (h : validatePermissions (normalizePermissions permissions) = true) :
    normalizePermissions permissions ∈ [["read"], ["write"], ["read", "write"]] := by
  have hincreasing := normalizePermissions_increasing permissions
  generalize normalizePermissions permissions = l at h hincreasing
  simp only [validatePermissions, Bool.and_eq_true, List.all_eq_true, Bool.or_eq_true, beq_iff_eq] at h
  obtain ⟨hne, hall⟩ := h
  match l with
  | [] => cases hne
  | [a] => rcases hall a (by simp) with rfl | rfl <;> simp
  | [a, b] =>
    have hab : a < b := by simpa using hincreasing
    obtain ⟨rfl, rfl⟩ := read_lt_write (hall a (by simp)) (hall b (by simp)) hab
    simp
  | a :: b :: d :: rest =>
    simp only [List.pairwise_cons, List.mem_cons] at hincreasing
    have hab := read_lt_write (hall a (by simp)) (hall b (by simp)) (hincreasing.1 b (.inl rfl))
    have hbd := read_lt_write (hall b (by simp)) (hall d (by simp)) (hincreasing.2.1 d (.inl rfl))
    rw [hab.2] at hbd
    exact absurd hbd.1 (by decide)

theorem normalizeOptionalTimestamp_eq_ok {c : Crates} {value : Option String} {t : String}
    (h : normalizeOptionalTimestamp c value = .ok (some t)) : ∃ instant, t = c.toRfc3339 instant := by
  unfold normalizeOptionalTimestamp at h
  cases value with
  | none => cases h
  | some value =>
    dsimp only at h
    cases hparse : c.parseFromRfc3339 (trim value) with
    | none =>
      rw [hparse] at h
      cases h
    | some instant =>
      rw [hparse] at h
      exact ⟨instant, (Option.some.inj (Except.ok.inj h)).symm⟩

theorem effectiveTokenExpiry_eq_ok {c : Crates} {state : AppState} {requested : Option String}
    {now : Instant} {t : String} (h : effectiveTokenExpiry c state requested now = .ok (some t)) :
    ∃ instant, t = c.toRfc3339 instant := by
  unfold effectiveTokenExpiry at h
  split at h
  · cases h
  · rename_i expiresAt hnormal
    obtain rfl := Option.some.inj (Except.ok.inj h)
    exact normalizeOptionalTimestamp_eq_ok hnormal
  · split at h
    · cases h
    · split at h
      · rename_i instant _
        exact ⟨instant, (Option.some.inj (Except.ok.inj h)).symm⟩
      · cases h

theorem validateAdminUsername_eq_ok {username : String}
    (h : validateAdminUsername (trim username) = .ok ()) :
    (trim username).isEmpty = false := by
  unfold validateAdminUsername at h
  split at h
  · cases h
  · rename_i hbad
    simp only [Bool.or_eq_true, not_or, Bool.not_eq_true] at hbad
    exact hbad.1

/-! ## Well-formed records -/

structure TokenValid (c : Crates) (token : ApiToken) : Prop where
  pattern : validateNamespacePattern c token.namespacePattern = true
  permissions : token.permissions ∈ [["read"], ["write"], ["read", "write"]]
  hash : ∃ secret, token.tokenHash = hashApiToken c secret
  expiry : ∀ t, token.expiresAt = some t → ∃ instant, t = c.toRfc3339 instant
  disabled : token.enabled = token.disabledAt.isNone
  counts : token.readCount ≤ u64Max ∧ token.writeCount ≤ u64Max ∧ token.failedCount ≤ u64Max

structure DeviceValid (c : Crates) (device : DeviceRecord) : Prop where
  name : trim device.name = device.name ∧ device.name ≠ ""
  pattern : device.namespacePattern.all (validateNamespacePattern c) = true
  notes : ∀ text, device.notes = some text → trim text = text ∧ text ≠ ""

structure AccountValid (user : AdminUserRecord) : Prop where
  username : trim user.username = user.username ∧ user.username ≠ ""
  role : user.role = "admin"
  enabled : user.enabled = true → user.disabledAt = none
  counts : user.sessionVersion ≤ u64Max ∧ user.failedLoginCount ≤ u64Max

def validRecords (c : Crates) : Records where
  token := TokenValid c
  device := DeviceValid c
  account := AccountValid

variable {c : Crates} {state : AppState} {amb : Ambient}

theorem saturatingAdd_le (a b : Nat) : saturatingAdd a b ≤ u64Max := Nat.min_le_right _ _

theorem tokenValid_switched {token : ApiToken} (h : TokenValid c token) (enabled : Option Bool)
    (now : Instant) : TokenValid c (tokenWithEnabled c token enabled now) := by
  unfold tokenWithEnabled
  cases enabled with
  | none => exact h
  | some enabled =>
    refine { h with disabled := ?_ }
    cases enabled <;> rfl

theorem tokenValid_dated {token token' : ApiToken} {expiresAt : Option (Option String)}
    (h : TokenValid c token) (hdated : tokenWithExpiry c token expiresAt = .ok token') :
    TokenValid c token' := by
  unfold tokenWithExpiry at hdated
  cases expiresAt with
  | none => exact Except.ok.inj hdated ▸ h
  | some requested =>
    dsimp only at hdated
    cases hnormal : normalizeOptionalTimestamp c requested with
    | error e =>
      rw [hnormal] at hdated
      cases hdated
    | ok value =>
      rw [hnormal] at hdated
      obtain rfl := Except.ok.inj hdated
      refine { h with expiry := ?_ }
      rintro t rfl
      exact normalizeOptionalTimestamp_eq_ok hnormal

theorem deviceValid_patched {stored : DeviceRecord} {body : UpdateDeviceRequest}
    (h : DeviceValid c stored)
    (hname : body.name.isSome = true → ((body.name.map trim).getD stored.name).isEmpty = false)
    (hpattern : body.namespacePattern.isSome = true →
      ((body.namespacePattern.map normalizeOptionalText).getD stored.namespacePattern).all
        (validateNamespacePattern c) = true) : DeviceValid c (patchedDevice c amb stored body) where
  name := by
    cases hbody : body.name with
    | none => simpa [patchedDevice, hbody] using h.name
    | some name =>
      have hne := hname (by simp [hbody])
      simpa [patchedDevice, hbody] using hne
  pattern := by
    cases hbody : body.namespacePattern with
    | none => simpa [patchedDevice, hbody] using h.pattern
    | some pattern => exact hpattern (by simp [hbody])
  notes text htext := by
    cases hbody : body.notes with
    | none => exact h.notes text (by simpa [patchedDevice, hbody] using htext)
    | some notes =>
      have hnormal : normalizeOptionalText notes = some text := by
        simpa [patchedDevice, hbody] using htext
      exact normalizeOptionalText_eq_some hnormal

theorem validRecords_kept : (validRecords c).Kept c state amb where
  created body sealed expiresAt hpattern hpermissions _ hexpires :=
    { pattern := hpattern
      permissions := validPermissions_cases hpermissions
      hash := ⟨_, rfl⟩
      expiry := fun t ht => by
        obtain rfl : expiresAt = some t := ht
        exact effectiveTokenExpiry_eq_ok hexpires
      disabled := rfl
      counts := ⟨Nat.zero_le _, Nat.zero_le _, Nat.zero_le _⟩ }
  rotated stored sealed h _ := { h with hash := ⟨_, rfl⟩ }
  switched token enabled h := tokenValid_switched h enabled _
  dated token token' expiresAt h hdated := tokenValid_dated h hdated
  linked token deviceId h := { h with }
  added body hname hpattern :=
    { name := ⟨trim_trim _, by simpa [newDevice] using hname⟩
      pattern := hpattern
      notes := fun text htext => normalizeOptionalText_eq_some htext }
  patched stored body h hname hpattern := deviceValid_patched h hname hpattern
  relinked device tokenId updatedAt h := { h with }

theorem validRecords_accounts : (validRecords c).AccountsKept where
  created username hash enabled now passwordUpdatedAt hname :=
    { username := ⟨trim_trim _, by simpa [newAdminUser] using validateAdminUsername_eq_ok hname⟩
      role := rfl
      enabled := fun _ => rfl
      counts := ⟨Nat.zero_le _, Nat.zero_le _⟩ }
  failed user failedAt updatedAt h := { h with counts := ⟨h.counts.1, saturatingAdd_le _ _⟩ }
  loggedIn user ip loginAt updatedAt h := { h with counts := ⟨h.counts.1, Nat.zero_le _⟩ }
  changed user hash now h := { h with counts := ⟨saturatingAdd_le _ _, h.counts.2⟩ }
  patched user newHash enabled passwordUpdatedAt disabledAt updatedAt h := by
    refine { h with enabled := ?_, counts := ⟨?_, h.counts.2⟩ }
    · cases enabled with
      | none => exact h.enabled
      | some enabled =>
        cases enabled with
        | false => intro hfalse; cases hfalse
        | true => exact fun _ => rfl
    · unfold patchedUser
      dsimp only
      split
      · exact saturatingAdd_le _ _
      · exact h.counts.1
  bootstrapped existing unchanged username hash now passwordUpdatedAt h hname := by
    refine ⟨⟨trim_trim _, by simpa [bootstrapUser] using hname⟩, ?_, fun _ => rfl, ?_, Nat.zero_le _⟩
    · cases existing with
      | none => rfl
      | some user => exact (h user rfl).role
    · cases existing with
      | none => exact Nat.zero_le _
      | some user =>
        simp only [bootstrapUser, Option.elim_some]
        split
        · exact (h user rfl).counts.1
        · exact saturatingAdd_le _ _

theorem validRecords_usage : (validRecords c).UsageKept where
  used db id ns permission clientIp clientVersion observedAt h := by
    unfold Db.recordTokenUsage
    split
    · exact h
    · rename_i token htoken
      have htokens : ∀ (k : String) v, (db.tokens.insert (tokenKey id) { token with
          lastUsedAt := some observedAt
          lastNamespace := some ns
          lastPermission := some permission
          lastClientIp := some clientIp
          lastClientVersion := clientVersion
          readCount := if permission = "read" then saturatingAdd token.readCount 1 else token.readCount
          writeCount := if permission = "write" then saturatingAdd token.writeCount 1
            else token.writeCount })[k]? = some v → TokenValid c v := by
        refine insert_kept h.tokens ?_
        have hvalid : TokenValid c token := h.tokens _ token htoken
        refine { hvalid with counts := ⟨?_, ?_, hvalid.counts.2.2⟩ }
        · dsimp only
          split
          · exact saturatingAdd_le _ _
          · exact hvalid.counts.1
        · dsimp only
          split
          · exact saturatingAdd_le _ _
          · exact hvalid.counts.2.1
      dsimp only
      split
      · exact ⟨htokens, h.devices, h.accounts⟩
      · split
        · exact ⟨htokens, h.devices, h.accounts⟩
        · rename_i device hdevice
          refine ⟨htokens, insert_kept h.devices ?_, h.accounts⟩
          have hvalid : DeviceValid c device := h.devices _ device hdevice
          exact { hvalid with }
  failed db id h := by
    unfold Db.recordTokenFailure
    split
    · exact h
    · rename_i token htoken
      have hvalid : TokenValid c token := h.tokens _ token htoken
      refine ⟨insert_kept h.tokens ?_, h.devices, h.accounts⟩
      exact { hvalid with counts := ⟨hvalid.counts.1, hvalid.counts.2.1, saturatingAdd_le _ _⟩ }

/-- Every record that is stored while processes follow one another is well formed. -/
theorem recordsValid {s s₁ s' : Db} {life : Life} {log : List DbEvent}
    {ps : Nat → Program databaseSignature Answer} (hs : Operated c (fun _ => True) s)
    (hstart : Steps (DbCall.exec c) (startUp c life.ambient life.cli).run s (.ret (.ok state)) s₁)
    (hrun : ServerRun c state life.traffic s₁ log s' ps) :
    (validRecords c).Hold s' ∧
      ∀ e ∈ log, (validRecords c).Hold e.pre ∧ (validRecords c).Hold e.post := by
  have hstarted : Operated c (fun _ => True) s₁ := .started life hs trivial hstart
  exact Records.hold_run validRecords_usage validRecords_accounts (fun _ => validRecords_kept) hrun
    (Records.hold_operated validRecords_usage validRecords_accounts
      (fun _ _ _ _ _ => validRecords_kept) hstarted)

set_option maxRecDepth 10000 in
theorem recordsValid_restarted :
    ((playLife revealingLife (inTurn 1) issuingDb).2.1.getAllTokens.map (·.permissions) = [["read"]]) ∧
      (validRecords revealCrates).Hold (playLife revealingLife (inTurn 1) issuingDb).2.1 := by
  have hstored : (playLife revealingLife (inTurn 1) issuingDb).2.1.getAllTokens.map (·.permissions) =
      [["read"]] := by
    rw [playRevealing_short, issuingDb_short]
    decide +kernel
  exact ⟨hstored, (recordsValid (operated_issuingDb trivial) revealing_starts (playLife_run _ _ _)).1⟩

end CloudSync
