import CloudSync.Authority
import CloudSync.RecordsKept

/-!
# Secrets the panel shows again

Beside the hash of a secret a token keeps a copy of the secret under the server's
reveal key, which comes from the configured secrets. As long as processes are
started with the same secrets, each copy belongs to its hash, across restarts and
whatever else is served.
-/

namespace CloudSync

open Rust Redb Transactions Transactions.Fallible

set_option autoImplicit false

/-- The copy opens to a secret that has the stored hash. -/
def CopyOpens (c : Crates) (key : Bytes) (token : ApiToken) : Prop :=
  ∀ copy, token.encryptedToken = some copy → ∃ sealed secret, c.base64Decode copy = some sealed ∧
    decrypt c key sealed = .ok (asBytes secret) ∧ hashApiToken c secret = token.tokenHash

def copiesOpen (c : Crates) (key : Bytes) : Records where
  token := CopyOpens c key
  device _ := True
  account _ := True

/-- Base64 text is read back, in so far as it holds something encrypted. -/
def Crates.Base64Inverts (c : Crates) : Prop :=
  ∀ key nonce plaintext sealed, encrypt c key nonce plaintext = .ok sealed →
    c.base64Decode (c.base64Encode sealed) = some sealed

/-- A process started with these secrets, with nonces of the length the cipher draws. -/
structure SameSecrets (encryptionKey jwtSecret : Option String) (life : Life) : Prop where
  key : emptyToNone life.cli.encryptionKey = encryptionKey
  secret : emptyToNone life.cli.adminJwtSecret = jwtSecret
  nonces : ∀ i k, ((life.traffic.ambient i).nonce k).length = 12

/-- The reveal key that these secrets give; without any of them each process draws its own. -/
def configuredRevealKey (c : Crates) (encryptionKey jwtSecret : Option String) : Bytes :=
  match encryptionKey with
  | some hexKey => ((parseHexKey hexKey).toOption).getD []
  | none => deriveKey c (asBytes (jwtSecret.getD ""))

/-- What the panel answers when it is asked for a secret. -/
structure SecretsRevealed (c : Crates) (t : Traffic) (log : List DbEvent)
    (ps : Nat → Program databaseSignature Answer) : Prop where
  /-- A secret that is shown has the hash that is stored with the token at that moment. -/
  shown : ∀ i id issued, (t.request i).endpoint = .adminRevealToken id →
    ps i = .ret (.ok (.issuedToken issued)) → ∃ e ∈ log, e.tid = i ∧ ∃ token,
      e.pre.getToken id = some token ∧ hashApiToken c issued.token = token.tokenHash
  /-- A token that is found with a copy is not refused. -/
  available : ∀ i id, (t.request i).endpoint = .adminRevealToken id →
    ∀ e ∈ log, e.tid = i → ∀ token, e.call = ⟨.getToken id, .ok (some token)⟩ →
      token.encryptedToken.isSome = true → ∀ error, ps i ≠ .ret (.error error)

variable {c : Crates} {state : AppState} {amb : Ambient}

/-! ## The copies -/

theorem copyOpens_drawn (hc : c.AeadInverts) (hbase64 : c.Base64Inverts)
    (hnonce : (amb.nonce 0).length = 12) {token : ApiToken} {sealed : Bytes}
    (hsealed : SealsDrawn c state amb sealed)
    (hcopy : token.encryptedToken = some (c.base64Encode sealed))
    (hhash : token.tokenHash = hashApiToken c (amb.newUuid 0)) :
    CopyOpens c state.tokenRevealKey token := by
  intro copy h
  obtain rfl := Option.some.inj (hcopy.symm.trans h)
  exact ⟨sealed, amb.newUuid 0, hbase64 _ _ _ _ hsealed, decrypt_encrypt hc hnonce hsealed, hhash.symm⟩

theorem CopyOpens.of_same {key : Bytes} {token token' : ApiToken} (h : CopyOpens c key token)
    (hcopy : token'.encryptedToken = token.encryptedToken) (hhash : token'.tokenHash = token.tokenHash) :
    CopyOpens c key token' := by
  intro copy hsome
  rw [hhash]
  exact h copy (hcopy ▸ hsome)

theorem tokenWithEnabled_secret (token : ApiToken) (enabled : Option Bool) (now : Instant) :
    (tokenWithEnabled c token enabled now).encryptedToken = token.encryptedToken ∧
      (tokenWithEnabled c token enabled now).tokenHash = token.tokenHash := by
  unfold tokenWithEnabled
  cases enabled <;> exact ⟨rfl, rfl⟩

theorem tokenWithExpiry_secret {token token' : ApiToken} {expiresAt : Option (Option String)}
    (h : tokenWithExpiry c token expiresAt = .ok token') :
    token'.encryptedToken = token.encryptedToken ∧ token'.tokenHash = token.tokenHash := by
  unfold tokenWithExpiry at h
  cases expiresAt with
  | none =>
    obtain rfl := Except.ok.inj h
    exact ⟨rfl, rfl⟩
  | some requested =>
    dsimp only at h
    cases hnormal : normalizeOptionalTimestamp c requested with
    | error e =>
      rw [hnormal] at h
      cases h
    | ok value =>
      rw [hnormal] at h
      obtain rfl := Except.ok.inj h
      exact ⟨rfl, rfl⟩

theorem copiesOpen_kept (hc : c.AeadInverts) (hbase64 : c.Base64Inverts)
    (hnonce : (amb.nonce 0).length = 12) :
    (copiesOpen c state.tokenRevealKey).Kept c state amb where
  created body sealed expiresAt _ _ hsealed _ := copyOpens_drawn hc hbase64 hnonce hsealed rfl rfl
  rotated stored sealed _ hsealed := copyOpens_drawn hc hbase64 hnonce hsealed rfl rfl
  switched token enabled h := by
    obtain ⟨hcopy, hhash⟩ := tokenWithEnabled_secret (c := c) token enabled (amb.now 1)
    exact h.of_same hcopy hhash
  dated token token' expiresAt h hdated := by
    obtain ⟨hcopy, hhash⟩ := tokenWithExpiry_secret hdated
    exact h.of_same hcopy hhash
  linked token deviceId h := h.of_same rfl rfl
  added body _ _ := trivial
  patched stored body _ _ _ := trivial
  relinked device tokenId updatedAt _ := trivial

theorem copiesOpen_accounts (key : Bytes) : (copiesOpen c key).AccountsKept := by
  constructor <;> intros <;> trivial

theorem copiesOpen_usage (key : Bytes) : (copiesOpen c key).UsageKept where
  used db id ns permission clientIp clientVersion observedAt h := by
    refine ⟨?_, fun _ _ _ => trivial, fun _ _ _ => trivial⟩
    unfold Db.recordTokenUsage
    split
    · exact h.tokens
    · rename_i token htoken
      have hused : ∀ used : ApiToken, used.encryptedToken = token.encryptedToken →
          used.tokenHash = token.tokenHash → ∀ (k : String) v,
            (db.tokens.insert (tokenKey id) used)[k]? = some v → CopyOpens c key v :=
        fun used hcopy hhash => insert_kept h.tokens ((h.tokens _ token htoken).of_same hcopy hhash)
      dsimp only
      split
      · exact hused _ rfl rfl
      · split
        · exact hused _ rfl rfl
        · exact hused _ rfl rfl
  failed db id h := by
    refine ⟨?_, fun _ _ _ => trivial, fun _ _ _ => trivial⟩
    unfold Db.recordTokenFailure
    split
    · exact h.tokens
    · rename_i token htoken
      exact insert_kept h.tokens ((h.tokens _ token htoken).of_same rfl rfl)

/-! ## The key of a process -/

theorem revealKey_eq {encryptionKey jwtSecret : Option String}
    (hpersistent : encryptionKey.isSome = true ∨ jwtSecret.isSome = true) {life : Life}
    (hlife : SameSecrets encryptionKey jwtSecret life) (h : Configured c life state) :
    state.tokenRevealKey = configuredRevealKey c encryptionKey jwtSecret := by
  have hkey := h.key
  unfold configuredKey at hkey
  rw [hlife.key] at hkey
  rw [h.revealKey, h.secret, hlife.secret]
  unfold configuredRevealKey
  cases encryptionKey with
  | none =>
    rw [← Except.ok.inj hkey]
    cases jwtSecret with
    | none => simp at hpersistent
    | some secret => rfl
  | some hexKey =>
    dsimp only at hkey ⊢
    cases hparse : parseHexKey hexKey with
    | error e =>
      rw [hparse] at hkey
      cases hkey
    | ok key =>
      rw [hparse] at hkey
      rw [← Except.ok.inj hkey]
      rfl

/-! ## The answers -/

/-- Only reads and writes of tokens are looked at. -/
abbrev revealMonitor : Monitor databaseSignature := recording tokenCall fun _ _ => True

/-- The secret comes out of the copy of a token that the request was told of. -/
def Reveals (c : Crates) (state : AppState) (id : String) (calls : RecordedCalls) (secret : String) :
    Prop :=
  ∃ token copy sealed bytes, (⟨.getToken id, .ok (some token)⟩ : databaseSignature.Call) ∈ calls ∧
    token.encryptedToken = some copy ∧ c.base64Decode copy = some sealed ∧
    decrypt c state.tokenRevealKey sealed = .ok bytes ∧ fromUtf8 bytes = some secret

/-- No token that the request was told of has a copy that opens. -/
def NothingToReveal (c : Crates) (state : AppState) (id : String) (calls : RecordedCalls) : Prop :=
  ∀ token, (⟨.getToken id, .ok (some token)⟩ : databaseSignature.Call) ∈ calls →
    CopyOpens c state.tokenRevealKey token → token.encryptedToken = none

theorem adminRevealToken_reveals {id : String} {headers : HeaderMap} :
    Triple revealMonitor (adminRevealToken c state amb id headers)
      (fun calls issued => Reveals c state id calls issued.token)
      (fun calls _ => NothingToReveal c state id calls) [] := by
  refine .skip (verifyAdminMutation_reads (fun _ => recording_ignores rfl) _ _) (raises_true _)
    (fun _ _ _ hmem => by cases hmem) fun _ => ?_
  rw [triple_bind, triple_db]
  refine ⟨fun _ => trivial, fun found => ?_, fun f read hmem => ?_⟩
  · rw [triple_bind, triple_okOr]
    refine ⟨?_, fun hnone read hmem => ?_⟩
    · rintro token rfl
      -- An error is raised only if the copy does not open or is not there.
      have herr : (CopyOpens c state.tokenRevealKey token → token.encryptedToken = none) →
          NothingToReveal c state id [⟨.getToken id, .ok (some token)⟩] := by
        intro h read hmem
        simp only [List.mem_singleton, Sigma.mk.injEq, heq_eq_eq, true_and, Except.ok.injEq,
          Option.some.injEq] at hmem
        exact hmem ▸ h
      rw [triple_bind, triple_okOr]
      refine ⟨fun copy hcopy => ?_, fun hnone => herr fun _ => hnone⟩
      rw [triple_bind, triple_okOr]
      refine ⟨fun sealed hsealed => ?_, fun hnone => herr fun hopen => ?_⟩
      · rw [triple_bind, triple_liftResult]
        refine ⟨fun bytes hbytes => ?_, fun e he => herr fun hopen => ?_⟩
        · have hdecrypt : decrypt c state.tokenRevealKey sealed = .ok bytes := by
            cases hd : decrypt c state.tokenRevealKey sealed with
            | ok opened =>
              rw [hd] at hbytes
              simpa [Except.mapError] using hbytes
            | error e =>
              rw [hd] at hbytes
              cases hbytes
          rw [triple_bind, triple_okOr]
          refine ⟨fun rawToken hraw => ?_, fun hnone => herr fun hopen => ?_⟩
          · exact ⟨token, copy, sealed, bytes, List.mem_singleton_self _, hcopy, hsealed, hdecrypt, hraw⟩
          · obtain ⟨sealed', secret, hsealed', hsecret, _⟩ := hopen copy hcopy
            obtain rfl := Option.some.inj (hsealed.symm.trans hsealed')
            obtain rfl := Except.ok.inj (hdecrypt.symm.trans hsecret)
            rw [fromUtf8_asBytes] at hnone
            cases hnone
        · obtain ⟨sealed', secret, hsealed', hsecret, _⟩ := hopen copy hcopy
          obtain rfl := Option.some.inj (hsealed.symm.trans hsealed')
          rw [hsecret] at he
          cases he
      · obtain ⟨sealed, _, hsealed, _⟩ := hopen copy hcopy
        rw [hnone] at hsealed
        cases hsealed
    · subst hnone
      simp at hmem
  · simp at hmem

theorem handle_reveals {r : Request} {id : String} (hr : r.endpoint = .adminRevealToken id) :
    (handle c state amb r).run.Obeys revealMonitor (fun calls answer =>
      (∀ issued, answer = .ok (.issuedToken issued) → Reveals c state id calls issued.token) ∧
        ∀ e, answer = .error e → NothingToReveal c state id calls) [] := by
  obtain ⟨endpoint, peer, headers⟩ := r
  obtain rfl : endpoint = .adminRevealToken id := hr
  refine obeys_wrapped adminRevealToken_reveals (fun calls issued h => ⟨?_, ?_⟩)
    fun calls e h => ⟨?_, ?_⟩
  · intro out hout
    cases hout
    exact h
  · intro e he
    cases he
  · intro out hout
    cases hout
  · exact fun _ _ => h

/-- While processes follow one another with the same secrets, every secret can be shown again. -/
theorem secretsRevealed (hc : c.AeadInverts) (hbase64 : c.Base64Inverts)
    {encryptionKey jwtSecret : Option String}
    (hpersistent : encryptionKey.isSome = true ∨ jwtSecret.isSome = true) {life : Life}
    {s s₁ s' : Db} {log : List DbEvent} {ps : Nat → Program databaseSignature Answer}
    (hs : Operated c (SameSecrets encryptionKey jwtSecret) s)
    (hlife : SameSecrets encryptionKey jwtSecret life)
    (hstart : Steps (DbCall.exec c) (startUp c life.ambient life.cli).run s (.ret (.ok state)) s₁)
    (hrun : ServerRun c state life.traffic s₁ log s' ps) :
    SecretsRevealed c life.traffic log ps := by
  have hkept : ∀ life state, SameSecrets encryptionKey jwtSecret life → Configured c life state →
      ∀ i, (copiesOpen c (configuredRevealKey c encryptionKey jwtSecret)).Kept c state
        (life.traffic.ambient i) := by
    intro life state hlife hconfigured i
    rw [← revealKey_eq hpersistent hlife hconfigured]
    exact copiesOpen_kept hc hbase64 (hlife.nonces i 0)
  have hopen : ∀ e ∈ log, ∀ token id, e.call = ⟨.getToken id, .ok (some token)⟩ →
      e.pre.getToken id = some token ∧ CopyOpens c state.tokenRevealKey token := by
    intro e he token id hcall
    have hstored : e.pre.getToken id = some token := replied (hrun.linked.effect he) hcall
    have hbefore : Operated c (SameSecrets encryptionKey jwtSecret) s₁ := .started life hs hlife hstart
    have hrows := (Records.hold_run (copiesOpen_usage _) (copiesOpen_accounts _)
      (hkept life state hlife (configured hstart)) hrun
      (Records.hold_operated (copiesOpen_usage _) (copiesOpen_accounts _) hkept hbefore)).2 e he
    refine ⟨hstored, ?_⟩
    rw [revealKey_eq hpersistent hlife (configured hstart)]
    exact hrows.1.tokens _ token hstored
  constructor
  · intro i id issued hr hi
    obtain ⟨token, copy, sealed, bytes, hmem, hcopy, hsealed, hbytes, hsecret⟩ :=
      (hrun.concluded hi (handle_reveals hr)).1 issued rfl
    obtain ⟨e, he, htid, _, hcall⟩ := mem_ownCalls.mp hmem
    obtain ⟨hstored, hcopies⟩ := hopen e he token id hcall
    obtain ⟨sealed', secret, hsealed', hopened, hhash⟩ := hcopies copy hcopy
    obtain rfl := Option.some.inj (hsealed.symm.trans hsealed')
    obtain rfl := Except.ok.inj (hbytes.symm.trans hopened)
    rw [fromUtf8_asBytes] at hsecret
    exact ⟨e, he, htid, token, hstored, Option.some.inj hsecret ▸ hhash⟩
  · intro i id hr e he htid token hcall hcopy error hi
    have hnothing := (hrun.concluded hi (handle_reveals hr)).2 error rfl
    have hmem : (⟨.getToken id, .ok (some token)⟩ : databaseSignature.Call) ∈
        ownCalls tokenCall i log := by
      refine mem_ownCalls.mpr ⟨e, he, htid, ?_, hcall⟩
      exact congrArg (fun call : databaseSignature.Call => tokenCall call.1) hcall
    rw [hnothing token hmem (hopen e he token id hcall).2] at hcopy
    cases hcopy

/-! A token is issued, and its secret is shown after a restart. -/

def zeroKey : Bytes := List.replicate 32 0

def revealCrates : Crates :=
  { freshCrates with
    aeadDecrypt := fun key nonce ciphertext =>
      if key = zeroKey ∧ nonce = List.replicate 12 0 ∧ ciphertext = sealedSecret then
        .ok (asBytes issuedSecret)
      else .error "aead::Error"
    base64Decode := fun text =>
      if text = "AAAAAAAAAAAAAAAAsg/3kUGJ5zsR2MhJcmsgVIY=" then
        some (List.replicate 12 0 ++ sealedSecret)
      else none }

theorem aeadEncrypt_revealCrates {key nonce plaintext ciphertext : Bytes}
    (h : revealCrates.aeadEncrypt key nonce plaintext = .ok ciphertext) :
    key = zeroKey ∧ nonce = List.replicate 12 0 ∧ plaintext = asBytes issuedSecret ∧
      ciphertext = sealedSecret := by
  simp only [revealCrates, freshCrates] at h
  split at h
  · next hinput =>
    exact ⟨hinput.1, hinput.2.1, hinput.2.2, (Except.ok.inj h).symm⟩
  · cases h

theorem aeadInverts_revealCrates : revealCrates.AeadInverts := by
  intro key nonce plaintext ciphertext _ h
  obtain ⟨rfl, rfl, rfl, rfl⟩ := aeadEncrypt_revealCrates h
  exact ⟨by decide, rfl⟩

theorem base64Inverts_revealCrates : revealCrates.Base64Inverts := by
  intro key nonce plaintext sealed h
  unfold encrypt at h
  split at h
  · next ciphertext hct =>
    obtain ⟨rfl, rfl, rfl, rfl⟩ := aeadEncrypt_revealCrates hct
    obtain rfl := Except.ok.inj h
    rfl
  · cases h

def zeroKeyText : String := String.ofList (List.replicate 64 '0')

/-- A process with a key of zeros. -/
def zeroKeyLife (requests : List Request) : Life where
  cli :=
    { encryptionKey := some zeroKeyText
      adminPassword := some adminPassword
      adminJwtSecret := some "jwt-secret" }
  ambient := numberedAmbient (fun _ => "abcdefghijklmnopqrstuu") 0
  traffic := Traffic.ofList requests

def zeroKeyState : AppState :=
  (zeroKeyLife []).cli.appState (some zeroKey) "jwt-secret" zeroKey true

theorem sameSecrets_zeroKey (requests : List Request) :
    SameSecrets (some zeroKeyText) (some "jwt-secret") (zeroKeyLife requests) where
  key := show emptyToNone (some zeroKeyText) = some zeroKeyText by decide
  secret := show emptyToNone (some "jwt-secret") = some "jwt-secret" by decide
  nonces _ _ := by simp [zeroKeyLife, Traffic.ofList, numberedAmbient]

/-- The database a process finds when it has started up. -/
def startedDb (life : Life) (s : Db) : Db :=
  ((startUp revealCrates life.ambient life.cli).run.run (DbCall.exec revealCrates) s).2

/-- The run of a process that answers its requests one after the other. -/
def playLife (life : Life) (schedule : List (Nat × Option String)) (s : Db) :=
  play (S := databaseSignature) (DbCall.exec revealCrates) schedule (startedDb life s)
    (life.traffic.program revealCrates zeroKeyState)

theorem playLife_run (life : Life) (schedule : List (Nat × Option String)) (s : Db) :
    ServerRun revealCrates zeroKeyState life.traffic (startedDb life s) (playLife life schedule s).1
      (playLife life schedule s).2.1 (playLife life schedule s).2.2 := play_run _ _ _ _

theorem startedDb_starts {life : Life} {s : Db}
    (h : ((startUp revealCrates life.ambient life.cli).run.run (DbCall.exec revealCrates) s).1 =
      .ok zeroKeyState) :
    Steps (DbCall.exec revealCrates) (startUp revealCrates life.ambient life.cli).run s
      (.ret (.ok zeroKeyState)) (startedDb life s) := Life.starts h

theorem knowsAdmin_revealCrates : revealCrates.KnowsAdmin := by
  intro secret now
  simp [revealCrates, freshCrates, CrateTables.crates, freshTables, panelTables]

theorem playLife_short {requests : List Request} (h : requests.Forall Scripted)
    (schedule : List (Nat × Option String)) (s : Db) :
    playLife (zeroKeyLife requests) schedule s =
      playShortened revealCrates zeroKeyState (Traffic.ofList requests)
        (startedDb (zeroKeyLife requests) s) schedule :=
  play_shortened knowsAdmin_revealCrates h schedule _

def issuingLife : Life := zeroKeyLife [issueRequest "*" "read" none]

def revealingLife : Life := zeroKeyLife [panelRequest (.adminRevealToken (numberedUuid 0 1))]

def issuingDb : Db := (playLife issuingLife (inTurn 1) {}).2.1

/-- The database after the run of a process. -/
def dbAfterLife (life : Life) (schedule : List (Nat × Option String)) (s : Db) : Db :=
  (playLife life schedule s).2.1

theorem operated_dbAfterLife {P : Life → Prop} {life : Life} {s : Db} (hs : Operated revealCrates P s)
    (hP : P life)
    (hstart : Steps (DbCall.exec revealCrates) (startUp revealCrates life.ambient life.cli).run s
      (.ret (.ok zeroKeyState)) (startedDb life s)) (schedule : List (Nat × Option String)) :
    Operated revealCrates P (dbAfterLife life schedule s) :=
  .served life hs hP hstart (playLife_run life schedule s)

theorem issuingDb_eq : issuingDb = dbAfterLife issuingLife (inTurn 1) {} := rfl

theorem issuingDb_short : issuingDb = (playShortened revealCrates zeroKeyState
    (Traffic.ofList [issueRequest "*" "read" none]) (startedDb issuingLife {}) (inTurn 1)).2.1 := by
  rw [issuingDb_eq, dbAfterLife, issuingLife, playLife_short (Scripted.issue _ _ _).only]

theorem playRevealing_short (schedule : List (Nat × Option String)) (s : Db) :
    playLife revealingLife schedule s = playShortened revealCrates zeroKeyState
      (Traffic.ofList [panelRequest (.adminRevealToken (numberedUuid 0 1))]) (startedDb revealingLife s)
      schedule :=
  playLife_short (Scripted.panel _ rfl).only schedule s

/-- The secret that request `i` has been shown. -/
def secretShown (ps : Nat → Program databaseSignature Answer) (i : Nat) : Option String :=
  match (ps i).answer with
  | some (.ok (.issuedToken issued)) => some issued.token
  | _ => none

set_option maxRecDepth 10000 in
theorem zeroKey_starts :
    ((startUp revealCrates issuingLife.ambient issuingLife.cli).run.run (DbCall.exec revealCrates) {}).1 =
        .ok zeroKeyState ∧
      ((startUp revealCrates revealingLife.ambient revealingLife.cli).run.run
        (DbCall.exec revealCrates) issuingDb).1 = .ok zeroKeyState := by
  rw [issuingDb_short]
  decide +kernel

theorem issuing_starts :
    Steps (DbCall.exec revealCrates) (startUp revealCrates issuingLife.ambient issuingLife.cli).run {}
      (.ret (.ok zeroKeyState)) (startedDb issuingLife {}) := startedDb_starts zeroKey_starts.1

theorem revealing_starts :
    Steps (DbCall.exec revealCrates) (startUp revealCrates revealingLife.ambient revealingLife.cli).run
      issuingDb (.ret (.ok zeroKeyState)) (startedDb revealingLife issuingDb) :=
  startedDb_starts zeroKey_starts.2

theorem operated_issuingDb {P : Life → Prop} (hP : P issuingLife) : Operated revealCrates P issuingDb := by
  rw [issuingDb_eq]
  exact operated_dbAfterLife .created hP issuing_starts _

set_option maxRecDepth 10000 in
theorem secretsRevealed_restarted :
    secretShown (playLife revealingLife (inTurn 1) issuingDb).2.2 0 = some issuedSecret ∧
      SecretsRevealed revealCrates revealingLife.traffic (playLife revealingLife (inTurn 1) issuingDb).1
        (playLife revealingLife (inTurn 1) issuingDb).2.2 := by
  have hshown : secretShown (playLife revealingLife (inTurn 1) issuingDb).2.2 0 = some issuedSecret := by
    rw [playRevealing_short, issuingDb_short]
    decide +kernel
  exact ⟨hshown, secretsRevealed aeadInverts_revealCrates base64Inverts_revealCrates (.inl rfl)
    (operated_issuingDb (sameSecrets_zeroKey _)) (sameSecrets_zeroKey _) revealing_starts
    (playLife_run _ _ _)⟩

end CloudSync
