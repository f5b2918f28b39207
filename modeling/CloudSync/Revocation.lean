import CloudSync.ShortSessions

/-!
# Revoking a token

A deleted token stays away, a rotated secret stays dead and a disabled token
stays disabled, as long as no handler writes a token back over a state that it
has not read.
-/

namespace CloudSync

open Rust Transactions

set_option autoImplicit false

def Request.issuesSecret (r : Request) : Bool := r.createsToken || r.rotatesToken

variable (c : Crates)

/-- Identifiers and hashes of issued tokens are their own. -/
structure Traffic.FreshSecrets (t : Traffic) (start : Db) : Prop where
  collisionFree : ∀ i j, (t.request i).issuesSecret = true → (t.request j).issuesSecret = true →
    hashApiToken c ((t.ambient i).newUuid 0) = hashApiToken c ((t.ambient j).newUuid 0) →
      (t.ambient i).newUuid 0 = (t.ambient j).newUuid 0
  unused : ∀ id token, start.getToken id = some token → ∀ i, (t.request i).issuesSecret = true →
    token.tokenHash ≠ hashApiToken c ((t.ambient i).newUuid 0)
  distinct : ∀ id id' token token', start.getToken id = some token → start.getToken id' = some token' →
    token.tokenHash = token'.tokenHash → id = id'
  ids : ∀ id, start.getToken id ≠ none → ∀ i, (t.request i).createsToken = true →
    (t.ambient i).newUuid 1 ≠ id

/-- A token is written back only over the token that was read: it is still there, with
the hash and the flag that the handler keeps. -/
def WritesBackCurrent (t : Traffic) (log : List DbEvent) : Prop :=
  ∀ before e after, log = before ++ e :: after → (t.request e.tid).createsToken = false →
    ∀ token ∈ tokenWritten e.call, ∀ read ∈ lastTokenRead (ownCalls tokenCall e.tid before),
      ∃ current ∈ e.pre.getToken read.id,
        ((t.request e.tid).rotatesToken = false → current.tokenHash = read.tokenHash) ∧
        ((t.request e.tid).requestedEnabled = none → current.enabled = read.enabled)

/-- A hash that the token has at some time. -/
def HeldHash (start : Db) (log : List DbEvent) (id tokenHash : String) : Prop :=
  (∃ token, start.getToken id = some token ∧ token.tokenHash = tokenHash) ∨
    ∃ e ∈ log, ∃ token, e.post.getToken id = some token ∧ token.tokenHash = tokenHash

/-- All calls of a request. -/
def requestCalls (i : Nat) (log : List DbEvent) : RecordedCalls := ownCalls (fun _ => true) i log

/-- The revocation of tokens is permanent. -/
structure RevocationHolds (t : Traffic) (start : Db) (log : List DbEvent)
    (ps : Nat → Program databaseSignature Answer) : Prop where
  /-- A sync request that is answered with success has been let in. -/
  answered : ∀ i out, (t.request i).endpoint.isSync = true → ps i = .ret (.ok out) →
    ∃ id secret, Grants c (t.ambient i) (t.request i) (requestCalls i log) id secret
  deleted : ∀ before e after id, log = before ++ e :: after → e.call = ⟨.deleteToken id, .ok ()⟩ →
    e.pre.getToken id ≠ none → ∀ i secret, (∀ e' ∈ before ++ [e], e'.tid ≠ i) →
      HeldHash start log id (hashApiToken c secret) →
        ∀ id', ¬ Grants c (t.ambient i) (t.request i) (requestCalls i log) id' secret
  rotated : ∀ before e after token old, log = before ++ e :: after →
    (t.request e.tid).rotatesToken = true → tokenWritten e.call = some token →
      e.pre.getToken token.id = some old → ∀ i secret, (∀ e' ∈ before ++ [e], e'.tid ≠ i) →
        old.tokenHash = hashApiToken c secret →
          ∀ id', ¬ Grants c (t.ambient i) (t.request i) (requestCalls i log) id' secret
  disabled : ∀ before e between rest token, log = before ++ e :: (between ++ rest) →
    (t.request e.tid).requestedEnabled = some false → tokenWritten e.call = some token →
      (∀ e' ∈ between, ∀ token' ∈ tokenWritten e'.call, token'.id = token.id →
        (t.request e'.tid).requestedEnabled ≠ some true) →
        ∀ i secret, (∀ e' ∈ before ++ [e], e'.tid ≠ i) →
          ¬ Grants c (t.ambient i) (t.request i) (requestCalls i between) token.id secret

variable {c} {state : AppState} {t : Traffic} {start s : Db}
  {ps : Nat → Program databaseSignature Answer} {log before after : List DbEvent} {e : DbEvent}
  {token : ApiToken} {id tokenHash : String}

theorem tokenWritten_eq_some {call : databaseSignature.Call} :
    tokenWritten call = some token ↔ call = ⟨.setToken token, .ok ()⟩ := by
  constructor
  · intro h
    unfold tokenWritten at h
    split at h
    · cases h
      rfl
    · cases h
  · rintro rfl
    rfl

theorem token_originates (h : ServerRun c state t start (before ++ e :: after) s ps)
    (hcall : e.call = ⟨.setToken token, .ok ()⟩) :
    TokenOriginates c (t.ambient e.tid) (t.request e.tid) (ownCalls tokenCall e.tid before)
      (.setToken token) := by
  have hop : e.op = .setToken token := congrArg Sigma.fst hcall
  have ho := h.recorded (handle_tokens (t.request e.tid)) (show tokenCall e.op = true by rw [hop]; rfl)
  rwa [hop] at ho

/-! ## Issued secrets -/

/-- A request issues one secret, and it writes no other token. -/
theorem issued (h : ServerRun c state t start (before ++ e :: after) s ps)
    (hcall : e.call = ⟨.setToken token, .ok ()⟩) (hissues : (t.request e.tid).issuesSecret = true) :
    token.tokenHash = hashApiToken c ((t.ambient e.tid).newUuid 0) ∧
      ∀ e' ∈ before, e'.tid = e.tid → tokenWritten e'.call = none := by
  have hmem : ∀ e' ∈ before, e'.tid = e.tid → tokenWritten e'.call ≠ none →
      e'.call ∈ ownCalls tokenCall e.tid before := by
    intro e' he' htid hwritten
    obtain ⟨token', htoken'⟩ := Option.ne_none_iff_exists'.mp hwritten
    have hop : e'.op = .setToken token' := congrArg Sigma.fst (tokenWritten_eq_some.mp htoken')
    exact mem_ownCalls.mpr ⟨e', he', htid, by rw [hop]; rfl, rfl⟩
  rcases token_originates h hcall with ⟨_, hfirst, _, hhash⟩ | ⟨read, hrewrites⟩
  · refine ⟨hhash, fun e' he' htid => ?_⟩
    by_contra hne
    have := hmem e' he' htid hne
    rw [hfirst] at this
    cases this
  · have hrotates : (t.request e.tid).rotatesToken = true := by
      simpa [Request.issuesSecret, hrewrites.creates] using hissues
    obtain ⟨hhash, hfirst⟩ := hrewrites.rotated hrotates
    refine ⟨hhash, fun e' he' htid => ?_⟩
    by_contra hne
    exact hne (hfirst _ (hmem e' he' htid hne))

/-- Where a hash comes from: a token of the start, or a request that issued it. -/
def HashOrigin (t : Traffic) (start : Db) (log : List DbEvent) (id tokenHash : String) :
    Prop :=
  (∃ token, start.getToken id = some token ∧ token.tokenHash = tokenHash) ∨
    ∃ e ∈ log, ∃ token, e.call = ⟨.setToken token, .ok ()⟩ ∧ token.id = id ∧
      token.tokenHash = tokenHash ∧ (t.request e.tid).issuesSecret = true

theorem HashOrigin.mono {log' : List DbEvent} (h : HashOrigin t start log id tokenHash)
    (hsub : ∀ e ∈ log, e ∈ log') : HashOrigin t start log' id tokenHash := by
  rcases h with h | ⟨e, he, h⟩
  · exact .inl h
  · exact .inr ⟨e, hsub e he, h⟩

/-- The hash that a request issues is new. -/
theorem issued_new (hu : t.FreshUuids) (hf : t.FreshSecrets c start)
    (h : ServerRun c state t start (before ++ e :: after) s ps)
    (hcall : e.call = ⟨.setToken token, .ok ()⟩) (hissues : (t.request e.tid).issuesSecret = true)
    (horigin : HashOrigin t start before id tokenHash) : token.tokenHash ≠ tokenHash := by
  obtain ⟨hhash, hfirst⟩ := issued h hcall hissues
  rintro rfl
  rcases horigin with ⟨token₀, h₀, heq⟩ | ⟨e', he', token', hcall', _, heq, hissues'⟩
  · exact hf.unused id token₀ h₀ e.tid hissues (heq.trans hhash)
  · obtain ⟨l, l', rfl⟩ := List.append_of_mem he'
    have h' : ServerRun c state t start (l ++ e' :: (l' ++ e :: after)) s ps := by simpa using h
    obtain ⟨hhash', _⟩ := issued h' hcall' hissues'
    have huuid := hf.collisionFree e'.tid e.tid hissues' hissues (by rw [← hhash', heq, hhash])
    have hwritten := hfirst e' he' (hu.distinct _ _ _ _ huuid).1
    rw [tokenWritten_eq_some.mpr hcall'] at hwritten
    cases hwritten

/-- No two tokens have a hash of the same origin. -/
theorem hashOrigin_unique (hu : t.FreshUuids) (hf : t.FreshSecrets c start)
    (h : ServerRun c state t start log s ps) {id' : String}
    (h₁ : HashOrigin t start log id tokenHash) (h₂ : HashOrigin t start log id' tokenHash) :
    id = id' := by
  have hlater : ∀ (other : String) {l l' : List DbEvent} {e : DbEvent} {token : ApiToken},
      log = l ++ e :: l' → e.call = ⟨.setToken token, .ok ()⟩ →
        (t.request e.tid).issuesSecret = true → token.tokenHash = tokenHash →
          ¬ HashOrigin t start l other tokenHash := by
    rintro other l l' e token rfl hcall hissues hhash horigin
    exact issued_new hu hf h hcall hissues horigin hhash
  rcases h₁ with ⟨token₁, hs₁, hh₁⟩ | ⟨e₁, he₁, token₁, hc₁, rfl, hh₁, hi₁⟩
  · rcases h₂ with ⟨token₂, hs₂, hh₂⟩ | ⟨e₂, he₂, token₂, hc₂, rfl, hh₂, hi₂⟩
    · exact hf.distinct _ _ _ _ hs₁ hs₂ (hh₁.trans hh₂.symm)
    · obtain ⟨l, l', hlog⟩ := List.append_of_mem he₂
      exact absurd (.inl ⟨token₁, hs₁, hh₁⟩) (hlater id hlog hc₂ hi₂ hh₂)
  · obtain ⟨l, l', hlog⟩ := List.append_of_mem he₁
    rcases h₂ with ⟨token₂, hs₂, hh₂⟩ | ⟨e₂, he₂, token₂, hc₂, rfl, hh₂, hi₂⟩
    · exact absurd (.inl ⟨token₂, hs₂, hh₂⟩) (hlater id' hlog hc₁ hi₁ hh₁)
    · -- Of two different events one is the later, and its hash is not new.
      rw [hlog] at he₂
      rcases List.mem_append.mp he₂ with hm | hm
      · exact absurd (.inr ⟨e₂, hm, token₂, hc₂, rfl, hh₂, hi₂⟩)
          (hlater token₂.id hlog hc₁ hi₁ hh₁)
      · rcases List.mem_cons.mp hm with rfl | hm
        · cases hc₁.symm.trans hc₂
          rfl
        · obtain ⟨m, m', rfl⟩ := List.append_of_mem hm
          have hlog' : log = (l ++ e₁ :: m) ++ e₂ :: m' := by simpa using hlog
          exact absurd (.inr ⟨e₁, by simp, token₁, hc₁, rfl, hh₁, hi₁⟩)
            (hlater token₁.id hlog' hc₂ hi₂ hh₂)

/-! ## Stored tokens -/

/-- What is known about the tokens of a store. -/
structure TokensKnown (t : Traffic) (start : Db) (log : List DbEvent) (db : Db) : Prop where
  hashes : ∀ id token, db.getToken id = some token → HashOrigin t start log id token.tokenHash
  ids : ∀ id, db.getToken id ≠ none → start.getToken id ≠ none ∨
    ∃ e ∈ log, ∃ token, e.call = ⟨.setToken token, .ok ()⟩ ∧ token.id = id ∧
      (t.request e.tid).createsToken = true

theorem TokensKnown.mono {db : Db} {log' : List DbEvent} (h : TokensKnown t start log db)
    (hsub : ∀ e ∈ log, e ∈ log') : TokensKnown t start log' db where
  hashes id token htoken := (h.hashes id token htoken).mono hsub
  ids id hne := by
    rcases h.ids id hne with hs | ⟨e, he, h⟩
    · exact .inl hs
    · exact .inr ⟨e, hsub e he, h⟩

/-- A committed write is a creation, or it replaces a token that has the hash and the
flag that are kept. -/
inductive TokenWrite (t : Traffic) (e : DbEvent) (token : ApiToken) : Prop where
  | create (hcreates : (t.request e.tid).createsToken = true)
  | rewrite (current : ApiToken) (hcreates : (t.request e.tid).createsToken = false)
      (hcurrent : e.pre.getToken token.id = some current)
      (hhash : (t.request e.tid).rotatesToken = false → token.tokenHash = current.tokenHash)
      (hflag : token.enabled = (t.request e.tid).requestedEnabled.getD current.enabled)

theorem tokenWrite (h : ServerRun c state t start (before ++ e :: after) s ps)
    (hcurrent : WritesBackCurrent t (before ++ e :: after))
    (hcall : e.call = ⟨.setToken token, .ok ()⟩) : TokenWrite t e token := by
  rcases token_originates h hcall with hcreates | ⟨read, hrewrites⟩
  · exact .create hcreates.creates
  · obtain ⟨current, hstored, hhash, hflag⟩ := hcurrent before e after rfl hrewrites.creates token
      (tokenWritten_eq_some.mpr hcall) read hrewrites.last
    refine .rewrite current hrewrites.creates (hrewrites.id ▸ hstored) (fun hrotates => ?_) ?_
    · rw [hrewrites.kept hrotates, hhash hrotates]
    · rw [hrewrites.enabled]
      cases hrequested : (t.request e.tid).requestedEnabled with
      | none => exact (hflag hrequested).symm
      | some enabled => rfl

/-- A token that is stored after a transaction was stored before, or is being written. -/
theorem getToken_post (h : Effect (S := databaseSignature) (DbCall.exec c) e.op e.reply e.pre e.post)
    (hpost : e.post.getToken id = some token) :
    (∃ token₀, e.pre.getToken id = some token₀ ∧ token₀.core = token.core) ∨
      e.call = ⟨.setToken token, .ok ()⟩ ∧ token.id = id := by
  have hold : e.pre.getToken id = some token →
      ∃ token₀, e.pre.getToken id = some token₀ ∧ token₀.core = token.core :=
    fun h => ⟨token, h, rfl⟩
  cases tokensStep h with
  | same hs =>
    have hc := hs.core id
    rw [hpost, Option.map_some] at hc
    exact .inl (Option.map_eq_some_iff.mp hc.symm)
  | written token' hcall hs =>
    rw [hs, getToken_setToken] at hpost
    split at hpost
    · cases hpost
      exact .inr ⟨hcall, ‹_›⟩
    · exact .inl (hold hpost)
  | deleted id' hcall hs =>
    rw [hs, getToken_deleteToken] at hpost
    split at hpost
    · cases hpost
    · exact .inl (hold hpost)

theorem core_tokenHash {token token' : ApiToken} (h : token.core = token'.core) :
    token.tokenHash = token'.tokenHash := congrArg (·.2.1) h

theorem core_enabled {token token' : ApiToken} (h : token.core = token'.core) :
    token.enabled = token'.enabled := congrArg (·.2.2) h

theorem tokensKnown_step (h : ServerRun c state t start (before ++ e :: after) s ps)
    (hcurrent : WritesBackCurrent t (before ++ e :: after)) (hpre : TokensKnown t start before e.pre) :
    TokensKnown t start (before ++ [e]) e.post := by
  have hmono : TokensKnown t start (before ++ [e]) e.pre := hpre.mono (by simp +contextual)
  have heff := h.linked.effect (e := e) (by simp)
  constructor
  · intro id token htoken
    rcases getToken_post heff htoken with ⟨token₀, h₀, hcore⟩ | ⟨hcall, rfl⟩
    · exact core_tokenHash hcore ▸ hmono.hashes id token₀ h₀
    · by_cases hissues : (t.request e.tid).issuesSecret = true
      · exact .inr ⟨e, by simp, token, hcall, rfl, rfl, hissues⟩
      · simp only [Request.issuesSecret, Bool.or_eq_true, not_or, Bool.not_eq_true] at hissues
        cases tokenWrite h hcurrent hcall with
        | create hcreates =>
          rw [hissues.1] at hcreates
          cases hcreates
        | rewrite current _ hstored hhash _ =>
          rw [hhash hissues.2]
          exact hmono.hashes _ current hstored
  · intro id hne
    obtain ⟨token, htoken⟩ := Option.ne_none_iff_exists'.mp hne
    rcases getToken_post heff htoken with ⟨token₀, h₀, _⟩ | ⟨hcall, rfl⟩
    · exact hmono.ids id (by simp [h₀])
    · cases tokenWrite h hcurrent hcall with
      | create hcreates => exact .inr ⟨e, by simp, token, hcall, rfl, hcreates⟩
      | rewrite current _ hstored _ _ => exact hmono.ids _ (by simp [hstored])

theorem tokensKnown (h : ServerRun c state t start log s ps) (hcurrent : WritesBackCurrent t log)
    (hlog : log = before ++ e :: after) : TokensKnown t start before e.pre := by
  subst hlog
  refine h.linked.history_at (I := TokensKnown t start) ⟨?_, ?_⟩ fun l e' l' hsplit hpre => ?_
  · exact fun id token htoken => .inl ⟨token, htoken, rfl⟩
  · exact fun id hne => .inl hne
  · rw [hsplit] at h hcurrent
    exact tokensKnown_step h hcurrent hpre

/-- The identifier of a new token is new. -/
theorem created_new (hu : t.FreshUuids) (hf : t.FreshSecrets c start)
    (h : ServerRun c state t start (before ++ e :: after) s ps)
    (hcall : e.call = ⟨.setToken token, .ok ()⟩) (hcreates : (t.request e.tid).createsToken = true)
    {db : Db} (hknown : TokensKnown t start before db) : db.getToken token.id = none := by
  have hissues : (t.request e.tid).issuesSecret = true := by simp [Request.issuesSecret, hcreates]
  have hid : ∀ {l l' : List DbEvent} {e : DbEvent} {token : ApiToken},
      ServerRun c state t start (l ++ e :: l') s ps → e.call = ⟨.setToken token, .ok ()⟩ →
        (t.request e.tid).createsToken = true → token.id = (t.ambient e.tid).newUuid 1 := by
    intro l l' e token h hcall hcreates
    rcases token_originates h hcall with hc | ⟨read, hrewrites⟩
    · exact hc.id
    · rw [hrewrites.creates] at hcreates
      cases hcreates
  by_contra hne
  rcases hknown.ids token.id hne with hs | ⟨e', he', token', hcall', hid', hcreates'⟩
  · exact hf.ids token.id hs e.tid hcreates (hid h hcall hcreates).symm
  · obtain ⟨l, l', rfl⟩ := List.append_of_mem he'
    have h' : ServerRun c state t start (l ++ e' :: (l' ++ e :: after)) s ps := by simpa using h
    rw [hid h hcall hcreates, hid h' hcall' hcreates'] at hid'
    have hwritten := (issued h hcall hissues).2 e' he' (hu.distinct _ _ _ _ hid').1
    rw [tokenWritten_eq_some.mpr hcall'] at hwritten
    cases hwritten

/-! ## What stays revoked -/

/-- No stored token has the hash. -/
def HashRetired (tokenHash : String) (db : Db) : Prop :=
  ∀ id token, db.getToken id = some token → token.tokenHash ≠ tokenHash

theorem hashRetired_step (hu : t.FreshUuids) (hf : t.FreshSecrets c start)
    (h : ServerRun c state t start (before ++ e :: after) s ps)
    (hcurrent : WritesBackCurrent t (before ++ e :: after))
    (horigin : HashOrigin t start before id tokenHash) (hpre : HashRetired tokenHash e.pre) :
    HashRetired tokenHash e.post := by
  intro id' token htoken
  rcases getToken_post (h.linked.effect (by simp)) htoken with ⟨token₀, h₀, hcore⟩ | ⟨hcall, rfl⟩
  · exact core_tokenHash hcore ▸ hpre id' token₀ h₀
  · by_cases hissues : (t.request e.tid).issuesSecret = true
    · exact issued_new hu hf h hcall hissues horigin
    · simp only [Request.issuesSecret, Bool.or_eq_true, not_or, Bool.not_eq_true] at hissues
      cases tokenWrite h hcurrent hcall with
      | create hcreates =>
        rw [hissues.1] at hcreates
        cases hcreates
      | rewrite current _ hstored hhash _ =>
        rw [hhash hissues.2]
        exact hpre _ current hstored

/-- A known token that is gone is not written again. -/
theorem removed_step (hu : t.FreshUuids) (hf : t.FreshSecrets c start)
    (h : ServerRun c state t start (before ++ e :: after) s ps)
    (hcurrent : WritesBackCurrent t (before ++ e :: after)) {db : Db}
    (hknown : TokensKnown t start before db) (hid : db.getToken id ≠ none)
    (hpre : e.pre.getToken id = none) : e.post.getToken id = none := by
  by_contra hne
  obtain ⟨token, htoken⟩ := Option.ne_none_iff_exists'.mp hne
  rcases getToken_post (h.linked.effect (by simp)) htoken with ⟨token₀, h₀, _⟩ | ⟨hcall, rfl⟩
  · rw [hpre] at h₀
    cases h₀
  · cases tokenWrite h hcurrent hcall with
    | create hcreates => exact hid (created_new hu hf h hcall hcreates hknown)
    | rewrite current _ hstored _ _ =>
      rw [hpre] at hstored
      cases hstored

/-- A known token that is disabled stays so unless a PATCH enables it. -/
theorem disabled_step (hu : t.FreshUuids) (hf : t.FreshSecrets c start)
    (h : ServerRun c state t start (before ++ e :: after) s ps)
    (hcurrent : WritesBackCurrent t (before ++ e :: after)) {db : Db}
    (hknown : TokensKnown t start before db) (hid : db.getToken id ≠ none)
    (hkept : ∀ token ∈ tokenWritten e.call, token.id = id →
      (t.request e.tid).requestedEnabled ≠ some true)
    (hpre : ∀ token, e.pre.getToken id = some token → token.enabled = false) :
    ∀ token, e.post.getToken id = some token → token.enabled = false := by
  intro token htoken
  rcases getToken_post (h.linked.effect (by simp)) htoken with ⟨token₀, h₀, hcore⟩ | ⟨hcall, rfl⟩
  · exact core_enabled hcore ▸ hpre token₀ h₀
  · cases tokenWrite h hcurrent hcall with
    | create hcreates => exact absurd (created_new hu hf h hcall hcreates hknown) hid
    | rewrite current _ hstored _ hflag =>
      have hrequested := hkept token (tokenWritten_eq_some.mpr hcall) rfl
      cases hr : (t.request e.tid).requestedEnabled with
      | none =>
        rw [hr] at hflag
        exact hflag.trans (hpre current hstored)
      | some enabled =>
        rw [hr] at hflag hrequested
        cases enabled with
        | true => exact absurd rfl hrequested
        | false => exact hflag

/-! ## Later requests -/

theorem mem_requestCalls {i : Nat} {call : databaseSignature.Call} :
    call ∈ requestCalls i log ↔ ∃ e ∈ log, e.tid = i ∧ e.call = call := by
  simp [requestCalls, mem_ownCalls]

/-- A secret whose hash is retired opens nothing. -/
theorem not_grants_of_retired (hindexed : TokensIndexed start)
    (h : Linked (S := databaseSignature) (DbCall.exec c) start (before ++ e :: after) s) {i : Nat}
    {secret : String} (hlater : ∀ e' ∈ before ++ [e], e'.tid ≠ i)
    (hretired : ∀ e' ∈ after, HashRetired (hashApiToken c secret) e'.pre) (id' : String) :
    ¬ Grants c (t.ambient i) (t.request i) (requestCalls i (before ++ e :: after)) id' secret := by
  rintro ⟨_, hmem, _⟩
  obtain ⟨e', he', htid, hcall⟩ := mem_requestCalls.mp hmem
  have hafter : e' ∈ after := by
    have hsplit : before ++ e :: after = (before ++ [e]) ++ after := by simp
    rw [hsplit] at he'
    rcases List.mem_append.mp he' with hm | hm
    · exact absurd htid (hlater e' hm)
    · exact hm
  obtain ⟨l, l', hlog⟩ := List.append_of_mem he'
  rw [hlog] at h
  have hind : TokensIndexed e'.pre :=
    (linked_middle h).1.invariant (fun _ _ _ _ => tokensIndexed_effect) hindexed
  have heff := (linked_middle h).2.1
  obtain ⟨tid, op, reply, pre, post⟩ := e'
  cases hcall
  obtain ⟨token, htoken, hhash⟩ := hind.indexed _ _ heff.of_ok.1.symm
  exact hretired _ hafter id' token htoken hhash

theorem checkToken_enabled {amb : Ambient} {ns : String} {permission : SyncPermission}
    (h : checkToken c amb token ns permission = .ok ()) : token.enabled = true := by
  by_contra hne
  rw [Bool.not_eq_true] at hne
  simp [checkToken, ensureTokenActive, hne] at h

theorem post_of_setToken (h : Effect (S := databaseSignature) (DbCall.exec c) e.op e.reply e.pre e.post)
    (hcall : e.call = ⟨.setToken token, .ok ()⟩) : e.post = e.pre.setToken token := by
  obtain ⟨tid, op, reply, pre, post⟩ := e
  cases hcall
  exact h.of_ok.2

section Main
variable (hu : t.FreshUuids) (hf : t.FreshSecrets c start) (hindexed : TokensIndexed start)
include hu hf hindexed

theorem deleted_stays (h : ServerRun c state t start (before ++ e :: after) s ps)
    (hcurrent : WritesBackCurrent t (before ++ e :: after))
    (hcall : e.call = ⟨.deleteToken id, .ok ()⟩) (hstored : e.pre.getToken id ≠ none) {i : Nat}
    {secret : String} (hlater : ∀ e' ∈ before ++ [e], e'.tid ≠ i)
    (hheld : HeldHash start (before ++ e :: after) id (hashApiToken c secret)) (id' : String) :
    ¬ Grants c (t.ambient i) (t.request i) (requestCalls i (before ++ e :: after)) id' secret := by
  obtain ⟨_, heff, hrest⟩ := linked_middle h.linked
  have hknown := tokensKnown h hcurrent rfl
  have hpost : e.post = e.pre.deleteToken id := by
    obtain ⟨tid, op, reply, pre, post⟩ := e
    cases hcall
    exact heff.of_ok.2
  have hgone : ∀ e' ∈ after, e'.pre.getToken id = none ∧ e'.post.getToken id = none := by
    refine hrest.kept (J := fun db => db.getToken id = none) (by simp [hpost]) fun l e' l' hsplit => ?_
    rw [hsplit, ← List.cons_append, ← List.append_assoc] at h hcurrent
    exact removed_step hu hf h hcurrent (hknown.mono fun e he => by simp [he]) hstored
  -- Whatever hash the token ever had, it had it before it was deleted.
  have horigin : HashOrigin t start before id (hashApiToken c secret) := by
    rcases hheld with hstart | ⟨e', he', token, htoken, hhash⟩
    · exact .inl hstart
    · rcases List.mem_append.mp he' with hm | hm
      · obtain ⟨l, l', rfl⟩ := List.append_of_mem hm
        have hsplit : l ++ e' :: l' ++ e :: after = l ++ e' :: (l' ++ e :: after) := by simp
        rw [hsplit] at h hcurrent
        have hk := tokensKnown_step h hcurrent (tokensKnown h hcurrent rfl)
        exact hhash ▸ (hk.hashes id token htoken).mono (by simp; tauto)
      · rcases List.mem_cons.mp hm with rfl | hm
        · rw [hpost, getToken_deleteToken, if_pos rfl] at htoken
          cases htoken
        · rw [(hgone e' hm).2] at htoken
          cases htoken
  have hretired : HashRetired (hashApiToken c secret) e.post := by
    intro id' token htoken hhash
    rw [hpost, getToken_deleteToken] at htoken
    split at htoken
    · cases htoken
    · rename_i hne
      obtain ⟨s', ps', hr, _⟩ := h.take
      exact hne (hashOrigin_unique hu hf hr horigin (hhash ▸ hknown.hashes id' token htoken))
  refine not_grants_of_retired hindexed h.linked hlater (fun e' he' => ?_) id'
  refine (hrest.kept hretired (fun l e' l' hsplit => ?_) e' he').1
  rw [hsplit, ← List.cons_append, ← List.append_assoc] at h hcurrent
  exact hashRetired_step hu hf h hcurrent (horigin.mono fun e he => by simp [he])

theorem rotated_stays (h : ServerRun c state t start (before ++ e :: after) s ps)
    (hcurrent : WritesBackCurrent t (before ++ e :: after))
    (hrotates : (t.request e.tid).rotatesToken = true) (hcall : e.call = ⟨.setToken token, .ok ()⟩)
    {old : ApiToken} (hold : e.pre.getToken token.id = some old) {i : Nat} {secret : String}
    (hlater : ∀ e' ∈ before ++ [e], e'.tid ≠ i) (hhash : old.tokenHash = hashApiToken c secret)
    (id' : String) :
    ¬ Grants c (t.ambient i) (t.request i) (requestCalls i (before ++ e :: after)) id' secret := by
  obtain ⟨_, heff, hrest⟩ := linked_middle h.linked
  have hknown := tokensKnown h hcurrent rfl
  have hissues : (t.request e.tid).issuesSecret = true := by simp [Request.issuesSecret, hrotates]
  have horigin := hknown.hashes token.id old hold
  have hretired : HashRetired old.tokenHash e.post := by
    intro id' token' htoken hhash'
    rw [post_of_setToken heff hcall, getToken_setToken] at htoken
    split at htoken
    · cases htoken
      exact issued_new hu hf h hcall hissues horigin hhash'
    · rename_i hne
      obtain ⟨s', ps', hr, _⟩ := h.take
      exact hne (hashOrigin_unique hu hf hr horigin (hhash' ▸ hknown.hashes id' token' htoken))
  refine not_grants_of_retired hindexed h.linked hlater (fun e' he' => ?_) id'
  rw [← hhash]
  refine (hrest.kept hretired (fun l e' l' hsplit => ?_) e' he').1
  rw [hsplit, ← List.cons_append, ← List.append_assoc] at h hcurrent
  exact hashRetired_step hu hf h hcurrent (horigin.mono fun e he => by simp [he])

omit hindexed in
theorem disabled_stays {between rest : List DbEvent}
    (h : ServerRun c state t start (before ++ e :: (between ++ rest)) s ps)
    (hcurrent : WritesBackCurrent t (before ++ e :: (between ++ rest)))
    (hdisables : (t.request e.tid).requestedEnabled = some false)
    (hcall : e.call = ⟨.setToken token, .ok ()⟩)
    (hbetween : ∀ e' ∈ between, ∀ token' ∈ tokenWritten e'.call, token'.id = token.id →
      (t.request e'.tid).requestedEnabled ≠ some true) (i : Nat) (secret : String) :
    ¬ Grants c (t.ambient i) (t.request i) (requestCalls i between) token.id secret := by
  rintro ⟨_, _, token', ns, permission, hmem, hcheck⟩
  obtain ⟨e', he', _, hread⟩ := mem_requestCalls.mp hmem
  obtain ⟨_, heff, hrest⟩ := linked_middle h.linked
  obtain ⟨_, hlinked, _⟩ := linked_append.mp hrest
  have hknown := tokensKnown_step h hcurrent (tokensKnown h hcurrent rfl)
  have hpost := post_of_setToken heff hcall
  have hstored : e.post.getToken token.id = some token := by rw [hpost, getToken_setToken, if_pos rfl]
  have hdisabled : ∀ token', e.post.getToken token.id = some token' → token'.enabled = false := by
    intro token' htoken
    rw [hstored] at htoken
    cases htoken
    cases tokenWrite h hcurrent hcall with
    | create hcreates =>
      rw [Request.createsToken] at hcreates
      rw [Request.requestedEnabled] at hdisables
      split at hcreates
      · rename_i hr
        rw [hr] at hdisables
        cases hdisables
      · cases hcreates
    | rewrite current _ _ _ hflag =>
      rw [hdisables] at hflag
      exact hflag
  have hpre := (hlinked.kept (J := fun db => ∀ token', db.getToken token.id = some token' →
    token'.enabled = false) hdisabled (fun l e₂ l' hsplit => ?_) e' he').1
  · obtain ⟨l, l', rfl⟩ := List.append_of_mem he'
    have heff' := hlinked.effect (e := e') (by simp)
    obtain ⟨tid, op, reply, pre, post⟩ := e'
    cases hread
    have hflag := hpre token' heff'.of_ok.1.symm
    rw [checkToken_enabled hcheck] at hflag
    cases hflag
  · have hkept := hbetween e₂ (by simp [hsplit])
    rw [hsplit, List.append_assoc, List.cons_append, ← List.cons_append, ← List.append_assoc] at h hcurrent
    refine disabled_step hu hf h hcurrent (hknown.mono fun e he => ?_) (by simp [hstored]) hkept
    rcases List.mem_append.mp he with hm | hm
    · simp [hm]
    · simp [List.mem_singleton.mp hm]

end Main

/-- Revocation is permanent in every run in which no token is written back stale. -/
theorem revocationHolds (hu : t.FreshUuids) (hf : t.FreshSecrets c start)
    (hindexed : TokensIndexed start) (h : ServerRun c state t start log s ps)
    (hcurrent : WritesBackCurrent t log) : RevocationHolds c t start log ps where
  answered := by
    intro i out hsync hi
    exact h.concluded hi (handle_grants (t.request i) hsync) out rfl
  deleted := by
    rintro before e after id rfl hcall hstored i secret hlater hheld id'
    exact deleted_stays hu hf hindexed h hcurrent hcall hstored hlater hheld id'
  rotated := by
    rintro before e after token old rfl hrotates hwritten hold i secret hlater hhash id'
    exact rotated_stays hu hf hindexed h hcurrent hrotates (tokenWritten_eq_some.mp hwritten) hold
      hlater hhash id'
  disabled := by
    rintro before e between rest token rfl hdisables hwritten hbetween i secret _
    exact disabled_stays hu hf h hcurrent hdisables (tokenWritten_eq_some.mp hwritten) hbetween i secret

/-! ## A PATCH and a deletion at once -/

/-- One administrator touches the client's token, another one deletes it, and then the
client comes back. -/
def revocationTraffic : Traffic := Traffic.ofList
  [panelRequest (.adminUpdateToken "t0" { enabled := none, expiresAt := none, deviceId := none }),
   panelRequest (.adminDeleteToken "t0"),
   clientRequest (.getMetadata "work") []]

def playRevocation (schedule : List (Nat × Option String)) :=
  play (S := databaseSignature) (DbCall.exec panelCrates) schedule panelDb
    (revocationTraffic.program panelCrates plainState)

theorem playRevocation_run (schedule : List (Nat × Option String)) :
    ServerRun panelCrates plainState revocationTraffic panelDb (playRevocation schedule).1
      (playRevocation schedule).2.1 (playRevocation schedule).2.2 := play_run _ _ _ _

theorem playRevocation_short (schedule : List (Nat × Option String)) :
    playRevocation schedule = playShortened panelCrates plainState revocationTraffic panelDb schedule := by
  apply play_shortened knowsAdmin_panelCrates
  exact ⟨.panel _ rfl, .panel _ rfl, .client _ _ rfl⟩

theorem panelDb_getToken {id : String} {token : ApiToken} (h : panelDb.getToken id = some token) :
    id = "t0" ∧ token = clientToken := by
  simp only [panelDb, clientDb, Db.getToken, Redb.Table.get_insert] at h
  split at h
  · rename_i hkey
    cases h
    exact ⟨(tokenKey_injective hkey).symm, rfl⟩
  · simp at h

theorem tokensIndexed_panelDb : TokensIndexed panelDb where
  keyed id token h := by
    obtain ⟨rfl, rfl⟩ := panelDb_getToken h
    rfl
  indexed tokenHash id h := by
    simp only [panelDb, clientDb, Db.getTokenIdByHash, Redb.Table.get_insert] at h
    split at h
    · rename_i hhash
      cases h
      exact ⟨clientToken, by decide +kernel, hhash⟩
    · simp at h

/-- None of the three requests issues a secret. -/
theorem freshSecrets_revocation : revocationTraffic.FreshSecrets panelCrates panelDb := by
  have hnone : ∀ i, (revocationTraffic.request i).issuesSecret = false := by
    intro i
    match i with
    | 0 | 1 | 2 => rfl
    | i + 3 => rfl
  have hcreates : ∀ i, (revocationTraffic.request i).createsToken = false := by
    intro i
    have h := hnone i
    rw [Request.issuesSecret, Bool.or_eq_false_iff] at h
    exact h.1
  constructor
  · intro i j hi
    rw [hnone i] at hi
    cases hi
  · intro id token _ i hi
    rw [hnone i] at hi
    cases hi
  · intro id id' token token' h h' _
    rw [(panelDb_getToken h).1, (panelDb_getToken h').1]
  · intro id _ i hi
    rw [hcreates i] at hi
    cases hi

/-- The identifier of a token that a committed `delete_token` has removed. -/
def tokenDeleted : databaseSignature.Call → Option String
  | ⟨.deleteToken id, .ok ()⟩ => some id
  | _ => none

theorem tokenDeleted_eq_some {call : databaseSignature.Call} (h : tokenDeleted call = some id) :
    call = ⟨.deleteToken id, .ok ()⟩ := by
  unfold tokenDeleted at h
  split at h
  · cases h
    rfl
  · cases h

/-- The token of the client is deleted by event `k`, before the client comes. -/
def DeletedAt (log : List DbEvent) (k : Nat) : Prop :=
  (∃ e ∈ log[k]?, tokenDeleted e.call = some "t0" ∧ e.pre.getToken "t0" ≠ none) ∧
    ∀ e ∈ log.take (k + 1), e.tid ≠ 2

instance (log : List DbEvent) (k : Nat) : Decidable (DeletedAt log k) :=
  inferInstanceAs (Decidable (_ ∧ _))

theorem DeletedAt.split {log : List DbEvent} {k : Nat} (h : DeletedAt log k) :
    ∃ before e after, log = before ++ e :: after ∧ e.call = ⟨.deleteToken "t0", .ok ()⟩ ∧
      e.pre.getToken "t0" ≠ none ∧ ∀ e' ∈ before ++ [e], e'.tid ≠ 2 := by
  obtain ⟨⟨e, he, hdeleted, hstored⟩, hlater⟩ := h
  refine ⟨_, e, _, split_at he, tokenDeleted_eq_some hdeleted, hstored, fun e' he' => hlater e' ?_⟩
  rwa [List.take_add_one, he]

theorem held_clientSecret (log : List DbEvent) :
    HeldHash panelDb log "t0" (hashApiToken panelCrates clientSecret) :=
  .inl ⟨clientToken, by decide +kernel, by decide +kernel⟩

/-- The PATCH is done before the token is deleted. -/
def patchedFirst : List (Nat × Option String) := steps 0 20 ++ steps 1 20 ++ steps 2 20

set_option maxRecDepth 10000 in
theorem revocationHolds_patchedFirst :
    ¬ ∃ id', Grants panelCrates (revocationTraffic.ambient 2) (revocationTraffic.request 2)
      (requestCalls 2 (playRevocation patchedFirst).1) id' clientSecret := by
  have hplay : DeletedAt (playRevocation patchedFirst).1 5 ∧
      ∀ k < (playRevocation patchedFirst).1.length, ∀ e ∈ (playRevocation patchedFirst).1[k]?,
        (revocationTraffic.request e.tid).createsToken = false →
          ∀ token ∈ tokenWritten e.call, ∀ read ∈ lastTokenRead
            (ownCalls tokenCall e.tid ((playRevocation patchedFirst).1.take k)),
            ∃ current ∈ e.pre.getToken read.id,
              ((revocationTraffic.request e.tid).rotatesToken = false →
                current.tokenHash = read.tokenHash) ∧
              ((revocationTraffic.request e.tid).requestedEnabled = none →
                current.enabled = read.enabled) := by
    rw [playRevocation_short]
    decide +kernel
  obtain ⟨before, e, after, hlog, hcall, hstored, hlater⟩ := hplay.1.split
  rintro ⟨id', hgrants⟩
  exact (revocationHolds (freshUuids_ofList _) freshSecrets_revocation tokensIndexed_panelDb
    (playRevocation_run patchedFirst) (forall_split hplay.2)).deleted before e after "t0" hlog hcall
    hstored 2 clientSecret hlater (held_clientSecret _) id' hgrants

/-- The deletion commits between the two transactions of the PATCH. -/
def deletedBetween : List (Nat × Option String) :=
  steps 0 2 ++ steps 1 20 ++ steps 0 20 ++ steps 2 20

set_option maxRecDepth 10000 in
/-- The PATCH brings the deleted token back to life. -/
theorem deleted_token_comes_back :
    ∃ (log : List DbEvent) (s : Db) (ps : Nat → Program databaseSignature Answer),
      revocationTraffic.FreshUuids ∧ revocationTraffic.FreshSecrets panelCrates panelDb ∧
      TokensIndexed panelDb ∧ ServerRun panelCrates plainState revocationTraffic panelDb log s ps ∧
      ¬ RevocationHolds panelCrates revocationTraffic panelDb log ps := by
  refine ⟨_, _, _, freshUuids_ofList _, freshSecrets_revocation, tokensIndexed_panelDb,
    playRevocation_run deletedBetween, fun hholds => ?_⟩
  have hplay : DeletedAt (playRevocation deletedBetween).1 4 ∧
      (∃ answer ∈ ((playRevocation deletedBetween).2.2 2).answer, answer.isOk = true) ∧
      presentedToken panelCrates (revocationTraffic.request 2).headers = .ok clientSecret := by
    rw [playRevocation_short]
    decide +kernel
  obtain ⟨hdeleted, hanswer, hpresented⟩ := hplay
  obtain ⟨before, e, after, hlog, hcall, hstored, hlater⟩ := hdeleted.split
  obtain ⟨out, hout⟩ : ∃ out, (playRevocation deletedBetween).2.2 2 = .ret (.ok out) := by
    obtain ⟨answer, ha, hok⟩ := hanswer
    cases answer with
    | ok out => exact ⟨out, Program.answer_eq_some.mp ha⟩
    | error e => cases hok
  obtain ⟨id, secret, hgrants⟩ := hholds.answered 2 out rfl hout
  obtain rfl := Except.ok.inj (hgrants.1.symm.trans hpresented)
  exact hholds.deleted before e after "t0" hlog hcall hstored 2 clientSecret hlater
    (held_clientSecret _) id hgrants

end CloudSync
