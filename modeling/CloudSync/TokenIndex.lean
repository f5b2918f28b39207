import CloudSync.TokenStore
import CloudSync.Scenario
import CloudSync.Serial

/-!
# The hash index as an inverse

As long as no hash serves two identifiers, the index is not only sound but
complete: it leads from a hash to a token if and only if the token has that hash.
-/

namespace CloudSync

open Rust Redb Transactions Transactions.Fallible

set_option autoImplicit false

variable {c : Crates}

/-- The hash and the identifier that a committed `set_token` brings together. -/
def hashUsed : databaseSignature.Call → Option (String × String)
  | ⟨.setToken token, .ok ()⟩ => some (token.tokenHash, token.id)
  | _ => none

/-- No hash is ever used for two identifiers. -/
def HashesUnique (log : List DbEvent) : Prop :=
  ∀ e ∈ log, ∀ e' ∈ log, ∀ used ∈ hashUsed e.call, ∀ used' ∈ hashUsed e'.call,
    used.1 = used'.1 → used.2 = used'.2

instance (log : List DbEvent) : Decidable (HashesUnique log) :=
  inferInstanceAs (Decidable (∀ e ∈ log, ∀ e' ∈ log, ∀ used ∈ hashUsed e.call, _))

/-- Every stored token is found by its hash, and the log has brought the two together. -/
structure HashesFound (log : List DbEvent) (db : Db) : Prop extends TokensIndexed db where
  found : ∀ id token, db.getToken id = some token → db.getTokenIdByHash token.tokenHash = some id
  used : ∀ id token, db.getToken id = some token →
    ∃ e ∈ log, hashUsed e.call = some (token.tokenHash, id)

theorem hashesFound_new : HashesFound [] {} where
  keyed id token h := by simp [Db.getToken] at h
  indexed tokenHash id h := by simp [Db.getTokenIdByHash] at h
  found id token h := by simp [Db.getToken] at h
  used id token h := by simp [Db.getToken] at h

/-- Another token's entry is still there when the entry of `id` has been taken out. -/
theorem HashesFound.erased_ne {log : List DbEvent} {db : Db} (hd : HashesFound log db) {id id' : String}
    {token : ApiToken} (htoken : db.getToken id' = some token) (hne : id ≠ id') :
    (match db.tokens[tokenKey id]? with
      | some existing => db.tokenHashes.erase existing.tokenHash
      | none => db.tokenHashes)[token.tokenHash]? = some id' := by
  have hfound : db.tokenHashes[token.tokenHash]? = some id' := hd.found id' token htoken
  cases hstored : db.tokens[tokenKey id]? with
  | none => exact hfound
  | some existing =>
    have hexisting : db.tokenHashes[existing.tokenHash]? = some id := hd.found id existing hstored
    have hhash : existing.tokenHash ≠ token.tokenHash := by
      intro heq
      rw [heq, hfound] at hexisting
      exact hne (Option.some.inj hexisting).symm
    simpa [hhash] using hfound

theorem HashesFound.step {log : List DbEvent} {e : DbEvent} (hd : HashesFound log e.pre)
    (h : Effect (S := databaseSignature) (DbCall.exec c) e.op e.reply e.pre e.post)
    (hunique : HashesUnique (log ++ [e])) : HashesFound (log ++ [e]) e.post := by
  have hindexed := tokensIndexed_effect h hd.toTokensIndexed
  have hlater : ∀ {used}, (∃ e' ∈ log, hashUsed e'.call = some used) →
      ∃ e' ∈ log ++ [e], hashUsed e'.call = some used := by
    rintro used ⟨e', he', hused⟩
    exact ⟨e', by simp [he'], hused⟩
  cases tokensStep h with
  | same hsame =>
    -- The hashes and identifiers of the stored tokens are those from before.
    have hcore : ∀ {id token}, e.post.getToken id = some token →
        ∃ token₀, e.pre.getToken id = some token₀ ∧ token₀.tokenHash = token.tokenHash := by
      intro id token htoken
      have hc := hsame.core id
      rw [htoken, Option.map_some] at hc
      obtain ⟨token₀, h₀, hc⟩ := Option.map_eq_some_iff.mp hc.symm
      exact ⟨token₀, h₀, congrArg (·.2.1) hc⟩
    refine { hindexed with found := ?_, used := ?_ }
    · intro id token htoken
      obtain ⟨token₀, h₀, hhash⟩ := hcore htoken
      rw [Db.getTokenIdByHash, hsame.hashes, ← hhash]
      exact hd.found id token₀ h₀
    · intro id token htoken
      obtain ⟨token₀, h₀, hhash⟩ := hcore htoken
      rw [← hhash]
      exact hlater (hd.used id token₀ h₀)
  | written token hcall hpost =>
    have hnow : hashUsed e.call = some (token.tokenHash, token.id) := by rw [Event.call, hcall]; rfl
    rw [hpost] at hindexed ⊢
    refine { hindexed with found := ?_, used := ?_ }
    · intro id token' htoken'
      rw [Db.getTokenIdByHash, Db.setToken, Table.get_insert]
      rw [getToken_setToken] at htoken'
      split at htoken'
      · rename_i hid
        cases htoken'
        rw [if_pos rfl, hid]
      · rename_i hne
        obtain ⟨e', he', hused⟩ := hd.used id token' htoken'
        have hhash : token.tokenHash ≠ token'.tokenHash := fun heq =>
          hne (hunique e (by simp) e' (by simp [he']) _ hnow _ hused heq)
        rw [if_neg hhash]
        exact hd.erased_ne htoken' hne
    · intro id token' htoken'
      rw [getToken_setToken] at htoken'
      split at htoken'
      · rename_i hid
        cases htoken'
        exact ⟨e, by simp, hid ▸ hnow⟩
      · exact hlater (hd.used id token' htoken')
  | deleted id hcall hpost =>
    rw [hpost] at hindexed ⊢
    refine { hindexed with found := ?_, used := ?_ }
    · intro id' token htoken
      rw [getToken_deleteToken] at htoken
      split at htoken
      · cases htoken
      · rename_i hne
        exact hd.erased_ne htoken hne
    · intro id' token htoken
      rw [getToken_deleteToken] at htoken
      split at htoken
      · cases htoken
      · exact hlater (hd.used id' token htoken)

/-- The index is an exact inverse of the token table. -/
structure IndexInverse (c : Crates) (db : Db) : Prop where
  inverse : ∀ tokenHash id, db.getTokenIdByHash tokenHash = some id ↔
    ∃ token, db.getToken id = some token ∧ token.id = id ∧ token.tokenHash = tokenHash
  /-- What `get_token_by_hash` finds when it is alone on the database. -/
  lookup : ∀ tokenHash token,
    ((getTokenByHash tokenHash).alone (DbCall.exec c) db).1 = .ok (some token) ↔
      db.getToken token.id = some token ∧ token.tokenHash = tokenHash
  missing : ∀ tokenHash, ((getTokenByHash tokenHash).alone (DbCall.exec c) db).1 = .ok none ↔
    ∀ id token, db.getToken id = some token → token.tokenHash ≠ tokenHash
  unshared : ∀ id id' token token', db.getToken id = some token → db.getToken id' = some token' →
    token.tokenHash = token'.tokenHash → id = id'

theorem HashesFound.inverse {log : List DbEvent} {db : Db} (hd : HashesFound log db) :
    IndexInverse c db := by
  have hinverse : ∀ tokenHash id, db.getTokenIdByHash tokenHash = some id ↔
      ∃ token, db.getToken id = some token ∧ token.id = id ∧ token.tokenHash = tokenHash := by
    intro tokenHash id
    constructor
    · intro h
      obtain ⟨token, htoken, hhash⟩ := hd.indexed tokenHash id h
      exact ⟨token, htoken, hd.keyed id token htoken, hhash⟩
    · rintro ⟨token, htoken, _, rfl⟩
      exact hd.found id token htoken
  refine ⟨hinverse, fun tokenHash token => ?_, fun tokenHash => ?_, ?_⟩
  · rw [alone_getTokenByHash, Db.tokenByHash, Except.ok.injEq, Option.bind_eq_some_iff]
    constructor
    · rintro ⟨id, hid, htoken⟩
      obtain ⟨token', htoken', hkey, hhash⟩ := (hinverse tokenHash id).mp hid
      rw [htoken] at htoken'
      cases htoken'
      exact ⟨hkey ▸ htoken, hhash⟩
    · rintro ⟨htoken, hhash⟩
      exact ⟨token.id, (hinverse tokenHash token.id).mpr ⟨token, htoken, rfl, hhash⟩, htoken⟩
  · rw [alone_getTokenByHash, Db.tokenByHash, Except.ok.injEq]
    constructor
    · intro hnone id token htoken hhash
      have hfound := hd.found id token htoken
      rw [hhash] at hfound
      rw [hfound, Option.bind_some, htoken] at hnone
      cases hnone
    · intro hno
      cases hid : db.getTokenIdByHash tokenHash with
      | none => rfl
      | some id =>
        obtain ⟨token, htoken, _, hhash⟩ := (hinverse tokenHash id).mp hid
        exact absurd hhash (hno id token htoken)
  · intro id id' token token' htoken htoken' hhash
    have hid := hd.found id token htoken
    rw [hhash, hd.found id' token' htoken'] at hid
    exact (Option.some.inj hid).symm

/-- After any transactions on an empty database, failed ones included, of which no two pair
one hash with different identifiers. -/
theorem indexInverse {log : List DbEvent} {s : Db}
    (h : Linked (S := databaseSignature) (DbCall.exec c) {} log s) (hunique : HashesUnique log) :
    IndexInverse c s := by
  have hfound : HashesFound log s := by
    refine h.history hashesFound_new fun before e after hlog hpre => ?_
    refine hpre.step (h.effect (by simp [hlog])) fun e₁ h₁ e₂ h₂ => ?_
    have hmem : ∀ e' ∈ before ++ [e], e' ∈ log := by
      intro e' he'
      rw [hlog]
      simp only [List.mem_append, List.mem_cons, List.not_mem_nil, or_false] at he' ⊢
      exact he'.imp id .inl
    exact hunique e₁ (hmem e₁ h₁) e₂ (hmem e₂ h₂)
  exact hfound.inverse

/-- Calls one after another. -/
def callAll : List DbCall → Program databaseSignature Unit
  | [] => .ret ()
  | call :: rest => .call call fun _ => callAll rest

/-- A token is stored, rotated, refused once, and another one comes and goes. -/
def tokenCalls : Nat → Program databaseSignature Unit := fun _ => callAll
  [.setToken clientToken,
   .setToken { clientToken with tokenHash := "rotated" },
   .recordTokenFailure clientToken.id,
   .setToken { clientToken with id := "t1", tokenHash := "other" },
   .deleteToken "t1"]

def playTokens := play (S := databaseSignature) (DbCall.exec clientCrates) (steps 0 5) {} tokenCalls

theorem playTokens_linked :
    Linked (S := databaseSignature) (DbCall.exec clientCrates) {} playTokens.1 playTokens.2.1 :=
  (play_run (S := databaseSignature) (DbCall.exec clientCrates) (steps 0 5) {} tokenCalls).linked

theorem indexInverse_rotated : IndexInverse clientCrates playTokens.2.1 :=
  indexInverse playTokens_linked (by decide +kernel : HashesUnique playTokens.1)

end CloudSync
