import CloudSync.StoredCells

/-!
# Tokens and the hash index

`set_token` and `delete_token` keep the index of hashes in step with the token
table: a hash that is found leads to a token that has this very hash. Every other
transaction leaves identifiers, hashes and enabled flags of tokens alone.
-/

namespace CloudSync

open Rust Redb Transactions

set_option autoImplicit false

/-- What decides about access: identifier, hash and enabled flag. -/
def ApiToken.core (token : ApiToken) : String × String × Bool :=
  (token.id, token.tokenHash, token.enabled)

/-- The tokens as far as access depends on them, and the index. -/
structure SameTokens (db db' : Db) : Prop where
  core : ∀ id, (db'.getToken id).map ApiToken.core = (db.getToken id).map ApiToken.core
  hashes : db'.tokenHashes = db.tokenHashes

theorem SameTokens.refl (db : Db) : SameTokens db db := ⟨fun _ => rfl, rfl⟩

/-- The same for tables that have not been written at all. -/
theorem SameTokens.of_tables {db db' : Db} (ht : db'.tokens = db.tokens)
    (hh : db'.tokenHashes = db.tokenHashes) : SameTokens db db' :=
  ⟨fun id => by rw [Db.getToken, Db.getToken, ht], hh⟩

/-- Rewriting one token under its key with the same core. -/
theorem SameTokens.of_insert {db : Db} {id : String} {token token' : ApiToken}
    (hstored : db.getToken id = some token) {db' : Db}
    (ht : db'.tokens = db.tokens.insert (tokenKey id) token')
    (hh : db'.tokenHashes = db.tokenHashes) (hcore : token'.core = token.core) :
    SameTokens db db' where
  core id' := by
    rw [Db.getToken, ht, Table.get_insert]
    split
    · rename_i hkey
      obtain rfl := tokenKey_injective hkey
      rw [hstored, Option.map_some, Option.map_some, hcore]
    · rfl
  hashes := hh

theorem sameTokens_recordTokenFailure (db : Db) (id : String) :
    SameTokens db (db.recordTokenFailure id) := by
  unfold Db.recordTokenFailure
  split
  · exact .refl db
  · rename_i token htoken
    exact .of_insert htoken rfl rfl rfl

theorem sameTokens_recordTokenUsage (db : Db) (id ns permission clientIp : String)
    (clientVersion : Option String) (observedAt : String) :
    SameTokens db (db.recordTokenUsage id ns permission clientIp clientVersion observedAt) := by
  unfold Db.recordTokenUsage
  split
  · exact .refl db
  · rename_i token htoken
    dsimp only
    split
    · exact .of_insert htoken rfl rfl rfl
    · split
      · exact .of_insert htoken rfl rfl rfl
      · exact .of_insert htoken rfl rfl rfl

/-- All that a transaction can do to tokens and index. -/
inductive TokensStep (db : Db) (call : databaseSignature.Call) (db' : Db) : Prop where
  | same (h : SameTokens db db')
  | written (token : ApiToken) (hcall : call = ⟨.setToken token, .ok ()⟩) (h : db' = db.setToken token)
  | deleted (id : String) (hcall : call = ⟨.deleteToken id, .ok ()⟩) (h : db' = db.deleteToken id)

theorem tokensStep {c : Crates} {call : DbCall} {r : databaseSignature.Reply call} {db db' : Db}
    (h : Effect (S := databaseSignature) (DbCall.exec c) call r db db') :
    TokensStep db ⟨call, r⟩ db' := by
  cases h with
  | fail f => exact .same (.refl db)
  | commit =>
    cases call with
    | setToken token => exact .written token rfl rfl
    | deleteToken id => exact .deleted id rfl rfl
    | recordTokenUsage id ns permission clientIp clientVersion observedAt =>
      exact .same (sameTokens_recordTokenUsage db id ns permission clientIp clientVersion observedAt)
    | recordTokenFailure id => exact .same (sameTokens_recordTokenFailure db id)
    | putObjectIfMatches ns path expectedEtag requireAbsent data m =>
      rcases putObjectIfMatches_cases db ns path expectedEtag requireAbsent data m with
        ⟨_, h⟩ | ⟨_, h⟩ <;>
      · simp only [DbCall.exec, h]
        exact .same (.of_tables rfl rfl)
    | putBlobIfMatches ns expectedEtag requireAbsent blob m =>
      rcases putBlobIfMatches_cases db ns expectedEtag requireAbsent blob m with
        ⟨_, h⟩ | ⟨_, _, h⟩ | ⟨_, h⟩ <;>
      · simp only [DbCall.exec, h]
        exact .same (.of_tables rfl rfl)
    | _ => exact .same (.of_tables rfl rfl)

@[simp] theorem getToken_setToken (db : Db) (token : ApiToken) (id : String) :
    (db.setToken token).getToken id = if token.id = id then some token else db.getToken id := by
  simp [Db.setToken, Db.getToken, tokenKey_injective.eq_iff]

@[simp] theorem getToken_deleteToken (db : Db) (id id' : String) :
    (db.deleteToken id).getToken id' = if id = id' then none else db.getToken id' := by
  simp [Db.deleteToken, Db.getToken, tokenKey_injective.eq_iff]

/-- A token is stored under its own identifier, and the index leads from a hash to a
token with this hash. -/
structure TokensIndexed (db : Db) : Prop where
  keyed : ∀ id token, db.getToken id = some token → token.id = id
  indexed : ∀ tokenHash id, db.getTokenIdByHash tokenHash = some id →
    ∃ token, db.getToken id = some token ∧ token.tokenHash = tokenHash

/-- Before a token is replaced or removed, its hash is taken out of the index. -/
theorem TokensIndexed.ne_of_erased {db : Db} (hd : TokensIndexed db) {id id' tokenHash : String}
    (hfound : (match db.tokens[tokenKey id]? with
      | some existing => db.tokenHashes.erase existing.tokenHash
      | none => db.tokenHashes)[tokenHash]? = some id') :
    id ≠ id' ∧ db.getTokenIdByHash tokenHash = some id' := by
  cases hstored : db.tokens[tokenKey id]? with
  | none =>
    simp only [hstored] at hfound
    refine ⟨?_, hfound⟩
    rintro rfl
    obtain ⟨token, htoken, _⟩ := hd.indexed tokenHash id hfound
    rw [Db.getToken, hstored] at htoken
    cases htoken
  | some existing =>
    simp only [hstored, Table.get_erase] at hfound
    split at hfound
    · cases hfound
    · rename_i hne
      refine ⟨?_, hfound⟩
      rintro rfl
      obtain ⟨token, htoken, hhash⟩ := hd.indexed tokenHash id hfound
      rw [Db.getToken, hstored] at htoken
      cases htoken
      exact hne hhash

theorem TokensIndexed.setToken {db : Db} (hd : TokensIndexed db) (token : ApiToken) :
    TokensIndexed (db.setToken token) where
  keyed id token' h := by
    rw [getToken_setToken] at h
    split at h
    · cases h
      assumption
    · exact hd.keyed id token' h
  indexed tokenHash id h := by
    rw [getToken_setToken]
    rw [Db.getTokenIdByHash, Db.setToken, Table.get_insert] at h
    split at h
    · rename_i hhash
      cases h
      exact ⟨token, if_pos rfl, hhash⟩
    · obtain ⟨hne, hfound⟩ := hd.ne_of_erased h
      rw [if_neg hne]
      exact hd.indexed tokenHash id hfound

theorem TokensIndexed.deleteToken {db : Db} (hd : TokensIndexed db) (id : String) :
    TokensIndexed (db.deleteToken id) where
  keyed id' token h := by
    rw [getToken_deleteToken] at h
    split at h
    · cases h
    · exact hd.keyed id' token h
  indexed tokenHash id' h := by
    obtain ⟨hne, hfound⟩ := hd.ne_of_erased h
    rw [getToken_deleteToken, if_neg hne]
    exact hd.indexed tokenHash id' hfound

theorem TokensIndexed.of_same {db db' : Db} (hd : TokensIndexed db) (h : SameTokens db db') :
    TokensIndexed db' := by
  have hcore : ∀ {id token}, db'.getToken id = some token →
      ∃ token₀, db.getToken id = some token₀ ∧ token₀.core = token.core := by
    intro id token htoken
    have hc := h.core id
    rw [htoken, Option.map_some] at hc
    exact Option.map_eq_some_iff.mp hc.symm
  constructor
  · intro id token htoken
    obtain ⟨token₀, h₀, hc⟩ := hcore htoken
    rw [← hd.keyed id token₀ h₀]
    exact (congrArg Prod.fst hc).symm
  · intro tokenHash id hfound
    rw [Db.getTokenIdByHash, h.hashes] at hfound
    obtain ⟨token₀, h₀, hhash⟩ := hd.indexed tokenHash id hfound
    have hc := h.core id
    rw [h₀, Option.map_some] at hc
    obtain ⟨token, htoken, hcore'⟩ := Option.map_eq_some_iff.mp hc
    exact ⟨token, htoken, (congrArg (·.2.1) hcore').trans hhash⟩

theorem tokensIndexed_effect {c : Crates} {call : DbCall} {r : databaseSignature.Reply call}
    {db db' : Db} (h : Effect (S := databaseSignature) (DbCall.exec c) call r db db')
    (hd : TokensIndexed db) : TokensIndexed db' := by
  cases tokensStep h with
  | same h => exact hd.of_same h
  | written token _ h => exact h ▸ hd.setToken token
  | deleted id _ h => exact h ▸ hd.deleteToken id

end CloudSync
