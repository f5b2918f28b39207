import CloudSync.Authority
import CloudSync.LoginThrottle
import CloudSync.NamespaceListing
import CloudSync.Rust.Cookies
import CloudSync.StoreHandlers

/-!
# Sessions

A login and a change of the own password answer with cookies. A client that sends them
back is let in as long as the account stands as the request has written it, and the
cookies of a login also carry what changes ask for. A session that has ended once stays
ended while nobody creates an account of that name.
-/

namespace CloudSync

open Rust Transactions Transactions.Fallible

set_option autoImplicit false

/-! ## What is issued -/

/-- The characters of session tokens and identifiers. -/
def isTokenChar (ch : Char) : Bool := isAsciiAlphanumeric ch || ch == '-' || ch == '_' || ch == '.'

structure TokenText (text : String) : Prop where
  nonempty : text ≠ ""
  chars : ∀ ch ∈ text.toList, isTokenChar ch = true

/-- `Validation::default()` leaves a minute after the expiry. -/
def AdminClaims.Live (claims : AdminClaims) (now : Instant) : Prop :=
  now.ediv nanosPerSecond - 60 ≤ claims.exp

instance (claims : AdminClaims) (now : Instant) : Decidable (claims.Live now) :=
  inferInstanceAs (Decidable (_ ≤ _))

/-- Session tokens are texts in base64 for URLs, and are read back until they expire. -/
structure Crates.SignsSessions (c : Crates) : Prop where
  text : ∀ secret claims token, c.jwtEncode secret claims = .ok token → TokenText token
  decodes : ∀ secret claims token now, c.jwtEncode secret claims = .ok token →
    c.jwtDecode secret token now = if claims.Live now then some claims else none

/-- The claims of a session that is issued for a version of an account. -/
def issuedClaims (username : String) (sessionVersion : Nat) (now : Instant) : AdminClaims where
  sub := username
  exp := (now.ediv nanosPerSecond).toNat + 86400
  iat := (now.ediv nanosPerSecond).toNat
  ver := sessionVersion

/-- The account is enabled, with no change since that would end its sessions. -/
def AccountStands (user : AdminUserRecord) (db : Db) : Prop :=
  ∃ current, db.getAdminUser user.username = some current ∧ current.enabled = true ∧
    current.sessionVersion = user.sessionVersion

/-- The headers of a client that has kept the cookies of the answer. -/
structure SendsBack (session : SessionResponse) (headers : HeaderMap) : Prop where
  cookies : ∃ kept, (∀ cookie ∈ kept, PlainCookie cookie) ∧
    headers.getStr "cookie" = some (cookieHeader kept) ∧
    ∀ line ∈ session.cookies, ∀ cookie, setCookiePair line = some cookie →
      kept.lookup cookie.1 = some cookie.2

/-- A session is good for reading exactly as long as the account stands, and so is the one of a
login for changes if the client repeats the CSRF token. -/
structure SessionCounts (c : Crates) (secret : String) (claims : AdminClaims) (session : SessionResponse)
    (user : AdminUserRecord) : Prop where
  admitted : ∀ state amb headers db, state.jwtSecret = secret → SendsBack session headers →
    (Admitted c state amb headers db ↔
      state.adminEnabled = true ∧ claims.Live (amb.now 0) ∧ AccountStands user db)
  manages : ∀ state amb headers db csrf, SendsBack session headers → session.csrfToken = some csrf →
    headers.getStr "x-csrf-token" = some csrf →
      (MayManage c state amb headers db ↔ Admitted c state amb headers db)

variable {c : Crates} {state : AppState} {amb : Ambient}

/-! ## Cookies -/

section Cookies
variable {headers : HeaderMap} {token : String}

theorem isTokenChar_range {ch : Char} (h : isTokenChar ch = true) : 45 ≤ ch.toNat ∧ ch.toNat ≤ 122 := by
  simp only [isTokenChar, isAsciiAlphanumeric, Char.isAlphanum, Char.isAlpha, Char.isUpper, Char.isLower,
    Char.isDigit, Bool.or_eq_true, Bool.and_eq_true, decide_eq_true_eq, beq_iff_eq, ge_iff_le,
    UInt32.le_iff_toNat_le] at h
  rcases h with (((((h | h) | h) | rfl) | rfl) | rfl)
  · change 65 ≤ ch.toNat ∧ ch.toNat ≤ 90 at h
    omega
  · change 97 ≤ ch.toNat ∧ ch.toNat ≤ 122 at h
    omega
  · change 48 ≤ ch.toNat ∧ ch.toNat ≤ 57 at h
    omega
  all_goals decide

theorem isTokenChar_plain {ch : Char} (h : isTokenChar ch = true) :
    ch ≠ ';' ∧ ch ≠ '=' ∧ isWhitespace ch = false := by
  have hrange := isTokenChar_range h
  refine ⟨?_, ?_, ?_⟩
  · rintro rfl
    cases h
  · rintro rfl
    cases h
  · simp only [isWhitespace, Bool.or_eq_false_iff, Bool.and_eq_false_iff, decide_eq_false_iff_not,
      beq_eq_false_iff_ne]
    omega

theorem TokenText.plain {name : String} (hname : (Rust.chars name).all isTokenChar = true)
    (h : TokenText token) : PlainCookie (name, token) where
  name ch hch := isTokenChar_plain (List.all_eq_true.mp hname ch (chars_eq name ▸ hch))
  value ch hch := ⟨(isTokenChar_plain (h.chars ch hch)).1, (isTokenChar_plain (h.chars ch hch)).2.2⟩

theorem TokenText.trim_eq (h : TokenText token) : trim token = token := by
  rw [trim, chars_eq, trimChars_of_plain fun ch hch => (isTokenChar_plain (h.chars ch hch)).2.2,
    String.ofList_toList]

theorem setCookiePair_session (h : TokenText token) (secure : Bool) :
    setCookiePair (buildAdminSessionCookie token secure) = some (adminCookieName, token) := by
  have hattributes : "; HttpOnly; Max-Age=86400; Path=/admin; SameSite=Strict" =
      ";" ++ " HttpOnly; Max-Age=86400; Path=/admin; SameSite=Strict" := by decide +kernel
  have htext : buildAdminSessionCookie token secure = adminCookieName ++ "=" ++ token ++
      (";" ++ (" HttpOnly; Max-Age=86400; Path=/admin; SameSite=Strict" ++ secureAttribute secure)) := by
    rw [buildAdminSessionCookie, hattributes]
    simp only [String.append_assoc]
  rw [htext]
  exact setCookiePair_append (h.plain (by decide)) _

theorem setCookiePair_csrf (h : TokenText token) (secure : Bool) :
    setCookiePair (buildCsrfCookie token secure) = some (adminCsrfCookieName, token) := by
  have hattributes : "; Max-Age=86400; Path=/admin; SameSite=Strict" =
      ";" ++ " Max-Age=86400; Path=/admin; SameSite=Strict" := by decide +kernel
  have htext : buildCsrfCookie token secure = adminCsrfCookieName ++ "=" ++ token ++
      (";" ++ (" Max-Age=86400; Path=/admin; SameSite=Strict" ++ secureAttribute secure)) := by
    rw [buildCsrfCookie, hattributes]
    simp only [String.append_assoc]
  rw [htext]
  exact setCookiePair_append (h.plain (by decide)) _

theorem extractCookie_eq (headers : HeaderMap) (name : String) :
    extractCookie headers name = (headers.getStr "cookie").bind fun value => findCookie value name := rfl

/-- A cookie that the client has kept is found. -/
theorem SendsBack.extract {session : SessionResponse} (h : SendsBack session headers) {line : String}
    {cookie : String × String} (hline : line ∈ session.cookies)
    (hpair : setCookiePair line = some cookie) : extractCookie headers cookie.1 = some cookie.2 := by
  obtain ⟨kept, hplain, hheader, hkept⟩ := h.cookies
  rw [extractCookie_eq, hheader, Option.bind_some, findCookie_cookieHeader hplain]
  exact hkept line hline cookie hpair

end Cookies

/-! ## Accepting a session -/

section Accepting
variable {headers : HeaderMap} {db : Db} {secret token username : String} {claims : AdminClaims}

/-- What the check of a session comes to once its token has been found. -/
theorem admitted_iff (hc : c.SignsSessions) (htoken : extractAdminToken headers = some token)
    (hjwt : c.jwtEncode state.jwtSecret claims = .ok token) :
    Admitted c state amb headers db ↔ state.adminEnabled = true ∧ claims.Live (amb.now 0) ∧
      ∃ current, db.getAdminUser claims.sub = some current ∧ current.enabled = true ∧
        current.sessionVersion = claims.ver := by
  have hdecode := hc.decodes state.jwtSecret claims token (amb.now 0) hjwt
  have htrim : trim token = token := (hc.text _ _ _ hjwt).trim_eq
  unfold Admitted verifyAdmin validateAdminSession
  cases henabled : state.adminEnabled with
  | false => simp
  | true =>
    by_cases hlive : claims.Live (amb.now 0)
    · rw [if_pos hlive] at hdecode
      cases hfound : db.getAdminUser claims.sub with
      | none => simp [htoken, htrim, hdecode, DbCall.exec, hfound]
      | some user =>
        cases huser : user.enabled with
        | false => simp [htoken, htrim, hdecode, DbCall.exec, hfound, huser]
        | true =>
          by_cases hversion : claims.ver = user.sessionVersion
          · simp [htoken, htrim, hdecode, DbCall.exec, hfound, huser, hversion, hlive]
          · have hne : ¬ user.sessionVersion = claims.ver := fun heq => hversion heq.symm
            simp [htoken, htrim, hdecode, DbCall.exec, hfound, huser, hversion, hne]
    · rw [if_neg hlive] at hdecode
      simp [htoken, htrim, hdecode, hlive]

/-- With the CSRF token of its cookie in the header a request may change what it may see. -/
theorem mayManage_iff (hcookie : extractCookie headers adminCsrfCookieName = some token)
    (htoken : token ≠ "") (hheader : headers.getStr "x-csrf-token" = some token) :
    MayManage c state amb headers db ↔ Admitted c state amb headers db := by
  have hcsrf : verifyCsrf headers = .ok () := by
    rw [verifyCsrf, hcookie, hheader]
    simp [htoken]
  unfold MayManage Admitted verifyAdminMutation
  rw [hcsrf, alone_bind]
  cases hverified : (verifyAdmin c state headers (amb.now 0)).alone (DbCall.exec c) db with
  | mk result after => cases result <;> simp

/-- A session with the cookies of a token and of a CSRF token. -/
theorem sessionCounts_issued {session : SessionResponse} {user : AdminUserRecord} {secret jwt : String}
    {now : Instant} {secure : Bool} {rest : List String} (hc : c.SignsSessions)
    (hjwt : c.jwtEncode secret (issuedClaims user.username user.sessionVersion now) = .ok jwt)
    (hcookies : session.cookies = buildAdminSessionCookie jwt secure :: rest)
    (hcsrf : ∀ csrf, session.csrfToken = some csrf → TokenText csrf ∧ rest = [buildCsrfCookie csrf secure]) :
    SessionCounts c secret (issuedClaims user.username user.sessionVersion now) session user where
  admitted := by
    intro state amb headers db hsecret hback
    have hcookie := hback.extract (hcookies ▸ List.mem_cons_self)
      (setCookiePair_session (hc.text _ _ _ hjwt) secure)
    have hextract : extractAdminToken headers = some jwt := by
      rw [extractAdminToken, hcookie, Option.some_or]
    rw [← hsecret] at hjwt
    exact admitted_iff hc hextract hjwt
  manages := by
    intro state amb headers db csrf hback htokens hheader
    obtain ⟨htext, rfl⟩ := hcsrf csrf htokens
    have hmem : buildCsrfCookie csrf secure ∈ session.cookies := by
      rw [hcookies]
      simp
    exact mayManage_iff (hback.extract hmem (setCookiePair_csrf htext secure)) htext.nonempty hheader

end Accepting

/-! ## What an answer issues -/

abbrev sessionMonitor : Monitor databaseSignature := recording accountCall fun _ _ => True

/-- The answer carries a session for the account that the request has found and written back. -/
def Issues (c : Crates) (state : AppState) (amb : Ambient) (calls : RecordedCalls)
    (session : SessionResponse) : Prop :=
  ∃ username found user jwt secure rest,
    (⟨.getAdminUser username, .ok (some found)⟩ : databaseSignature.Call) ∈ calls ∧
    (⟨.setAdminUser user, .ok ()⟩ : databaseSignature.Call) ∈ calls ∧ user.username = found.username ∧
    c.jwtEncode state.jwtSecret (issuedClaims username user.sessionVersion (amb.now 3)) = .ok jwt ∧
    session.cookies = buildAdminSessionCookie jwt secure :: rest ∧
    ∀ csrf, session.csrfToken = some csrf → csrf = amb.newUuid 0 ∧ rest = [buildCsrfCookie csrf secure]

section Issuing
variable {r : Request} {calls : RecordedCalls}

theorem parseHeaderValue_eq {s value : String} (h : parseHeaderValue s = some value) : value = s := by
  unfold parseHeaderValue at h
  split at h
  · exact (Option.some.inj h).symm
  · cases h

theorem skip_unseen {α β : Type} {x : Handler α} {f : α → Handler β} {ok : RecordedCalls → β → Prop}
    (hx : Calls (fun call : DbCall => accountCall call = false) x)
    (hf : ∀ a, Triple sessionMonitor (f a) ok (fun _ _ => True) calls) :
    Triple sessionMonitor (x >>= f) ok (fun _ _ => True) calls :=
  .skip (Program.Calls.mono (fun _ => recording_ignores) hx) (raises_true _) (fun _ _ => trivial) hf

theorem skip_any {α β : Type} {x : Handler α} {f : α → Handler β} {ok : RecordedCalls → β → Prop}
    (hf : ∀ calls a, Triple sessionMonitor (f a) ok (fun _ _ => True) calls) :
    Triple sessionMonitor (x >>= f) ok (fun _ _ => True) calls := by
  rw [triple_bind]
  have hx : Calls (fun op => ∀ q, sessionMonitor.allow q op) x :=
    Program.Calls.mono (fun _ _ _ _ => trivial) (calls_true x)
  exact hx.triple_allowed hf fun _ _ => trivial

/-- The end of both handlers, behind the write of the account. -/
theorem jwt_issued {β : Type} {username : String} {version : Nat} {now : Instant} {f : String → Handler β}
    {ok : RecordedCalls → β → Prop}
    (hf : ∀ jwt, c.jwtEncode state.jwtSecret (issuedClaims username version now) = .ok jwt →
      Triple sessionMonitor (f jwt) ok (fun _ _ => True) calls) :
    Triple sessionMonitor (createAdminJwtForUser c state username version now >>= f) ok
      (fun _ _ => True) calls := by
  rw [triple_bind, createAdminJwtForUser, triple_liftResult]
  refine ⟨fun jwt hjwt => hf jwt ?_, fun _ _ => trivial⟩
  cases hencode : c.jwtEncode state.jwtSecret (issuedClaims username version now) with
  | ok token =>
    change (c.jwtEncode state.jwtSecret (issuedClaims username version now)).mapError _ = _ at hjwt
    rw [hencode] at hjwt
    exact congrArg Except.ok (Except.ok.inj hjwt)
  | error e =>
    change (c.jwtEncode state.jwtSecret (issuedClaims username version now)).mapError _ = _ at hjwt
    rw [hencode] at hjwt
    cases hjwt

theorem adminLogin_issues {peer : IpAddr} {headers : HeaderMap} {body : LoginRequest} :
    Triple sessionMonitor (adminLogin c state amb peer headers body) (Issues c state amb)
      (fun _ _ => True) [] := by
  unfold adminLogin
  refine skip_any fun calls _ => skip_any fun calls _ => ?_
  rw [triple_bind, triple_db]
  refine ⟨fun _ => trivial, fun found => ?_, fun _ => trivial⟩
  cases found with
  | none => exact skip_any fun _ _ => trivial
  | some found =>
    dsimp only
    change Triple _ (ite _ _ _) _ _ _
    split
    · exact skip_any fun _ _ => skip_any fun _ _ => trivial
    · refine skip_unseen (by simp [clearLoginFailures, accountCall]) fun _ => ?_
      rw [triple_bind, triple_db]
      refine ⟨fun _ => trivial, fun _ => ?_, fun _ => trivial⟩
      refine jwt_issued fun jwt hjwt => ?_
      rw [triple_bind, triple_okOr]
      refine ⟨fun cookie hcookie => ?_, fun _ => trivial⟩
      rw [triple_bind, triple_okOr]
      refine ⟨fun csrfCookie hcsrf => ?_, fun _ => trivial⟩
      obtain rfl := parseHeaderValue_eq hcookie
      obtain rfl := parseHeaderValue_eq hcsrf
      refine ⟨loginUsername body, found, loggedIn found _ _ _, jwt, _, _, ?_, ?_, rfl, hjwt, rfl, ?_⟩
      · exact List.mem_append_left _ (List.mem_append_right _ (List.mem_singleton_self _))
      · exact List.mem_append_right _ (List.mem_singleton_self _)
      · rintro csrf ⟨⟩
        exact ⟨rfl, rfl⟩

theorem adminChangeOwnPassword_issues {headers : HeaderMap} {body : ChangeOwnPasswordRequest} :
    Triple sessionMonitor (adminChangeOwnPassword c state amb headers body) (Issues c state amb)
      (fun _ _ => True) [] := by
  unfold adminChangeOwnPassword
  refine skip_any fun calls _ => skip_any fun calls _ => skip_any fun calls username =>
    skip_any fun calls _ => ?_
  rw [triple_bind, triple_db]
  refine ⟨fun _ => trivial, fun found => ?_, fun _ => trivial⟩
  rw [triple_bind, triple_okOr]
  refine ⟨?_, fun _ => trivial⟩
  rintro found rfl
  change Triple _ (ite _ _ _) _ _ _
  split
  · exact skip_any fun _ _ => trivial
  · refine skip_unseen (by simp [hashAdminPassword]) fun passwordHash => ?_
    rw [triple_bind, triple_db]
    refine ⟨fun _ => trivial, fun _ => ?_, fun _ => trivial⟩
    refine jwt_issued fun jwt hjwt => ?_
    rw [triple_bind, triple_okOr]
    refine ⟨fun cookie hcookie => ?_, fun _ => trivial⟩
    obtain rfl := parseHeaderValue_eq hcookie
    refine ⟨username, found, passwordChanged found passwordHash _, jwt, _, _, ?_, ?_, rfl, hjwt, rfl, ?_⟩
    · exact List.mem_append_left _ (List.mem_append_right _ (List.mem_singleton_self _))
    · exact List.mem_append_right _ (List.mem_singleton_self _)
    · intro csrf hcsrf
      cases hcsrf

/-- No other request answers with a session. -/
theorem handle_issues : (handle c state amb r).run.Obeys sessionMonitor
    (fun calls answer => ∀ session, answer = .ok (.session session) → Issues c state amb calls session)
    [] := by
  obtain ⟨endpoint, peer, headers⟩ := r
  have hissues : ∀ {x : Handler SessionResponse},
      Triple sessionMonitor x (Issues c state amb) (fun _ _ => True) [] →
      (x >>= fun session => pure (Response.session session)).run.Obeys sessionMonitor
        (fun calls answer => ∀ session, answer = .ok (.session session) →
          Issues c state amb calls session) [] := by
    intro x h
    refine obeys_wrapped h (fun _ _ h session heq => ?_) fun _ _ _ session heq => ?_
    · cases heq
      exact h
    · cases heq
  have hother : ∀ {α : Type} {x : Handler α} {f : α → Response}, (∀ a session, f a ≠ .session session) →
      (x >>= fun a => pure (f a)).run.Obeys sessionMonitor
        (fun calls answer => ∀ session, answer = .ok (.session session) →
          Issues c state amb calls session) [] := by
    intro α x f hf
    have hcalls : Calls (fun op => ∀ q, sessionMonitor.allow q op) x :=
      Program.Calls.mono (fun _ _ _ _ => trivial) (calls_true x)
    have hx : Triple sessionMonitor x (fun _ _ => True) (fun _ _ => True) [] :=
      hcalls.triple_allowed (fun _ _ => trivial) fun _ _ => trivial
    refine obeys_wrapped hx (fun _ a _ session heq => ?_) fun _ _ _ session heq => ?_
    · exact absurd (Except.ok.inj heq) (hf a session)
    · cases heq
  cases endpoint with
  | adminLogin => exact hissues adminLogin_issues
  | adminChangeOwnPassword => exact hissues adminChangeOwnPassword_issues
  | _ => exact hother fun _ _ => Response.noConfusion

end Issuing

/-! ## Runs -/

/-- Identifiers are texts of hexadecimal digits and dashes. -/
def Traffic.UuidTexts (t : Traffic) : Prop := ∀ i k, TokenText ((t.ambient i).newUuid k)

section Run
variable {t : Traffic} {start s : Db} {log : List DbEvent} {ps : Nat → Program databaseSignature Answer}
  {i : Nat} {session : SessionResponse}

theorem session_of_named (hc : c.SignsSessions) (huuids : t.UuidTexts) (hstart : AccountsNamed start)
    (hrun : ServerRun c state t start log s ps) (hi : ps i = .ret (.ok (.session session))) :
    ∃ e ∈ log, e.tid = i ∧ ∃ user, e.call = ⟨.setAdminUser user, .ok ()⟩ ∧
      SessionCounts c state.jwtSecret
        (issuedClaims user.username user.sessionVersion ((t.ambient i).now 3)) session user := by
  obtain ⟨username, found, user, jwt, secure, rest, hread, hwritten, hname, hjwt, hcookies, hcsrf⟩ :=
    hrun.concluded hi handle_issues session rfl
  obtain ⟨e, he, htid, _, hcall⟩ := mem_ownCalls.mp hwritten
  obtain ⟨e', he', _, _, hcall'⟩ := mem_ownCalls.mp hread
  -- The account was found under its own name.
  have hnamed : AccountsNamed e'.pre := by
    have hkept := hrun.linked.kept hstart fun before e after hsplit hpre =>
      accountsNamed_effect (hrun.linked.effect (e := e) (by simp [hsplit])) hpre
    exact (hkept e' he').1
  obtain rfl : found.username = username :=
    hnamed username found (replied (hrun.linked.effect he') hcall')
  refine ⟨e, he, htid, user, hcall, ?_⟩
  rw [← hname] at hjwt
  refine sessionCounts_issued hc hjwt hcookies fun csrf hsome => ?_
  obtain ⟨rfl, hrest⟩ := hcsrf csrf hsome
  exact ⟨huuids i 0, hrest⟩

/-- In a run, an answer with a session comes from a request that has written the account the session
is for, and the session counts as long as this account stands. -/
theorem session_counts (hc : c.SignsSessions) (huuids : t.UuidTexts) (hstart : Reachable c start)
    (hrun : ServerRun c state t start log s ps) (hi : ps i = .ret (.ok (.session session))) :
    ∃ e ∈ log, e.tid = i ∧ ∃ user, e.call = ⟨.setAdminUser user, .ok ()⟩ ∧
      SessionCounts c state.jwtSecret
        (issuedClaims user.username user.sessionVersion ((t.ambient i).now 3)) session user :=
  session_of_named hc huuids hstart.accountsNamed hrun hi

end Run

/-! A login on a new database. -/

def sessionCrates : Crates :=
  { freshCrates with
    jwtDecode := fun _ token now =>
      if token = adminJwt ∧ adminClaims.Live now then some adminClaims else none }

theorem signsSessions_sessionCrates : sessionCrates.SignsSessions := by
  have hissued : ∀ secret claims token, sessionCrates.jwtEncode secret claims = .ok token →
      claims = adminClaims ∧ token = adminJwt := by
    intro secret claims token h
    simp only [sessionCrates, freshCrates, CrateTables.crates, freshTables, panelTables,
      List.lookup_cons, List.lookup_nil] at h
    by_cases hclaims : claims = adminClaims
    · simp only [hclaims, beq_self_eq_true] at h
      exact ⟨hclaims, (Except.ok.inj h).symm⟩
    · simp [beq_false_of_ne hclaims] at h
  constructor
  · intro secret claims token h
    obtain ⟨rfl, rfl⟩ := hissued secret claims token h
    have htext : (Rust.chars adminJwt).all isTokenChar = true := by decide +kernel
    refine ⟨by decide +kernel, fun ch hch => ?_⟩
    exact List.all_eq_true.mp htext ch (chars_eq adminJwt ▸ hch)
  · intro secret claims token now h
    obtain ⟨rfl, rfl⟩ := hissued secret claims token h
    simp [sessionCrates]

theorem tokenText_numberedUuid (i k : Nat) : TokenText (numberedUuid i k) := by
  constructor
  · intro h
    have hempty := congrArg String.toList h
    simp [numberedUuid] at hempty
  · intro ch hch
    simp only [numberedUuid, String.toList_ofList, List.mem_append, List.mem_cons, List.mem_replicate] at hch
    rcases hch with ⟨_, rfl⟩ | rfl | ⟨_, rfl⟩ <;> decide

def sessionStart : Db :=
  ((bootstrapAdmin sessionCrates (numberedAmbient (fun _ => "abcdefghijklmnopqrstuu") 0) "admin"
    adminPassword).run.run (DbCall.exec sessionCrates) {}).2

def loginTraffic : Traffic := Traffic.ofList
  [{ endpoint := .adminLogin { username := none, password := adminPassword }
     peer := "127.0.0.1"
     headers := [] }]

def playLogin (schedule : List (Nat × Option String)) :=
  play (S := databaseSignature) (DbCall.exec sessionCrates) schedule sessionStart
    (loginTraffic.program sessionCrates freshState)

theorem playLogin_run (schedule : List (Nat × Option String)) :
    ServerRun sessionCrates freshState loginTraffic sessionStart (playLogin schedule).1
      (playLogin schedule).2.1 (playLogin schedule).2.2 := play_run _ _ _ _

def loginSession : SessionResponse where
  jwt := adminJwt
  cookies := [buildAdminSessionCookie adminJwt false, buildCsrfCookie (numberedUuid 0 0) false]
  csrfToken := some (numberedUuid 0 0)
  user := none

/-- The session that request `i` has been answered with. -/
def sessionAnswered (ps : Nat → Program databaseSignature Answer) (i : Nat) : Option SessionResponse :=
  match (ps i).answer with
  | some (.ok (.session session)) => some session
  | _ => none

theorem ret_of_sessionAnswered {ps : Nat → Program databaseSignature Answer} {i : Nat}
    {session : SessionResponse} (h : sessionAnswered ps i = some session) :
    ps i = .ret (.ok (.session session)) := by
  unfold sessionAnswered at h
  split at h
  · next answered hanswer =>
    rw [Program.answer_eq_some.mp hanswer, Option.some.inj h]
  · cases h

set_option maxRecDepth 10000 in
theorem session_counts_login :
    sessionAnswered (playLogin (inTurn 1)).2.2 0 = some loginSession ∧
      ∃ e ∈ (playLogin (inTurn 1)).1, e.tid = 0 ∧ ∃ user, e.call = ⟨.setAdminUser user, .ok ()⟩ ∧
        SessionCounts sessionCrates "jwt-secret" (issuedClaims user.username user.sessionVersion 0)
          loginSession user := by
  have hanswer : sessionAnswered (playLogin (inTurn 1)).2.2 0 = some loginSession := by decide +kernel
  exact ⟨hanswer, session_counts signsSessions_sessionCrates (fun i k => tokenText_numberedUuid i k)
    (.started _ _ _ .created) (playLogin_run _) (ret_of_sessionAnswered hanswer)⟩

end CloudSync
