import CloudSync.Scenario
import CloudSync.Serial
import CloudSync.TokenWrites

/-!
# Scenarios with a short session token

The panel makes nothing of a session token but the claims it stands for. A scenario
therefore runs as it does with a token of one letter, and is evaluated with that.
-/

namespace CloudSync

open Rust Transactions Transactions.Fallible

set_option autoImplicit false

/-- The endpoints of the panel behind the login. -/
def Endpoint.needsSession : Endpoint → Bool
  | .adminLogin _ => false
  | endpoint => !endpoint.isSync

theorem Endpoint.needsSession_of_sync {endpoint : Endpoint} (h : endpoint.isSync = true) :
    endpoint.needsSession = false := by
  cases endpoint <;> first | rfl | cases h

def shortJwt : String := "s"

/-- The crates with one session token, that of `admin`. -/
def Crates.shortened (c : Crates) : Crates :=
  { c with jwtDecode := fun _ token _ => if token = shortJwt then some adminClaims else none }

/-- Cookies come first in the requests that have any. -/
def Request.shortened (r : Request) : Request :=
  if (r.headers.head?.map Prod.fst == some "cookie") then sessionRequest shortJwt r.endpoint else r

def Traffic.shortened (t : Traffic) : Traffic := { t with request := fun i => (t.request i).shortened }

/-- The session of the scenarios is known. -/
def Crates.KnowsAdmin (c : Crates) : Prop :=
  ∀ secret now, c.jwtDecode secret adminJwt now = some adminClaims

/-- The requests of a scenario: with the session, without any header, or with no need of a session. -/
inductive Scripted : Request → Prop where
  | panel (endpoint : Endpoint) (h : endpoint.needsSession = true) : Scripted (panelRequest endpoint)
  | bare (r : Request) (h : r.headers = []) : Scripted r
  | free (r : Request) (h : r.endpoint.needsSession = false)
      (hcookie : (r.headers.head?.map Prod.fst == some "cookie") = false) : Scripted r

variable {c : Crates} {state : AppState} {amb : Ambient} {h h' : HeaderMap}

theorem exec_shortened : DbCall.exec c.shortened = DbCall.exec c := by
  funext call db
  cases call <;> rfl

/-- The two headers are alike to the panel. -/
structure SameSession (c : Crates) (state : AppState) (h h' : HeaderMap) : Prop where
  session : ∀ now, validateAdminSession c state h now = validateAdminSession c.shortened state h' now
  csrf : verifyCsrf h = verifyCsrf h'
  secure : effectiveAdminCookieSecure state h = effectiveAdminCookieSecure state h'

theorem SameSession.verifyAdmin (hs : SameSession c state h h') (now : Instant) :
    verifyAdmin c state h now = verifyAdmin c.shortened state h' now := by
  rw [CloudSync.verifyAdmin, hs.session]
  rfl

theorem SameSession.verifyAdminMutation (hs : SameSession c state h h') (now : Instant) :
    verifyAdminMutation c state h now = verifyAdminMutation c.shortened state h' now := by
  rw [CloudSync.verifyAdminMutation, hs.verifyAdmin, hs.csrf]
  rfl

/-- Every handler behind the login is the same with both. -/
theorem SameSession.handle (hs : SameSession c state h h') {endpoint : Endpoint} {peer : IpAddr}
    (hpanel : endpoint.needsSession = true) :
    handle c state amb ⟨endpoint, peer, h⟩ = handle c.shortened state amb ⟨endpoint, peer, h'⟩ := by
  cases endpoint with
  | adminListUsers | adminListDevices | adminListConflicts =>
    simp only [CloudSync.handle, adminListUsers, adminListDevices, adminListConflicts, hs.verifyAdmin]
  | adminListNamespaces | adminListTokens | adminStats =>
    simp only [CloudSync.handle, adminListNamespaces, adminListTokens, adminStats, hs.verifyAdmin]
    rfl
  | adminLogout =>
    simp only [CloudSync.handle, adminLogout, hs.verifyAdminMutation, hs.secure]
  | adminCurrentUser =>
    simp only [CloudSync.handle, adminCurrentUser, hs.session]
  | adminChangeOwnPassword =>
    simp only [CloudSync.handle, adminChangeOwnPassword, hs.verifyAdminMutation, hs.session, hs.secure]
    rfl
  | adminCreateUser | adminUpdateUser =>
    simp only [CloudSync.handle, adminCreateUser, adminUpdateUser, hs.verifyAdminMutation, hs.session]
    rfl
  | adminDeleteUser =>
    simp only [CloudSync.handle, adminDeleteUser, hs.verifyAdminMutation, hs.session]
  | adminCreateNamespace | adminDeleteNamespace | adminRestoreNamespace =>
    simp only [CloudSync.handle, adminCreateNamespace, adminDeleteNamespace, adminRestoreNamespace,
      hs.verifyAdminMutation]
    rfl
  | adminCreateToken | adminUpdateToken | adminRotateToken | adminRevealToken | adminDeleteToken =>
    simp only [CloudSync.handle, adminCreateToken, adminUpdateToken, adminRotateToken,
      adminRevealToken, adminDeleteToken, hs.verifyAdminMutation]
    rfl
  | adminCreateDevice | adminUpdateDevice =>
    simp only [CloudSync.handle, adminCreateDevice, adminUpdateDevice, hs.verifyAdminMutation]
    rfl
  | adminDeleteDevice =>
    simp only [CloudSync.handle, adminDeleteDevice, hs.verifyAdminMutation]
  | _ => cases hpanel

/-- Where no session is wanted, no token is decoded. -/
theorem handle_shortened_free {r : Request} (hfree : r.endpoint.needsSession = false) :
    handle c state amb r = handle c.shortened state amb r := by
  obtain ⟨endpoint, peer, headers⟩ := r
  cases endpoint with
  | adminLogin | getMetadata | putMetadata | getBlob | putBlob => rfl
  | listObjects | deleteObject | getObject | putObject => rfl
  | _ => cases hfree

/-! ## The tokens -/

def longHeaders : HeaderMap := (panelRequest .adminLogout).headers

def shortHeaders : HeaderMap := (sessionRequest shortJwt .adminLogout).headers

set_option maxRecDepth 10000 in
theorem longHeaders_cookies : extractAdminToken longHeaders = some adminJwt ∧
    extractCookie longHeaders adminCsrfCookieName = some "csrf" ∧ trim adminJwt = adminJwt := by
  decide +kernel

theorem shortHeaders_cookies : extractAdminToken shortHeaders = some shortJwt ∧
    extractCookie shortHeaders adminCsrfCookieName = some "csrf" ∧ trim shortJwt = shortJwt := by
  decide +kernel

theorem getStr_long {name : String} (hname : (name == "cookie") = false) :
    longHeaders.getStr name = shortHeaders.getStr name := by
  have hrest (jwt : String) : (sessionRequest jwt .adminLogout).headers.lookup name =
      [("x-csrf-token", asBytes "csrf")].lookup name := by
    rw [sessionRequest, List.lookup, hname]
  rw [HeaderMap.getStr, HeaderMap.getStr, longHeaders, shortHeaders, panelRequest, hrest, hrest]

theorem verifyCsrf_congr
    (hcookie : extractCookie h adminCsrfCookieName = extractCookie h' adminCsrfCookieName)
    (htoken : h.getStr "x-csrf-token" = h'.getStr "x-csrf-token") : verifyCsrf h = verifyCsrf h' := by
  rw [verifyCsrf, verifyCsrf, hcookie, htoken]

theorem sameSession_long (hc : c.KnowsAdmin) : SameSession c state longHeaders shortHeaders where
  session now := by
    have hlong : c.jwtDecode state.jwtSecret (trim adminJwt) now = some adminClaims := by
      rw [longHeaders_cookies.2.2, hc]
    have hshort : c.shortened.jwtDecode state.jwtSecret (trim shortJwt) now = some adminClaims := by
      rw [shortHeaders_cookies.2.2]
      rfl
    have hfound : ∀ {α : Type} (a : α) (e : AppError), (okOr (some a) e : Handler α) = pure a :=
      fun _ _ => rfl
    simp only [validateAdminSession, longHeaders_cookies.1, shortHeaders_cookies.1, hfound, pure_bind,
      hlong, hshort]
  csrf := verifyCsrf_congr (longHeaders_cookies.2.1.trans shortHeaders_cookies.2.1.symm)
    (getStr_long (by decide))
  secure := by
    rw [effectiveAdminCookieSecure, effectiveAdminCookieSecure, requestUsesHttps, requestUsesHttps,
      getStr_long (by decide)]

/-- The headers do not depend on what is asked for. -/
theorem sameSession_panel (hc : c.KnowsAdmin) (endpoint : Endpoint) :
    SameSession c state (panelRequest endpoint).headers (sessionRequest shortJwt endpoint).headers :=
  sameSession_long hc

theorem shortened_panel (endpoint : Endpoint) :
    (panelRequest endpoint).shortened = sessionRequest shortJwt endpoint := by
  simp [Request.shortened, panelRequest, sessionRequest]

theorem sameSession_bare : SameSession c state [] [] where
  session now := by
    have hnone : extractAdminToken [] = none := rfl
    have hstop : ∀ (next : String → Handler String) (e : AppError), (okOr none e >>= next) = throw e :=
      fun _ _ => rfl
    simp only [validateAdminSession, hnone, hstop]
  csrf := rfl
  secure := rfl

/-- The requests of a scenario are handled as with the short token. -/
theorem handle_shortened (hc : c.KnowsAdmin) {r : Request} (hr : Scripted r) :
    handle c state amb r = handle c.shortened state amb r.shortened := by
  cases hr with
  | panel endpoint h =>
    rw [shortened_panel]
    exact (sameSession_panel hc endpoint).handle h
  | bare r h =>
    obtain ⟨endpoint, peer, headers⟩ := r
    obtain rfl : headers = [] := h
    cases hpanel : endpoint.needsSession with
    | true => exact sameSession_bare.handle hpanel
    | false => exact handle_shortened_free hpanel
  | free r h hcookie =>
    rw [handle_shortened_free h, Request.shortened, hcookie]
    rfl

theorem Scripted.client (endpoint : Endpoint) (headers : List (String × String))
    (h : endpoint.needsSession = false) : Scripted (clientRequest endpoint headers) := .free _ h rfl

theorem Scripted.only {r : Request} (h : Scripted r) : [r].Forall Scripted := h

theorem program_shortened (hc : c.KnowsAdmin) {t : Traffic} (ht : ∀ i, Scripted (t.request i)) :
    t.program c state = t.shortened.program c.shortened state := by
  funext i
  exact congrArg ExceptT.run (handle_shortened hc (ht i))

theorem scripted_ofList {requests : List Request} (h : requests.Forall Scripted) (i : Nat) :
    Scripted ((Traffic.ofList requests).request i) := by
  change Scripted (requests.getD i idleRequest)
  rw [List.getD_eq_getElem?_getD]
  cases hi : requests[i]? with
  | none => exact .bare idleRequest rfl
  | some r => exact List.forall_iff_forall_mem.mp h r (List.mem_of_getElem? hi)

/-- The run with the short token. -/
def playShortened (c : Crates) (state : AppState) (t : Traffic) (s : Db)
    (schedule : List (Nat × Option String)) :=
  play (S := databaseSignature) (DbCall.exec c.shortened) schedule s
    (t.shortened.program c.shortened state)

/-- A run of a scenario can be evaluated with the short token. -/
theorem play_shortened (hc : c.KnowsAdmin) {requests : List Request} (h : requests.Forall Scripted)
    (schedule : List (Nat × Option String)) (s : Db) :
    play (S := databaseSignature) (DbCall.exec c) schedule s ((Traffic.ofList requests).program c state) =
      playShortened c state (Traffic.ofList requests) s schedule := by
  rw [playShortened, program_shortened hc (scripted_ofList h), exec_shortened]

theorem serve_shortened (hc : c.KnowsAdmin) {r : Request} (hr : Scripted r) (s : Db) :
    serve c state amb r s = serve c.shortened state amb r.shortened s := by
  rw [serve, serve, handle_shortened hc hr, exec_shortened]

theorem serveAll_shortened (hc : c.KnowsAdmin) {requests : List (Ambient × Request)}
    (h : requests.Forall fun entry => Scripted entry.2) (s : Db) :
    serveAll c state requests s =
      serveAll c.shortened state (requests.map fun entry => (entry.1, entry.2.shortened)) s := by
  induction requests generalizing s with
  | nil => rfl
  | cons entry rest ih =>
    obtain ⟨hentry, hrest⟩ := (List.forall_cons _ _ _).mp h
    obtain ⟨amb, r⟩ := entry
    simp only [serveAll, List.map_cons, serve_shortened hc hentry, ih hrest]

theorem eachServed_shortened {K K' : Ambient → Request → Db → Prop} (hc : c.KnowsAdmin)
    (hK : ∀ amb r s, Scripted r → K' amb r.shortened s → K amb r s) {requests : List (Ambient × Request)}
    (h : requests.Forall fun entry => Scripted entry.2) {s : Db}
    (heach : EachServed c.shortened state K' (requests.map fun entry => (entry.1, entry.2.shortened)) s) :
    EachServed c state K requests s := by
  induction requests generalizing s with
  | nil => trivial
  | cons entry rest ih =>
    obtain ⟨hentry, hrest⟩ := (List.forall_cons _ _ _).mp h
    obtain ⟨amb, r⟩ := entry
    obtain ⟨hfirst, hlater⟩ := heach
    refine ⟨hK amb r s hentry hfirst, ?_⟩
    rw [serve_shortened hc hentry]
    exact ih hrest hlater

theorem knowsAdmin_panelCrates : panelCrates.KnowsAdmin := by
  intro secret now
  simp [panelCrates, CrateTables.crates, panelTables]

end CloudSync
