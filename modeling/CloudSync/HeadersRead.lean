import CloudSync.Reachable

/-!
# Headers that requests can be told apart by

Each route reads a fixed list of headers, and what a client sends in any other one is
without influence on the answers and on the database. The headers of a reverse proxy
are on the list only if the server is told to trust them.
-/

namespace CloudSync

open Rust Transactions Transactions.Fallible

set_option autoImplicit false

/-! ## The lists -/

/-- Where the client's address is looked up. -/
def AppState.addressHeaders (state : AppState) : List String :=
  if state.trustProxyHeaders then ["x-forwarded-for", "x-real-ip"] else []

/-- What decides whether cookies are marked as secure. -/
def AppState.schemeHeaders (state : AppState) : List String :=
  if state.trustProxyHeaders then ["x-forwarded-proto"] else []

def sessionHeaders : List String := ["cookie", "authorization"]

def AppState.tokenHeaders (state : AppState) : List String :=
  ["authorization", "x-oxideterm-client-version"] ++ state.addressHeaders

def uploadHeaders : List String :=
  ["if-match", "if-none-match", "x-oxideterm-revision", "x-oxideterm-device-id"]

def Endpoint.headersRead (state : AppState) : Endpoint → List String
  | .getMetadata _ | .putMetadata .. | .getBlob _ | .listObjects .. => state.tokenHeaders
  | .deleteObject .. | .getObject .. => state.tokenHeaders
  | .putBlob .. | .putObject .. => uploadHeaders ++ state.tokenHeaders
  | .adminLogin _ => state.addressHeaders ++ state.schemeHeaders
  | .adminLogout | .adminChangeOwnPassword _ => "x-csrf-token" :: sessionHeaders ++ state.schemeHeaders
  | .adminCurrentUser | .adminListUsers | .adminListNamespaces | .adminListTokens => sessionHeaders
  | .adminListDevices | .adminListConflicts | .adminStats => sessionHeaders
  | _ => "x-csrf-token" :: sessionHeaders

/-- The requests differ at most in headers that their route does not read. -/
structure SameHeadersRead (state : AppState) (r r' : Request) : Prop where
  endpoint : r'.endpoint = r.endpoint
  peer : r'.peer = r.peer
  headers : ∀ name ∈ r.endpoint.headersRead state, r'.headers.getStr name = r.headers.getStr name

variable {c : Crates} {state : AppState} {amb : Ambient}

/-! ## What reads them -/

section Readers
variable {headers headers' : HeaderMap}

/-- The headers give the same texts under these names. -/
def Agree (names : List String) (headers headers' : HeaderMap) : Prop :=
  ∀ name ∈ names, headers'.getStr name = headers.getStr name

theorem resolveClientIp_agree (h : Agree state.addressHeaders headers headers') (peer : IpAddr) :
    resolveClientIp c state headers' peer = resolveClientIp c state headers peer := by
  unfold resolveClientIp
  cases htrust : state.trustProxyHeaders with
  | false => rfl
  | true =>
    have hnames : state.addressHeaders = ["x-forwarded-for", "x-real-ip"] := by
      rw [AppState.addressHeaders, htrust, if_pos rfl]
    rw [h "x-forwarded-for" (by simp [hnames]), h "x-real-ip" (by simp [hnames])]

theorem effectiveAdminCookieSecure_agree (h : Agree state.schemeHeaders headers headers') :
    effectiveAdminCookieSecure state headers' = effectiveAdminCookieSecure state headers := by
  unfold effectiveAdminCookieSecure requestUsesHttps
  cases htrust : state.trustProxyHeaders with
  | false => rfl
  | true =>
    have hnames : state.schemeHeaders = ["x-forwarded-proto"] := by
      rw [AppState.schemeHeaders, htrust, if_pos rfl]
    rw [h "x-forwarded-proto" (by simp [hnames])]

theorem authorize_agree (h : Agree state.tokenHeaders headers headers') (ns : String)
    (permission : SyncPermission) (peer : IpAddr) :
    authorizeSyncRequestWithPermission c state amb headers' ns permission peer =
      authorizeSyncRequestWithPermission c state amb headers ns permission peer := by
  have hip : Agree state.addressHeaders headers headers' :=
    fun name hname => h name (List.mem_append_right _ hname)
  have htoken : presentedToken c headers' = presentedToken c headers := by
    unfold presentedToken
    rw [h "authorization" (by simp [AppState.tokenHeaders])]
  have hversion : syncClientVersion headers' = syncClientVersion headers := by
    unfold syncClientVersion
    rw [h "x-oxideterm-client-version" (by simp [AppState.tokenHeaders])]
  unfold authorizeSyncRequestWithPermission extractAuth
  rw [htoken, hversion, resolveClientIp_agree hip]

theorem validateAdminSession_agree (h : Agree sessionHeaders headers headers') (now : Instant) :
    validateAdminSession c state headers' now = validateAdminSession c state headers now := by
  have htoken : extractAdminToken headers' = extractAdminToken headers := by
    unfold extractAdminToken extractCookie
    rw [h "cookie" (by simp [sessionHeaders]), h "authorization" (by simp [sessionHeaders])]
  simp only [validateAdminSession, htoken]

theorem verifyAdminMutation_agree (h : Agree ("x-csrf-token" :: sessionHeaders) headers headers')
    (now : Instant) :
    verifyAdminMutation c state headers' now = verifyAdminMutation c state headers now := by
  have hsession : Agree sessionHeaders headers headers' := fun name hname => h name (by simp [hname])
  have hcsrf : verifyCsrf headers' = verifyCsrf headers := by
    unfold verifyCsrf extractCookie
    rw [h "cookie" (by simp [sessionHeaders]), h "x-csrf-token" (by simp)]
  simp only [verifyAdminMutation, verifyAdmin, validateAdminSession_agree hsession, hcsrf]

end Readers

/-! ## Requests -/

theorem handle_eq_of_same {r r' : Request} (h : SameHeadersRead state r r') :
    handle c state amb r' = handle c state amb r := by
  obtain ⟨endpoint, peer, headers⟩ := r
  obtain ⟨endpoint', peer', headers'⟩ := r'
  obtain ⟨rfl, rfl, hheaders⟩ := h
  have hread : Agree (endpoint'.headersRead state) headers headers' := hheaders
  have hsub : ∀ {names : List String}, (∀ name ∈ names, name ∈ endpoint'.headersRead state) →
      Agree names headers headers' := fun hnames name hname => hread name (hnames name hname)
  cases endpoint' with
  | getMetadata | putMetadata | getBlob | listObjects | deleteObject | getObject =>
    simp only [handle, getMetadata, putMetadata, getBlob, listObjects, deleteObject, getObject,
      authorize_agree hread]
  | putBlob | putObject =>
    have htoken : Agree state.tokenHeaders headers headers' :=
      hsub fun name hname => List.mem_append_right _ hname
    have hupload : ∀ name ∈ uploadHeaders, headers'.getStr name = headers.getStr name :=
      hsub fun name hname => List.mem_append_left _ hname
    simp only [uploadHeaders, List.forall_mem_cons, List.not_mem_nil, false_implies, implies_true,
      and_true] at hupload
    obtain ⟨hmatch, hnone, hrevision, hdevice⟩ := hupload
    simp only [handle, putBlob, putObject, authorize_agree htoken]
    rw [hmatch, hnone, hrevision, hdevice]
  | adminLogin =>
    have haddress : Agree state.addressHeaders headers headers' :=
      hsub fun name hname => List.mem_append_left _ hname
    have hscheme : Agree state.schemeHeaders headers headers' :=
      hsub fun name hname => List.mem_append_right _ hname
    simp only [handle, adminLogin]
    rw [resolveClientIp_agree haddress, effectiveAdminCookieSecure_agree hscheme]
  | adminLogout | adminChangeOwnPassword =>
    have hmutation : Agree ("x-csrf-token" :: sessionHeaders) headers headers' :=
      hsub fun name hname => List.mem_append_left _ hname
    have hsession : Agree sessionHeaders headers headers' :=
      fun name hname => hmutation name (List.mem_cons_of_mem _ hname)
    have hscheme : Agree state.schemeHeaders headers headers' :=
      hsub fun name hname => List.mem_append_right _ hname
    simp only [handle, adminLogout, adminChangeOwnPassword, verifyAdminMutation_agree hmutation,
      validateAdminSession_agree hsession, effectiveAdminCookieSecure_agree hscheme]
  | adminCurrentUser | adminListUsers | adminListNamespaces | adminListTokens | adminListDevices
  | adminListConflicts | adminStats =>
    simp only [handle, adminCurrentUser, adminListUsers, adminListNamespaces, adminListTokens,
      adminListDevices, adminListConflicts, adminStats, verifyAdmin, validateAdminSession_agree hread]
  | _ =>
    have hsession : Agree sessionHeaders headers headers' :=
      fun name hname => hread name (List.mem_cons_of_mem _ hname)
    simp only [handle, adminCreateUser, adminUpdateUser, adminDeleteUser, adminCreateNamespace,
      adminDeleteNamespace, adminRestoreNamespace, adminCreateToken, adminUpdateToken,
      adminRotateToken, adminRevealToken, adminDeleteToken, adminCreateDevice, adminUpdateDevice,
      adminDeleteDevice, verifyAdminMutation_agree hread, validateAdminSession_agree hsession]

/-- Traffic that differs in other headers only has the same runs. -/
theorem runs_of_headersRead {t t' : Traffic} (hambient : t'.ambient = t.ambient)
    (hsame : ∀ i, SameHeadersRead state (t.request i) (t'.request i)) (start s : Db)
    (log : List DbEvent) (ps : Nat → Program databaseSignature Answer) :
    ServerRun c state t' start log s ps ↔ ServerRun c state t start log s ps := by
  have hprogram : t'.program c state = t.program c state := by
    funext i
    unfold Traffic.program
    rw [hambient, handle_eq_of_same (hsame i)]
  unfold ServerRun
  rw [hprogram]

/-! A login with an address that the client has made up. -/

def guessedLogin (headers : HeaderMap) : Request where
  endpoint := .adminLogin { username := none, password := "guess" }
  peer := "127.0.0.1"
  headers := headers

def forgedHeaders : HeaderMap :=
  [("x-forwarded-for", asBytes "10.0.0.1"), ("x-forwarded-proto", asBytes "https")]

theorem runs_of_headersRead_forged :
    ServerRun freshCrates freshState (Traffic.ofList [guessedLogin forgedHeaders]) freshDb
      (playFresh [guessedLogin []] (inTurn 1)).1 (playFresh [guessedLogin []] (inTurn 1)).2.1
      (playFresh [guessedLogin []] (inTurn 1)).2.2 := by
  have hsame : ∀ i, SameHeadersRead freshState ((Traffic.ofList [guessedLogin []]).request i)
      ((Traffic.ofList [guessedLogin forgedHeaders]).request i) := by
    intro i
    cases i with
    | zero =>
      refine ⟨rfl, rfl, fun name hname => ?_⟩
      cases hname
    | succ i => exact ⟨rfl, rfl, fun _ _ => rfl⟩
  have hruns : ∀ start s log ps,
      ServerRun freshCrates freshState (Traffic.ofList [guessedLogin forgedHeaders]) start log s ps ↔
        ServerRun freshCrates freshState (Traffic.ofList [guessedLogin []]) start log s ps :=
    runs_of_headersRead rfl hsame
  exact (hruns _ _ _ _).mpr (playFresh_run _ _)

end CloudSync
