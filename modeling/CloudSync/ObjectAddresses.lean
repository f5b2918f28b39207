import CloudSync.StoreRefinement

/-!
# The addresses of listed objects

A client that encodes a listed path once asks for the path itself: the router decodes the URL
and the handlers decode what the router found once more. They meet the object that the client
saw if there was nothing left to decode.
-/

namespace CloudSync

open Rust Redb Transactions Transactions.Fallible

set_option autoImplicit false

variable {c : Crates} {state : AppState} {amb : Ambient}

/-! ## From the client to the handler -/

/-- The path as a client writes it into a URL. -/
def objectUrl (path : String) : Bytes := percentEncode (asBytes path)

/-- What the router hands over: the captured text, decoded once. -/
def routerPath (captured : Bytes) : Option String := fromUtf8 (percentDecode captured)

theorem routerPath_objectUrl (path : String) : routerPath (objectUrl path) = some path := by
  rw [routerPath, objectUrl, percentDecode_percentEncode, fromUtf8_asBytes]

/-! ## Behind the authorization -/

section Handlers
variable {ns rawNs path rawPath : String} {db : Db} {headers : HeaderMap} {peer : IpAddr}

theorem samePayload_withUsage (permission : SyncPermission) (token : ApiToken) :
    SamePayload db (withUsage c state amb headers ns permission peer token db) := by
  unfold withUsage
  split
  · obtain ⟨tokens, devices, h⟩ := db.recordTokenUsage_eq token.id ns permission.asStr
      (resolveClientIp c state headers peer) (syncClientVersion headers) (c.toRfc3339 (amb.now 1))
    rw [h]
    exact ⟨rfl, rfl, rfl, rfl⟩
  · exact ⟨rfl, rfl, rfl, rfl⟩

/-- A request that is let in goes on with the payload tables as they are. -/
theorem leaves_sync {α : Type} {permission : SyncPermission} {x : String → ApiToken → Handler α}
    {ok : α → Db → Prop} {err : AppError → Db → Prop} (hns : decodeNamespace c rawNs = .ok ns)
    (hactive : db.isNamespaceDeleted ns = false) (hgranted : Granted c amb headers ns permission db)
    (hx : ∀ token db', SamePayload db db' → Leaves (DbCall.exec c) (x ns token) db' ok err) :
    Leaves (DbCall.exec c) (do
      let ns ← liftResult (decodeNamespace c rawNs)
      let token ← authorizeSyncRequestWithPermission c state amb headers ns permission peer
      x ns token) db ok err := by
  obtain ⟨token, htoken, hcheck⟩ := hgranted
  rw [hns, leaves_bind, leaves_liftResult]
  refine ⟨fun ns' hns' => ?_, fun e he => by cases he⟩
  obtain rfl := Except.ok.inj hns'
  rw [leaves_bind]
  unfold Leaves
  rw [alone_authorize, hactive, htoken]
  simp only [hcheck, Bool.false_eq_true, if_false]
  exact hx token _ (samePayload_withUsage _ _)

/-- The answer and the database behind a request whose handler leaves this. -/
theorem serve_leaves {α : Type} {r : Request} {wrap : α → Response} {x : Handler α} {ok : α → Db → Prop}
    {err : AppError → Db → Prop} (hhandle : handle c state amb r = (do return wrap (← x)))
    (h : Leaves (DbCall.exec c) x db ok err) :
    (∀ response, (serve c state amb r db).1 = .ok response →
        ∃ a, response = wrap a ∧ ok a (serve c state amb r db).2) ∧
      ∀ e, (serve c state amb r db).1 = .error e → err e (serve c state amb r db).2 := by
  have hserve : serve c state amb r db = (do return wrap (← x) : Handler Response).alone (DbCall.exec c) db := by
    rw [serve, hhandle]
  rw [hserve, alone_bind]
  unfold Leaves at h
  generalize x.alone (DbCall.exec c) db = out at h ⊢
  obtain ⟨e | a, db'⟩ := out
  · refine ⟨fun response hanswer => (by cases hanswer), fun e' he => ?_⟩
    obtain rfl := Except.error.inj he
    exact h
  · exact ⟨fun response hanswer => ⟨a, (Except.ok.inj hanswer).symm, h⟩, fun e' he => (by cases he)⟩

/-- What `get_object` makes of the rows of the path. -/
def objectAt (c : Crates) (state : AppState) (ns path : String) (db : Db) : Answer :=
  match db.getObject ns path with
  | none => .ok (.object none)
  | some encrypted =>
    match decryptIfNeeded c state encrypted with
    | .error e => .error e
    | .ok body => .ok (.object (some
        { contentType := contentTypeOf path
          etag := (db.getObjectMetadata ns path).bind fun m => parseHeaderValue m.etag
          body := body }))

theorem SamePayload.objectRow {db' : Db} (h : SamePayload db db') (key : String) :
    db'.objectRow key = db.objectRow key := by
  rw [Db.objectRow, Db.objectRow, h.objects, h.objectMetadata]

theorem objectAt_congr {db' : Db} (h : db'.objectRow (objectKey ns path) = db.objectRow (objectKey ns path)) :
    objectAt c state ns path db' = objectAt c state ns path db := by
  have hobject : db'.getObject ns path = db.getObject ns path := congrArg Prod.fst h
  have hmeta : db'.getObjectMetadata ns path = db.getObjectMetadata ns path := congrArg Prod.snd h
  rw [objectAt, objectAt, hobject, hmeta]

theorem serve_getObject (hns : decodeNamespace c rawNs = .ok ns) (hactive : db.isNamespaceDeleted ns = false)
    (hgranted : Granted c amb headers ns .read db) (hpath : decodeObjectPath rawPath = .ok path) :
    (serve c state amb ⟨.getObject rawNs rawPath, peer, headers⟩ db).1 = objectAt c state ns path db := by
  have hleaves : Leaves (DbCall.exec c) (getObject c state amb rawNs rawPath peer headers) db
      (fun found _ => objectAt c state ns path db = .ok (.object found))
      fun e _ => objectAt c state ns path db = .error e := by
    refine leaves_sync hns hactive hgranted fun token db' hsame => ?_
    rw [← objectAt_congr (hsame.objectRow _), hpath, leaves_bind, leaves_liftResult]
    refine ⟨fun path' hpath' => ?_, fun e he => by cases he⟩
    obtain rfl := Except.ok.inj hpath'
    rw [leaves_bind, leaves_db]
    unfold objectAt
    simp only [DbCall.exec]
    cases db'.getObject ns path with
    | none => exact leaves_pure.mpr rfl
    | some encrypted =>
      dsimp only
      rw [leaves_bind, leaves_liftResult]
      refine ⟨fun body hbody => ?_, fun e he => ?_⟩
      · rw [hbody]
        rfl
      · rw [he]
  have hanswers := serve_leaves (r := ⟨.getObject rawNs rawPath, peer, headers⟩) rfl hleaves
  cases hout : (serve c state amb ⟨.getObject rawNs rawPath, peer, headers⟩ db).1 with
  | error e => exact (hanswers.2 e hout).symm
  | ok response =>
    obtain ⟨found, rfl, hfound⟩ := hanswers.1 response hout
    exact hfound.symm

/-- `delete_object` removes both rows of the path. -/
theorem serve_deleteObject (hns : decodeNamespace c rawNs = .ok ns)
    (hactive : db.isNamespaceDeleted ns = false) (hgranted : Granted c amb headers ns .write db)
    (hpath : decodeObjectPath rawPath = .ok path) :
    (serve c state amb ⟨.deleteObject rawNs rawPath, peer, headers⟩ db).1 = .ok .done ∧
      (serve c state amb ⟨.deleteObject rawNs rawPath, peer, headers⟩ db).2.objectRow (objectKey ns path) =
        (none, none) := by
  have hleaves : Leaves (DbCall.exec c) (deleteObject c state amb rawNs rawPath peer headers) db
      (fun _ db' => db'.objectRow (objectKey ns path) = (none, none)) fun _ _ => False := by
    refine leaves_sync hns hactive hgranted fun token db' _ => ?_
    rw [hpath, leaves_bind, leaves_liftResult]
    refine ⟨fun path' hpath' => ?_, fun e he => by cases he⟩
    obtain rfl := Except.ok.inj hpath'
    have hremoved : (db'.deleteObject ns path).2.objectRow (objectKey ns path) = (none, none) := by
      simp [Db.deleteObject, Db.objectRow, objectMetaKey]
    rw [leaves_bind, leaves_db]
    apply (leaves_runIf _ _).mpr
    have hkept (db'' : Db) (hsame : Unchanged ns (db'.deleteObject ns path).2 db'') :
        db''.objectRow (objectKey ns path) = (none, none) := (hsame.contents.objects path).trans hremoved
    exact ⟨fun _ => leaves_refreshUsageAfterWrite hkept ns _, fun _ => hremoved⟩
  have hanswers := serve_leaves
    (r := ⟨.deleteObject rawNs rawPath, peer, headers⟩) rfl hleaves
  cases hout : (serve c state amb ⟨.deleteObject rawNs rawPath, peer, headers⟩ db).1 with
  | error e => exact (hanswers.2 e hout).elim
  | ok response =>
    obtain ⟨_, rfl, hremoved⟩ := hanswers.1 response hout
    exact ⟨rfl, hremoved⟩

theorem alone_ensureDiskCapacity (bytes : Nat) :
    (ensureDiskCapacity state amb bytes).alone (DbCall.exec c) db = (diskSpace state amb bytes, db) := by
  unfold ensureDiskCapacity diskSpace
  split
  · rfl
  · cases amb.diskFreeBytes with
    | none => rfl
    | some freeBytes =>
      dsimp only
      rw [alone_ensure, check]

/-- Nothing is in the way of a PUT of the body to the path. -/
structure PutAccepted (c : Crates) (state : AppState) (amb : Ambient) (headers : HeaderMap) (ns path : String)
    (body encrypted : Bytes) (db : Db) : Prop where
  size : body.length ≤ state.maxObjectSize
  disk : diskSpace state amb body.length = .ok ()
  encrypted : encryptIfNeeded c state (amb.nonce 0) body = .ok encrypted
  condition : ∀ changed already, precondition headers ((db.getObjectMetadata ns path).map (·.etag))
    (db.getObjectMetadata ns path).isSome changed already = .ok ()

theorem PutAccepted.congr {body encrypted : Bytes} {db' : Db}
    (hsame : db'.objectRow (objectKey ns path) = db.objectRow (objectKey ns path))
    (h : PutAccepted c state amb headers ns path body encrypted db) :
    PutAccepted c state amb headers ns path body encrypted db' := by
  have hmeta : db'.getObjectMetadata ns path = db.getObjectMetadata ns path := congrArg Prod.snd hsame
  refine ⟨h.size, h.disk, h.encrypted, ?_⟩
  rw [hmeta]
  exact h.condition

/-- The rows of the path once the body is written. -/
def writtenRow (c : Crates) (amb : Ambient) (encrypted : Bytes) : Option Bytes × Option StoredObjectMetadata :=
  (some encrypted, some ⟨amb.newUuid 0, c.toRfc3339 (amb.now 2)⟩)

theorem PutAccepted.written {body encrypted : Bytes}
    (h : PutAccepted c state amb headers ns path body encrypted db) :
    ∃ db', db.putObjectIfMatches ns path (headers.getStr "if-match")
        (headers.getStr "if-none-match" == some "*") encrypted
        ⟨amb.newUuid 0, c.toRfc3339 (amb.now 2)⟩ = (.ok (), db') ∧
      db'.objectRow (objectKey ns path) = writtenRow c amb encrypted := by
  have hdecides := @putObjectIfMatches_decides ns path db headers encrypted
    ⟨amb.newUuid 0, c.toRfc3339 (amb.now 2)⟩ _ rfl
  rcases hdecides with ⟨-, hput⟩ | ⟨error, hdecision, -⟩
  · refine ⟨_, hput, ?_⟩
    simp [Db.objectRow, objectMetaKey, writtenRow]
  · rw [Option.isSome_map, h.condition] at hdecision
    cases hdecision

/-- `put_object` writes both rows of the path. -/
theorem serve_putObject {body encrypted : Bytes} (hns : decodeNamespace c rawNs = .ok ns)
    (hactive : db.isNamespaceDeleted ns = false) (hgranted : Granted c amb headers ns .write db)
    (hpath : decodeObjectPath rawPath = .ok path)
    (haccepted : PutAccepted c state amb headers ns path body encrypted db) :
    (serve c state amb ⟨.putObject rawNs rawPath body, peer, headers⟩ db).1 =
        .ok (.objectWritten (amb.newUuid 0)) ∧
      (serve c state amb ⟨.putObject rawNs rawPath body, peer, headers⟩ db).2.objectRow
        (objectKey ns path) = writtenRow c amb encrypted := by
  have hleaves : Leaves (DbCall.exec c) (putObject c state amb rawNs rawPath peer headers body) db
      (fun etag db' => etag = amb.newUuid 0 ∧
        db'.objectRow (objectKey ns path) = writtenRow c amb encrypted) fun _ _ => False := by
    refine leaves_sync hns hactive hgranted fun token db' hsame => ?_
    have haccepted' := haccepted.congr (hsame.objectRow _)
    obtain ⟨db'', hput, hwritten⟩ := haccepted'.written
    have hkept (s : Db) (hsame : Unchanged ns db'' s) :
        amb.newUuid 0 = amb.newUuid 0 ∧ s.objectRow (objectKey ns path) = writtenRow c amb encrypted :=
      ⟨rfl, (hsame.contents.objects path).trans hwritten⟩
    rw [hpath, leaves_bind, leaves_liftResult]
    refine ⟨fun path' hpath' => ?_, fun e he => by cases he⟩
    obtain rfl := Except.ok.inj hpath'
    rw [leaves_bind, leaves_ensure]
    refine ⟨fun _ => ?_, fun hno => absurd haccepted.size (by simpa using hno)⟩
    rw [leaves_bind]
    unfold Leaves
    rw [alone_ensureDiskCapacity, haccepted.disk]
    dsimp only
    change Leaves (S := databaseSignature) (DbCall.exec c) _ db' _ _
    rw [haccepted.encrypted, leaves_bind, leaves_liftResult]
    refine ⟨fun bytes hbytes => ?_, fun e he => by cases he⟩
    obtain rfl := Except.ok.inj hbytes
    have hconditionally : (conditionally (redb (.putObjectIfMatches ns path (headers.getStr "if-match")
        (headers.getStr "if-none-match" == some "*") encrypted
        ⟨amb.newUuid 0, c.toRfc3339 (amb.now 2)⟩))).alone (DbCall.exec c) db' = (.ok (.ok ()), db'') := by
      rw [conditionally, alone_bind, alone_attempt, alone_redb]
      simp only [DbCall.exec, hput]
      rfl
    rw [leaves_bind]
    unfold Leaves
    rw [hconditionally]
    dsimp only
    change Leaves (S := databaseSignature) (DbCall.exec c) _ db'' _ _
    rw [leaves_bind]
    exact leaves_refreshUsageAfterWrite hkept ns _
  have hanswers := serve_leaves
    (r := ⟨.putObject rawNs rawPath body, peer, headers⟩) rfl hleaves
  cases hout : (serve c state amb ⟨.putObject rawNs rawPath body, peer, headers⟩ db).1 with
  | error e => exact (hanswers.2 e hout).elim
  | ok response =>
    obtain ⟨_, rfl, rfl, hwritten⟩ := hanswers.1 response hout
    exact ⟨rfl, hwritten⟩

end Handlers

/-! ## Listed objects -/

/-- An answer of `list_objects` names the path. -/
def Listed (c : Crates) (state : AppState) (ns path : String) (db : Db) : Prop :=
  ∃ (amb : Ambient) (peer : IpAddr) (headers : HeaderMap) (rawNs : String) (query : ObjectListQuery)
    (listing : ObjectListing), decodeNamespace c rawNs = .ok ns ∧
      (serve c state amb ⟨.listObjects rawNs query, peer, headers⟩ db).1 = .ok (.listing listing) ∧
      path ∈ listing.paths

/-- A client that encodes the path once reads, overwrites and removes what is stored under it, and
nothing else. -/
structure Addressable (c : Crates) (state : AppState) (ns path : String) (db : Db) : Prop where
  get {amb : Ambient} {peer : IpAddr} {headers : HeaderMap} {rawNs raw : String}
    (hns : decodeNamespace c rawNs = .ok ns) (hraw : routerPath (objectUrl path) = some raw)
    (hgranted : Granted c amb headers ns .read db) :
    (serve c state amb ⟨.getObject rawNs raw, peer, headers⟩ db).1 = objectAt c state ns path db
  put {amb : Ambient} {peer : IpAddr} {headers : HeaderMap} {rawNs raw : String} {body encrypted : Bytes}
    (hns : decodeNamespace c rawNs = .ok ns) (hraw : routerPath (objectUrl path) = some raw)
    (hgranted : Granted c amb headers ns .write db)
    (haccepted : PutAccepted c state amb headers ns path body encrypted db) :
    (serve c state amb ⟨.putObject rawNs raw body, peer, headers⟩ db).1 = .ok (.objectWritten (amb.newUuid 0)) ∧
      (serve c state amb ⟨.putObject rawNs raw body, peer, headers⟩ db).2.objectRow (objectKey ns path) =
        writtenRow c amb encrypted
  putOthers {amb : Ambient} {peer : IpAddr} {headers : HeaderMap} {rawNs raw : String} {body : Bytes}
    {key : String} (hns : decodeNamespace c rawNs = .ok ns) (hraw : routerPath (objectUrl path) = some raw)
    (hkey : key ≠ objectKey ns path) :
    (serve c state amb ⟨.putObject rawNs raw body, peer, headers⟩ db).2.objectRow key = db.objectRow key
  delete {amb : Ambient} {peer : IpAddr} {headers : HeaderMap} {rawNs raw : String}
    (hns : decodeNamespace c rawNs = .ok ns) (hraw : routerPath (objectUrl path) = some raw)
    (hgranted : Granted c amb headers ns .write db) :
    (serve c state amb ⟨.deleteObject rawNs raw, peer, headers⟩ db).1 = .ok .done ∧
      (serve c state amb ⟨.deleteObject rawNs raw, peer, headers⟩ db).2.objectRow (objectKey ns path) =
        (none, none)
  deleteOthers {amb : Ambient} {peer : IpAddr} {headers : HeaderMap} {rawNs raw key : String}
    (hns : decodeNamespace c rawNs = .ok ns) (hraw : routerPath (objectUrl path) = some raw)
    (hkey : key ≠ objectKey ns path) :
    (serve c state amb ⟨.deleteObject rawNs raw, peer, headers⟩ db).2.objectRow key = db.objectRow key

section Listed
variable {ns path other : String} {db : Db}

theorem listed_stored (h : Listed c state ns path db) :
    ValidNamespaceName c ns ∧ db.isNamespaceDeleted ns = false ∧ db.getObject ns path ≠ none := by
  obtain ⟨amb, peer, headers, rawNs, query, listing, hns, hanswer, hmem⟩ := h
  refine ⟨decodeNamespace_valid hns, ?_⟩
  change ((do return Response.listing (← listObjects c state amb rawNs peer query headers) :
    Handler Response).alone (DbCall.exec c) db).1 = _ at hanswer
  unfold listObjects at hanswer
  rw [alone_bind, alone_bind, alone_liftResult, hns] at hanswer
  dsimp only at hanswer
  rw [alone_bind, alone_authorize] at hanswer
  cases hdeleted : db.isNamespaceDeleted ns with
  | true =>
    rw [hdeleted] at hanswer
    cases hanswer
  | false =>
    refine ⟨rfl, ?_⟩
    rw [hdeleted] at hanswer
    simp only [Bool.false_eq_true, if_false] at hanswer
    cases htoken : presentedApiToken c headers db with
    | error e =>
      rw [htoken] at hanswer
      cases hanswer
    | ok token =>
      rw [htoken] at hanswer
      dsimp only at hanswer
      cases hcheck : checkToken c amb token ns .read with
      | error e =>
        rw [hcheck] at hanswer
        cases hanswer
      | ok _ =>
        rw [hcheck] at hanswer
        dsimp only at hanswer
        have hsame : SamePayload db (withUsage c state amb headers ns .read peer token db) :=
          samePayload_withUsage _ _
        generalize withUsage c state amb headers ns .read peer token db = db' at hanswer hsame
        have hrow : db.getObject ns path = db'.getObject ns path :=
          (congrArg Prod.fst (hsame.objectRow (objectKey ns path))).symm
        rw [hrow]
        by_cases hvalid : query.valid = true
        · rw [alone_listObjectsPage hvalid, listingOf_eq_page (cursor_of_valid hvalid)] at hanswer
          obtain rfl := Response.listing.inj (Except.ok.inj hanswer)
          exact (mem_pathsWith.mp (Paging.mem_page hmem).1).2
        · unfold listObjectsPage at hanswer
          rw [alone_bind, alone_ensure, if_neg hvalid] at hanswer
          cases hanswer

/-- The second decoding finds the path again if there is nothing left to decode. -/
theorem decodeObjectPath_eq_self_iff (hvalid : validObjectPath path = true) :
    decodeObjectPath path = .ok path ↔ hasEscape (asBytes path) = false := by
  rw [← urlDecode_eq_self_iff]
  unfold decodeObjectPath
  constructor
  · intro h
    cases hdecoded : urlDecode path with
    | none =>
      rw [hdecoded] at h
      cases h
    | some decoded =>
      rw [hdecoded] at h
      dsimp only at h
      split at h
      · exact congrArg some (Except.ok.inj h)
      · cases h
  · intro h
    rw [h]
    dsimp only
    rw [if_pos hvalid]

/-- Whatever row changes belongs to the path that the second decoding finds. -/
theorem row_changed (hdb : Reachable c db) {r : Request} {rawNs raw key : String} {permission : SyncPermission}
    (htarget : r.endpoint.syncTarget = some (rawNs, permission)) (hns : decodeNamespace c rawNs = .ok ns)
    (hwritten : r.endpoint.objectWritten = some raw)
    (hchanged : (serve c state amb r db).2.objectRow key ≠ db.objectRow key) :
    ∃ path, decodeObjectPath raw = .ok path ∧ key = objectKey ns path := by
  have hsync : r.endpoint.isSync = true := r.endpoint.isSync_iff.mpr ⟨rawNs, permission, htarget⟩
  obtain ⟨ns', _, raw', path, ⟨rawNs', permission', htarget', hns'⟩, -, hwritten', hpath, hkey⟩ :=
    (sync_confined hdb hsync).objects key hchanged
  rw [htarget] at htarget'
  cases htarget'
  obtain rfl := Except.ok.inj (hns.symm.trans hns')
  obtain rfl := Option.some.inj (hwritten.symm.trans hwritten')
  exact ⟨path, hpath, hkey⟩

theorem addressable_iff (hdb : Reachable c db) (hlisted : Listed c state ns path db) {headers : HeaderMap}
    (hgranted : Granted c amb headers ns .write db) :
    Addressable c state ns path db ↔ hasEscape (asBytes path) = false := by
  obtain ⟨hvalidNs, hactive, hstored⟩ := listed_stored hlisted
  have hvalid := validObjectPath_of_stored hdb.aligned.objectKeys hvalidNs hstored
  rw [← decodeObjectPath_eq_self_iff hvalid]
  constructor
  · intro haddressable
    -- A DELETE removes the rows of the path; only those that the second decoding finds can go.
    obtain ⟨_, peer, _, rawNs, _, _, hns, -, -⟩ := hlisted
    have hremoved : (serve c state amb ⟨.deleteObject rawNs path, peer, headers⟩ db).2.objectRow
        (objectKey ns path) = (none, none) :=
      (haddressable.delete hns (routerPath_objectUrl path) hgranted).2
    have hchanged : (serve c state amb ⟨.deleteObject rawNs path, peer, headers⟩ db).2.objectRow
        (objectKey ns path) ≠ db.objectRow (objectKey ns path) := by
      rw [hremoved]
      intro heq
      exact hstored (congrArg Prod.fst heq).symm
    obtain ⟨path', hpath', hkey⟩ := row_changed hdb rfl hns rfl hchanged
    rw [hpath', objectKey_eq_iff.mp hkey]
  · intro hdecoded
    have hrow {r : Request} {rawNs key : String} {permission : SyncPermission} {amb : Ambient}
        (htarget : r.endpoint.syncTarget = some (rawNs, permission)) (hns : decodeNamespace c rawNs = .ok ns)
        (hwritten : r.endpoint.objectWritten = some path) (hkey : key ≠ objectKey ns path) :
        (serve c state amb r db).2.objectRow key = db.objectRow key := by
      by_contra hchanged
      obtain ⟨path', hpath', hkey'⟩ := row_changed hdb htarget hns hwritten hchanged
      obtain rfl := Except.ok.inj (hdecoded.symm.trans hpath')
      exact hkey hkey'
    have hself {raw : String} (hraw : routerPath (objectUrl path) = some raw) : raw = path :=
      Option.some.inj (hraw.symm.trans (routerPath_objectUrl path))
    constructor
    · intro amb peer headers rawNs raw hns hraw hread
      rw [hself hraw]
      exact serve_getObject hns hactive hread hdecoded
    · intro amb peer headers rawNs raw body encrypted hns hraw hwrite haccepted
      rw [hself hraw]
      exact serve_putObject hns hactive hwrite hdecoded haccepted
    · intro amb peer headers rawNs raw body key hns hraw hkey
      rw [hself hraw]
      exact hrow rfl hns rfl hkey
    · intro amb peer headers rawNs raw hns hraw hwrite
      rw [hself hraw]
      exact serve_deleteObject hns hactive hwrite hdecoded
    · intro amb peer headers rawNs raw key hns hraw hkey
      rw [hself hraw]
      exact hrow rfl hns rfl hkey

/-- A listed object is addressable exactly if its path contains no escape, and two such paths have
different addresses. -/
theorem listed_addressable_iff (hdb : Reachable c db) (hlisted : Listed c state ns path db)
    {headers : HeaderMap} (hgranted : Granted c amb headers ns .write db) :
    (Addressable c state ns path db ↔ hasEscape (asBytes path) = false) ∧
      ∀ other, Listed c state ns other db → Addressable c state ns path db →
        Addressable c state ns other db → decodeObjectPath path = decodeObjectPath other →
          path = other := by
  have hdecoded {path : String} (hlisted : Listed c state ns path db)
      (haddressable : Addressable c state ns path db) : decodeObjectPath path = .ok path := by
    obtain ⟨hvalidNs, -, hstored⟩ := listed_stored hlisted
    rw [decodeObjectPath_eq_self_iff (validObjectPath_of_stored hdb.aligned.objectKeys hvalidNs hstored)]
    exact (addressable_iff hdb hlisted hgranted).mp haddressable
  refine ⟨addressable_iff hdb hlisted hgranted, fun other hother haddressable haddressable' hsame => ?_⟩
  rw [hdecoded hlisted haddressable, hdecoded hother haddressable'] at hsame
  exact Except.ok.inj hsame

end Listed

/-! ## A path that reads `a%41` -/

/-- The secret that request 1 draws for a token that may read. -/
def readerSecret : String := numberedUuid 1 0

def readerDigest : Bytes :=
  [40, 79, 245, 128, 59, 186, 158, 210, 223, 157, 35, 52, 193, 223, 155, 206,
    134, 224, 4, 42, 121, 203, 15, 34, 251, 60, 71, 84, 119, 216, 101, 117]

/-- The secret under the key and the nonce of zeros, with its tag. -/
def sealedReader : Bytes :=
  [237, 42, 173, 110, 133, 121, 71, 148, 187, 82, 227, 48, 82, 230, 85, 61, 200, 0]

def escapedTables : CrateTables :=
  { freshTables with digests := (asBytes readerSecret, readerDigest) :: freshTables.digests }

def escapedCrates : Crates :=
  { escapedTables.crates with
    aeadEncrypt := fun key nonce plaintext =>
      if key = List.replicate 32 0 ∧ nonce = List.replicate 12 0 ∧ plaintext = asBytes readerSecret then
        .ok sealedReader
      else freshCrates.aeadEncrypt key nonce plaintext
    base64Encode := fun bytes =>
      if bytes = List.replicate 12 0 ++ sealedReader then "AAAAAAAAAAAAAAAA7SqtboV5R5S7UuMwUuZVPcgA"
      else freshCrates.base64Encode bytes }

/-- One token may write and one may read; the writer stores `notes` and, under a URL that is
encoded twice, `a%41`. -/
def escapedTraffic : Traffic := Traffic.ofList
  [issueRequest "work" "write" none,
   issueRequest "work" "read" none,
   issuedRequest (.putObject "work" "notes" [1]) [],
   issuedRequest (.putObject "work" "a%2541" [2]) []]

/-- The new database, with the administrator that the bootstrap creates. -/
def escapedStart : Db :=
  ((bootstrapAdmin escapedCrates (numberedAmbient (fun _ => "abcdefghijklmnopqrstuu") 0) "admin"
    adminPassword).run.run (DbCall.exec escapedCrates) {}).2

def playEscaped (schedule : List (Nat × Option String)) :=
  play (S := databaseSignature) (DbCall.exec escapedCrates) schedule escapedStart
    (escapedTraffic.program escapedCrates freshState)

def escapedDb : Db := (playEscaped (inTurn 4)).2.1

theorem reachable_escapedStart : Reachable escapedCrates escapedStart := .started _ _ _ .created

theorem playEscaped_run (schedule : List (Nat × Option String)) :
    ServerRun escapedCrates freshState escapedTraffic escapedStart (playEscaped schedule).1
      (playEscaped schedule).2.1 (playEscaped schedule).2.2 := play_run _ _ _ _

theorem knowsAdmin_escapedCrates : escapedCrates.KnowsAdmin := by
  intro secret now
  simp [escapedCrates, CrateTables.crates, escapedTables, freshTables, panelTables]

theorem playEscaped_short (schedule : List (Nat × Option String)) : playEscaped schedule =
    playShortened escapedCrates freshState escapedTraffic escapedStart schedule := by
  apply play_shortened knowsAdmin_escapedCrates
  exact ⟨.issue _ _ _, .issue _ _ _, .issued _ _ rfl, .issued _ _ rfl⟩

/-- The database after a schedule. -/
def escapedAfter (schedule : List (Nat × Option String)) : Db := (playEscaped schedule).2.1

theorem escapedDb_eq : escapedDb = escapedAfter (inTurn 4) := rfl

theorem reachable_escapedAfter (schedule : List (Nat × Option String)) :
    Reachable escapedCrates (escapedAfter schedule) :=
  .served reachable_escapedStart (playEscaped_run schedule)

theorem reachable_escapedDb : Reachable escapedCrates escapedDb := by
  rw [escapedDb_eq]
  exact reachable_escapedAfter _

/-- The ambient of the next request. -/
def escapedAmbient : Ambient := numberedAmbient (fun _ => "") 4

/-- A request with the token that request 1 issues. -/
def readerRequest (endpoint : Endpoint) : Request where
  endpoint := endpoint
  peer := "127.0.0.1"
  headers := [("authorization", asBytes ("Bearer " ++ readerSecret))]

/-- The paths that an answer of `list_objects` names. -/
def answeredPaths (answer : Answer) : List String :=
  match answer with
  | .ok (.listing listing) => listing.paths
  | _ => []

theorem listed_of_answered {ns path rawNs : String} {amb : Ambient} {peer : IpAddr} {headers : HeaderMap}
    {query : ObjectListQuery} {db : Db} (hns : decodeNamespace c rawNs = .ok ns)
    (h : path ∈ answeredPaths (serve c state amb ⟨.listObjects rawNs query, peer, headers⟩ db).1) :
    Listed c state ns path db := by
  unfold answeredPaths at h
  split at h
  · next listing hanswer => exact ⟨amb, peer, headers, rawNs, query, listing, hns, hanswer, h⟩
  · cases h

/-- What the client that reads is told, and what the two may do. -/
theorem escaped_play :
    (answeredPaths (serve escapedCrates freshState escapedAmbient
        (readerRequest (.listObjects "work" { pre := "", cursor := none, limit := none })) escapedDb).1 =
      ["a%41", "notes"] ∧
    objectRead (objectAt escapedCrates freshState "work" "a%41" escapedDb) = some [2] ∧
    objectRead (serve escapedCrates freshState escapedAmbient
      (readerRequest (.getObject "work" "a%41")) escapedDb).1 = none) ∧
    decodeNamespace escapedCrates "work" = .ok "work" ∧
    Granted escapedCrates escapedAmbient (readerRequest (.getObject "work" "a%41")).headers "work" .read
      escapedDb ∧
    Granted escapedCrates escapedAmbient (issuedRequest .adminStats []).headers "work" .write
      escapedDb := by
  rw [escapedDb_eq, escapedAfter, playEscaped_short]
  decide +kernel

theorem listed_escaped {path : String} (h : path ∈ ["a%41", "notes"]) :
    Listed escapedCrates freshState "work" path escapedDb := by
  rw [← escaped_play.1.1] at h
  exact listed_of_answered escaped_play.2.1 h

theorem listed_addressable_iff_escaped :
    Addressable escapedCrates freshState "work" "notes" escapedDb ∧
      ¬ Addressable escapedCrates freshState "work" "a%41" escapedDb := by
  have hescapes : hasEscape (asBytes "notes") = false ∧ hasEscape (asBytes "a%41") = true := by decide
  refine ⟨(listed_addressable_iff reachable_escapedDb (listed_escaped (by simp))
    escaped_play.2.2.2).1.mpr hescapes.1, fun haddressable => ?_⟩
  have hno := (listed_addressable_iff reachable_escapedDb (listed_escaped (by simp))
    escaped_play.2.2.2).1.mp haddressable
  rw [hescapes.2] at hno
  cases hno

/-- The listing names `a%41`, and the client that asks for it is told that there is no such object. -/
theorem listed_not_found :
    Reachable escapedCrates escapedDb ∧ Listed escapedCrates freshState "work" "a%41" escapedDb ∧
      routerPath (objectUrl "a%41") = some "a%41" ∧
      objectRead (objectAt escapedCrates freshState "work" "a%41" escapedDb) = some [2] ∧
      objectRead (serve escapedCrates freshState escapedAmbient
        (readerRequest (.getObject "work" "a%41")) escapedDb).1 = none ∧
      ¬ Addressable escapedCrates freshState "work" "a%41" escapedDb := by
  obtain ⟨-, hstored, hnone⟩ := escaped_play.1
  refine ⟨reachable_escapedDb, listed_escaped (by simp), routerPath_objectUrl _, hstored, hnone,
    fun haddressable => ?_⟩
  have hget : (serve escapedCrates freshState escapedAmbient (readerRequest (.getObject "work" "a%41"))
      escapedDb).1 = objectAt escapedCrates freshState "work" "a%41" escapedDb :=
    haddressable.get escaped_play.2.1 (routerPath_objectUrl _) escaped_play.2.2.1
  rw [hget, hstored] at hnone
  cases hnone

end CloudSync
