import CloudSync.NamespaceRows
import CloudSync.PayloadHistory
import CloudSync.ShortSessions
import CloudSync.Transactions.Sequential

/-!
# Reachable databases

A database is created empty. Then servers run on it one after another, each with
its own configuration; a server starts with the bootstrap of the admin account
and may be stopped after any transaction.
-/

namespace CloudSync

open Rust Transactions Transactions.Fallible

set_option autoImplicit false

inductive Reachable (c : Crates) : Db → Prop where
  | created : Reachable c {}
  | started {s : Db} (amb : Ambient) (adminUsername adminPassword : String) : Reachable c s →
      Reachable c ((bootstrapAdmin c amb adminUsername adminPassword).run.run (DbCall.exec c) s).2
  | served {state : AppState} {t : Traffic} {s s' : Db} {log : List DbEvent}
      {ps : Nat → Program databaseSignature Answer} : Reachable c s →
      ServerRun c state t s log s' ps → Reachable c s'

variable {c : Crates}

/-- The bootstrap reads one account and writes it. -/
theorem bootstrapAdmin_calls (amb : Ambient) (adminUsername adminPassword : String) :
    Calls (fun call : DbCall =>
        (∃ username, call = .getAdminUser username) ∨ ∃ user, call = .setAdminUser user)
      (bootstrapAdmin c amb adminUsername adminPassword) := by
  refine .bind (by simp) fun _ => .bind (.mapError _ (by simp)) fun existing => ?_
  dsimp only
  cases existing.filter fun user => verifyAdminPassword c adminPassword user.passwordHash with
  | some user => exact .bind (by simp) fun _ => .mapError _ (by simp)
  | none => exact .bind (.mapError _ (calls_liftResult _)) fun _ => .mapError _ (by simp)

/-- What the creation of a database, the bootstrap and every server keep holds of all
reachable databases. -/
theorem Reachable.invariant {J : Db → Prop} (hnew : J {})
    (husers : ∀ db user, J db → J (db.setAdminUser user))
    (hserved : ∀ {state t s log s' ps}, J s → ServerRun c state t s log s' ps → J s') {s : Db}
    (h : Reachable c s) : J s := by
  induction h with
  | created => exact hnew
  | started amb adminUsername adminPassword _ ih =>
    refine Program.run_invariant ?_ (bootstrapAdmin_calls amb adminUsername adminPassword) ih
    rintro call db (⟨username, rfl⟩ | ⟨user, rfl⟩) hdb
    · exact hdb
    · exact husers db user hdb
  | served _ hrun ih => exact hserved ih hrun

/-! ## A server on a new database

The bootstrap has written the account of the administrator, and nothing else is
stored. The first request of the traffic issues the token that clients use. -/

/-- The secret that request 0 draws for its token. -/
def issuedSecret : String := numberedUuid 0 0

def issuedDigest : Bytes :=
  [57, 115, 224, 34, 233, 50, 32, 249, 33, 44, 24, 208, 208, 197, 67, 174,
    124, 48, 158, 70, 100, 13, 169, 58, 74, 3, 20, 222, 153, 159, 81, 18]

/-- The secret under the key and the nonce of zeros, with its tag. -/
def sealedSecret : Bytes :=
  [178, 15, 247, 145, 65, 137, 231, 59, 17, 216, 200, 73, 114, 107, 32, 84, 134]

def freshTables : CrateTables :=
  { panelTables with digests := (asBytes issuedSecret, issuedDigest) :: panelTables.digests }

def freshCrates : Crates :=
  { freshTables.crates with
    aeadEncrypt := fun key nonce plaintext =>
      if key = List.replicate 32 0 ∧ nonce = List.replicate 12 0 ∧ plaintext = asBytes issuedSecret then
        .ok sealedSecret
      else .error "aead::Error"
    base64Encode := fun bytes =>
      if bytes = List.replicate 12 0 ++ sealedSecret then "AAAAAAAAAAAAAAAAsg/3kUGJ5zsR2MhJcmsgVIY="
      else "" }

def freshState : AppState := { plainState with tokenRevealKey := List.replicate 32 0 }

/-- What the bootstrap makes of an empty database. -/
def freshDb : Db :=
  ((bootstrapAdmin freshCrates (numberedAmbient (fun _ => "abcdefghijklmnopqrstuu") 0) "admin"
    adminPassword).run.run (DbCall.exec freshCrates) {}).2

theorem reachable_freshDb : Reachable freshCrates freshDb := .started _ _ _ .created

def issueRequest (namespacePattern permission : String) (deviceId : Option String) : Request :=
  panelRequest (.adminCreateToken
    { name := "laptop"
      namespacePattern := namespacePattern
      permissions := some [permission]
      expiresAt := none
      deviceId := deviceId })

/-- A request with the token that request 0 issues. -/
def issuedRequest (endpoint : Endpoint) (headers : List (String × String)) : Request where
  endpoint := endpoint
  peer := "127.0.0.1"
  headers := (("authorization", "Bearer " ++ issuedSecret) :: headers).map fun header =>
    (header.1, asBytes header.2)

/-- The log, the store and the requests after a schedule on the new database. -/
def playFresh (requests : List Request) (schedule : List (Nat × Option String)) :=
  play (S := databaseSignature) (DbCall.exec freshCrates) schedule freshDb
    ((Traffic.ofList requests).program freshCrates freshState)

theorem playFresh_run (requests : List Request) (schedule : List (Nat × Option String)) :
    ServerRun freshCrates freshState (Traffic.ofList requests) freshDb (playFresh requests schedule).1
      (playFresh requests schedule).2.1 (playFresh requests schedule).2.2 := play_run _ _ _ _

theorem knowsAdmin_freshCrates : freshCrates.KnowsAdmin := by
  intro secret now
  simp [freshCrates, CrateTables.crates, freshTables, panelTables]

theorem Scripted.issue (namespacePattern permission : String) (deviceId : Option String) :
    Scripted (issueRequest namespacePattern permission deviceId) := .panel _ rfl

theorem Scripted.issued (endpoint : Endpoint) (headers : List (String × String))
    (h : endpoint.needsSession = false) : Scripted (issuedRequest endpoint headers) := .free _ h rfl

theorem playFresh_short {requests : List Request} (h : requests.Forall Scripted)
    (schedule : List (Nat × Option String)) :
    playFresh requests schedule =
      playShortened freshCrates freshState (Traffic.ofList requests) freshDb schedule :=
  play_shortened knowsAdmin_freshCrates h schedule freshDb

/-- The database after a schedule on the new database. -/
def dbAfter (requests : List Request) (schedule : List (Nat × Option String)) : Db :=
  (playFresh requests schedule).2.1

theorem reachable_dbAfter (requests : List Request) (schedule : List (Nat × Option String)) :
    Reachable freshCrates (dbAfter requests schedule) :=
  .served reachable_freshDb (playFresh_run requests schedule)

theorem dbAfter_short {requests : List Request} (h : requests.Forall Scripted)
    (schedule : List (Nat × Option String)) :
    dbAfter requests schedule =
      (playShortened freshCrates freshState (Traffic.ofList requests) freshDb schedule).2.1 := by
  rw [dbAfter, playFresh_short h]

/-- The new database after request `i`. -/
def servedFresh (i : Nat) (r : Request) : Db :=
  (serve freshCrates freshState (numberedAmbient (fun _ => "") i) r freshDb).2

theorem servedFresh_short {r : Request} (hr : Scripted r) (i : Nat) :
    servedFresh i r = (serve freshCrates.shortened freshState (numberedAmbient (fun _ => "") i)
      r.shortened freshDb).2 := by
  rw [servedFresh, serve_shortened knowsAdmin_freshCrates hr]

/-- Requests `0` to `n - 1`, each finished before the next one starts. -/
def inTurn (n : Nat) : List (Nat × Option String) := (List.range n).flatMap fun i => steps i 20

end CloudSync
