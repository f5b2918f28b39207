import CloudSync.Transactions.Recorded
import CloudSync.Alignment
import CloudSync.SyncRequest

/-!
# Databases that are used by one request at a time

The databases that servers reach, one request after the other, together with the
calls that the requests made.
-/

namespace CloudSync

open Rust Redb Transactions Transactions.Fallible

set_option autoImplicit false

/-- A database and the calls that were made on it. -/
abbrev Recorded := Db × List databaseSignature.Made

/-- The request is alone, and its calls are kept. -/
def serveRecorded (c : Crates) (state : AppState) (amb : Ambient) (r : Request) (s : Recorded) :
    Answer × Recorded :=
  (handle c state amb r).alone (recorded (DbCall.exec c)) s

/-- What is reached by requests that are alone, `P` holding of each and the configuration of its
server. -/
inductive InTurn (c : Crates) (P : AppState → Request → Prop) : Recorded → Prop where
  | created : InTurn c P ({}, [])
  | started {s : Recorded} (amb : Ambient) (adminUsername adminPassword : String) : InTurn c P s →
      InTurn c P (((bootstrapAdmin c amb adminUsername adminPassword).alone (DbCall.exec c) s.1).2, s.2)
  | served {s : Recorded} {state : AppState} {r : Request} (amb : Ambient) : InTurn c P s →
      P state r → InTurn c P (serveRecorded c state amb r s).2

/-- The name that a deletion is given is valid. No other request takes a name that is not. -/
def Request.NamesValid (c : Crates) (r : Request) : Prop :=
  ∀ ns hard, r.endpoint = .adminDeleteNamespace ns hard → ValidNamespaceName c ns

variable {c : Crates} {P : AppState → Request → Prop} {s : Recorded}

theorem serveRecorded_eq (state : AppState) (amb : Ambient) (r : Request) :
    (serveRecorded c state amb r s).1 = (serve c state amb r s.1).1 ∧
      (serveRecorded c state amb r s).2.1 = (serve c state amb r s.1).2 :=
  alone_recorded (handle c state amb r) s.1 s.2

/-- A request that is alone is a run of the server. -/
theorem Reachable.serve {db : Db} (h : Reachable c db) (state : AppState) (amb : Ambient)
    (r : Request) : Reachable c (serve c state amb r db).2 := by
  have hstart : ServerRun c state ⟨fun _ => r, fun _ => amb⟩ db [] db _ := .start
  obtain ⟨log, hrun⟩ := hstart.alone 0
  exact .served h hrun

theorem reachable_servedFresh (i : Nat) (r : Request) : Reachable freshCrates (servedFresh i r) :=
  reachable_freshDb.serve _ _ _

theorem InTurn.reachable (h : InTurn c P s) : Reachable c s.1 := by
  induction h with
  | created => exact .created
  | started amb adminUsername adminPassword _ ih => exact .started amb adminUsername adminPassword ih
  | served amb _ _ ih =>
    rw [(serveRecorded_eq _ amb _).2]
    exact ih.serve _ amb _

/-- What the bootstrap and every request keep. -/
theorem InTurn.invariant {J : Recorded → Prop} (hnew : J ({}, []))
    (husers : ∀ db made user, J (db, made) → J (db.setAdminUser user, made))
    (hserved : ∀ s state amb r, InTurn c P s → P state r → J s → J (serveRecorded c state amb r s).2)
    (h : InTurn c P s) : J s := by
  induction h with
  | created => exact hnew
  | @started s amb adminUsername adminPassword _ ih =>
    have hcalls := bootstrapAdmin_calls amb adminUsername adminPassword (c := c)
    refine Program.run_invariant (J := fun db => J (db, s.2)) ?_
      hcalls ih
    rintro call db (⟨username, rfl⟩ | ⟨user, rfl⟩) hdb
    · exact hdb
    · exact husers db s.2 user hdb
  | served amb hprev hP ih => exact hserved _ _ amb _ hprev hP ih

/-! ## A new server -/

/-- The requests from number `i` on, one after the other. -/
def servedInTurn (state : AppState) : Nat → List Request → Recorded → Recorded
  | _, [], s => s
  | i, r :: rest, s =>
    servedInTurn state (i + 1) rest
      (serveRecorded freshCrates state (numberedAmbient (fun _ => "") i) r s).2

theorem InTurn.servedInTurn {P : AppState → Request → Prop} {state : AppState} {requests : List Request}
    (hP : ∀ r ∈ requests, P state r) {s : Recorded} (h : InTurn freshCrates P s) (i : Nat) :
    InTurn freshCrates P (servedInTurn state i requests s) := by
  induction requests generalizing s i with
  | nil => exact h
  | cons r rest ih =>
    apply ih fun r' hr' => hP r' (by simp [hr'])
    exact .served _ h (hP r (by simp))

/-- The same with the short session token. -/
def servedShortened (state : AppState) : Nat → List Request → Recorded → Recorded
  | _, [], s => s
  | i, r :: rest, s =>
    servedShortened state (i + 1) rest
      (serveRecorded freshCrates.shortened state (numberedAmbient (fun _ => "") i) r.shortened s).2

theorem servedInTurn_short {state : AppState} {requests : List Request} (h : requests.Forall Scripted)
    (i : Nat) (s : Recorded) : servedInTurn state i requests s = servedShortened state i requests s := by
  induction requests generalizing s i with
  | nil => rfl
  | cons r rest ih =>
    obtain ⟨hr, hrest⟩ := (List.forall_cons _ _ _).mp h
    rw [CloudSync.servedInTurn, servedShortened, serveRecorded, serveRecorded,
      handle_shortened knowsAdmin_freshCrates hr, exec_shortened, ih hrest]

/-- The new database after the requests. -/
def servedDb (state : AppState) (requests : List Request) : Db :=
  (servedInTurn state 0 requests (freshDb, [])).1

theorem inTurn_freshDb {P : AppState → Request → Prop} : InTurn freshCrates P (freshDb, []) :=
  .started (numberedAmbient (fun _ => "abcdefghijklmnopqrstuu") 0) "admin" adminPassword .created

end CloudSync
