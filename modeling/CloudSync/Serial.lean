import CloudSync.Footprint
import CloudSync.Transactions.Sequential

/-!
# Requests one at a time

A request that is alone on the database is a function of it.
-/

namespace CloudSync

open Rust Transactions Transactions.Fallible

set_option autoImplicit false

section Rules
variable (c : Crates) (call : DbCall) (context : String) (s : Db)

@[simp] theorem alone_redb : (redb call).alone (α := no_index call.Out) (DbCall.exec c) s =
    (.ok (call.exec c s).1, (call.exec c s).2) := rfl

@[simp] theorem alone_db : (db call).alone (α := no_index call.Out) (DbCall.exec c) s =
    (.ok (call.exec c s).1, (call.exec c s).2) := rfl

@[simp] theorem alone_dbOr : (dbOr context call).alone (α := no_index call.Out) (DbCall.exec c) s =
    (.ok (call.exec c s).1, (call.exec c s).2) := rfl

theorem leaves_db {ok : call.Out → Db → Prop} {err : AppError → Db → Prop} :
    Leaves (α := no_index call.Out) (DbCall.exec c) (db call) s ok err ↔
      ok (call.exec c s).1 (call.exec c s).2 := .rfl

end Rules

/-- The token that a credential leads to. -/
def Db.tokenByHash (db : Db) (tokenHash : String) : Option ApiToken :=
  (db.getTokenIdByHash tokenHash).bind db.getToken

theorem alone_getTokenByHash (c : Crates) (s : Db) (tokenHash : String) :
    (getTokenByHash tokenHash).alone (DbCall.exec c) s = (.ok (s.tokenByHash tokenHash), s) := by
  rw [getTokenByHash, alone_bind, alone_redb, Db.tokenByHash]
  simp only [DbCall.exec]
  cases s.getTokenIdByHash tokenHash with
  | none => rfl
  | some id => rfl

variable (c : Crates) (state : AppState)

def serve (amb : Ambient) (r : Request) (s : Db) : Answer × Db :=
  (handle c state amb r).alone (DbCall.exec c) s

/-- The answers to the requests, each started when the one before it is done, and the
database at the end. -/
def serveAll : List (Ambient × Request) → Db → List Answer × Db
  | [], s => ([], s)
  | (amb, r) :: rest, s =>
    let (answer, s') := serve c state amb r s
    let (answers, s'') := serveAll rest s'
    (answer :: answers, s'')

/-- `J` holds in every state that the requests go through. -/
def Throughout (J : Db → Prop) : List (Ambient × Request) → Db → Prop
  | [], s => J s
  | (amb, r) :: rest, s => J s ∧ Throughout J rest (serve c state amb r s).2

/-- `K` holds of every request and the state that it finds. -/
def EachServed (K : Ambient → Request → Db → Prop) : List (Ambient × Request) → Db → Prop
  | [], _ => True
  | (amb, r) :: rest, s => K amb r s ∧ EachServed K rest (serve c state amb r s).2

variable {c state}

theorem Throughout.start {J : Db → Prop} {requests : List (Ambient × Request)} {s : Db}
    (h : Throughout c state J requests s) : J s := by
  cases requests with
  | nil => exact h
  | cons head rest => exact h.1

/-- What every request keeps holds after all of them. -/
theorem serveAll_invariant {J : Db → Prop} {requests : List (Ambient × Request)} {s : Db}
    (hs : J s) (hJ : ∀ amb r, (amb, r) ∈ requests → ∀ s, J s → J (serve c state amb r s).2) :
    J (serveAll c state requests s).2 := by
  induction requests generalizing s with
  | nil => exact hs
  | cons head rest ih =>
    obtain ⟨amb, r⟩ := head
    exact ih (hJ amb r (by simp) s hs) fun amb' r' h => hJ amb' r' (by simp [h])

end CloudSync
