import Mathlib

/-!
# Programs of atomic transactions

A program is a finite tree: it returns, or it calls one transaction and goes on
with the reply. A transaction either commits or fails without any effect, so a
reply is an `Except`. What the calls do to a store is left to the semantics; a
`Monitor` only watches the calls of one program and the replies they got.
-/

namespace Transactions

set_option autoImplicit false

structure Signature where
  Op : Type
  Out : Op → Type
  Fault : Type

abbrev Signature.Reply (S : Signature) (op : S.Op) : Type := Except S.Fault (S.Out op)

inductive Program (S : Signature) (α : Type) where
  | ret (a : α)
  | call (op : S.Op) (next : S.Reply op → Program S α)

variable {S : Signature} {α β ε δ : Type}

namespace Program

def bind : Program S α → (α → Program S β) → Program S β
  | .ret a, f => f a
  | .call op next, f => .call op fun r => (next r).bind f

instance : Monad (Program S) where
  pure := .ret
  bind := Program.bind

@[simp] theorem ret_bind (a : α) (f : α → Program S β) : (Program.ret a >>= f) = f a := rfl

@[simp] theorem call_bind (op : S.Op) (next : S.Reply op → Program S α) (f : α → Program S β) :
    (Program.call op next >>= f) = .call op fun r => next r >>= f := rfl

instance : LawfulMonad (Program S) := LawfulMonad.mk' _
  (fun p => by
    induction p with
    | ret a => rfl
    | call op next ih => exact congrArg (Program.call op) (funext ih))
  (fun _ _ => rfl)
  (fun p f g => by
    induction p with
    | ret a => rfl
    | call op next ih => exact congrArg (Program.call op) (funext ih))

/-- The value a program has returned. -/
def answer : Program S α → Option α
  | .ret a => some a
  | .call .. => none

theorem answer_eq_some {p : Program S α} {a : α} : p.answer = some a ↔ p = .ret a := by
  cases p <;> simp [answer]

/-- Executed alone and without faults. -/
def run {σ : Type} (exec : (op : S.Op) → σ → S.Out op × σ) : Program S α → σ → α × σ
  | .ret a, s => (a, s)
  | .call op next, s => (next (.ok (exec op s).1)).run exec (exec op s).2

theorem run_bind {σ : Type} (exec : (op : S.Op) → σ → S.Out op × σ)
    (p : Program S α) (f : α → Program S β) (s : σ) :
    (p >>= f).run exec s = (f (p.run exec s).1).run exec (p.run exec s).2 := by
  induction p generalizing s with
  | ret a => rfl
  | call op next ih => exact ih _ _

/-- Every call the program can ever make satisfies `P`, whatever the replies are. -/
def Calls (P : S.Op → Prop) : Program S α → Prop
  | .ret _ => True
  | .call op next => P op ∧ ∀ r, (next r).Calls P

theorem Calls.mono {P Q : S.Op → Prop} (hPQ : ∀ op, P op → Q op) {p : Program S α}
    (h : p.Calls P) : p.Calls Q := by
  induction p with
  | ret a => trivial
  | call op next ih => exact ⟨hPQ op h.1, fun r => ih r (h.2 r)⟩

theorem Calls.bind {P : S.Op → Prop} {p : Program S α} {f : α → Program S β}
    (hp : p.Calls P) (hf : ∀ a, (f a).Calls P) : (p >>= f).Calls P := by
  induction p with
  | ret a => exact hf a
  | call op next ih => exact ⟨hp.1, fun r => ih r (hp.2 r)⟩

theorem calls_of_forall {P : S.Op → Prop} (h : ∀ op, P op) (p : Program S α) : p.Calls P := by
  induction p with
  | ret a => trivial
  | call op next ih => exact ⟨h op, ih⟩

/-- Every value the program can ever return satisfies `Q`, whatever the replies are. -/
def Returns (Q : α → Prop) : Program S α → Prop
  | .ret a => Q a
  | .call _ next => ∀ r, (next r).Returns Q

theorem Returns.bind {Q : α → Prop} {Q' : β → Prop} {p : Program S α} {f : α → Program S β}
    (hp : p.Returns Q) (hf : ∀ a, Q a → (f a).Returns Q') : (p >>= f).Returns Q' := by
  induction p with
  | ret a => exact hf a hp
  | call op next ih => exact fun r => ih r (hp r)

theorem returns_of_forall {Q : α → Prop} (h : ∀ a, Q a) (p : Program S α) : p.Returns Q := by
  induction p with
  | ret a => exact h a
  | call op next ih => exact ih

end Program

/-- A deterministic observer of one program's own calls. `allow` is what it
demands of the next call, `step` how it moves once the reply is there. -/
structure Monitor (S : Signature) where
  State : Type
  allow : State → S.Op → Prop
  step : State → (op : S.Op) → S.Reply op → State

/-- The calls the monitor neither forbids nor notices. -/
def Monitor.Ignores (M : Monitor S) (op : S.Op) : Prop :=
  ∀ q, M.allow q op ∧ ∀ r, M.step q op r = q

def Program.Obeys (M : Monitor S) (post : M.State → α → Prop) : M.State → Program S α → Prop
  | q, .ret a => post q a
  | q, .call op next => M.allow q op ∧ ∀ r, (next r).Obeys M post (M.step q op r)

namespace Program

variable {M : Monitor S}

theorem Obeys.mono {post post' : M.State → α → Prop} (hpost : ∀ q a, post q a → post' q a)
    {p : Program S α} {q : M.State} (h : p.Obeys M post q) : p.Obeys M post' q := by
  induction p generalizing q with
  | ret a => exact hpost q a h
  | call op next ih => exact ⟨h.1, fun r => ih r (h.2 r)⟩

theorem obeys_bind (post : M.State → β → Prop) (p : Program S α) (f : α → Program S β)
    (q : M.State) :
    (p >>= f).Obeys M post q ↔ p.Obeys M (fun q a => (f a).Obeys M post q) q := by
  induction p generalizing q with
  | ret a => rfl
  | call op next ih => exact and_congr_right fun _ => forall_congr' fun r => ih r _

theorem Calls.obeys {post : M.State → α → Prop} {Q : α → Prop} {p : Program S α}
    (h : p.Calls M.Ignores) (hret : p.Returns Q) {q : M.State} (hpost : ∀ a, Q a → post q a) :
    p.Obeys M post q := by
  induction p with
  | ret a => exact hpost a hret
  | call op next ih =>
    refine ⟨(h.1 q).1, fun r => ?_⟩
    rw [(h.1 q).2 r]
    exact ih r (h.2 r) (hret r)

/-- Calls that are allowed in every state. -/
theorem Calls.obeys_allowed {post : M.State → α → Prop} {p : Program S α}
    (h : p.Calls fun op => ∀ q, M.allow q op) (hpost : ∀ q a, post q a) (q : M.State) :
    p.Obeys M post q := by
  induction p generalizing q with
  | ret a => exact hpost q a
  | call op next ih => exact ⟨h.1 q, fun r => ih r (h.2 r) _⟩

/-- What no step of the monitor ever loses stays true along a program. -/
theorem obeys_keeps {P : M.State → Prop} (hallow : ∀ q op, M.allow q op)
    (hP : ∀ q op r, P q → P (M.step q op r)) (p : Program S α) {q : M.State} (hq : P q) :
    p.Obeys M (fun q _ => P q) q := by
  induction p generalizing q with
  | ret a => exact hq
  | call op next ih => exact ⟨hallow q op, fun r => ih r (hP q op r hq)⟩

/-- Calls that are allowed as long as `Q` holds, and that keep it. -/
theorem Calls.obeys_within {P : S.Op → Prop} {Q : M.State → Prop} {p : Program S α} (h : p.Calls P)
    (hallow : ∀ q op, Q q → P op → M.allow q op)
    (hQ : ∀ q op r, Q q → P op → Q (M.step q op r)) {q : M.State} (hq : Q q) :
    p.Obeys M (fun q _ => Q q) q := by
  induction p generalizing q with
  | ret a => exact hq
  | call op next ih => exact ⟨hallow q op hq h.1, fun r => ih r (h.2 r) (hQ q op r hq h.1)⟩

end Program

/-! ## Programs that can throw -/

/-- A program that ends in a value or in an error of its own. -/
abbrev Fallible (S : Signature) (ε α : Type) := ExceptT ε (Program S) α

namespace Fallible

/-- One transaction, its fault turned into an error of the program. -/
def txn (fault : S.Fault → ε) (op : S.Op) : Fallible S ε (S.Out op) :=
  ExceptT.mk (.call op fun
    | .ok out => .ret (.ok out)
    | .error f => .ret (.error (fault f)))

def liftResult (x : Except ε α) : Fallible S ε α := ExceptT.mk (.ret x)

/-- `unless c, throw e`. -/
def ensure (c : Bool) (e : ε) : Fallible S ε Unit := liftResult (if c then .ok () else .error e)

def okOr (x : Option α) (e : ε) : Fallible S ε α :=
  liftResult (match x with | some a => .ok a | none => .error e)

/-- `if c { x }`. -/
def runIf (c : Bool) (x : Fallible S ε Unit) : Fallible S ε Unit := if c then x else pure ()

/-- `if let Some(a) = x { f(a) }`. -/
def ifSome (x : Option α) (f : α → Fallible S ε Unit) : Fallible S ε Unit :=
  match x with
  | some a => f a
  | none => pure ()

def mapError (f : ε → δ) (x : Fallible S ε α) : Fallible S δ α :=
  ExceptT.mk (x.run >>= fun
    | .ok a => .ret (.ok a)
    | .error e => .ret (.error (f e)))

/-- The error is a value the program goes on with. -/
def attempt (x : Fallible S ε α) : Fallible S δ (Except ε α) :=
  ExceptT.mk (x.run >>= fun r => .ret (.ok r))

def Calls (P : S.Op → Prop) (x : Fallible S ε α) : Prop := x.run.Calls P

/-- Every error the program can ever throw satisfies `E`. -/
def Raises (E : ε → Prop) (x : Fallible S ε α) : Prop := x.run.Returns fun r => ∀ e, r = .error e → E e

/-- Partial correctness of a program under a monitor: every call is allowed, a
value it returns satisfies `ok` and an error it throws `err`. -/
def Triple (M : Monitor S) (x : Fallible S ε α) (ok : M.State → α → Prop)
    (err : M.State → ε → Prop) (q : M.State) : Prop :=
  x.run.Obeys M (fun q r => match r with | .ok a => ok q a | .error e => err q e) q

section Calls
variable {P : S.Op → Prop}

@[simp] theorem calls_pure (a : α) : Calls P (pure a : Fallible S ε α) := trivial

@[simp] theorem calls_throw (e : ε) : Calls P (throw e : Fallible S ε α) := trivial

@[simp] theorem calls_liftResult (x : Except ε α) : Calls P (liftResult x : Fallible S ε α) := trivial

@[simp] theorem calls_ensure (c : Bool) (e : ε) : Calls P (ensure c e : Fallible S ε Unit) :=
  trivial

@[simp] theorem calls_okOr (x : Option α) (e : ε) : Calls P (okOr x e : Fallible S ε α) := trivial

-- The type of a call's result is left out of the index: where a program binds it, it is written
-- as the type it computes to.
@[simp] theorem calls_txn (fault : S.Fault → ε) (op : S.Op) :
    Calls (α := no_index (S.Out op)) P (txn fault op) ↔ P op := by
  refine ⟨fun h => h.1, fun h => ⟨h, fun r => ?_⟩⟩
  cases r <;> trivial

theorem calls_true (x : Fallible S ε α) : Calls (fun _ => True) x :=
  Program.calls_of_forall (fun _ => trivial) x.run

theorem Calls.bind {x : Fallible S ε α} {f : α → Fallible S ε β}
    (hx : Calls P x) (hf : ∀ a, Calls P (f a)) : Calls P (x >>= f) := by
  apply Program.Calls.bind hx
  intro r
  cases r with
  | ok a => exact hf a
  | error e => trivial

theorem Calls.mapError {x : Fallible S ε α} (g : ε → δ) (hx : Calls P x) :
    Calls P (x.mapError g) := by
  apply Program.Calls.bind hx
  intro r
  cases r <;> trivial

theorem Calls.attempt {x : Fallible S ε α} (hx : Calls P x) :
    Calls P (x.attempt : Fallible S δ _) :=
  Program.Calls.bind hx fun _ => trivial

theorem Calls.ite {c : Prop} [Decidable c] {x y : Fallible S ε α}
    (hx : Calls P x) (hy : Calls P y) : Calls P (if c then x else y) := by
  split <;> assumption

@[simp] theorem calls_runIf {c : Bool} {x : Fallible S ε Unit} :
    Calls P (runIf c x) ↔ (c = true → Calls P x) := by
  cases c <;> simp [runIf]

@[simp] theorem calls_ifSome {x : Option α} {f : α → Fallible S ε Unit} :
    Calls P (ifSome x f) ↔ ∀ a, x = some a → Calls P (f a) := by
  cases x <;> simp [ifSome]

theorem Calls.forM {l : List α} {f : α → Fallible S ε PUnit} (hf : ∀ a, Calls P (f a)) :
    Calls P (l.forM f) := by
  induction l with
  | nil => trivial
  | cons a l ih => exact Calls.bind (hf a) fun _ => ih

end Calls

section Raises
variable {E : ε → Prop}

@[simp] theorem raises_pure (a : α) : Raises E (pure a : Fallible S ε α) := fun _ h => nomatch h

@[simp] theorem raises_throw (e : ε) : Raises E (throw e : Fallible S ε α) ↔ E e :=
  ⟨fun h => h e rfl, fun h _ he => Except.error.inj he ▸ h⟩

@[simp] theorem raises_liftResult (x : Except ε α) :
    Raises E (liftResult x : Fallible S ε α) ↔ ∀ e, x = .error e → E e := .rfl

@[simp] theorem raises_ensure (c : Bool) (e : ε) :
    Raises E (ensure c e : Fallible S ε Unit) ↔ (c = false → E e) := by
  cases c <;> simp [ensure]

@[simp] theorem raises_okOr (x : Option α) (e : ε) :
    Raises E (okOr x e : Fallible S ε α) ↔ (x = none → E e) := by
  cases x <;> simp [okOr]

@[simp] theorem raises_txn (fault : S.Fault → ε) (op : S.Op) :
    Raises (α := no_index (S.Out op)) E (txn fault op) ↔ ∀ f, E (fault f) := by
  refine ⟨fun h f => h (.error f) _ rfl, fun h r => ?_⟩
  cases r with
  | ok out => exact fun _ he => nomatch he
  | error f => exact fun _ he => Except.error.inj he ▸ h f

@[simp] theorem raises_true (x : Fallible S ε α) : Raises (fun _ => True) x :=
  Program.returns_of_forall (fun _ _ _ => trivial) x.run

theorem Raises.bind {x : Fallible S ε α} {f : α → Fallible S ε β}
    (hx : Raises E x) (hf : ∀ a, Raises E (f a)) : Raises E (x >>= f) := by
  apply Program.Returns.bind hx
  intro r hr
  cases r with
  | ok a => exact hf a
  | error e => exact fun _ he => Except.error.inj he ▸ hr e rfl

theorem Raises.mapError {E : δ → Prop} {x : Fallible S ε α} (g : ε → δ) (hg : ∀ e, E (g e)) :
    Raises E (x.mapError g) := by
  apply Program.Returns.bind (Program.returns_of_forall (fun _ => trivial) x.run)
  intro r _
  cases r with
  | ok a => exact fun _ he => nomatch he
  | error e => exact fun _ he => Except.error.inj he ▸ hg e

@[simp] theorem raises_attempt {E : δ → Prop} (x : Fallible S ε α) :
    Raises E (x.attempt : Fallible S δ _) :=
  Program.Returns.bind (Program.returns_of_forall (fun _ => trivial) x.run) fun _ _ _ he => nomatch he

theorem Raises.ite {c : Prop} [Decidable c] {x y : Fallible S ε α}
    (hx : Raises E x) (hy : Raises E y) : Raises E (if c then x else y) := by
  split <;> assumption

@[simp] theorem raises_runIf {c : Bool} {x : Fallible S ε Unit} :
    Raises E (runIf c x) ↔ (c = true → Raises E x) := by
  cases c <;> simp [runIf]

end Raises

section Triple
variable {M : Monitor S} {ok : M.State → α → Prop} {err : M.State → ε → Prop} {q : M.State}

theorem Triple.mono {x : Fallible S ε α} {ok' : M.State → α → Prop} {err' : M.State → ε → Prop}
    (h : Triple M x ok err q) (hok : ∀ q a, ok q a → ok' q a) (herr : ∀ q e, err q e → err' q e) :
    Triple M x ok' err' q := by
  apply Program.Obeys.mono _ h
  intro q r hr
  cases r with
  | ok a => exact hok q a hr
  | error e => exact herr q e hr

/-- A part that the monitor does not notice. -/
theorem Calls.triple {E : ε → Prop} {x : Fallible S ε α} (h : Calls M.Ignores x)
    (hraise : Raises E x) (hok : ∀ a, ok q a) (herr : ∀ e, E e → err q e) :
    Triple M x ok err q := by
  apply Program.Calls.obeys h hraise
  intro r hr
  cases r with
  | ok a => exact hok a
  | error e => exact herr e (hr e rfl)

@[simp] theorem triple_pure (a : α) : Triple M (pure a : Fallible S ε α) ok err q ↔ ok q a := .rfl

@[simp] theorem triple_throw (e : ε) : Triple M (throw e : Fallible S ε α) ok err q ↔ err q e :=
  .rfl

@[simp] theorem triple_bind {ok : M.State → β → Prop} (x : Fallible S ε α)
    (f : α → Fallible S ε β) :
    Triple M (x >>= f) ok err q ↔ Triple M x (fun q a => Triple M (f a) ok err q) err q := by
  unfold Triple
  rw [ExceptT.run_bind, Program.obeys_bind]
  refine ⟨fun h => Program.Obeys.mono ?_ h, fun h => Program.Obeys.mono ?_ h⟩
  · intro q r hr
    cases r <;> exact hr
  · intro q r hr
    cases r <;> exact hr

/-- A part whose calls are allowed in every state. -/
theorem Calls.triple_allowed {x : Fallible S ε α} (h : Calls (fun op => ∀ q, M.allow q op) x)
    (hok : ∀ q a, ok q a) (herr : ∀ q e, err q e) : Triple M x ok err q := by
  refine Program.Calls.obeys_allowed h (fun q r => ?_) q
  cases r with
  | ok a => exact hok q a
  | error e => exact herr q e

theorem triple_keeps {P : M.State → Prop} (hallow : ∀ q op, M.allow q op)
    (hP : ∀ q op r, P q → P (M.step q op r)) (x : Fallible S ε α) (hq : P q) :
    Triple M x (fun q _ => P q) (fun q _ => P q) q :=
  (Program.obeys_keeps hallow hP x.run hq).mono fun _ r h => by cases r <;> exact h

theorem Calls.triple_within {P : S.Op → Prop} {Q : M.State → Prop} {x : Fallible S ε α}
    (h : Calls P x) (hallow : ∀ q op, Q q → P op → M.allow q op)
    (hQ : ∀ q op r, Q q → P op → Q (M.step q op r)) (hq : Q q) :
    Triple M x (fun q _ => Q q) (fun q _ => Q q) q :=
  (Program.Calls.obeys_within h hallow hQ hq).mono fun _ r h => by cases r <;> exact h

/-- A first step that the monitor does not notice. -/
theorem Triple.skip {E : ε → Prop} {ok : M.State → β → Prop} {x : Fallible S ε α}
    {f : α → Fallible S ε β} (h : Calls M.Ignores x) (hraise : Raises E x)
    (herr : ∀ e, E e → err q e) (hf : ∀ a, Triple M (f a) ok err q) :
    Triple M (x >>= f) ok err q :=
  (triple_bind x f).mpr (h.triple hraise hf herr)

@[simp] theorem triple_liftResult (x : Except ε α) :
    Triple M (liftResult x) ok err q ↔
      (∀ a, x = .ok a → ok q a) ∧ (∀ e, x = .error e → err q e) := by
  cases x <;> simp [Triple, liftResult, Program.Obeys]

@[simp] theorem triple_ensure {ok : M.State → Unit → Prop} (c : Bool) (e : ε) :
    Triple M (ensure c e) ok err q ↔ (c = true → ok q ()) ∧ (c = false → err q e) := by
  cases c with
  | false => simp [ensure]
  | true => simpa [ensure] using ⟨fun h => h (), fun h _ => h⟩

@[simp] theorem triple_okOr (x : Option α) (e : ε) :
    Triple M (okOr x e) ok err q ↔ (∀ a, x = some a → ok q a) ∧ (x = none → err q e) := by
  cases x <;> simp [okOr]

@[simp] theorem triple_runIf {ok : M.State → Unit → Prop} (c : Bool) (x : Fallible S ε Unit) :
    Triple M (runIf c x) ok err q ↔ (c = true → Triple M x ok err q) ∧ (c = false → ok q ()) := by
  cases c <;> simp [runIf]

@[simp] theorem triple_ifSome {ok : M.State → Unit → Prop} (x : Option α)
    (f : α → Fallible S ε Unit) :
    Triple M (ifSome x f) ok err q ↔
      (∀ a, x = some a → Triple M (f a) ok err q) ∧ (x = none → ok q ()) := by
  cases x <;> simp [ifSome]

@[simp] theorem triple_txn (fault : S.Fault → ε) (op : S.Op)
    {ok : M.State → S.Out op → Prop} :
    Triple (α := no_index (S.Out op)) M (txn fault op) ok err q ↔
      M.allow q op ∧ (∀ out, ok (M.step q op (.ok out)) out) ∧
        ∀ f, err (M.step q op (.error f)) (fault f) := by
  refine and_congr_right fun _ => ⟨fun h => ⟨fun out => h (.ok out), fun f => h (.error f)⟩, ?_⟩
  rintro ⟨hok, herr⟩ r
  cases r with
  | ok out => exact hok out
  | error f => exact herr f

@[simp] theorem triple_mapError {err : M.State → δ → Prop} (g : ε → δ) (x : Fallible S ε α) :
    Triple M (x.mapError g) ok err q ↔ Triple M x ok (fun q e => err q (g e)) q := by
  unfold Triple mapError
  rw [ExceptT.run_mk, Program.obeys_bind]
  refine ⟨fun h => Program.Obeys.mono ?_ h, fun h => Program.Obeys.mono ?_ h⟩
  · intro q r hr
    cases r <;> exact hr
  · intro q r hr
    cases r <;> exact hr

@[simp] theorem triple_attempt {ok : M.State → Except ε α → Prop} {err : M.State → δ → Prop}
    (x : Fallible S ε α) :
    Triple M (x.attempt : Fallible S δ _) ok err q ↔
      Triple M x (fun q a => ok q (.ok a)) (fun q e => ok q (.error e)) q := by
  unfold Triple attempt
  rw [ExceptT.run_mk, Program.obeys_bind]
  refine ⟨fun h => Program.Obeys.mono ?_ h, fun h => Program.Obeys.mono ?_ h⟩
  · intro q r hr
    cases r <;> exact hr
  · intro q r hr
    cases r <;> exact hr

end Triple

end Fallible

end Transactions
