import CloudSync.Transactions.Interleaving

/-!
# Programs executed one at a time

A program that is alone on the store and meets no fault is a function of the
store. What each of its calls keeps, the whole program keeps.
-/

namespace Transactions

set_option autoImplicit false

variable {S : Signature} {σ α β ε δ : Type} (exec : (op : S.Op) → σ → S.Out op × σ)

namespace Program

variable {exec}

/-- What every call keeps, the program keeps. -/
theorem run_invariant {P : S.Op → Prop} {J : σ → Prop}
    (hJ : ∀ op s, P op → J s → J (exec op s).2) {p : Program S α} (hp : p.Calls P) {s : σ}
    (hs : J s) : J (p.run exec s).2 := by
  induction p generalizing s with
  | ret a => exact hs
  | call op next ih => exact ih _ (hp.2 _) (hJ op s hp.1 hs)

end Program

namespace Fallible

/-- The result of a program that is alone on the store, and the store it leaves. -/
def alone (x : Fallible S ε α) (s : σ) : Except ε α × σ := x.run.run exec s

section Alone
variable (s : σ)

@[simp] theorem alone_pure (a : α) : (pure a : Fallible S ε α).alone exec s = (.ok a, s) := rfl

@[simp] theorem alone_throw (e : ε) : (throw e : Fallible S ε α).alone exec s = (.error e, s) := rfl

@[simp] theorem alone_bind (x : Fallible S ε α) (f : α → Fallible S ε β) :
    (x >>= f).alone exec s =
      match x.alone exec s with
      | (.ok a, s') => (f a).alone exec s'
      | (.error e, s') => (.error e, s') := by
  simp only [alone, ExceptT.run_bind]
  rw [Program.run_bind]
  rcases x.run.run exec s with ⟨a | e, s'⟩ <;> rfl

@[simp] theorem alone_txn (fault : S.Fault → ε) (op : S.Op) :
    (txn fault op).alone (α := no_index (S.Out op)) exec s = (.ok (exec op s).1, (exec op s).2) := rfl

@[simp] theorem alone_liftResult (x : Except ε α) :
    (liftResult x : Fallible S ε α).alone exec s = (x, s) := rfl

@[simp] theorem alone_ensure (c : Bool) (e : ε) :
    (ensure c e : Fallible S ε Unit).alone exec s = (if c then .ok () else .error e, s) := rfl

@[simp] theorem alone_okOr (x : Option α) (e : ε) :
    (okOr x e : Fallible S ε α).alone exec s =
      (match x with | some a => .ok a | none => .error e, s) := rfl

@[simp] theorem alone_runIf (c : Bool) (x : Fallible S ε Unit) :
    (runIf c x).alone exec s = if c then x.alone exec s else (.ok (), s) := by
  cases c <;> rfl

@[simp] theorem alone_ifSome (x : Option α) (f : α → Fallible S ε Unit) :
    (ifSome x f).alone exec s =
      match x with
      | some a => (f a).alone exec s
      | none => (.ok (), s) := by
  cases x <;> rfl

@[simp] theorem alone_mapError (f : ε → δ) (x : Fallible S ε α) :
    (x.mapError f).alone exec s = ((x.alone exec s).1.mapError f, (x.alone exec s).2) := by
  simp only [alone, mapError, ExceptT.run_mk]
  rw [Program.run_bind]
  rcases x.run.run exec s with ⟨a | e, s'⟩ <;> rfl

@[simp] theorem alone_attempt (x : Fallible S ε α) :
    (x.attempt : Fallible S δ _).alone exec s = (.ok (x.alone exec s).1, (x.alone exec s).2) := by
  simp only [alone, attempt, ExceptT.run_mk]
  rw [Program.run_bind]
  rfl

theorem alone_map (f : α → β) (x : Fallible S ε α) :
    (f <$> x).alone exec s = ((x.alone exec s).1.map f, (x.alone exec s).2) := by
  rw [map_eq_pure_bind, alone_bind]
  rcases x.alone exec s with ⟨a | e, s'⟩ <;> rfl

/-- Programs that only read, for each element in turn. -/
theorem alone_mapM {s : σ} {f : α → Fallible S ε β} {g : α → β}
    (hf : ∀ a, (f a).alone exec s = (.ok (g a), s)) (l : List α) :
    (l.mapM f).alone exec s = (.ok (l.map g), s) := by
  induction l with
  | nil => rfl
  | cons a rest ih =>
    rw [List.mapM_cons, alone_bind, hf]
    dsimp only
    rw [alone_bind, ih]
    rfl

end Alone

/-! ## What a program leaves behind

`Leaves` is total correctness of a program that is alone on the store, with one
rule for each way to compose programs. -/

/-- Alone on the store `s`, the program ends in a value with `ok` or in an error with `err`. -/
def Leaves (x : Fallible S ε α) (s : σ) (ok : α → σ → Prop) (err : ε → σ → Prop) : Prop :=
  match x.alone exec s with
  | (.ok a, s') => ok a s'
  | (.error e, s') => err e s'

section Leaves
variable {exec} {s : σ} {ok : α → σ → Prop} {err : ε → σ → Prop}

theorem leaves_pure {a : α} : Leaves exec (pure a : Fallible S ε α) s ok err ↔ ok a s := .rfl

theorem leaves_throw {e : ε} : Leaves exec (throw e : Fallible S ε α) s ok err ↔ err e s := .rfl

theorem leaves_bind {ok : β → σ → Prop} (x : Fallible S ε α) (f : α → Fallible S ε β) :
    Leaves exec (x >>= f) s ok err ↔
      Leaves exec x s (fun a s' => Leaves exec (f a) s' ok err) err := by
  unfold Leaves
  rw [alone_bind]
  rcases x.alone exec s with ⟨a | e, s'⟩ <;> rfl

theorem leaves_txn (fault : S.Fault → ε) (op : S.Op) {ok : S.Out op → σ → Prop} :
    Leaves (α := no_index (S.Out op)) exec (txn fault op) s ok err ↔
      ok (exec op s).1 (exec op s).2 := .rfl

theorem leaves_liftResult (x : Except ε α) :
    Leaves exec (liftResult x) s ok err ↔
      (∀ a, x = .ok a → ok a s) ∧ ∀ e, x = .error e → err e s := by
  cases x <;> simp [Leaves, alone_liftResult]

theorem leaves_ensure {ok : Unit → σ → Prop} (c : Bool) (e : ε) :
    Leaves exec (ensure c e) s ok err ↔ (c = true → ok () s) ∧ (c = false → err e s) := by
  cases c <;> simp [Leaves, alone_ensure]

theorem leaves_okOr (x : Option α) (e : ε) :
    Leaves exec (okOr x e) s ok err ↔ (∀ a, x = some a → ok a s) ∧ (x = none → err e s) := by
  cases x <;> simp [Leaves, alone_okOr]

theorem leaves_runIf {ok : Unit → σ → Prop} (c : Bool) (x : Fallible S ε Unit) :
    Leaves exec (runIf c x) s ok err ↔
      (c = true → Leaves exec x s ok err) ∧ (c = false → ok () s) := by
  cases c <;> simp [Leaves, alone_runIf]

theorem leaves_ifSome {ok : Unit → σ → Prop} (x : Option α) (f : α → Fallible S ε Unit) :
    Leaves exec (ifSome x f) s ok err ↔
      (∀ a, x = some a → Leaves exec (f a) s ok err) ∧ (x = none → ok () s) := by
  cases x <;> simp [Leaves, alone_ifSome]

theorem leaves_attempt {ok : Except ε α → σ → Prop} {err : δ → σ → Prop} (x : Fallible S ε α) :
    Leaves exec (x.attempt : Fallible S δ _) s ok err ↔
      Leaves exec x s (fun a => ok (.ok a)) fun e => ok (.error e) := by
  unfold Leaves
  rw [alone_attempt]
  rcases x.alone exec s with ⟨a | e, s'⟩ <;> rfl

theorem leaves_mapError {err : δ → σ → Prop} (f : ε → δ) (x : Fallible S ε α) :
    Leaves exec (x.mapError f) s ok err ↔ Leaves exec x s ok fun e => err (f e) := by
  unfold Leaves
  rw [alone_mapError]
  rcases x.alone exec s with ⟨a | e, s'⟩ <;> rfl

theorem leaves_map {ok : β → σ → Prop} (f : α → β) (x : Fallible S ε α) :
    Leaves exec (f <$> x) s ok err ↔ Leaves exec x s (fun a => ok (f a)) err := by
  unfold Leaves
  rw [alone_map]
  rcases x.alone exec s with ⟨a | e, s'⟩ <;> rfl

theorem Leaves.mono {ok' : α → σ → Prop} {err' : ε → σ → Prop} {x : Fallible S ε α}
    (h : Leaves exec x s ok err) (hok : ∀ a s', ok a s' → ok' a s')
    (herr : ∀ e s', err e s' → err' e s') : Leaves exec x s ok' err' := by
  unfold Leaves at h ⊢
  split
  · rename_i heq
    rw [heq] at h
    exact hok _ _ h
  · rename_i heq
    rw [heq] at h
    exact herr _ _ h

/-- What every call keeps, the program leaves. -/
theorem Calls.leaves {P : S.Op → Prop} {J : σ → Prop} {x : Fallible S ε α} (h : Calls P x)
    (hJ : ∀ op s, P op → J s → J (exec op s).2) (hs : J s) :
    Leaves exec x s (fun _ s' => J s') fun _ s' => J s' := by
  have hend : J (x.alone exec s).2 := Program.run_invariant hJ h hs
  unfold Leaves
  split
  · rename_i heq
    rwa [heq] at hend
  · rename_i heq
    rwa [heq] at hend

/-- For each element in turn, from every store that the elements before it may leave. -/
theorem leaves_forM {J : List α → σ → Prop} {f : α → Fallible S ε PUnit} {l : List α}
    {ok : PUnit → σ → Prop} (hs : J l s) (hok : ∀ s', J [] s' → ok ⟨⟩ s')
    (hstep : ∀ a rest s', J (a :: rest) s' → Leaves exec (f a) s' (fun _ s'' => J rest s'') err) :
    Leaves exec (l.forM f) s ok err := by
  induction l generalizing s with
  | nil => exact hok s hs
  | cons a rest ih =>
    apply (leaves_bind _ _).mpr
    exact (hstep a rest s hs).mono (fun _ _ h => ih h) fun _ _ h => h

end Leaves

end Fallible

end Transactions
