import CloudSync.Transactions.Interleaving

/-!
# Contracts between programs and an invariant

Programs that share a store keep an invariant of it that none of them sees as a
whole. A contract says what a program may rely on in the reply to a transaction
and what it has to guarantee when it makes a call. If the invariant justifies
the replies and the guarantees keep the invariant, every interleaving of programs
that honour the contract keeps it.
-/

namespace Transactions

set_option autoImplicit false

structure Contract (S : Signature) where
  rely : (op : S.Op) → S.Out op → Prop
  guarantee : S.Op → Prop

variable {S : Signature} {σ α β ε δ : Type}

structure Contract.Sound (K : Contract S) (exec : (op : S.Op) → σ → S.Out op × σ) (J : σ → Prop) :
    Prop where
  justified : ∀ op s, J s → K.rely op (exec op s).1
  kept : ∀ op s, J s → K.guarantee op → J (exec op s).2

/-- Every call is one that the contract asks for, and the result satisfies `post`, as long as
the replies are as the contract says. -/
def Program.Honours (K : Contract S) (post : α → Prop) : Program S α → Prop
  | .ret a => post a
  | .call op next =>
    K.guarantee op ∧ ∀ r : S.Reply op, (∀ out, r = .ok out → K.rely op out) → (next r).Honours K post

/-! ## A process on its own -/

/-- A program that is alone on the store makes some of its calls, and any of them may fail. -/
inductive Steps (exec : (op : S.Op) → σ → S.Out op × σ) :
    Program S α → σ → Program S α → σ → Prop where
  | refl (p : Program S α) (s : σ) : Steps exec p s p s
  | step {op : S.Op} {next : S.Reply op → Program S α} {r : S.Reply op} {s s' t : σ}
      {q : Program S α} : Effect exec op r s s' → Steps exec (next r) s' q t →
      Steps exec (.call op next) s q t

variable {exec : (op : S.Op) → σ → S.Out op × σ} {J : σ → Prop} {K : Contract S}

/-- Without faults the program comes to its end. -/
theorem steps_run (p : Program S α) (s : σ) :
    Steps exec p s (.ret (p.run exec s).1) (p.run exec s).2 := by
  induction p generalizing s with
  | ret a => exact .refl _ _
  | call op next ih => exact .step (.commit op s) (ih _ _)

theorem Steps.returns {Q : α → Prop} {p q : Program S α} {s t : σ} (h : Steps exec p s q t)
    (hp : p.Returns Q) : q.Returns Q := by
  induction h with
  | refl => exact hp
  | step _ _ ih => exact ih (hp _)

namespace Program

theorem Honours.mono {post post' : α → Prop} (hpost : ∀ a, post a → post' a) {p : Program S α}
    (h : p.Honours K post) : p.Honours K post' := by
  induction p with
  | ret a => exact hpost a h
  | call op next ih => exact ⟨h.1, fun r hr => ih r (h.2 r hr)⟩

theorem honours_bind {post : β → Prop} (p : Program S α) (f : α → Program S β) :
    (p >>= f).Honours K post ↔ p.Honours K fun a => (f a).Honours K post := by
  induction p with
  | ret a => rfl
  | call op next ih =>
    refine and_congr_right fun _ => forall_congr' fun r => ?_
    exact imp_congr_right fun _ => ih r

/-- Calls that the contract always asks for. -/
theorem Calls.honours {p : Program S α} (h : p.Calls K.guarantee) : p.Honours K fun _ => True := by
  induction p with
  | ret a => trivial
  | call op next ih => exact ⟨h.1, fun r _ => ih r (h.2 r)⟩

end Program

theorem Contract.Sound.effect (hK : K.Sound exec J) {op : S.Op} {r : S.Reply op} {s s' : σ}
    (he : Effect exec op r s s') (hg : K.guarantee op) (hs : J s) :
    J s' ∧ ∀ out, r = .ok out → K.rely op out := by
  cases he with
  | commit =>
    refine ⟨hK.kept op s hs hg, fun out h => ?_⟩
    exact Except.ok.inj h ▸ hK.justified op s hs
  | fail => exact ⟨hs, fun out h => by cases h⟩

theorem Steps.honours {post : α → Prop} (hK : K.Sound exec J) {p q : Program S α} {s t : σ}
    (h : Steps exec p s q t) (hp : p.Honours K post) (hs : J s) : J t ∧ q.Honours K post := by
  induction h with
  | refl => exact ⟨hs, hp⟩
  | step he _ ih =>
    obtain ⟨hs', hrely⟩ := hK.effect he hp.1 hs
    exact ih (hp.2 _ hrely) hs'

/-- Alone on the store, `J` holds all the time and `post` at the end, whichever calls fail. -/
def Program.Attempts (exec : (op : S.Op) → σ → S.Out op × σ) (J : σ → Prop) (post : α → σ → Prop) :
    Program S α → σ → Prop
  | .ret a, s => J s ∧ post a s
  | .call op next, s => J s ∧ ∀ r s', Effect exec op r s s' → (next r).Attempts exec J post s'

theorem Steps.attempts {post : α → σ → Prop} {p q : Program S α} {s t : σ} (h : Steps exec p s q t)
    (hp : p.Attempts exec J post s) : q.Attempts exec J post t := by
  induction h with
  | refl => exact hp
  | step he _ ih => exact ih (hp.2 _ _ he)

namespace Program
variable {s : σ}

theorem Attempts.kept {post : α → σ → Prop} {p : Program S α} (h : p.Attempts exec J post s) : J s := by
  cases p with
  | ret a => exact h.1
  | call op next => exact h.1

theorem Attempts.mono {post post' : α → σ → Prop} (hpost : ∀ a s, J s → post a s → post' a s)
    {p : Program S α} (h : p.Attempts exec J post s) : p.Attempts exec J post' s := by
  induction p generalizing s with
  | ret a => exact ⟨h.1, hpost a s h.1 h.2⟩
  | call op next ih => exact ⟨h.1, fun r s' he => ih r (h.2 r s' he)⟩

theorem Attempts.bind {post : β → σ → Prop} {p : Program S α} {f : α → Program S β}
    (h : p.Attempts exec J (fun a s => (f a).Attempts exec J post s) s) :
    (p >>= f).Attempts exec J post s := by
  induction p generalizing s with
  | ret a => exact h.2
  | call op next ih => exact ⟨h.1, fun r s' he => ih r (h.2 r s' he)⟩

end Program

/-! ## Interleaved programs -/

namespace Run
variable {start s : σ} {prog ps : Nat → Program S α} {log : List (Event S σ)} {post : Nat → α → Prop}

/-- Whatever the replies were, a program returns what it can return. -/
theorem returns (h : Run exec start prog log s ps) (hp : ∀ i, (prog i).Returns (post i)) :
    ∀ i, (ps i).Returns (post i) := by
  induction h with
  | start => exact hp
  | @step log s s' ps i op next r _ hi _ ih =>
    intro j
    by_cases hj : j = i
    · subst hj
      rw [Function.update_self]
      have hcall := ih j
      rw [hi] at hcall
      exact hcall r
    · rw [Function.update_of_ne hj]
      exact ih j

/-- The invariant holds when the run ends, and what is left of the programs honours the contract. -/
theorem honours (hK : K.Sound exec J) (h : Run exec start prog log s ps) (hs : J start)
    (hp : ∀ i, (prog i).Honours K (post i)) : J s ∧ ∀ i, (ps i).Honours K (post i) := by
  induction h with
  | start => exact ⟨hs, hp⟩
  | @step log s s' ps i op next r _ hi he ih =>
    obtain ⟨hs, hrest⟩ := ih
    have hcall := hrest i
    rw [hi] at hcall
    obtain ⟨hs', hrely⟩ := hK.effect he hcall.1 hs
    refine ⟨hs', fun j => ?_⟩
    by_cases hj : j = i
    · subst hj
      rw [Function.update_self]
      exact hcall.2 r hrely
    · rw [Function.update_of_ne hj]
      exact hrest j

/-- So it holds around every event, and every event is a call that the contract asks for. -/
theorem honoured (hK : K.Sound exec J) (h : Run exec start prog log s ps) (hs : J start)
    (hp : ∀ i, (prog i).Honours K (post i)) :
    ∀ e ∈ log, J e.pre ∧ J e.post ∧ K.guarantee e.op := by
  induction h with
  | start =>
    intro e he
    cases he
  | @step log s s' ps i op next r hrun hi he ih =>
    intro e hmem
    rcases List.mem_append.mp hmem with hold | hnew
    · exact ih e hold
    · obtain rfl := List.mem_singleton.mp hnew
      obtain ⟨hs, hrest⟩ := hrun.honours hK hs hp
      have hcall := hrest i
      rw [hi] at hcall
      exact ⟨hs, (hK.effect he hcall.1 hs).1, hcall.1⟩

theorem honoured_answer (hK : K.Sound exec J) (h : Run exec start prog log s ps) (hs : J start)
    (hp : ∀ i, (prog i).Honours K (post i)) {i : Nat} {a : α} (hi : ps i = .ret a) : post i a := by
  have hrest := (h.honours hK hs hp).2 i
  rwa [hi] at hrest

end Run

/-! ## Programs that can throw -/

namespace Fallible

def Honours (K : Contract S) (x : Fallible S ε α) (ok : α → Prop) (err : ε → Prop) : Prop :=
  x.run.Honours K fun r => match r with | .ok a => ok a | .error e => err e

section Honours
variable {ok : α → Prop} {err : ε → Prop}

theorem Honours.mono {ok' : α → Prop} {err' : ε → Prop} {x : Fallible S ε α}
    (h : Honours K x ok err) (hok : ∀ a, ok a → ok' a) (herr : ∀ e, err e → err' e) :
    Honours K x ok' err' := by
  apply Program.Honours.mono _ h
  intro r hr
  cases r with
  | ok a => exact hok a hr
  | error e => exact herr e hr

theorem Calls.honours {x : Fallible S ε α} (h : Calls K.guarantee x) :
    Honours K x (fun _ => True) fun _ => True := by
  apply Program.Honours.mono _ (Program.Calls.honours h)
  intro r _
  cases r <;> trivial

@[simp] theorem honours_pure (a : α) : Honours K (pure a : Fallible S ε α) ok err ↔ ok a := .rfl

@[simp] theorem honours_throw (e : ε) : Honours K (throw e : Fallible S ε α) ok err ↔ err e := .rfl

theorem honours_bind {ok : β → Prop} (x : Fallible S ε α) (f : α → Fallible S ε β) :
    Honours K (x >>= f) ok err ↔ Honours K x (fun a => Honours K (f a) ok err) err := by
  unfold Honours
  rw [ExceptT.run_bind, Program.honours_bind]
  refine ⟨fun h => Program.Honours.mono ?_ h, fun h => Program.Honours.mono ?_ h⟩
  · intro r hr
    cases r <;> exact hr
  · intro r hr
    cases r <;> exact hr

/-- A first step of which only the contract matters. -/
theorem Honours.skip {ok : β → Prop} {x : Fallible S ε α} {f : α → Fallible S ε β}
    (h : Calls K.guarantee x) (hf : ∀ a, Honours K (f a) ok fun _ => True) :
    Honours K (x >>= f) ok fun _ => True :=
  (honours_bind x f).mpr (h.honours.mono (fun a _ => hf a) fun _ _ => trivial)

@[simp] theorem honours_liftResult (x : Except ε α) :
    Honours K (liftResult x) ok err ↔ (∀ a, x = .ok a → ok a) ∧ ∀ e, x = .error e → err e := by
  cases x <;> simp [Honours, liftResult, Program.Honours]

@[simp] theorem honours_ensure {ok : Unit → Prop} (c : Bool) (e : ε) :
    Honours K (ensure c e) ok err ↔ (c = true → ok ()) ∧ (c = false → err e) := by
  cases c with
  | false => simp [ensure]
  | true => simpa [ensure] using ⟨fun h => h (), fun h _ => h⟩

@[simp] theorem honours_okOr (x : Option α) (e : ε) :
    Honours K (okOr x e) ok err ↔ (∀ a, x = some a → ok a) ∧ (x = none → err e) := by
  cases x <;> simp [okOr]

@[simp] theorem honours_runIf {ok : Unit → Prop} (c : Bool) (x : Fallible S ε Unit) :
    Honours K (runIf c x) ok err ↔ (c = true → Honours K x ok err) ∧ (c = false → ok ()) := by
  cases c <;> simp [runIf]

@[simp] theorem honours_ifSome {ok : Unit → Prop} (x : Option α) (f : α → Fallible S ε Unit) :
    Honours K (ifSome x f) ok err ↔
      (∀ a, x = some a → Honours K (f a) ok err) ∧ (x = none → ok ()) := by
  cases x <;> simp [ifSome]

theorem honours_txn (fault : S.Fault → ε) (op : S.Op) {ok : S.Out op → Prop} :
    Honours (α := no_index (S.Out op)) K (txn fault op) ok err ↔
      K.guarantee op ∧ (∀ out, K.rely op out → ok out) ∧ ∀ f, err (fault f) := by
  refine and_congr_right fun _ => ⟨fun h => ⟨fun out hout => ?_, fun f => ?_⟩, ?_⟩
  · exact h (.ok out) fun out' heq => Except.ok.inj heq ▸ hout
  · exact h (.error f) fun out heq => by cases heq
  · intro h r hr
    cases r with
    | ok out => exact h.1 out (hr out rfl)
    | error f => exact h.2 f

@[simp] theorem honours_mapError {err : δ → Prop} (g : ε → δ) (x : Fallible S ε α) :
    Honours K (x.mapError g) ok err ↔ Honours K x ok fun e => err (g e) := by
  unfold Honours mapError
  rw [ExceptT.run_mk, Program.honours_bind]
  refine ⟨fun h => Program.Honours.mono ?_ h, fun h => Program.Honours.mono ?_ h⟩
  · intro r hr
    cases r <;> exact hr
  · intro r hr
    cases r <;> exact hr

/-- For each element in turn. -/
theorem Honours.forM {f : α → Fallible S ε PUnit} {l : List α}
    (hf : ∀ a ∈ l, Honours K (f a) (fun _ => True) err) :
    Honours K (l.forM f) (fun _ => True) err := by
  induction l with
  | nil => trivial
  | cons a l ih =>
    apply (honours_bind _ _).mpr
    refine (hf a (by simp)).mono (fun _ _ => ?_) fun _ h => h
    exact ih fun b hb => hf b (by simp [hb])

end Honours

/-! ### Alone -/

def Attempts (exec : (op : S.Op) → σ → S.Out op × σ) (J : σ → Prop) (x : Fallible S ε α) (s : σ)
    (ok : α → σ → Prop) (err : ε → σ → Prop) : Prop :=
  x.run.Attempts exec J (fun r s => match r with | .ok a => ok a s | .error e => err e s) s

section Attempts
variable {exec : (op : S.Op) → σ → S.Out op × σ} {J : σ → Prop} {s : σ} {ok : α → σ → Prop}
  {err : ε → σ → Prop}

theorem Attempts.bind {ok : β → σ → Prop} {x : Fallible S ε α} {f : α → Fallible S ε β}
    (h : Attempts exec J x s (fun a s => Attempts exec J (f a) s ok err) err) :
    Attempts exec J (x >>= f) s ok err := by
  unfold Attempts
  rw [ExceptT.run_bind]
  refine Program.Attempts.bind (Program.Attempts.mono ?_ h)
  intro r s hs hr
  cases r with
  | ok a => exact hr
  | error e => exact ⟨hs, hr⟩

theorem attempts_liftResult {x : Except ε α} (hs : J s) (hok : ∀ a, x = .ok a → ok a s)
    (herr : ∀ e, x = .error e → err e s) : Attempts exec J (liftResult x) s ok err := by
  cases x with
  | ok a => exact ⟨hs, hok a rfl⟩
  | error e => exact ⟨hs, herr e rfl⟩

theorem attempts_txn {fault : S.Fault → ε} {op : S.Op} {ok : S.Out op → σ → Prop} (hs : J s)
    (hs' : J (exec op s).2) (hok : ok (exec op s).1 (exec op s).2) (herr : ∀ f, err (fault f) s) :
    Attempts (α := no_index (S.Out op)) exec J (txn fault op) s ok err := by
  refine ⟨hs, fun r s' he => ?_⟩
  cases he with
  | commit => exact ⟨hs', hok⟩
  | fail f => exact ⟨hs, herr f⟩

theorem Attempts.mapError {err : δ → σ → Prop} {g : ε → δ} {x : Fallible S ε α}
    (h : Attempts exec J x s ok fun e => err (g e)) : Attempts exec J (x.mapError g) s ok err := by
  unfold Attempts Fallible.mapError
  rw [ExceptT.run_mk]
  refine Program.Attempts.bind (Program.Attempts.mono ?_ h)
  intro r s hs hr
  cases r with
  | ok a => exact ⟨hs, hr⟩
  | error e => exact ⟨hs, hr⟩

end Attempts

end Fallible

end Transactions
