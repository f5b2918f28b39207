import CloudSync.Transactions.Interleaving
import CloudSync.Transactions.Sequential

/-!
# Two runs side by side

One program on two stores: where each call gets the same reply from both and leaves
them related, the whole program returns the same and leaves them related. Two programs
on one store: where they make the same calls, runs with the same moves are the same.
-/

namespace Transactions

set_option autoImplicit false

variable {S : Signature} {σ τ α β ε : Type} {exec : (op : S.Op) → σ → S.Out op × σ}
  {exec' : (op : S.Op) → τ → S.Out op × τ} {R : σ → τ → Prop} {P : S.Op → Prop}

/-- Both stores reply alike to the call and stay related. -/
def RepliesAlike (exec : (op : S.Op) → σ → S.Out op × σ) (exec' : (op : S.Op) → τ → S.Out op × τ)
    (R : σ → τ → Prop) (op : S.Op) : Prop :=
  ∀ s t, R s t → (exec op s).1 = (exec' op t).1 ∧ R (exec op s).2 (exec' op t).2

theorem Program.run_alike {p : Program S α} (hp : p.Calls (RepliesAlike exec exec' R)) {s : σ} {t : τ}
    (h : R s t) :
    (p.run exec s).1 = (p.run exec' t).1 ∧ R (p.run exec s).2 (p.run exec' t).2 := by
  induction p generalizing s t with
  | ret a => exact ⟨rfl, h⟩
  | call op next ih =>
    obtain ⟨hout, hnext⟩ := hp.1 s t h
    unfold Program.run
    rw [hout]
    exact ih _ (hp.2 _) hnext

theorem Fallible.alone_alike {x : Fallible S ε α} (hx : Calls (RepliesAlike exec exec' R) x) {s : σ}
    {t : τ} (h : R s t) :
    (x.alone exec s).1 = (x.alone exec' t).1 ∧ R (x.alone exec s).2 (x.alone exec' t).2 :=
  Program.run_alike hx h

/-! ## Two programs with the same calls -/

/-- The program without what it returns. -/
def Program.void : Program S α → Program S Unit
  | .ret _ => .ret ()
  | .call op next => .call op fun r => (next r).void

theorem Program.void_bind (p : Program S α) (f : α → Program S β) :
    (p >>= f).void = p >>= fun a => (f a).void := by
  induction p with
  | ret a => rfl
  | call op next ih => exact congrArg (Program.call op) (funext ih)

namespace Fallible

/-- Parts that make the same calls may follow the same program. -/
theorem void_bind_congr (x : Fallible S ε α) {f g : α → Fallible S ε β}
    (h : ∀ a, (f a).run.void = (g a).run.void) : (x >>= f).run.void = (x >>= g).run.void := by
  rw [ExceptT.run_bind, ExceptT.run_bind, Program.void_bind, Program.void_bind]
  congr 1
  funext result
  cases result with
  | ok a => exact h a
  | error e => rfl

/-- What is done with the result last makes no call. -/
theorem void_bind_pure (x : Fallible S ε α) (f : α → β) :
    (x >>= fun a => pure (f a)).run.void = x.run.void := by
  rw [ExceptT.run_bind, Program.void_bind]
  generalize x.run = p
  induction p with
  | ret result =>
    cases result with
    | ok a => rfl
    | error e => rfl
  | call op next ih => exact congrArg (Program.call op) (funext ih)

end Fallible

/-- Who moves, and whether the transaction fails. -/
def Event.move (e : Event S σ) : Nat × Option S.Fault :=
  (e.tid, match e.reply with | .ok _ => none | .error f => some f)

/-- The transaction of a move is determined by the call and the store. -/
theorem Effect.determined {exec : (op : S.Op) → σ → S.Out op × σ} {op : S.Op} {r r' : S.Reply op}
    {s post post' : σ} (h : Effect exec op r s post) (h' : Effect exec op r' s post') {i : Nat}
    (hmove : (⟨i, op, r, s, post⟩ : Event S σ).move = (⟨i, op, r', s, post'⟩ : Event S σ).move) :
    r' = r ∧ post' = post := by
  cases h with
  | commit =>
    cases h' with
    | commit => exact ⟨rfl, rfl⟩
    | fail f => cases hmove
  | fail f =>
    cases h' with
    | commit => cases hmove
    | fail f' =>
      cases hmove
      exact ⟨rfl, rfl⟩

/-- What the one programs have done, the others could have done as well. -/
theorem Run.of_void_eq {exec : (op : S.Op) → σ → S.Out op × σ} {start s : σ}
    {prog prog' ps : Nat → Program S α} {log : List (Event S σ)}
    (hsame : ∀ i, (prog i).void = (prog' i).void) (h : Run exec start prog log s ps) :
    ∃ ps', Run exec start prog' log s ps' ∧ ∀ i, (ps i).void = (ps' i).void := by
  induction h with
  | start => exact ⟨prog', .start, hsame⟩
  | @step log s post ps i op next r _ hi heffect ih =>
    obtain ⟨ps', hrun, hvoid⟩ := ih
    have hnext := hvoid i
    rw [hi] at hnext
    cases hi' : ps' i with
    | ret a =>
      rw [hi'] at hnext
      cases hnext
    | call op' next' =>
      rw [hi'] at hnext
      obtain ⟨rfl, hheq⟩ := Program.call.inj hnext
      refine ⟨_, hrun.step hi' heffect, fun j => ?_⟩
      by_cases hj : j = i
      · subst hj
        rw [Function.update_self, Function.update_self]
        exact congrFun (eq_of_heq hheq) r
      · rw [Function.update_of_ne hj, Function.update_of_ne hj]
        exact hvoid j

/-- Programs that make the same calls, in the same order of moves, leave the same log and store. -/
theorem Run.same_moves {exec : (op : S.Op) → σ → S.Out op × σ} {start s s' : σ}
    {prog prog' ps ps' : Nat → Program S α} {log log' : List (Event S σ)}
    (hsame : ∀ i, (prog i).void = (prog' i).void) (h : Run exec start prog log s ps)
    (h' : Run exec start prog' log' s' ps') (hmoves : log'.map Event.move = log.map Event.move) :
    log' = log ∧ s' = s ∧ ∀ i, (ps i).void = (ps' i).void := by
  induction h generalizing log' s' ps' with
  | start =>
    obtain rfl := List.map_eq_nil_iff.mp hmoves
    generalize hlog : ([] : List (Event S σ)) = log at h'
    cases h' with
    | start => exact ⟨rfl, rfl, hsame⟩
    | step => simp at hlog
  | @step log s post ps i op next r _ hi heffect ih =>
    cases h' with
    | start => simp at hmoves
    | @step log' s' post' ps' i' op' next' r' h' hi' heffect' =>
      rw [List.map_append, List.map_append] at hmoves
      obtain ⟨hlogs, hmove⟩ := List.append_inj' hmoves rfl
      obtain ⟨rfl, rfl, hvoid⟩ := ih h' hlogs
      rw [List.map_singleton, List.map_singleton, List.singleton_inj] at hmove
      obtain rfl : i' = i := congrArg Prod.fst hmove
      have hnext := hvoid i'
      rw [hi, hi'] at hnext
      obtain ⟨rfl, hheq⟩ := Program.call.inj hnext
      have hcont := congrFun (eq_of_heq hheq)
      obtain ⟨rfl, rfl⟩ := heffect.determined heffect' hmove.symm
      refine ⟨rfl, rfl, fun j => ?_⟩
      by_cases hj : j = i'
      · subst hj
        rw [Function.update_self, Function.update_self]
        exact hcont r'
      · rw [Function.update_of_ne hj, Function.update_of_ne hj]
        exact hvoid j

end Transactions
