import CloudSync.Transactions.Recording

/-!
# Calls that are made at most once

A program that reads, and then writes once, writes over what it has read as long as
nobody else writes in between: what it has done itself before the write are reads.
-/

namespace Transactions

set_option autoImplicit false

variable {S : Signature} {σ α β ε : Type} {P : S.Op → Bool}

/-- Behind a call with `P` the program makes no other one. -/
def Program.Once (P : S.Op → Bool) : Program S α → Prop
  | .ret _ => True
  | .call op next =>
    (P op = true → ∀ r, (next r).Calls fun op => P op = false) ∧ ∀ r, (next r).Once P

namespace Program

theorem Calls.once {p : Program S α} (h : p.Calls fun op => P op = false) : p.Once P := by
  induction p with
  | ret a => trivial
  | call op next ih =>
    refine ⟨fun hop => ?_, fun r => ih r (h.2 r)⟩
    rw [h.1] at hop
    cases hop

theorem Once.skip {p : Program S α} {f : α → Program S β} (h : p.Calls fun op => P op = false)
    (hf : ∀ a, (f a).Once P) : (p >>= f).Once P := by
  induction p with
  | ret a => exact hf a
  | call op next ih =>
    refine ⟨fun hop => ?_, fun r => ih r (h.2 r)⟩
    rw [h.1] at hop
    cases hop

theorem Once.last {p : Program S α} {f : α → Program S β} (h : p.Once P)
    (hf : ∀ a, (f a).Calls fun op => P op = false) : (p >>= f).Once P := by
  induction p with
  | ret a => exact (hf a).once
  | call op next ih => exact ⟨fun hop r => (h.1 hop r).bind hf, fun r => ih r (h.2 r)⟩

/-- The calls with `P` that are recorded before one are none. -/
theorem Once.obeys {p : Program S α} (h : p.Once P) :
    p.Obeys (recording P fun calls _ => calls = []) (fun _ _ => True) [] := by
  induction p with
  | ret a => trivial
  | call op next ih =>
    refine ⟨fun _ => rfl, fun r => ?_⟩
    by_cases hop : P op = true
    · have hreturns : (next r).Returns fun _ => True := returns_of_forall (fun _ => trivial) (next r)
      exact Calls.obeys (Calls.mono (fun _ => recording_ignores) (h.1 hop r)) hreturns fun _ _ => trivial
    · have hrest := ih r (h.2 r)
      simp only [recording, hop] at hrest ⊢
      exact hrest

end Program

/-- Before a call with `P` a program has made none. -/
theorem Run.before_once {exec : (op : S.Op) → σ → S.Out op × σ} {start s : σ}
    {prog ps : Nat → Program S α} {before after : List (Event S σ)} {e : Event S σ}
    (h : Run exec start prog (before ++ e :: after) s ps) (hp : (prog e.tid).Once P)
    (he : P e.op = true) : ∀ e' ∈ before, e'.tid = e.tid → P e'.op = false := by
  intro e' he' htid
  have hnone := h.recorded hp.obeys he
  by_contra hop
  rw [Bool.not_eq_false] at hop
  have hmem : e'.call ∈ ownCalls P e.tid before := mem_ownCalls.mpr ⟨e', he', htid, hop, rfl⟩
  rw [hnone] at hmem
  cases hmem

namespace Fallible

def Once (P : S.Op → Bool) (x : Fallible S ε α) : Prop := x.run.Once P

theorem Calls.once {x : Fallible S ε α} (h : Calls (fun op => P op = false) x) : Once P x :=
  Program.Calls.once h

/-- A first step without a call with `P`. -/
theorem Once.skip {x : Fallible S ε α} {f : α → Fallible S ε β}
    (h : Calls (fun op => P op = false) x) (hf : ∀ a, Once P (f a)) : Once P (x >>= f) := by
  apply Program.Once.skip h
  intro r
  cases r with
  | ok a => exact hf a
  | error e => trivial

/-- Nothing with `P` behind the first step. -/
theorem Once.last {x : Fallible S ε α} {f : α → Fallible S ε β} (h : Once P x)
    (hf : ∀ a, Calls (fun op => P op = false) (f a)) : Once P (x >>= f) := by
  apply Program.Once.last h
  intro r
  cases r with
  | ok a => exact hf a
  | error e => trivial

theorem once_txn (fault : S.Fault → ε) (op : S.Op) :
    Once (α := no_index (S.Out op)) P (txn fault op) := by
  refine ⟨fun _ r => ?_, fun r => ?_⟩
  · cases r <;> trivial
  · cases r <;> trivial

end Fallible

end Transactions
