import CloudSync.Transactions.Sequential

/-!
# The calls of programs executed one at a time

An executor that keeps the calls besides the store, and a program run to its end
among others that do not move.
-/

namespace Transactions

set_option autoImplicit false

variable {S : Signature} {σ α ε : Type} (exec : (op : S.Op) → σ → S.Out op × σ)

/-- A call and what it returned. -/
abbrev Signature.Made (S : Signature) : Type := (op : S.Op) × S.Out op

/-- Keeps each call behind those before it. -/
def recorded (op : S.Op) (s : σ × List S.Made) : S.Out op × (σ × List S.Made) :=
  ((exec op s.1).1, ((exec op s.1).2, s.2 ++ [⟨op, (exec op s.1).1⟩]))

variable {exec}

theorem Program.run_recorded (p : Program S α) (s : σ) (made : List S.Made) :
    (p.run (recorded exec) (s, made)).1 = (p.run exec s).1 ∧
      (p.run (recorded exec) (s, made)).2.1 = (p.run exec s).2 := by
  induction p generalizing s made with
  | ret a => exact ⟨rfl, rfl⟩
  | call op next ih => exact ih _ _ _

namespace Fallible

theorem alone_recorded (x : Fallible S ε α) (s : σ) (made : List S.Made) :
    (x.alone (recorded exec) (s, made)).1 = (x.alone exec s).1 ∧
      (x.alone (recorded exec) (s, made)).2.1 = (x.alone exec s).2 :=
  Program.run_recorded x.run s made

end Fallible

/-- Any program of a run may go on alone until it returns. -/
theorem Run.alone {start s : σ} {prog ps : Nat → Program S α} {log : List (Event S σ)}
    (h : Run exec start prog log s ps) (i : Nat) :
    ∃ log', Run exec start prog (log ++ log') ((ps i).run exec s).2
      (Function.update ps i (.ret ((ps i).run exec s).1)) := by
  generalize hp : ps i = p
  induction p generalizing log s ps with
  | ret a =>
    refine ⟨[], ?_⟩
    rw [List.append_nil]
    have hsame : Function.update ps i (Program.ret a) = ps := by
      rw [← hp, Function.update_eq_self]
    exact hsame.symm ▸ h
  | call op next ih =>
    have hstep := Run.step h hp (Effect.commit op s)
    obtain ⟨log', hrun⟩ := ih _ hstep (Function.update_self i _ ps)
    refine ⟨⟨i, op, .ok (exec op s).1, s, (exec op s).2⟩ :: log', ?_⟩
    rw [Function.update_idem] at hrun
    rw [List.append_cons]
    exact hrun

end Transactions
