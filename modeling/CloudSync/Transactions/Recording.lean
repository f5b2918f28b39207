import CloudSync.Transactions.Interleaving

/-!
# Recording the calls of a program

The recording monitor keeps the relevant calls a program has made, with their
replies. In a run its state is the program's own part of the log, so what a
program promises about its record is a statement about events.
-/

namespace Transactions

set_option autoImplicit false

abbrev Signature.Call (S : Signature) : Type := (op : S.Op) × S.Reply op

variable {S : Signature} {σ α ε : Type}

def Event.call (e : Event S σ) : S.Call := ⟨e.op, e.reply⟩

/-- `allow` restricts the relevant calls only, in terms of the relevant calls before them. -/
abbrev recording (relevant : S.Op → Bool) (allow : List S.Call → S.Op → Prop) : Monitor S where
  State := List S.Call
  allow calls op := relevant op = true → allow calls op
  step calls op r := if relevant op then calls ++ [⟨op, r⟩] else calls

def ownCalls (relevant : S.Op → Bool) (i : Nat) (log : List (Event S σ)) : List S.Call :=
  (log.filter fun e => e.tid == i && relevant e.op).map Event.call

section
variable {relevant : S.Op → Bool} {allow : List S.Call → S.Op → Prop}

theorem recording_ignores {op : S.Op} (h : relevant op = false) :
    (recording relevant allow).Ignores op := by
  intro q
  refine ⟨fun ht => ?_, fun r => ?_⟩
  · rw [h] at ht
    cases ht
  · simp [recording, h]

@[simp] theorem ownCalls_nil (i : Nat) : ownCalls relevant i ([] : List (Event S σ)) = [] := rfl

theorem ownCalls_append (i : Nat) (log log' : List (Event S σ)) :
    ownCalls relevant i (log ++ log') = ownCalls relevant i log ++ ownCalls relevant i log' := by
  simp [ownCalls]

theorem after_recording (i : Nat) (q : List S.Call) (log : List (Event S σ)) :
    (recording relevant allow).after i q log = q ++ ownCalls relevant i log := by
  induction log generalizing q with
  | nil => simp
  | cons e log ih =>
    rw [Monitor.after_cons, ih]
    by_cases he : e.tid = i
    · by_cases hr : relevant e.op = true
      · simp [recording, ownCalls, he, hr, Event.call]
      · simp [recording, ownCalls, he, hr]
    · simp [ownCalls, he]

theorem mem_ownCalls {i : Nat} {call : S.Call} {log : List (Event S σ)} :
    call ∈ ownCalls relevant i log ↔
      ∃ e ∈ log, e.tid = i ∧ relevant e.op = true ∧ e.call = call := by
  simp [ownCalls, and_assoc]

/-- The first recorded call stands somewhere in the log, and no other one before it. -/
theorem ownCalls_eq_cons {i : Nat} {call : S.Call} {rest : List S.Call} {log : List (Event S σ)}
    (h : ownCalls relevant i log = call :: rest) :
    ∃ before e after, log = before ++ e :: after ∧ e.tid = i ∧ e.call = call ∧
      ownCalls relevant i before = [] ∧ ownCalls relevant i after = rest := by
  obtain ⟨e, es, hfilter, rfl, rfl⟩ := List.map_eq_cons_iff.mp h
  obtain ⟨before, after, rfl, hbefore, he, rfl⟩ := List.filter_eq_cons_iff.mp hfilter
  simp only [Bool.and_eq_true, beq_iff_eq] at he
  refine ⟨before, e, after, rfl, he.1, rfl, ?_, rfl⟩
  simpa [ownCalls] using hbefore

end

namespace Run
variable {exec : (op : S.Op) → σ → S.Out op × σ} {start s : σ} {prog ps : Nat → Program S α}
  {log log' : List (Event S σ)} {relevant : S.Op → Bool} {allow : List S.Call → S.Op → Prop}

/-- A relevant call that is made was allowed after the calls the program had recorded. -/
theorem recorded {post : List S.Call → α → Prop} {e : Event S σ}
    (h : Run exec start prog (log ++ e :: log') s ps)
    (hp : (prog e.tid).Obeys (recording relevant allow) post []) (he : relevant e.op = true) :
    allow (ownCalls relevant e.tid log) e.op := by
  have ha := h.allowed hp
  rw [after_recording, List.nil_append] at ha
  exact ha he

/-- What a program that has returned promised about its record. -/
theorem concluded {post : List S.Call → α → Prop} {i : Nat} {a : α}
    (h : Run exec start prog log s ps) (hi : ps i = .ret a)
    (hp : (prog i).Obeys (recording relevant allow) post []) :
    post (ownCalls relevant i log) a := by
  have ha := h.returned hi hp
  rwa [after_recording, List.nil_append] at ha

end Run

end Transactions
