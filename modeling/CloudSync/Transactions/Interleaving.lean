import CloudSync.Transactions.Program

/-!
# Interleaved runs of transaction programs

Infinitely many programs share one store; a program that never moves has not
been started. One step is one transaction of one program. The log keeps every
step with the store before and after it, so that statements about histories are
statements about positions in the log.
-/

namespace Transactions

set_option autoImplicit false

structure Event (S : Signature) (σ : Type) where
  tid : Nat
  op : S.Op
  reply : S.Reply op
  pre : σ
  post : σ

variable {S : Signature} {σ α : Type}

/-- A transaction commits, or it fails and leaves the store as it was. -/
inductive Effect (exec : (op : S.Op) → σ → S.Out op × σ) :
    (op : S.Op) → S.Reply op → σ → σ → Prop where
  | commit (op : S.Op) (s : σ) : Effect exec op (.ok (exec op s).1) s (exec op s).2
  | fail (op : S.Op) (f : S.Fault) (s : σ) : Effect exec op (.error f) s s

theorem Effect.of_ok {exec : (op : S.Op) → σ → S.Out op × σ} {op : S.Op} {out : S.Out op} {s s' : σ}
    (h : Effect exec op (.ok out) s s') : out = (exec op s).1 ∧ s' = (exec op s).2 := by
  cases h
  exact ⟨rfl, rfl⟩

variable (exec : (op : S.Op) → σ → S.Out op × σ)

inductive Run (start : σ) (prog : Nat → Program S α) :
    List (Event S σ) → σ → (Nat → Program S α) → Prop where
  | start : Run start prog [] start prog
  | step {log : List (Event S σ)} {s s' : σ} {ps : Nat → Program S α} {i : Nat} {op : S.Op}
      {next : S.Reply op → Program S α} {r : S.Reply op} :
      Run start prog log s ps → ps i = .call op next → Effect exec op r s s' →
      Run start prog (log ++ [⟨i, op, r, s, s'⟩]) s' (Function.update ps i (next r))

/-- The events follow one another from `s` to `s'`. -/
def Linked : σ → List (Event S σ) → σ → Prop
  | s, [], s' => s' = s
  | s, e :: log, s' => e.pre = s ∧ Effect exec e.op e.reply e.pre e.post ∧ Linked e.post log s'

/-- The state one program's monitor has reached after the log. -/
def Monitor.after (M : Monitor S) (i : Nat) (q : M.State) (log : List (Event S σ)) : M.State :=
  log.foldl (fun q e => if e.tid = i then M.step q e.op e.reply else q) q

namespace Monitor
variable (M : Monitor S) (i : Nat) (q : M.State)

@[simp] theorem after_nil : M.after i q ([] : List (Event S σ)) = q := rfl

theorem after_append (log log' : List (Event S σ)) :
    M.after i q (log ++ log') = M.after i (M.after i q log) log' := by
  simp [after]

theorem after_cons (e : Event S σ) (log : List (Event S σ)) :
    M.after i q (e :: log) = M.after i (if e.tid = i then M.step q e.op e.reply else q) log := rfl

end Monitor

variable {exec} {start : σ} {prog : Nat → Program S α}

theorem linked_append {s s' : σ} {log log' : List (Event S σ)} :
    Linked exec s (log ++ log') s' ↔ ∃ t, Linked exec s log t ∧ Linked exec t log' s' := by
  induction log generalizing s with
  | nil => simp [Linked]
  | cons e log ih => simp only [List.cons_append, Linked, ih, exists_and_left, and_assoc]

theorem linked_middle {s s' : σ} {log log' : List (Event S σ)} {e : Event S σ}
    (h : Linked exec s (log ++ e :: log') s') :
    Linked exec s log e.pre ∧ Effect exec e.op e.reply e.pre e.post ∧
      Linked exec e.post log' s' := by
  obtain ⟨t, hl, ht, he, hr⟩ := linked_append.mp h
  subst ht
  exact ⟨hl, he, hr⟩

theorem Linked.effect {s s' : σ} {log : List (Event S σ)} (h : Linked exec s log s')
    {e : Event S σ} (he : e ∈ log) : Effect exec e.op e.reply e.pre e.post := by
  obtain ⟨before, after, rfl⟩ := List.append_of_mem he
  exact (linked_middle h).2.1

/-- An invariant of single transactions holds along the whole log. -/
theorem Linked.invariant {I : σ → Prop}
    (hI : ∀ op r s s', Effect exec op r s s' → I s → I s')
    {s s' : σ} {log : List (Event S σ)} (h : Linked exec s log s') (hs : I s) : I s' := by
  induction log generalizing s with
  | nil => rwa [show s' = s from h]
  | cons e log ih =>
    obtain ⟨rfl, he, ht⟩ := h
    exact ih ht (hI _ _ _ _ he hs)

/-- What every event keeps, given the events before it, holds along the whole log. -/
theorem Linked.history {I : List (Event S σ) → σ → Prop} {s s' : σ} {log : List (Event S σ)}
    (h : Linked exec s log s') (hs : I [] s)
    (hI : ∀ before e after, log = before ++ e :: after → I before e.pre → I (before ++ [e]) e.post) :
    I log s' := by
  induction log using List.reverseRecOn generalizing s' with
  | nil =>
    obtain rfl : s' = s := h
    exact hs
  | append_singleton log e ih =>
    obtain ⟨hlog, _, hpost⟩ := linked_middle h
    obtain rfl : s' = e.post := hpost
    refine hI log e [] rfl (ih hlog fun before e' after hsplit => ?_)
    exact hI before e' (after ++ [e]) (by simp [hsplit])

/-- So it holds before every event. -/
theorem Linked.history_at {I : List (Event S σ) → σ → Prop} {s s' : σ} {before after : List (Event S σ)}
    {e : Event S σ} (h : Linked exec s (before ++ e :: after) s') (hs : I [] s)
    (hI : ∀ l e' l', before ++ e :: after = l ++ e' :: l' → I l e'.pre → I (l ++ [e']) e'.post) :
    I before e.pre :=
  (linked_middle h).1.history hs fun l e' l' hsplit => hI l e' (l' ++ e :: after) (by simp [hsplit])

/-- What every event keeps holds before and after all of them. -/
theorem Linked.kept {J : σ → Prop} {s s' : σ} {log : List (Event S σ)} (h : Linked exec s log s')
    (hs : J s) (hJ : ∀ before e after, log = before ++ e :: after → J e.pre → J e.post) :
    ∀ e ∈ log, J e.pre ∧ J e.post := by
  intro e he
  obtain ⟨before, after, rfl⟩ := List.append_of_mem he
  have hpre : J e.pre := h.history_at (I := fun _ => J) hs hJ
  exact ⟨hpre, hJ before e after rfl hpre⟩

namespace Run
variable {log log' : List (Event S σ)} {s : σ} {ps : Nat → Program S α}

theorem linked (h : Run exec start prog log s ps) : Linked exec start log s := by
  induction h with
  | start => rfl
  | step _ _ he ih => exact linked_append.mpr ⟨_, ih, rfl, he, rfl⟩

/-- Every initial part of a log is the log of a run. -/
theorem take (h : Run exec start prog (log ++ log') s ps) :
    ∃ s' ps', Run exec start prog log s' ps' ∧ Linked exec s' log' s := by
  induction log' using List.reverseRecOn generalizing s ps with
  | nil => exact ⟨s, ps, by simpa using h, rfl⟩
  | append_singleton log' e ih =>
    rw [← List.append_assoc] at h
    generalize hl : log ++ log' ++ [e] = full at h
    cases h with
    | start => simp at hl
    | step h hp he =>
      obtain ⟨hl, he'⟩ := List.append_inj' hl rfl
      subst hl
      obtain ⟨s', ps', hr, hk⟩ := ih h
      refine ⟨s', ps', hr, linked_append.mpr ⟨_, hk, ?_⟩⟩
      rw [List.singleton_inj.mp he']
      exact ⟨rfl, he, rfl⟩

section Monitored
variable {M : Monitor S} {post : M.State → α → Prop} {q : M.State}

theorem obeys (h : Run exec start prog log s ps) {i : Nat} (hp : (prog i).Obeys M post q) :
    (ps i).Obeys M post (M.after i q log) := by
  induction h with
  | start => exact hp
  | @step log s s' ps j op next r _ hj _ ih =>
    rw [Monitor.after_append, Monitor.after_cons, Monitor.after_nil]
    by_cases hij : j = i
    · subst hij
      rw [hj] at ih
      simpa using ih.2 r
    · rw [if_neg hij, Function.update_of_ne (Ne.symm hij)]
      exact ih

/-- The monitor of the program that moves allows the move. -/
theorem allowed {e : Event S σ} (h : Run exec start prog (log ++ e :: log') s ps)
    (hp : (prog e.tid).Obeys M post q) : M.allow (M.after e.tid q log) e.op := by
  have h' : Run exec start prog ((log ++ [e]) ++ log') s ps := by simpa using h
  obtain ⟨s', ps', hr, _⟩ := h'.take
  generalize hl : log ++ [e] = full at hr
  cases hr with
  | start => simp at hl
  | step hr hj _ =>
    obtain ⟨rfl, he⟩ := List.append_inj' hl rfl
    obtain rfl := List.singleton_inj.mp he
    have ho := hr.obeys hp
    rw [hj] at ho
    exact ho.1

theorem returned (h : Run exec start prog log s ps) {i : Nat} {a : α} (hi : ps i = .ret a)
    (hp : (prog i).Obeys M post q) : post (M.after i q log) a := by
  have ho := h.obeys hp
  rwa [hi] at ho

end Monitored

end Run

/-! ## Playing a schedule -/

/-- Let the named programs make one step each, in this order; a program that has
returned is passed over. `some f` makes the transaction fail with `f`. -/
def play (exec : (op : S.Op) → σ → S.Out op × σ) :
    List (Nat × Option S.Fault) → σ → (Nat → Program S α) →
      List (Event S σ) × σ × (Nat → Program S α)
  | [], s, ps => ([], s, ps)
  | (i, fault) :: rest, s, ps =>
    match ps i with
    | .ret _ => play exec rest s ps
    | .call op next =>
      match fault with
      | none =>
        let (out, s') := exec op s
        let (log, final) := play exec rest s' (Function.update ps i (next (.ok out)))
        (⟨i, op, .ok out, s, s'⟩ :: log, final)
      | some f =>
        let (log, final) := play exec rest s (Function.update ps i (next (.error f)))
        (⟨i, op, .error f, s, s⟩ :: log, final)

theorem Run.play {log : List (Event S σ)} {s : σ} {ps : Nat → Program S α}
    (h : Run exec start prog log s ps) (schedule : List (Nat × Option S.Fault)) :
    Run exec start prog (log ++ (play exec schedule s ps).1)
      (play exec schedule s ps).2.1 (play exec schedule s ps).2.2 := by
  induction schedule generalizing log s ps with
  | nil => simpa [Transactions.play] using h
  | cons c rest ih =>
    obtain ⟨i, fault⟩ := c
    unfold Transactions.play
    cases hi : ps i with
    | ret a => exact ih h
    | call op next =>
      cases fault with
      | none => simpa using ih (h.step hi (.commit op s))
      | some f => simpa using ih (h.step hi (.fail op f s))

theorem play_append (exec : (op : S.Op) → σ → S.Out op × σ)
    (first second : List (Nat × Option S.Fault)) (s : σ) (ps : Nat → Program S α) :
    play exec (first ++ second) s ps =
      let played := play exec first s ps
      let rest := play exec second played.2.1 played.2.2
      (played.1 ++ rest.1, rest.2) := by
  induction first generalizing s ps with
  | nil => rfl
  | cons c first ih =>
    obtain ⟨i, fault⟩ := c
    simp only [List.cons_append, play]
    cases ps i with
    | ret a => exact ih s ps
    | call op next => cases fault <;> simp [ih]

/-- Every schedule played from the start is a run. -/
theorem play_run (exec : (op : S.Op) → σ → S.Out op × σ) (schedule : List (Nat × Option S.Fault))
    (start : σ) (prog : Nat → Program S α) :
    Run exec start prog (play exec schedule start prog).1
      (play exec schedule start prog).2.1 (play exec schedule start prog).2.2 := by
  simpa using Run.start.play schedule

end Transactions
