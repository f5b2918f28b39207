import Mathlib

/-!
# Throttling by windows and lockouts

The reference for a throttle: a window starts with the first failure, failures are
counted while it is open, and too many of them lock it for some time. A store that
throws windows away once they are over, sooner or later, decides alike.
-/

namespace Throttle

set_option autoImplicit false

structure Policy where
  /-- For how many units a window is open. -/
  window : Int
  /-- The units that have passed in a duration. -/
  elapsed : Int → Int
  /-- The duration of a lockout. -/
  lockout : Int
  maxFailures : Nat
  elapsed_mono : Monotone elapsed

structure Window where
  start : Int
  failures : Nat
  lockedUntil : Option Int

inductive Outcome where
  | notChecked
  | wrong (failedAt : Int)
  | right

structure Attempt where
  time : Int
  outcome : Outcome

variable (p : Policy)

namespace Policy

/-- The lock, or else the window, is not over. -/
def holds (t : Int) (w : Window) : Bool :=
  match w.lockedUntil with
  | some lockedUntil => t < lockedUntil
  | none => p.elapsed (t - w.start) ≤ p.window

def afterFailure (t : Int) (s : Option Window) : Window :=
  let w := (s.filter (p.holds t)).getD ⟨t, 0, none⟩
  { w with
    failures := w.failures + 1
    lockedUntil := if p.maxFailures ≤ w.failures + 1 then some (t + p.lockout) else w.lockedUntil }

end Policy

def refuses (t : Int) (s : Option Window) : Bool := (s.bind (·.lockedUntil)).any (t < ·)

namespace Policy

def step (s : Option Window) (attempt : Attempt) : Option Window :=
  if refuses attempt.time s then s
  else match attempt.outcome with
    | .notChecked => s
    | .wrong failedAt => some (p.afterFailure failedAt s)
    | .right => none

def run (attempts : List Attempt) : Option Window := attempts.foldl p.step none

end Policy

/-! ## Windows that are thrown away -/

/-- What a store keeps of a window at `t`: it may have thrown it away when it was over. -/
def Keeps (t : Int) (kept s : Option Window) : Prop :=
  kept = s ∨ kept = none ∧ s.filter (p.holds t) = none

section Keeps
variable {p} {t t' : Int} {kept s : Option Window} {w : Window}

theorem holds_mono (hle : t ≤ t') (h : p.holds t' w = true) : p.holds t w = true := by
  unfold Policy.holds at h ⊢
  cases hlocked : w.lockedUntil with
  | some lockedUntil =>
    simp only [hlocked, decide_eq_true_eq] at h ⊢
    omega
  | none =>
    simp only [hlocked, decide_eq_true_eq] at h ⊢
    exact (p.elapsed_mono (by omega)).trans h

theorem filter_holds_filter (hle : t ≤ t') :
    (s.filter (p.holds t)).filter (p.holds t') = s.filter (p.holds t') := by
  rw [Option.filter_filter]
  congr 1
  funext w
  cases h : p.holds t' w with
  | true => simp [holds_mono hle h]
  | false => simp

theorem Keeps.filter_eq (h : Keeps p t kept s) (hle : t ≤ t') :
    kept.filter (p.holds t') = s.filter (p.holds t') := by
  rcases h with rfl | ⟨rfl, hover⟩
  · rfl
  · rw [← filter_holds_filter (s := s) hle, hover]

theorem keeps_self (t : Int) (s : Option Window) : Keeps p t s s := .inl rfl

theorem Keeps.later (h : Keeps p t kept s) (hle : t ≤ t') : Keeps p t' kept s := by
  rcases h with rfl | ⟨rfl, hover⟩
  · exact .inl rfl
  · right
    refine ⟨rfl, ?_⟩
    rw [← filter_holds_filter hle, hover]
    rfl

/-- Throwing away what is over. -/
theorem Keeps.sweep (h : Keeps p t kept s) (hle : t ≤ t') :
    Keeps p t' (kept.filter (p.holds t')) s := by
  rw [h.filter_eq hle]
  cases s with
  | none => exact .inl rfl
  | some w =>
    rw [Option.filter_some]
    split
    · exact .inl rfl
    · next hover =>
      right
      refine ⟨rfl, ?_⟩
      rw [Option.filter_some, if_neg hover]

theorem refuses_filter : refuses t (s.filter (p.holds t)) = refuses t s := by
  cases s with
  | none => rfl
  | some w =>
    rw [Option.filter_some]
    split
    · rfl
    · next hover =>
      cases hlocked : w.lockedUntil with
      | none => simp [refuses, hlocked]
      | some lockedUntil =>
        rw [Policy.holds, hlocked] at hover
        simpa [refuses, hlocked] using hover

/-- Who is not refused has no lock that is not over. -/
theorem lockedUntil_of_not_refuses (h : refuses t s = false) (hw : w ∈ s.filter (p.holds t)) :
    w.lockedUntil = none := by
  cases hlocked : w.lockedUntil with
  | none => rfl
  | some lockedUntil =>
    obtain ⟨rfl, hholds⟩ := Option.mem_filter_iff.mp hw |>.imp_left Option.mem_def.mp
    rw [refuses, Option.bind_some, hlocked, Option.any_some, decide_eq_false_iff_not] at h
    rw [Policy.holds, hlocked, decide_eq_true_eq] at hholds
    exact absurd hholds h

theorem afterFailure_filter (hle : t ≤ t') :
    p.afterFailure t' (s.filter (p.holds t)) = p.afterFailure t' s := by
  unfold Policy.afterFailure
  rw [filter_holds_filter hle]

end Keeps

/-! ## Windows as the policy makes them -/

/-- The times that are kept have the property, and a window that is not locked has room. -/
structure Kept (InRange : Int → Prop) (w : Window) : Prop where
  start : InRange w.start
  lockedUntil : ∀ t ∈ w.lockedUntil, InRange t
  room : w.lockedUntil = none → w.failures < p.maxFailures

variable {p}

theorem kept_afterFailure {InRange : Int → Prop} {t : Int} {s : Option Window}
    (hs : ∀ w ∈ s, Kept p InRange w) (ht : InRange t) (hlockout : InRange (t + p.lockout)) :
    Kept p InRange (p.afterFailure t s) := by
  have hopen : ∀ w ∈ s.filter (p.holds t), Kept p InRange w := by
    intro w hw
    exact hs w (Option.mem_filter_iff.mp hw).1
  unfold Policy.afterFailure
  cases hfilter : s.filter (p.holds t) with
  | none =>
    refine ⟨ht, ?_, ?_⟩
    · dsimp only [Option.getD_none]
      split
      · intro _ heq
        cases heq
        exact hlockout
      · intro _ heq
        cases heq
    · dsimp only [Option.getD_none]
      split
      · intro heq
        cases heq
      · omega
  | some w =>
    have hw := hopen w hfilter
    refine ⟨hw.start, ?_, ?_⟩
    · dsimp only [Option.getD_some]
      split
      · intro _ heq
        cases heq
        exact hlockout
      · exact hw.lockedUntil
    · dsimp only [Option.getD_some]
      split
      · intro heq
        cases heq
      · omega

end Throttle
