import Mathlib

/-!
# Readings of a meter

Each reading notes a total and how far it has grown since the reading before, on a
counter with limits. As long as the limits are not met, the growths add up to what
lies between the first total and the last.
-/

namespace Accounting

set_option autoImplicit false

variable {ρ : Type} (total growth : ρ → Int) (low high : Int)

/-- A first reading has grown since itself. -/
inductive Successive : List ρ → Prop where
  | nil : Successive []
  | snoc {readings : List ρ} {reading : ρ} : Successive readings →
      growth reading =
        max low (min high (total reading - readings.getLast?.elim (total reading) total)) →
      Successive (readings ++ [reading])

variable {total growth low high}

theorem Successive.sum_growth {readings : List ρ} (h : Successive total growth low high readings)
    (hbound : ∀ reading ∈ readings, 0 ≤ total reading ∧ total reading ≤ high) (hlow : low ≤ -high)
    {first last : ρ} (hfirst : readings.head? = some first) (hlast : readings.getLast? = some last) :
    (readings.map growth).sum = total last - total first := by
  induction h generalizing last with
  | nil => cases hfirst
  | @snoc readings reading _ hgrowth ih =>
    have hreading := hbound reading (by simp)
    rw [List.getLast?_concat] at hlast
    obtain rfl := Option.some.inj hlast
    rw [List.map_append, List.sum_append, List.map_singleton, List.sum_singleton, hgrowth]
    cases hprev : readings.getLast? with
    | none =>
      rw [List.getLast?_eq_none_iff] at hprev
      subst hprev
      obtain rfl := Option.some.inj hfirst
      rw [Option.elim_none, List.map_nil, List.sum_nil]
      omega
    | some prev =>
      have hmem := List.mem_of_getLast? hprev
      have hbefore := hbound prev (by simp [hmem])
      have hhead : readings.head? = some first := by
        rw [List.head?_append_of_ne_nil _ (List.ne_nil_of_mem hmem)] at hfirst
        exact hfirst
      have hsum := ih (fun other hother => hbound other (by simp [hother])) hhead hprev
      rw [Option.elim_some, hsum]
      omega

end Accounting
