import Mathlib

/-!
# Totals by account

Rows are booked on accounts, each row on exactly one. What the accounts come to,
taken one by one, is what the rows come to.
-/

namespace Accounting

set_option autoImplicit false

variable {ι ρ : Type}

theorem sum_indicator [DecidableEq ι] {accounts : List ι} (hnodup : accounts.Nodup) {account : ι}
    (hmem : account ∈ accounts) (weight : Nat) :
    (accounts.map fun other => if other = account then weight else 0).sum = weight := by
  induction accounts with
  | nil => cases hmem
  | cons first rest ih =>
    obtain ⟨hfirst, hrest⟩ := List.nodup_cons.mp hnodup
    rw [List.map_cons, List.sum_cons]
    rcases List.mem_cons.mp hmem with rfl | hmem
    · have hnone : ∀ other ∈ rest, (if other = account then weight else 0) = 0 := by
        intro other hother
        apply if_neg
        intro hsame
        exact hfirst (hsame ▸ hother)
      rw [if_pos rfl, List.map_congr_left hnone]
      simp
    · have hne : first ≠ account := fun hsame => hfirst (hsame ▸ hmem)
      rw [if_neg hne, ih hrest hmem, Nat.zero_add]

/-- The weight of the rows on each account, over all accounts. -/
theorem sum_accounts {accounts : List ι} (hnodup : accounts.Nodup) (booked : ι → ρ → Bool)
    (weight : ρ → Nat) {rows : List ρ}
    (hone : ∀ row ∈ rows, ∃ account ∈ accounts,
      ∀ other ∈ accounts, booked other row = true ↔ other = account) :
    (accounts.map fun account => ((rows.filter (booked account)).map weight).sum).sum =
      (rows.map weight).sum := by
  classical
  induction rows with
  | nil => simp
  | cons row rest ih =>
    obtain ⟨account, hmem, honly⟩ := hone row (by simp)
    have hsplit : ∀ other ∈ accounts,
        (((row :: rest).filter (booked other)).map weight).sum =
          (if other = account then weight row else 0) +
            ((rest.filter (booked other)).map weight).sum := by
      intro other hother
      by_cases hown : other = account
      · rw [List.filter_cons_of_pos ((honly other hother).mpr hown), if_pos hown]
        simp
      · have hnot : ¬ booked other row = true := fun h => hown ((honly other hother).mp h)
        rw [List.filter_cons_of_neg hnot, if_neg hown, Nat.zero_add]
    rw [List.map_congr_left hsplit, List.sum_map_add, sum_indicator hnodup hmem,
      ih fun other hother => hone other (by simp [hother]), List.map_cons, List.sum_cons]

theorem sum_ones (holds : ι → Bool) (accounts : List ι) :
    (accounts.map fun account => if holds account = true then 1 else 0).sum = accounts.countP holds := by
  induction accounts with
  | nil => rfl
  | cons first rest ih =>
    rw [List.map_cons, List.sum_cons, ih, List.countP_cons, Nat.add_comm]

/-- Rows of which an account holds one where it has made the booking, and none elsewhere. -/
theorem length_eq_count_bookings {β : Type} [DecidableEq ι] [DecidableEq β] {accounts : List ι}
    (hnodup : accounts.Nodup) (holder : ρ → ι) {rows : List ρ}
    (hmem : ∀ row ∈ rows, holder row ∈ accounts) (bookingOf : ι → Option β) (booking : β)
    (hown : ∀ account ∈ accounts, (rows.filter fun row => holder row == account).length =
      if bookingOf account = some booking then 1 else 0) :
    rows.length = (accounts.filterMap bookingOf).count booking := by
  have hone : ∀ row ∈ rows, ∃ account ∈ accounts,
      ∀ other ∈ accounts, (holder row == other) = true ↔ other = account := by
    intro row hrow
    refine ⟨holder row, hmem row hrow, fun other _ => ?_⟩
    rw [beq_iff_eq]
    exact eq_comm
  have htotal := sum_accounts hnodup (fun account row => holder row == account) (fun _ => 1) hone
  have hones : ∀ account ∈ accounts,
      ((rows.filter fun row => holder row == account).map fun _ => 1).sum =
        if (bookingOf account == some booking) = true then 1 else 0 := by
    intro account haccount
    rw [List.map_const', List.sum_replicate, smul_eq_mul, mul_one, hown account haccount]
    simp only [beq_iff_eq]
  rw [List.map_congr_left hones, sum_ones, List.map_const', List.sum_replicate, smul_eq_mul,
    mul_one] at htotal
  rw [← htotal, List.count_filterMap]

end Accounting
