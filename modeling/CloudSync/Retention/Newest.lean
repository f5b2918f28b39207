import Mathlib

/-!
# Keeping the newest

A bounded store of keys, the greater ones newer: each key that is added makes the
oldest ones leave that are too many. Whatever the order in which the keys come, the
store holds the newest of all of them.
-/

namespace Retention

set_option autoImplicit false

variable {K : Type} [LinearOrder K]

/-- `kept` are the newest keys of `all`, as many as `count` allows. -/
structure Newest (count : Nat) (kept all : Finset K) : Prop where
  subset : kept ⊆ all
  card : kept.card = min count all.card
  newer : ∀ a ∈ all, a ∉ kept → ∀ b ∈ kept, a < b

variable {count : Nat} {kept all evicted : Finset K} {a k : K}

theorem newest_empty (count : Nat) : Newest count (∅ : Finset K) ∅ :=
  ⟨Finset.Subset.refl _, by simp, by simp⟩

/-- A key leaves only from a full store. -/
theorem Newest.full (h : Newest count kept all) (ha : a ∈ all) (hkept : a ∉ kept) :
    kept.card = count := by
  have hlt : kept.card < all.card := by
    apply Finset.card_lt_card
    refine Finset.ssubset_iff_subset_ne.mpr ⟨h.subset, ?_⟩
    intro heq
    rw [heq] at hkept
    exact hkept ha
  have hcard := h.card
  omega

/-- A new key comes, and the oldest ones leave that are too many. -/
theorem Newest.add (h : Newest count kept all) (hk : k ∉ all)
    (hsubset : evicted ⊆ insert k kept) (hcard : evicted.card = (insert k kept).card - count)
    (holder : ∀ a ∈ evicted, ∀ b ∈ insert k kept, b ∉ evicted → a < b) :
    Newest count (insert k kept \ evicted) (insert k all) := by
  have hnew : k ∉ kept := fun hmem => hk (h.subset hmem)
  refine ⟨?_, ?_, ?_⟩
  · intro b hb
    rw [Finset.mem_sdiff, Finset.mem_insert] at hb
    rcases hb.1 with rfl | hmem
    · exact Finset.mem_insert_self _ _
    · exact Finset.mem_insert_of_mem (h.subset hmem)
  · have hkept := h.card
    rw [Finset.card_sdiff_of_subset hsubset, hcard, Finset.card_insert_of_notMem hnew,
      Finset.card_insert_of_notMem hk]
    omega
  · intro a ha hout b hb
    rw [Finset.mem_sdiff] at hout hb
    by_cases hmem : a ∈ insert k kept
    · have hleft : a ∈ evicted := by
        by_contra hstays
        exact hout ⟨hmem, hstays⟩
      exact holder a hleft b hb.1 hb.2
    have hne : a ≠ k := fun heq => hmem (heq ▸ Finset.mem_insert_self _ _)
    have hall : a ∈ all := Finset.mem_of_mem_insert_of_ne ha hne
    have hkept : a ∉ kept := fun hin => hmem (Finset.mem_insert_of_mem hin)
    rcases Finset.mem_insert.mp hb.1 with rfl | hbkept
    · -- the store was full, so one of the keys before left for the new one
      have hfull := h.full hall hkept
      rw [Finset.card_insert_of_notMem hnew] at hcard
      obtain ⟨e, he⟩ : evicted.Nonempty := by
        rw [← Finset.card_pos]
        omega
      have hebelow := holder e he b hb.1 hb.2
      have hekept : e ∈ kept := Finset.mem_of_mem_insert_of_ne (hsubset he) hebelow.ne
      exact (h.newer a hall hkept e hekept).trans hebelow
    · exact h.newer a hall hkept b hbkept

/-- A key is kept as long as fewer than `count` keys are newer. -/
theorem Newest.mem_iff (h : Newest count kept all) (ha : a ∈ all) :
    a ∈ kept ↔ (all.filter (a < ·)).card < count := by
  constructor
  · intro hkept
    have hsubset : all.filter (a < ·) ⊆ kept.erase a := by
      intro b hb
      rw [Finset.mem_filter] at hb
      refine Finset.mem_erase.mpr ⟨hb.2.ne', ?_⟩
      by_contra hout
      exact lt_asymm hb.2 (h.newer b hb.1 hout a hkept)
    have hle := Finset.card_le_card hsubset
    have hpos := Finset.card_pos.mpr ⟨a, hkept⟩
    have hcard := h.card
    rw [Finset.card_erase_of_mem hkept] at hle
    omega
  · intro hlt
    by_contra hout
    have hsubset : kept ⊆ all.filter (a < ·) := by
      intro b hb
      exact Finset.mem_filter.mpr ⟨h.subset hb, h.newer a ha hout b hb⟩
    have hle := Finset.card_le_card hsubset
    have hfull := h.full ha hout
    omega

end Retention
