import CloudSync.Transactions.Interleaving

/-!
# The parties of a run

Where every program goes through phases of its own, the programs that are in some
of the phases form a finite set, and one step moves at most one of them.
-/

namespace Transactions

set_option autoImplicit false

variable {S : Signature} {σ Q : Type}

/-- The programs whose phase satisfies `p`. -/
def parties (phase : Nat → List (Event S σ) → Q) (p : Q → Bool) (log : List (Event S σ)) : Finset Nat :=
  (log.map Event.tid).toFinset.filter fun i => p (phase i log) = true

/-- A program's phase starts at `q` and depends on its own steps only. -/
structure OwnPhase (phase : Nat → List (Event S σ) → Q) (q : Q) : Prop where
  start : ∀ i, phase i [] = q
  other : ∀ i log e, e.tid ≠ i → phase i (log ++ [e]) = phase i log

variable {phase : Nat → List (Event S σ) → Q} {q : Q} {p : Q → Bool} {log : List (Event S σ)}
  {e : Event S σ} {i : Nat}

theorem OwnPhase.of_not_mem (h : OwnPhase phase q) (hi : ∀ e ∈ log, e.tid ≠ i) : phase i log = q := by
  induction log using List.reverseRecOn with
  | nil => exact h.start i
  | append_singleton log e ih =>
    rw [h.other i log e (hi e (by simp))]
    apply ih
    intro e' he'
    exact hi e' (by simp [he'])

theorem mem_parties (h : OwnPhase phase q) (hq : p q = false) :
    i ∈ parties phase p log ↔ p (phase i log) = true := by
  unfold parties
  rw [Finset.mem_filter, List.mem_toFinset, List.mem_map]
  constructor
  · intro hi
    exact hi.2
  · intro hi
    refine ⟨?_, hi⟩
    by_contra hnot
    have hstart : phase i log = q := h.of_not_mem fun e he htid => hnot ⟨e, he, htid⟩
    rw [hstart, hq] at hi
    cases hi

/-- A step that leaves its program on the same side. -/
theorem parties_stay (h : OwnPhase phase q) (hq : p q = false)
    (hsame : p (phase e.tid (log ++ [e])) = p (phase e.tid log)) :
    parties phase p (log ++ [e]) = parties phase p log := by
  ext i
  rw [mem_parties h hq, mem_parties h hq]
  by_cases hi : e.tid = i
  · rw [← hi, hsame]
  · rw [h.other i log e hi]

/-- A step by which its program comes in. -/
theorem card_parties_join (h : OwnPhase phase q) (hq : p q = false)
    (hbefore : p (phase e.tid log) = false) (hafter : p (phase e.tid (log ++ [e])) = true) :
    (parties phase p (log ++ [e])).card = (parties phase p log).card + 1 := by
  have hnew : e.tid ∉ parties phase p log := by
    rw [mem_parties h hq, hbefore]
    simp
  rw [← Finset.card_insert_of_notMem hnew]
  apply congrArg
  ext i
  rw [Finset.mem_insert, mem_parties h hq, mem_parties h hq]
  by_cases hi : e.tid = i
  · rw [← hi, hafter]
    simp
  · have hi' : i ≠ e.tid := fun h => hi h.symm
    rw [h.other i log e hi]
    simp [hi']

/-- Where every program with `p` also has `p'`, and none is left between the two. -/
theorem parties_eq {p' : Q → Bool} (h : OwnPhase phase q) (hq : p q = false) (hq' : p' q = false)
    (hiff : ∀ i, p (phase i log) = p' (phase i log)) : parties phase p log = parties phase p' log := by
  ext i
  rw [mem_parties h hq, mem_parties h hq', hiff]

/-- The programs with `p` are those with `p'` and those between. -/
theorem card_parties_split {p' between : Q → Bool} (h : OwnPhase phase q) (hq : p q = false)
    (hq' : p' q = false) (hbetween : between q = false)
    (hsplit : ∀ q, p q = (p' q || between q)) (hdisjoint : ∀ q, (p' q && between q) = false) :
    (parties phase p log).card = (parties phase p' log).card + (parties phase between log).card := by
  rw [← Finset.card_union_of_disjoint]
  · apply congrArg
    ext i
    rw [Finset.mem_union, mem_parties h hq, mem_parties h hq', mem_parties h hbetween, hsplit]
    simp
  · rw [Finset.disjoint_left]
    intro i hi hi'
    rw [mem_parties h hq'] at hi
    rw [mem_parties h hbetween] at hi'
    have hboth := hdisjoint (phase i log)
    rw [hi, hi'] at hboth
    cases hboth

end Transactions
