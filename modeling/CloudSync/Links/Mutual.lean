import Mathlib.Logic.Function.Basic

/-!
# Links stored on both sides

A relation that is one-to-one where it is defined can be stored twice, as a
partial function in either direction. `Mutual` says that the two agree. Editing
both sides by hand keeps them in agreement only if what is linked was free.
-/

namespace Links

set_option autoImplicit false

variable {α β : Type}

def Mutual (f : α → Option β) (g : β → Option α) : Prop := ∀ a b, f a = some b ↔ g b = some a

variable {f : α → Option β} {g : β → Option α} {a : α} {next : Option β}

theorem Mutual.symm (h : Mutual f g) : Mutual g f := fun b a => (h a b).symm

theorem mutual_comm : Mutual f g ↔ Mutual g f := ⟨Mutual.symm, Mutual.symm⟩

section Edits
variable [DecidableEq β]

/-- The other side without the link to what `a` was linked to. -/
def unlinkFrom (g : β → Option α) (old : Option β) : β → Option α :=
  match old with
  | some b => Function.update g b none
  | none => g

/-- The other side with a link back to `a`. -/
def linkTo (g : β → Option α) (a : α) (next : Option β) : β → Option α :=
  match next with
  | some b => Function.update g b (some a)
  | none => g

theorem unlinkFrom_apply (g : β → Option α) (old : Option β) (b : β) :
    unlinkFrom g old b = if old = some b then none else g b := by
  cases old with
  | none => simp [unlinkFrom]
  | some b' =>
    by_cases hb : b = b'
    · simp [unlinkFrom, hb]
    · have hb' : b' ≠ b := fun h => hb h.symm
      simp [unlinkFrom, hb, hb']

/-- Nothing changes when the old link is put in again. -/
theorem relink_same {old : Option β} (h : ∀ b ∈ old, g b = some a) :
    linkTo (unlinkFrom g old) a old = g := by
  cases old with
  | none => rfl
  | some b => rw [linkTo, unlinkFrom, Function.update_idem, ← h b rfl, Function.update_eq_self]

end Edits

variable [DecidableEq α] [DecidableEq β]

/-- Whatever `a` was linked to, both sides forget it. -/
theorem Mutual.release (h : Mutual f g) (a : α) :
    Mutual (Function.update f a none) (unlinkFrom g (f a)) := by
  intro a' b
  rw [unlinkFrom_apply]
  by_cases ha : a' = a
  · subst ha
    by_cases hb : f a' = some b
    · simp [hb]
    · rw [if_neg hb, ← h a' b]
      simp [hb]
  · rw [Function.update_of_ne ha, h a' b]
    by_cases hb : f a = some b
    · have hgb : g b = some a := (h a b).mp hb
      have hne : a ≠ a' := fun h => ha h.symm
      simp [hb, hgb, hne]
    · rw [if_neg hb]

/-- A link between two sides that may not be free. -/
theorem mutual_link_iff (h : Mutual f g) :
    Mutual (Function.update f a next) (linkTo g a next) ↔
      f a = next ∨ f a = none ∧ ∀ b ∈ next, g b = none := by
  cases next with
  | none =>
    constructor
    · intro hlinked
      by_contra hlink
      obtain ⟨b, hb⟩ : ∃ b, f a = some b :=
        Option.ne_none_iff_exists'.mp fun hnone => hlink (.inl hnone)
      have hback := (hlinked a b).mpr ((h a b).mp hb)
      simp at hback
    · intro hfree
      have hnone : f a = none := hfree.elim id fun h => h.1
      have hsame := Function.update_eq_self a f
      rw [hnone] at hsame
      rw [hsame]
      exact h
  | some b =>
    constructor
    · intro hlinked
      by_contra hlink
      obtain ⟨hne, hbusy⟩ := not_or.mp hlink
      by_cases ha : f a = none
      · -- Who was linked to `b` still is, but `b` is not linked back.
        have hgb : g b ≠ none := by
          intro hnone
          apply hbusy ⟨ha, ?_⟩
          intro b' hb'
          rwa [← Option.mem_some_iff.mp hb']
        obtain ⟨a', ha'⟩ := Option.ne_none_iff_exists'.mp hgb
        have hfa' : f a' = some b := (h a' b).mpr ha'
        have hne' : a' ≠ a := by
          rintro rfl
          exact hne hfa'
        have hback := (hlinked a' b).mp (by rw [Function.update_of_ne hne', hfa'])
        rw [linkTo, Function.update_self] at hback
        exact hne' (Option.some.inj hback).symm
      · -- What `a` was linked to still links back.
        obtain ⟨b', hb'⟩ := Option.ne_none_iff_exists'.mp ha
        have hne' : b' ≠ b := by
          rintro rfl
          exact hne hb'
        have hback := (hlinked a b').mpr (by
          rw [linkTo, Function.update_of_ne hne']
          exact (h a b').mp hb')
        rw [Function.update_self] at hback
        exact hne' (Option.some.inj hback).symm
    · intro hfree a' b'
      rw [linkTo]
      rcases hfree with ha | ⟨ha, hfree⟩
      · have hb := (h a b).mp ha
        rw [← ha, Function.update_eq_self, ← hb, Function.update_eq_self]
        exact h a' b'
      · have hb := hfree b rfl
        by_cases haa : a' = a
        · subst haa
          by_cases hbb : b' = b
          · subst hbb
            simp
          · have hne : g b' ≠ some a' := by
              rw [Ne, ← h a' b', ha]
              simp
            have hne' : b ≠ b' := fun h => hbb h.symm
            simp [hbb, hne, hne']
        · by_cases hbb : b' = b
          · subst hbb
            have hne : f a' ≠ some b' := by
              rw [Ne, h a' b', hb]
              simp
            have hne' : a ≠ a' := fun h => haa h.symm
            simp [haa, hne, hne']
          · rw [Function.update_of_ne haa, Function.update_of_ne hbb]
            exact h a' b'

/-- The old link is taken out on both sides before the new one is put in. -/
theorem mutual_relink_iff (h : Mutual f g) :
    Mutual (Function.update f a next) (linkTo (unlinkFrom g (f a)) a next) ↔
      ∀ b ∈ next, f a = some b ∨ g b = none := by
  have hupdate : Function.update f a next = Function.update (Function.update f a none) a next := by
    rw [Function.update_idem]
  rw [hupdate, mutual_link_iff (h.release a)]
  cases next with
  | none => simp
  | some b =>
    simp only [Function.update_self, unlinkFrom_apply, Option.mem_some_iff]
    by_cases hb : f a = some b
    · simp [hb]
    · simp [hb]

end Links
