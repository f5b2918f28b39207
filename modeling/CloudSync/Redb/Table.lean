import CloudSync.Rust.Text

/-!
# Ordered tables keyed by text

One table of an embedded ordered store: a finite map from `&str` keys, iterated
in ascending key order. Two tables are equal as soon as all lookups agree.
-/

namespace Redb

open Rust

set_option autoImplicit false

abbrev Table (V : Type) := Std.ExtTreeMap String V compare

/-- `std::ops::Bound` as the lower end of a range. -/
inductive Bound where
  | included (key : String)
  | excluded (key : String)

def Bound.admits : Bound → String → Bool
  | .included key, k => key ≤ k
  | .excluded key, k => key < k

namespace Table
variable {V : Type}

/-- `table.range((lower, Unbounded))`. -/
def rangeFrom (t : Table V) (lower : Bound) : List (String × V) :=
  t.toList.filter fun entry => lower.admits entry.1

def eraseAll (t : Table V) (keys : List String) : Table V := keys.foldl (fun t k => t.erase k) t

@[simp] theorem get_insert (t : Table V) (k a : String) (v : V) :
    (t.insert k v)[a]? = if k = a then some v else t[a]? := by
  simp only [Std.ExtTreeMap.getElem?_insert, Std.compare_eq_iff_eq]

@[simp] theorem get_erase (t : Table V) (k a : String) :
    (t.erase k)[a]? = if k = a then none else t[a]? := by
  simp only [Std.ExtTreeMap.getElem?_erase, Std.compare_eq_iff_eq]

@[simp] theorem get_eraseAll (t : Table V) (keys : List String) (a : String) :
    (t.eraseAll keys)[a]? = if a ∈ keys then none else t[a]? := by
  induction keys generalizing t with
  | nil => simp [eraseAll]
  | cons k keys ih =>
    have h := ih (t.erase k)
    simp only [eraseAll, List.foldl_cons] at h ⊢
    rw [h, get_erase]
    by_cases hk : a ∈ keys
    · simp [hk]
    · by_cases hka : k = a
      · simp [hka]
      · simp [hk, hka, Ne.symm hka]

theorem sorted_toList (t : Table V) : t.toList.Pairwise fun a b => a.1 < b.1 := by
  refine Std.ExtTreeMap.ordered_keys_toList.imp ?_
  intro a b h
  exact compare_lt_iff_lt.mp h

theorem sorted_rangeFrom (t : Table V) (lower : Bound) :
    (t.rangeFrom lower).Pairwise fun a b => a.1 < b.1 :=
  t.sorted_toList.filter _

theorem mem_rangeFrom {t : Table V} {lower : Bound} {k : String} {v : V} :
    (k, v) ∈ t.rangeFrom lower ↔ t[k]? = some v ∧ lower.admits k := by
  simp [rangeFrom]

theorem values_eq (t : Table V) : t.values = t.toList.map (·.2) := by
  have h : t.values = t.foldr (fun _ v vs => v :: vs) [] := by
    rcases t with ⟨⟨t⟩⟩
    rfl
  rw [h, Std.ExtTreeMap.foldr_eq_foldr_toList]
  induction t.toList with
  | nil => rfl
  | cons a l ih => simp [ih]

theorem mem_values {t : Table V} {v : V} : v ∈ t.values ↔ ∃ key : String, t[key]? = some v := by
  simp [values_eq]

/-- Where what satisfies `p` comes first, taking it and filtering it out are the same. -/
theorem takeWhile_eq_filter {α : Type} {p : α → Bool} {l : List α}
    (h : l.Pairwise fun a b => p b = true → p a = true) : l.takeWhile p = l.filter p := by
  induction l with
  | nil => rfl
  | cons a l ih =>
    obtain ⟨hhead, htail⟩ := List.pairwise_cons.mp h
    cases ha : p a with
    | true => rw [List.takeWhile_cons_of_pos ha, List.filter_cons_of_pos ha, ih htail]
    | false =>
      have hnone : l.filter p = [] := by
        rw [List.filter_eq_nil_iff]
        intro b hb hpb
        rw [hhead b hb hpb] at ha
        cases ha
      rw [List.takeWhile_cons_of_neg (by simp [ha]), List.filter_cons_of_neg (by simp [ha]), hnone]

/-- Stopping at the first key with another prefix misses no key with the prefix. -/
theorem rangeFrom_takeWhile (t : Table V) {lower : Bound} {pre : String}
    (hlower : ∀ key, lower.admits key = true → pre ≤ key) :
    (t.rangeFrom lower).takeWhile (fun entry => startsWith entry.1 pre) =
      (t.rangeFrom lower).filter fun entry => startsWith entry.1 pre := by
  apply takeWhile_eq_filter
  refine (t.sorted_rangeFrom lower).imp_of_mem fun ha _ hab hb => ?_
  exact startsWith_of_between (hlower _ (mem_rangeFrom.mp ha).2) (le_of_lt hab) hb

/-- Rows are listed alike in tables that agree on the keys in question. -/
theorem toList_filter_congr {t t' : Table V} {p : String → Bool}
    (h : ∀ key : String, p key = true → t[key]? = t'[key]?) :
    t.toList.filter (fun entry => p entry.1) = t'.toList.filter fun entry => p entry.1 := by
  have hfilter : t.filter (fun key _ => p key) = t'.filter fun key _ => p key := by
    apply Std.ExtTreeMap.ext_getElem?
    intro key
    rw [Std.ExtTreeMap.getElem?_filter', Std.ExtTreeMap.getElem?_filter']
    cases hp : p key with
    | true => rw [h key hp]
    | false =>
      cases t[key]? <;> cases t'[key]? <;> simp
  have hlist := congrArg Std.ExtTreeMap.toList hfilter
  rwa [Std.ExtTreeMap.toList_filter, Std.ExtTreeMap.toList_filter] at hlist

end Table

end Redb
