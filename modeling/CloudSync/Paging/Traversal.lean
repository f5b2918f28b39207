import Mathlib

/-!
# Pages of a changing list

A sorted list is read page by page; the last item of a page is the cursor of the
next one, and the list may have changed in between. Whatever the changes are, the
items come in order, and an item that is there all the time comes exactly once.
-/

namespace Paging

set_option autoImplicit false

variable {α : Type} [LinearOrder α]

/-- The items behind the cursor. -/
def behind (cursor : Option α) (items : List α) : List α :=
  items.filter fun a => cursor.all fun b => b < a

/-- The items of a page, and the cursor of the next page if there is one. -/
def page (items : List α) (cursor : Option α) (limit : Nat) : List α × Option α :=
  if limit < (behind cursor items).length then
    ((behind cursor items).take limit, ((behind cursor items).take limit).getLast?)
  else (behind cursor items, none)

/-- The pages that a client gets that follows the cursors, with the list and the limit it
meets each time. -/
def pages : Option α → List (List α × Nat) → List (List α × Option α)
  | _, [] => []
  | cursor, (items, limit) :: rest =>
    page items cursor limit ::
      match (page items cursor limit).2 with
      | none => []
      | some next => pages (some next) rest

/-- The last page says that there is no other. -/
def Ended (answers : List (List α × Option α)) : Prop := ∃ items, answers.getLast? = some (items, none)

def listed (answers : List (List α × Option α)) : List α := answers.flatMap (·.1)

section Page
variable {items : List α} {cursor : Option α} {limit : Nat} {a b : α}

theorem mem_behind : a ∈ behind cursor items ↔ a ∈ items ∧ ∀ b ∈ cursor, b < a := by
  cases cursor <;> simp [behind]

theorem sorted_behind (h : items.Pairwise (· < ·)) : (behind cursor items).Pairwise (· < ·) :=
  h.filter _

theorem page_front : (page items cursor limit).1 <+: behind cursor items := by
  unfold page
  split
  · exact List.take_prefix _ _
  · exact List.prefix_rfl

theorem mem_page (h : a ∈ (page items cursor limit).1) : a ∈ items ∧ ∀ b ∈ cursor, b < a :=
  mem_behind.mp (page_front.subset h)

theorem sorted_page (h : items.Pairwise (· < ·)) : (page items cursor limit).1.Pairwise (· < ·) :=
  (sorted_behind h).sublist page_front.sublist

/-- Without a next cursor the page holds all that is behind the cursor. -/
theorem page_of_none (h : (page items cursor limit).2 = none) (hlimit : 0 < limit) :
    (page items cursor limit).1 = behind cursor items ∧ (behind cursor items).length ≤ limit := by
  unfold page at h ⊢
  split at h
  · rename_i hlong
    have hempty := List.getLast?_eq_none_iff.mp h
    have hlength := congrArg List.length hempty
    rw [List.length_take, List.length_nil] at hlength
    omega
  · rename_i hshort
    rw [if_neg hshort]
    exact ⟨rfl, by omega⟩

/-- Behind an item of a sorted list is what follows it. -/
theorem behind_item {front rest : List α} (h : (front ++ b :: rest).Pairwise (· < ·)) :
    behind (some b) (front ++ b :: rest) = rest := by
  rw [List.pairwise_append, List.pairwise_cons] at h
  obtain ⟨_, ⟨hrest, _⟩, hfront⟩ := h
  have hnone : behind (some b) front = [] := by
    rw [behind, List.filter_eq_nil_iff]
    intro a ha
    have hlt := hfront a ha b (by simp)
    simpa using le_of_lt hlt
  have hall : behind (some b) rest = rest := by
    rw [behind, List.filter_eq_self]
    intro a ha
    simpa using hrest a ha
  unfold behind at hnone hall ⊢
  rw [List.filter_append, hnone, List.nil_append, List.filter_cons_of_neg (by simp), hall]

theorem behind_behind (hb : b ∈ behind cursor items) :
    behind (some b) (behind cursor items) = behind (some b) items := by
  unfold behind
  rw [List.filter_filter]
  apply List.filter_congr
  intro a _
  cases cursor with
  | none => simp
  | some b' =>
    have hb' := (mem_behind.mp hb).2 b' rfl
    simp only [Option.all_some, Bool.and_eq_left_iff_imp, decide_eq_true_eq]
    intro hba
    exact lt_trans hb' hba

/-- A page that is full and ends with `next`, behind which there is more. -/
structure FullPage (items : List α) (cursor : Option α) (limit : Nat) (next : α) : Prop where
  mem : next ∈ (page items cursor limit).1
  last : ∀ a ∈ (page items cursor limit).1, a ≤ next
  full : (page items cursor limit).1.length = limit
  split : behind cursor items = (page items cursor limit).1 ++ behind (some next) items
  more : 0 < (behind (some next) items).length

theorem page_of_some (hsorted : items.Pairwise (· < ·)) (h : (page items cursor limit).2 = some b) :
    FullPage items cursor limit b := by
  have hpage : (page items cursor limit).1.Pairwise (· < ·) := sorted_page hsorted
  unfold page at h hpage
  split at h
  · rename_i hlong
    have hitems : (page items cursor limit).1 = (behind cursor items).take limit := by
      rw [page, if_pos hlong]
    rw [if_pos hlong] at hpage
    dsimp only at h hpage
    obtain ⟨front, hfront⟩ := List.getLast?_eq_some_iff.mp h
    have hsplit : behind cursor items = front ++ b :: (behind cursor items).drop limit := by
      have happend := List.take_append_drop limit (behind cursor items)
      rw [hfront, List.append_assoc, List.singleton_append] at happend
      exact happend.symm
    have hrest : behind (some b) items = (behind cursor items).drop limit := by
      have hb : b ∈ behind cursor items := by
        rw [hsplit]
        simp
      have hall : (behind cursor items).Pairwise (· < ·) := sorted_behind hsorted
      rw [← behind_behind hb]
      rw [hsplit] at hall
      have hitem := behind_item hall
      rwa [← hsplit] at hitem
    constructor
    · rw [hitems, hfront]
      simp
    · intro a ha
      rw [hitems, hfront] at ha
      rw [hfront, List.pairwise_append] at hpage
      rcases List.mem_append.mp ha with ha | ha
      · exact le_of_lt (hpage.2.2 a ha b (by simp))
      · exact le_of_eq (List.mem_singleton.mp ha)
    · rw [hitems, List.length_take]
      omega
    · rw [hitems, hrest, List.take_append_drop]
    · rw [hrest, List.length_drop]
      omega
  · cases h

end Page

section Pages
variable {cursor : Option α} {visits : List (List α × Nat)} {a : α}

/-- What is listed from a cursor on comes behind it, in order. -/
theorem listed_sorted (hsorted : ∀ v ∈ visits, v.1.Pairwise (· < ·)) :
    (listed (pages cursor visits)).Pairwise (· < ·) ∧
      ∀ a ∈ listed (pages cursor visits), ∀ b ∈ cursor, b < a := by
  induction visits generalizing cursor with
  | nil => simp [pages, listed]
  | cons v rest ih =>
    obtain ⟨items, limit⟩ := v
    have hitems := hsorted (items, limit) (by simp)
    have hrest : ∀ v ∈ rest, v.1.Pairwise (· < ·) := fun v hv => hsorted v (by simp [hv])
    unfold pages
    cases hnext : (page items cursor limit).2 with
    | none =>
      simp only [listed, List.flatMap_cons, List.flatMap_nil, List.append_nil]
      exact ⟨sorted_page hitems, fun a ha => (mem_page ha).2⟩
    | some next =>
      have hlater : (listed (pages (some next) rest)).Pairwise (· < ·) ∧
          ∀ a ∈ listed (pages (some next) rest), ∀ b ∈ some next, b < a := ih hrest
      obtain ⟨hsortedRest, hbehind⟩ := hlater
      have hfull := page_of_some hitems hnext
      have hcursor := (mem_page hfull.mem).2
      simp only [listed, List.flatMap_cons] at hsortedRest hbehind ⊢
      refine ⟨List.pairwise_append.mpr ⟨sorted_page hitems, hsortedRest, ?_⟩, ?_⟩
      · intro a ha b hb
        exact lt_of_le_of_lt (hfull.last a ha) (hbehind b hb next rfl)
      · intro a ha b hb
        rcases List.mem_append.mp ha with ha | ha
        · exact (mem_page ha).2 b hb
        · exact lt_trans (hcursor b hb) (hbehind a ha next rfl)

/-- What is on a page was in the list that the page was made from. -/
theorem mem_of_listed {k : Nat} {answer : List α × Option α}
    (hanswer : (pages cursor visits)[k]? = some answer) (ha : a ∈ answer.1) :
    ∃ v, visits[k]? = some v ∧ a ∈ v.1 := by
  induction visits generalizing cursor k with
  | nil => simp [pages] at hanswer
  | cons v rest ih =>
    obtain ⟨items, limit⟩ := v
    unfold pages at hanswer
    cases k with
    | zero =>
      obtain rfl := Option.some.inj hanswer
      exact ⟨_, rfl, (mem_page ha).1⟩
    | succ k =>
      rw [List.getElem?_cons_succ] at hanswer ⊢
      cases hnext : (page items cursor limit).2 with
      | none => simp [hnext] at hanswer
      | some next =>
        rw [hnext] at hanswer
        exact ih hanswer

omit [LinearOrder α] in
theorem ended_cons {answer : List α × Option α} {answers : List (List α × Option α)} :
    Ended (answer :: answers) ↔ (answers = [] ∧ answer.2 = none) ∨ Ended answers := by
  unfold Ended
  cases answers with
  | nil =>
    obtain ⟨items, next⟩ := answer
    simp
  | cons first rest => simp [List.getLast?_cons_cons]

/-- What is there all the time is listed. -/
theorem listed_of_always (hsorted : ∀ v ∈ visits, v.1.Pairwise (· < ·))
    (hlimits : ∀ v ∈ visits, 0 < v.2) (hended : Ended (pages cursor visits))
    (hbehind : ∀ b ∈ cursor, b < a)
    (halways : ∀ v ∈ visits.take (pages cursor visits).length, a ∈ v.1) :
    a ∈ listed (pages cursor visits) := by
  induction visits generalizing cursor with
  | nil =>
    obtain ⟨items, hlast⟩ := hended
    cases hlast
  | cons v rest ih =>
    obtain ⟨items, limit⟩ := v
    have hitems := hsorted (items, limit) (by simp)
    unfold pages at hended halways ⊢
    have hhere : a ∈ behind cursor items := mem_behind.mpr ⟨halways (items, limit) (by simp), hbehind⟩
    cases hnext : (page items cursor limit).2 with
    | none =>
      have hall := (page_of_none hnext (hlimits (items, limit) (by simp))).1
      simp only [listed, List.flatMap_cons, List.flatMap_nil, List.append_nil]
      rwa [hall]
    | some next =>
      rw [hnext] at hended halways
      have hfull := page_of_some hitems hnext
      rw [hfull.split] at hhere
      simp only [listed, List.flatMap_cons, List.mem_append]
      rcases List.mem_append.mp hhere with hhere | hlater
      · exact .inl hhere
      · right
        apply ih
        · intro v hv
          exact hsorted v (by simp [hv])
        · intro v hv
          exact hlimits v (by simp [hv])
        · rcases ended_cons.mp hended with ⟨_, hnone⟩ | hrest
          · rw [hnext] at hnone
            cases hnone
          · exact hrest
        · exact (mem_behind.mp hlater).2
        · intro v hv
          apply halways
          simp [hv]

/-- On a list that does not change, `k` pages are enough for `k` times the limit. -/
theorem ended_of_length_le {items : List α} {limit k : Nat} (hsorted : items.Pairwise (· < ·))
    (hk : 0 < k) (hlength : (behind cursor items).length ≤ k * limit) :
    Ended (pages cursor (List.replicate k (items, limit))) := by
  induction k generalizing cursor with
  | zero => omega
  | succ k ih =>
    rw [List.replicate_succ]
    unfold pages
    rw [ended_cons]
    cases hnext : (page items cursor limit).2 with
    | none => exact .inl ⟨rfl, rfl⟩
    | some next =>
      right
      have hfull := page_of_some hsorted hnext
      have hsum := congrArg List.length hfull.split
      have hmore := hfull.more
      rw [List.length_append, hfull.full] at hsum
      rw [Nat.add_mul, Nat.one_mul] at hlength
      apply ih
      · rcases Nat.eq_zero_or_pos k with rfl | hpos
        · omega
        · exact hpos
      · omega

end Pages

end Paging
