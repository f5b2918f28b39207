import Mathlib.Data.List.Induction
import Mathlib.Data.List.Nodup

/-!
# Tagged cells

A cell holds a payload and a tag that writers replace together with it. When
every tag is installed at most once, a tag that is current at two moments has
been current all the time, and nothing happened to the payload in between.
-/

namespace Tagged

set_option autoImplicit false

universe u v
variable {T : Type u} {P : Type v}

structure Cell (T : Type u) (P : Type v) where
  tag : Option T
  payload : Option P

/-- What a transaction can do to a cell. `retag` keeps the payload. -/
inductive Change (T : Type u) (P : Type v) where
  | idle
  | retag (tag : Option T)
  | put (tag : Option T) (payload : P)
  | clear

namespace Change

def apply : Change T P → Cell T P → Cell T P
  | idle, cell => cell
  | retag tag, cell => { cell with tag := tag }
  | put tag payload, _ => { tag := tag, payload := some payload }
  | clear, _ => { tag := none, payload := none }

/-- The tag that is current afterwards, unless nothing happens. -/
def installs : Change T P → Option T
  | idle | clear => none
  | retag tag | put tag _ => tag

theorem tag_apply {a : Change T P} (ha : a ≠ idle) (cell : Cell T P) :
    (a.apply cell).tag = a.installs := by
  cases a with
  | idle => exact absurd rfl ha
  | retag tag => rfl
  | put tag payload => rfl
  | clear => rfl

end Change

def replay (cell : Cell T P) (changes : List (Change T P)) : Cell T P :=
  changes.foldl (fun cell a => a.apply cell) cell

@[simp] theorem replay_nil (cell : Cell T P) : replay cell [] = cell := rfl

@[simp] theorem replay_cons (cell : Cell T P) (a : Change T P) (changes : List (Change T P)) :
    replay cell (a :: changes) = replay (a.apply cell) changes := rfl

theorem replay_append (cell : Cell T P) (l m : List (Change T P)) :
    replay cell (l ++ m) = replay (replay cell l) m := List.foldl_append ..

theorem replay_idle {cell : Cell T P} {changes : List (Change T P)}
    (h : ∀ a ∈ changes, a = .idle) : replay cell changes = cell := by
  induction changes with
  | nil => rfl
  | cons a changes ih =>
    rw [List.forall_mem_cons] at h
    rw [replay_cons, h.1]
    exact ih h.2

/-- A payload is only ever lost by clearing the cell. -/
theorem clear_of_lost {cell : Cell T P} {changes : List (Change T P)} (hcell : cell.payload ≠ none)
    (h : (replay cell changes).payload = none) : .clear ∈ changes := by
  induction changes using List.reverseRecOn with
  | nil => exact absurd h hcell
  | append_singleton changes a ih =>
    rw [replay_append, replay_cons, replay_nil] at h
    cases a with
    | clear => simp
    | put tag payload => cases h
    | idle => exact List.mem_append_left _ (ih h)
    | retag tag => exact List.mem_append_left _ (ih h)

/-- A current tag was there from the start or has been installed. -/
theorem tag_origin {cell : Cell T P} {changes : List (Change T P)} {t : T}
    (h : (replay cell changes).tag = some t) :
    cell.tag = some t ∨ ∃ a ∈ changes, a.installs = some t := by
  induction changes using List.reverseRecOn with
  | nil => exact .inl h
  | append_singleton changes a ih =>
    rw [replay_append, replay_cons, replay_nil] at h
    by_cases ha : a = .idle
    · subst ha
      rcases ih h with h | ⟨b, hb, hi⟩
      · exact .inl h
      · exact .inr ⟨b, List.mem_append_left _ hb, hi⟩
    · rw [Change.tag_apply ha] at h
      exact .inr ⟨a, by simp, h⟩

/-- A tag that is not installed again is lost with the first change. -/
theorem idle_of_tag {cell : Cell T P} {changes : List (Change T P)} {t : T}
    (hnew : ∀ a ∈ changes, a.installs ≠ some t) (h : (replay cell changes).tag = some t) :
    ∀ a ∈ changes, a = .idle := by
  induction changes using List.reverseRecOn with
  | nil => simp
  | append_singleton changes a ih =>
    rw [replay_append, replay_cons, replay_nil] at h
    have ha : a = .idle := by
      by_contra hne
      rw [Change.tag_apply hne] at h
      exact hnew a (by simp) h
    subst ha
    intro b hb
    rcases List.mem_append.mp hb with hb | hb
    · exact ih (fun b hb => hnew b (List.mem_append_left _ hb)) h b hb
    · exact List.mem_singleton.mp hb

/-- No tag is installed twice, nor one that was there from the start. -/
structure Fresh (cell : Cell T P) (changes : List (Change T P)) : Prop where
  nodup : (changes.filterMap Change.installs).Nodup
  initial : ∀ t, cell.tag = some t → t ∉ changes.filterMap Change.installs

theorem Fresh.left {cell : Cell T P} {l m : List (Change T P)} (h : Fresh cell (l ++ m)) :
    Fresh cell l := by
  obtain ⟨hn, hi⟩ := h
  rw [List.filterMap_append] at hn hi
  exact ⟨hn.of_append_left, fun t ht hm => hi t ht (List.mem_append_left _ hm)⟩

/-- Between two moments with the same current tag nothing happens. -/
theorem Fresh.idle_between {cell : Cell T P} {l m : List (Change T P)} {t : T}
    (hf : Fresh cell (l ++ m)) (hl : (replay cell l).tag = some t)
    (hm : (replay cell (l ++ m)).tag = some t) : ∀ a ∈ m, a = .idle := by
  rw [replay_append] at hm
  apply idle_of_tag _ hm
  intro a ha hi
  have hmem : t ∈ m.filterMap Change.installs := List.mem_filterMap.mpr ⟨a, ha, hi⟩
  rcases tag_origin hl with hc | ⟨b, hb, hbi⟩
  · apply hf.initial t hc
    rw [List.filterMap_append]
    exact List.mem_append_right _ hmem
  · have hn := hf.nodup
    rw [List.filterMap_append] at hn
    exact List.disjoint_of_nodup_append hn (List.mem_filterMap.mpr ⟨b, hb, hbi⟩) hmem

/-- So the cell is the same at both moments. -/
theorem Fresh.replay_between {cell : Cell T P} {l m : List (Change T P)} {t : T}
    (hf : Fresh cell (l ++ m)) (hl : (replay cell l).tag = some t)
    (hm : (replay cell (l ++ m)).tag = some t) : replay cell (l ++ m) = replay cell l := by
  rw [replay_append, replay_idle (hf.idle_between hl hm)]

end Tagged
