import Mathlib

/-!
# The latest of some readings

Texts are read as points of a linear order, and some cannot be read. A scan keeps the
latest text it has met, and a merge takes the later one of two; a text that cannot be
read is compared with nothing. What the two come to denotes the greatest point if all
texts can be read, and may miss it otherwise.
-/

namespace Timeline

set_option autoImplicit false

variable {τ ι : Type} (reading : τ → Option ι)

/-- The points that the texts denote. -/
def points (texts : List τ) : Set ι := {point | ∃ text ∈ texts, reading text = some point}

theorem points_append (texts texts' : List τ) :
    points reading (texts ++ texts') = points reading texts ∪ points reading texts' := by
  ext point
  simp only [points, Set.mem_ofPred_eq, Set.mem_union, List.mem_append, or_and_right, exists_or]

variable [LinearOrder ι]

/-- Whether the candidate takes the place of what was kept so far. -/
def isAfter (current : Option τ) (candidate : τ) : Bool :=
  match current with
  | none => true
  | some current =>
    match reading candidate, reading current with
    | some candidate, some current => current < candidate
    | _, _ => false

def scan (texts : List τ) (kept : Option τ) : Option τ :=
  texts.foldl (fun kept text => if isAfter reading kept text then some text else kept) kept

def merge (left right : Option τ) : Option τ :=
  match left, right with
  | some left, some right =>
    match reading right, reading left with
    | some rightPoint, some leftPoint => if leftPoint < rightPoint then some right else some left
    | _, _ => some left
  | some text, none => some text
  | none, right => right

/-- The kept text denotes the greatest point, or nothing if no text can be read. -/
def Latest (texts : List τ) (kept : Option τ) : Prop :=
  ∀ point, kept.bind reading = some point ↔ IsGreatest (points reading texts) point

variable {reading} {texts : List τ} {kept left right : Option τ} {text : τ} {point : ι}

theorem exists_isGreatest (h : (points reading texts).Nonempty) :
    ∃ point, IsGreatest (points reading texts) point := by
  classical
  have heq : points reading texts = ↑(texts.filterMap reading).toFinset := by
    ext point
    simp [points]
  rw [heq] at h ⊢
  exact ⟨_, Finset.isGreatest_max' _ (Finset.coe_nonempty.mp h)⟩

theorem isGreatest_singleton_of_read (h : reading text = some point) :
    IsGreatest (points reading [text]) point := by
  constructor
  · exact ⟨text, by simp, h⟩
  · intro other hother
    obtain ⟨other', hmem, hread⟩ := hother
    obtain rfl := List.mem_singleton.mp hmem
    rw [h] at hread
    exact le_of_eq (Option.some.inj hread).symm

/-- Where nothing can be read, nothing is denoted. -/
theorem latest_iff_of_unread (h : points reading texts = ∅) :
    Latest reading texts kept ↔ kept.bind reading = none := by
  constructor
  · intro hlatest
    cases hkept : kept.bind reading with
    | none => rfl
    | some point =>
      have hgreatest := (hlatest point).mp hkept
      rw [h] at hgreatest
      exact absurd hgreatest.1 (Set.notMem_empty point)
  · intro hkept point
    rw [hkept, h]
    constructor
    · intro hsome
      cases hsome
    · intro hgreatest
      exact absurd hgreatest.1 (Set.notMem_empty point)

theorem latest_of_isGreatest (hread : reading text = some point)
    (h : IsGreatest (points reading texts) point) : Latest reading texts (some text) := by
  intro other
  rw [Option.bind_some, hread]
  constructor
  · intro hother
    exact Option.some.inj hother ▸ h
  · intro hother
    exact congrArg some (h.unique hother)

theorem Latest.unread (h : Latest reading texts kept) (hkept : kept.bind reading = none) :
    points reading texts = ∅ := by
  by_contra hsome
  obtain ⟨point, hgreatest⟩ := exists_isGreatest (Set.nonempty_iff_ne_empty.mpr hsome)
  have hpoint := (h point).mpr hgreatest
  rw [hkept] at hpoint
  cases hpoint

/-! ## The scan -/

theorem scan_append (texts texts' : List τ) :
    scan reading (texts ++ texts') kept = scan reading texts' (scan reading texts kept) := by
  rw [scan, List.foldl_append]
  rfl

theorem scan_mem (texts : List τ) : ∀ text ∈ scan reading texts none, text ∈ texts := by
  induction texts using List.reverseRecOn with
  | nil =>
    intro text htext
    cases htext
  | append_singleton texts last ih =>
    intro text htext
    rw [scan_append] at htext
    simp only [scan, List.foldl_cons, List.foldl_nil] at htext
    split at htext
    · obtain rfl := Option.some.inj htext
      simp
    · exact List.mem_append_left _ (ih text htext)

/-- A text that cannot be read and comes first is never replaced. -/
theorem scan_of_unread (h : reading text = none) (texts : List τ) :
    scan reading texts (some text) = some text := by
  induction texts with
  | nil => rfl
  | cons next rest ih =>
    have hafter : isAfter reading (some text) next = false := by
      unfold isAfter
      dsimp only
      rw [h]
      cases reading next <;> rfl
    rw [scan, List.foldl_cons, hafter]
    exact ih

theorem latest_scan (h : ∀ text ∈ texts, reading text ≠ none) :
    Latest reading texts (scan reading texts none) := by
  induction texts using List.reverseRecOn with
  | nil =>
    have hnone : points reading ([] : List τ) = ∅ := by
      ext point
      simp [points]
    exact (latest_iff_of_unread hnone).mpr rfl
  | append_singleton texts last ih =>
    have hlatest := ih fun text htext => h text (by simp [htext])
    have hread (text : τ) (htext : text ∈ scan reading texts none) : reading text ≠ none :=
      h text (List.mem_append_left _ (scan_mem texts text htext))
    obtain ⟨now, hnow⟩ := Option.ne_none_iff_exists'.mp (h last (by simp))
    have hlast := isGreatest_singleton_of_read hnow
    rw [scan_append]
    generalize scan reading texts none = kept at hlatest hread
    have hstep : scan reading [last] kept = if isAfter reading kept last then some last else kept := rfl
    rw [hstep]
    cases kept with
    | none =>
      have hafter : isAfter reading none last = true := rfl
      rw [hafter, if_pos rfl]
      apply latest_of_isGreatest hnow
      rw [points_append, hlatest.unread rfl, Set.empty_union]
      exact hlast
    | some earlier =>
      obtain ⟨before, hbefore⟩ := Option.ne_none_iff_exists'.mp (hread earlier rfl)
      have hboth := ((hlatest before).mp hbefore).union hlast
      have hafter : isAfter reading (some earlier) last = decide (before < now) := by
        unfold isAfter
        dsimp only
        rw [hnow, hbefore]
      rw [← points_append] at hboth
      rw [hafter]
      by_cases hlt : before < now
      · rw [if_pos (decide_eq_true hlt)]
        rw [max_eq_right (le_of_lt hlt)] at hboth
        exact latest_of_isGreatest hnow hboth
      · rw [if_neg (by simpa using hlt)]
        rw [max_eq_left (le_of_not_gt hlt)] at hboth
        exact latest_of_isGreatest hbefore hboth

/-! ## The merge -/

/-- No text denotes a point after that of `left`. -/
def NoneAfter (reading : τ → Option ι) (left : Option τ) (texts : List τ) : Prop :=
  ∀ text ∈ texts, ∀ point, reading text = some point →
    ∃ bound ∈ left.bind reading, point ≤ bound

theorem noneAfter_perm {texts' : List τ} (h : NoneAfter reading left texts)
    (hperm : texts'.Perm texts) : NoneAfter reading left texts' := by
  intro text htext
  exact h text (hperm.mem_iff.mp htext)

omit [LinearOrder ι] in
theorem points_perm {texts' : List τ} (hperm : texts'.Perm texts) :
    points reading texts' = points reading texts := by
  ext point
  constructor
  · intro h
    obtain ⟨text, htext, hread⟩ := h
    exact ⟨text, hperm.mem_iff.mp htext, hread⟩
  · intro h
    obtain ⟨text, htext, hread⟩ := h
    exact ⟨text, hperm.mem_iff.mpr htext, hread⟩

/-- Two kept texts that both denote the latest point denote the same. -/
theorem Latest.unique {texts' : List τ} {kept kept' : Option τ} (h : Latest reading texts kept)
    (h' : Latest reading texts' kept') (hpoints : points reading texts' = points reading texts) :
    kept'.bind reading = kept.bind reading := by
  apply Option.ext
  intro point
  rw [h point, h' point, hpoints]

theorem latest_merge (hleft : ∀ text ∈ left, reading text ≠ none) (hright : Latest reading texts right) :
    Latest reading (left.toList ++ texts) (merge reading left right) := by
  cases left with
  | none => exact hright
  | some first =>
    obtain ⟨point, hpoint⟩ := Option.ne_none_iff_exists'.mp (hleft first rfl)
    have hfirst := isGreatest_singleton_of_read hpoint
    have hsplit : points reading ((some first).toList ++ texts) =
        points reading [first] ∪ points reading texts := points_append ..
    cases hread : right.bind reading with
    | none =>
      have hmerge : merge reading (some first) right = some first := by
        cases right with
        | none => rfl
        | some second =>
          rw [Option.bind_some] at hread
          unfold merge
          dsimp only
          rw [hread]
      rw [hmerge]
      apply latest_of_isGreatest hpoint
      rw [hsplit, hright.unread hread, Set.union_empty]
      exact hfirst
    | some point' =>
      obtain ⟨second, rfl, hsecond⟩ := Option.bind_eq_some_iff.mp hread
      have hboth := hfirst.union ((hright point').mp hread)
      rw [← hsplit] at hboth
      have hmerge : merge reading (some first) (some second) =
          if point < point' then some second else some first := by
        unfold merge
        dsimp only
        rw [hsecond, hpoint]
      rw [hmerge]
      by_cases hlt : point < point'
      · rw [if_pos hlt]
        rw [max_eq_right (le_of_lt hlt)] at hboth
        exact latest_of_isGreatest hsecond hboth
      · rw [if_neg hlt]
        rw [max_eq_left (le_of_not_gt hlt)] at hboth
        exact latest_of_isGreatest hpoint hboth

/-- What `left` denotes is the latest, and nothing takes its place. -/
theorem latest_merge_of_noneAfter (h : NoneAfter reading left texts)
    (hright : ∀ text ∈ right, text ∈ texts) :
    Latest reading (left.toList ++ texts) (merge reading left right) := by
  cases hread : left.bind reading with
  | none =>
    have hunread : ∀ text ∈ texts, reading text = none := by
      intro text htext
      by_contra hsome
      obtain ⟨point, hpoint⟩ := Option.ne_none_iff_exists'.mp hsome
      obtain ⟨bound, hbound, _⟩ := h text htext point hpoint
      rw [hread] at hbound
      cases hbound
    have hempty : points reading (left.toList ++ texts) = ∅ := by
      apply Set.eq_empty_of_forall_notMem
      intro point hpoint
      obtain ⟨text, htext, hsome⟩ := hpoint
      rcases List.mem_append.mp htext with htext | htext
      · rw [Option.mem_toList.mp htext, Option.bind_some, hsome] at hread
        cases hread
      · rw [hunread text htext] at hsome
        cases hsome
    apply (latest_iff_of_unread hempty).mpr
    cases left with
    | none =>
      cases right with
      | none => rfl
      | some second => exact hunread second (hright second rfl)
    | some first =>
      have hfirst : reading first = none := hread
      cases right with
      | none => exact hfirst
      | some second =>
        unfold merge
        dsimp only
        rw [hunread second (hright second rfl)]
        exact hfirst
  | some point =>
    obtain ⟨first, rfl, hfirst⟩ := Option.bind_eq_some_iff.mp hread
    have hbound : ∀ text ∈ texts, ∀ point', reading text = some point' → point' ≤ point := by
      intro text htext point' hpoint'
      obtain ⟨bound, hbound, hle⟩ := h text htext point' hpoint'
      rw [hread] at hbound
      obtain rfl := Option.some.inj hbound
      exact hle
    have hmerge : merge reading (some first) right = some first := by
      cases right with
      | none => rfl
      | some second =>
        unfold merge
        dsimp only
        rw [hfirst]
        cases hsecond : reading second with
        | none => rfl
        | some point' =>
          have hle := hbound second (hright second rfl) point' hsecond
          exact if_neg (not_lt.mpr hle)
    rw [hmerge]
    apply latest_of_isGreatest hfirst
    constructor
    · exact ⟨first, by simp, hfirst⟩
    · intro other hother
      obtain ⟨text, htext, hsome⟩ := hother
      rcases List.mem_append.mp htext with htext | htext
      · obtain rfl := Option.some.inj (Option.mem_toList.mp htext)
        rw [hfirst] at hsome
        exact le_of_eq (Option.some.inj hsome).symm
      · exact hbound text htext other hsome

/-- A text that cannot be read adds nothing on either side. -/
theorem merge_of_unread (h : (∃ text ∈ left, reading text = none) ∨ reading text = none) :
    (merge reading left (some text)).bind reading = left.bind reading := by
  cases left with
  | none =>
    rcases h with h | h
    · obtain ⟨first, hfirst, _⟩ := h
      cases hfirst
    · exact h
  | some first =>
    have hmerge : merge reading (some first) (some text) = some first := by
      unfold merge
      dsimp only
      rcases h with h | h
      · obtain ⟨first', hmem, hfirst⟩ := h
        obtain rfl := Option.some.inj hmem
        rw [hfirst]
        cases reading text <;> rfl
      · rw [h]
    rw [hmerge]

theorem noneAfter_of_latest (h : Latest reading (left.toList ++ texts) kept)
    (hkept : kept.bind reading = left.bind reading) : NoneAfter reading left texts := by
  intro text htext point hpoint
  have hmem : point ∈ points reading (left.toList ++ texts) := ⟨text, by simp [htext], hpoint⟩
  cases hbound : left.bind reading with
  | none =>
    rw [h.unread (hkept.trans hbound)] at hmem
    exact absurd hmem (Set.notMem_empty point)
  | some bound => exact ⟨bound, rfl, ((h bound).mp (hkept.trans hbound)).2 hmem⟩

/-- A scan and a merge come to the latest point, whatever the order of the scan, exactly if all
texts can be read or the scan could not add anything. -/
theorem latest_in_any_order_iff :
    (Latest reading (left.toList ++ texts) (merge reading left (scan reading texts none)) ∧
      ∀ texts', texts'.Perm texts → (merge reading left (scan reading texts' none)).bind reading =
        (merge reading left (scan reading texts none)).bind reading) ↔
    NoneAfter reading left texts ∨
      (∀ text ∈ left, reading text ≠ none) ∧ ∀ text ∈ texts, reading text ≠ none := by
  constructor
  · intro h
    obtain ⟨hlatest, hordered⟩ := h
    by_cases hleft : ∃ text ∈ left, reading text = none
    · apply Or.inl
      apply noneAfter_of_latest hlatest
      cases scan reading texts none with
      | none =>
        cases left <;> rfl
      | some second => exact merge_of_unread (.inl hleft)
    by_cases htexts : ∃ text ∈ texts, reading text = none
    · apply Or.inl
      apply noneAfter_of_latest hlatest
      obtain ⟨unread, hmem, hnone⟩ := htexts
      obtain ⟨before, after, rfl⟩ := List.append_of_mem hmem
      -- The text that cannot be read comes first, and the scan never leaves it.
      have hfirst := hordered (unread :: (before ++ after)) List.perm_middle.symm
      have hscan : scan reading (unread :: (before ++ after)) none = some unread :=
        scan_of_unread hnone (before ++ after)
      rw [← hfirst, hscan]
      exact merge_of_unread (.inr hnone)
    · push Not at hleft htexts
      exact .inr ⟨hleft, htexts⟩
  · intro h
    have hall (texts' : List τ) (hperm : texts'.Perm texts) :
        Latest reading (left.toList ++ texts') (merge reading left (scan reading texts' none)) := by
      rcases h with h | h
      · exact latest_merge_of_noneAfter (noneAfter_perm h hperm) (scan_mem texts')
      · obtain ⟨hleft, htexts⟩ := h
        apply latest_merge hleft
        exact latest_scan fun text htext => htexts text (hperm.mem_iff.mp htext)
    refine ⟨hall texts (.refl texts), fun texts' hperm => ?_⟩
    apply (hall texts (.refl texts)).unique (hall texts' hperm)
    exact points_perm (hperm.append_left left.toList)

end Timeline
