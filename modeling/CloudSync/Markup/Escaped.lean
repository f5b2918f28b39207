import CloudSync.Markup.Literal

/-!
# Escaped text

A backslash before each delimiter makes a text the value of a literal. Inside of an attribute
the references in the text are decoded first, and a reference is always shorter than what it is
written with: so only a text without references arrives.
-/

namespace Markup

set_option autoImplicit false

/-- A backslash stands before each delimiter. -/
def escaped (text : List Char) : List Char :=
  text.flatMap fun ch => if isDelimiter ch then ['\\', ch] else [ch]

@[simp] theorem escaped_cons (ch : Char) (rest : List Char) :
    escaped (ch :: rest) = (if isDelimiter ch then ['\\', ch] else [ch]) ++ escaped rest := rfl

/-! ## What is kept -/

theorem mem_escaped {ch : Char} (h : ch ≠ '\\') {text : List Char} :
    ch ∈ escaped text ↔ ch ∈ text := by
  induction text with
  | nil => exact Iff.rfl
  | cons first text ih =>
    rw [escaped_cons, List.mem_append, ih, List.mem_cons]
    split
    · simp [h]
    · simp

theorem unitLength_escaped (text : List Char) :
    unitLength (escaped text) = unitLength text + text.countP isDelimiter := by
  induction text with
  | nil => rfl
  | cons ch text ih =>
    have hbackslash : (units '\\'.toNat).length = 1 := by decide
    rw [escaped_cons, unitLength_append, unitLength_cons, List.countP_cons, ih]
    split
    · rw [unitLength_cons, unitLength_cons, unitLength_nil]
      omega
    · rw [unitLength_cons, unitLength_nil]
      omega

theorem countP_escaped (text : List Char) :
    (escaped text).countP isDelimiter = 2 * text.countP isDelimiter := by
  induction text with
  | nil => rfl
  | cons ch text ih =>
    have hbackslash : isDelimiter '\\' = true := rfl
    rw [escaped_cons, List.countP_append, List.countP_cons, ih]
    split
    · next hch =>
      rw [List.countP_cons_of_pos hbackslash, List.countP_cons_of_pos hch, List.countP_nil]
      omega
    · next hch =>
      rw [List.countP_cons_of_neg hch, List.countP_nil]
      omega

theorem nullReplaced_escaped (text : List Char) :
    nullReplaced (escaped text) = escaped (nullReplaced text) := by
  unfold nullReplaced
  induction text with
  | nil => rfl
  | cons ch text ih =>
    rw [escaped_cons, List.map_append, ih, List.map_cons, escaped_cons]
    congr 1
    by_cases hnull : ch = '\x00'
    · subst hnull
      rfl
    · rw [if_neg hnull]
      split
      · rw [List.map_cons, List.map_cons, List.map_nil, if_neg hnull, if_neg (by decide)]
      · rw [List.map_cons, List.map_nil, if_neg hnull]

theorem takeWhile_escaped (text : List Char) :
    (escaped text).takeWhile isWordChar = text.takeWhile isWordChar := by
  induction text with
  | nil => rfl
  | cons ch text ih =>
    rw [escaped_cons]
    split
    · next hdelimiter =>
      have hword : isWordChar ch = false := by
        rcases (Bool.or_eq_true _ _).mp hdelimiter with h | h
        · rw [eq_of_beq h]
          rfl
        · rw [eq_of_beq h]
          rfl
      have hbackslash : isWordChar '\\' = false := rfl
      simp [hword, hbackslash]
    · rw [List.cons_append, List.nil_append, List.takeWhile_cons, List.takeWhile_cons, ih]

theorem noReference_escaped {refs : NamedReferences} {text : List Char} :
    refs.NoReference (escaped text) ↔ refs.NoReference text := by
  induction text with
  | nil => exact Iff.rfl
  | cons ch text ih =>
    have hreference : refs.reference (escaped text) = refs.reference text :=
      reference_congr (takeWhile_escaped text)
    rw [escaped_cons]
    split
    · next hdelimiter =>
      have hamp : ch ≠ '&' := by
        intro h
        rw [h] at hdelimiter
        cases hdelimiter
      constructor
      · intro h
        exact ⟨fun hch => absurd hch hamp, ih.mp h.2.2⟩
      · intro h
        exact ⟨fun hch => absurd hch (by decide), fun hch => absurd hch hamp, ih.mpr h.2⟩
    · constructor
      · intro h
        exact ⟨fun hch => hreference ▸ h.1 hch, ih.mp h.2⟩
      · intro h
        exact ⟨fun hch => hreference.symm ▸ h.1 hch, ih.mpr h.2⟩

theorem mem_nullReplaced {ch : Char} (hnull : ch ≠ '\x00') (hreplacement : ch ≠ '\uFFFD')
    {text : List Char} : ch ∈ nullReplaced text ↔ ch ∈ text := by
  unfold nullReplaced
  induction text with
  | nil => exact Iff.rfl
  | cons first text ih =>
    rw [List.map_cons, List.mem_cons, List.mem_cons, ih]
    by_cases hfirst : first = '\x00'
    · rw [if_pos hfirst, hfirst]
      simp [hnull, hreplacement]
    · rw [if_neg hfirst]

theorem null_notMem_nullReplaced (text : List Char) : '\x00' ∉ nullReplaced text := by
  intro h
  obtain ⟨ch, _, hch⟩ := List.mem_map.mp h
  split at hch
  · cases hch
  · next hne => exact hne hch

theorem nullReplaced_of_notMem {text : List Char} (h : '\x00' ∉ text) : nullReplaced text = text := by
  unfold nullReplaced
  induction text with
  | nil => rfl
  | cons ch text ih =>
    obtain ⟨hch, htext⟩ := not_or.mp (List.mem_cons.not.mp h)
    rw [List.map_cons, if_neg (Ne.symm hch), ih htext]

theorem zero_mem_utf16 {text : List Char} : 0 ∈ utf16 text ↔ '\x00' ∈ text := by
  have hunits (code : Nat) : 0 ∈ units code ↔ code = 0 := by
    unfold units
    split
    · rw [List.mem_singleton]
      exact eq_comm
    · simp only [List.mem_cons, List.not_mem_nil, or_false]
      omega
  induction text with
  | nil => simp
  | cons ch text ih =>
    have hch : ch.toNat = 0 ↔ '\x00' = ch := by
      constructor
      · intro h
        exact (Char.toNat_inj.mp h).symm
      · intro h
        rw [← h]
        rfl
    rw [utf16_cons, List.mem_append, List.mem_cons, hunits, hch]
    exact or_congr_right ih

/-! ## What an escaped text is read as -/

/-- An escaped text is read as the text, unless there is a line break in it. -/
theorem literal_escaped (text rest : List Char) :
    literal (escaped text ++ '\'' :: rest) =
      if '\n' ∈ text ∨ '\r' ∈ text then none else some (utf16 text, rest) := by
  unfold literal
  induction text with
  | nil => rfl
  | cons ch text ih =>
    rw [escaped_cons, List.append_assoc]
    by_cases hdelimiter : isDelimiter ch = true
    · have hsequence : ∀ tail, escapeSequence (ch :: tail) = some (1, units ch.toNat) := by
        intro tail
        rcases (Bool.or_eq_true _ _).mp hdelimiter with h | h
        · rw [eq_of_beq h]
          rfl
        · rw [eq_of_beq h]
          rfl
      have hbreak : ch ≠ '\n' ∧ ch ≠ '\r' := by
        constructor
        · intro h
          rw [h] at hdelimiter
          cases hdelimiter
        · intro h
          rw [h] at hdelimiter
          cases hdelimiter
      rw [if_pos hdelimiter, List.cons_append, List.cons_append, List.nil_append, literalFrom,
        if_neg (by decide), if_neg (by decide), if_pos rfl, hsequence]
      dsimp only
      rw [literalFrom, ih]
      simp only [List.mem_cons, hbreak.1.symm, hbreak.2.symm, false_or]
      split <;> rfl
    · have hplain : ch ≠ '\'' ∧ ch ≠ '\\' := by
        rw [isDelimiter, Bool.or_eq_true, beq_iff_eq, beq_iff_eq, not_or] at hdelimiter
        exact hdelimiter.symm
      rw [if_neg hdelimiter, List.cons_append, List.nil_append, literalFrom, if_neg hplain.1]
      by_cases hbreak : ch = '\n' ∨ ch = '\r'
      · have hmem : '\n' ∈ ch :: text ∨ '\r' ∈ ch :: text :=
          hbreak.imp (fun h => by rw [h]; exact List.mem_cons_self)
            (fun h => by rw [h]; exact List.mem_cons_self)
        rw [if_pos hbreak, if_pos hmem]
      · obtain ⟨hline, hreturn⟩ := not_or.mp hbreak
        rw [if_neg hbreak, if_neg hplain.2, ih]
        simp only [List.mem_cons, Ne.symm hline, Ne.symm hreturn, false_or]
        split <;> rfl

variable {refs : NamedReferences}

/-- In an attribute an escaped text is read as the text exactly if there is no line break, no
U+0000 and no reference in it. -/
theorem literal_decode_escaped_iff {text rest : List Char} :
    literal (refs.decode (escaped text) ++ '\'' :: rest) = some (utf16 text, rest) ↔
      '\n' ∉ text ∧ '\r' ∉ text ∧ '\x00' ∉ text ∧ refs.NoReference text := by
  constructor
  · intro h
    obtain ⟨body, hbody, _, hbounds⟩ := literalFrom_bounds h
    obtain rfl : refs.decode (escaped text) = body := List.append_cancel_right hbody
    have hdelimiters : (escaped text).countP isDelimiter ≤
        (refs.decode (escaped text)).countP isDelimiter := by
      refine countP_le_decodeFrom (fun ch hch => ?_) 0 (escaped text)
      rcases (Bool.or_eq_true _ _).mp hch with hch | hch
      · rw [eq_of_beq hch]
        decide
      · rw [eq_of_beq hch]
        decide
    rw [countP_escaped] at hdelimiters
    rw [List.drop_zero] at hbounds
    -- The delimiters of the text weigh as much as their backslashes add to its length.
    have hreference : refs.NoReference text := by
      refine noReference_escaped.mp (noReference_of_unitLength_le ?_)
      have hvalue : (utf16 text).length = unitLength text := rfl
      rw [unitLength_escaped]
      omega
    rw [decode_eq_nullReplaced (noReference_escaped.mpr hreference), nullReplaced_escaped,
      literal_escaped] at h
    split at h
    · cases h
    · next hbreak =>
      have hvalue : utf16 (nullReplaced text) = utf16 text := (Prod.mk.inj (Option.some.inj h)).1
      have hnull : '\x00' ∉ text := by
        rw [← zero_mem_utf16, ← hvalue, zero_mem_utf16]
        exact null_notMem_nullReplaced text
      rw [mem_nullReplaced (by decide) (by decide), mem_nullReplaced (by decide) (by decide), not_or] at hbreak
      exact ⟨hbreak.1, hbreak.2, hnull, hreference⟩
  · intro h
    obtain ⟨hline, hreturn, hnull, hreference⟩ := h
    rw [decode_eq_nullReplaced (noReference_escaped.mpr hreference), nullReplaced_escaped,
      nullReplaced_of_notMem hnull, literal_escaped, if_neg (not_or.mpr ⟨hline, hreturn⟩)]

end Markup
