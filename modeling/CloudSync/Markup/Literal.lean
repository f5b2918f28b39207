import CloudSync.Markup.Attribute

/-!
# Single-quoted literals

A literal of a script goes to the first apostrophe that is not escaped, and has no raw
line feed or carriage return in it. Its value is a list of UTF-16 code units.
-/

namespace Markup

set_option autoImplicit false

/-! ## Escape sequences -/

def isLineTerminator (ch : Char) : Bool :=
  ch == '\n' || ch == '\r' || ch == '\u2028' || ch == '\u2029'

def isOctalDigit (ch : Char) : Bool := '0' ≤ ch && ch ≤ '7'

/-- Most characters behind a backslash stand for themselves. -/
def singleEscape (ch : Char) : Char :=
  if ch = 'b' then '\x08' else if ch = 't' then '\t' else if ch = 'n' then '\n'
  else if ch = 'v' then '\x0b' else if ch = 'f' then '\x0c' else if ch = 'r' then '\r'
  else ch

/-- A letter and exactly `count` digits. -/
def fixedEscape (count : Nat) (rest : List Char) : Option (Nat × List Nat) :=
  let digits := rest.take count
  if digits.length = count ∧ digits.all isHexDigit then some (1 + count, [numberOf 16 digits])
  else none

/-- Any number of digits, behind `u` and a brace. -/
def braceEscape (rest : List Char) : Option (Nat × List Nat) :=
  let digits := rest.takeWhile isHexDigit
  if digits.isEmpty then none
  else if (rest.drop digits.length).head? = some '}' ∧ numberOf 16 digits ≤ 0x10FFFF then
    some (2 + (digits.length + 1), units (numberOf 16 digits))
  else none

/-- Up to three octal digits that make a number below 256. -/
def octalEscape (first : Char) (rest : List Char) : Option (Nat × List Nat) :=
  let digits := first :: (rest.take (if first < '4' then 2 else 1)).takeWhile isOctalDigit
  some (digits.length, [numberOf 8 digits])

/-- The escape sequence behind a backslash: how many characters it takes, and its code units. -/
def escapeSequence : List Char → Option (Nat × List Nat)
  | [] => none
  | 'x' :: rest => fixedEscape 2 rest
  | 'u' :: '{' :: rest => braceEscape rest
  | 'u' :: rest => fixedEscape 4 rest
  | '\r' :: '\n' :: _ => some (2, [])
  | ch :: rest =>
    if isLineTerminator ch then some (1, [])
    else if isOctalDigit ch then octalEscape ch rest
    else some (1, units (singleEscape ch).toNat)

/-! ## Literals -/

/-- The value and what follows the closing apostrophe; the first `skip` characters belong to an
escape sequence already. -/
def literalFrom : Nat → List Char → Option (List Nat × List Char)
  | _, [] => none
  | skip + 1, _ :: rest => literalFrom skip rest
  | 0, ch :: rest =>
    if ch = '\'' then some ([], rest)
    else if ch = '\n' ∨ ch = '\r' then none
    else if ch = '\\' then
      match escapeSequence rest with
      | some (taken, value) => (literalFrom taken rest).map fun parts => (value ++ parts.1, parts.2)
      | none => none
    else (literalFrom 0 rest).map fun parts => (units ch.toNat ++ parts.1, parts.2)

def literal (text : List Char) : Option (List Nat × List Char) := literalFrom 0 text

/-- The characters that mean something in a literal. -/
def isDelimiter (ch : Char) : Bool := ch == '\\' || ch == '\''

/-! ## What a literal takes -/

theorem countP_le_unitLength (p : Char → Bool) (text : List Char) :
    text.countP p ≤ unitLength text :=
  List.countP_le_length.trans (length_le_unitLength text)

/-- An escape sequence of `taken` characters that makes at most half as many code units. -/
theorem spent_of_length_le {text : List Char} {taken : Nat} {value : List Nat}
    (htaken : taken ≤ text.length) (hvalue : 2 * value.length ≤ taken + 1) :
    taken ≤ text.length ∧ 2 * value.length + (text.take taken).countP isDelimiter ≤
      2 * unitLength (text.take taken) + 1 := by
  have hcount := countP_le_unitLength isDelimiter (text.take taken)
  have hlength := length_le_unitLength (text.take taken)
  rw [List.length_take] at hlength
  omega

theorem fixedEscape_bounds {count taken : Nat} {rest : List Char} {value : List Nat}
    (h : fixedEscape count rest = some (taken, value)) :
    taken = 1 + count ∧ count ≤ rest.length ∧ value.length = 1 := by
  unfold fixedEscape at h
  dsimp only at h
  split at h
  · next hdigits =>
    obtain ⟨rfl, rfl⟩ := Prod.mk.inj (Option.some.inj h)
    have hlength := hdigits.1
    rw [List.length_take] at hlength
    exact ⟨rfl, by omega, rfl⟩
  · cases h

theorem braceEscape_bounds {taken : Nat} {rest : List Char} {value : List Nat}
    (h : braceEscape rest = some (taken, value)) :
    4 ≤ taken ∧ taken ≤ 2 + rest.length ∧ value.length ≤ 2 := by
  unfold braceEscape at h
  dsimp only at h
  split at h
  · cases h
  · next hdigits =>
    split at h
    · next hbrace =>
      obtain ⟨rfl, rfl⟩ := Prod.mk.inj (Option.some.inj h)
      have hpos : 0 < (rest.takeWhile isHexDigit).length := by
        rw [List.length_pos_iff]
        simpa using hdigits
      have hrest : 0 < (rest.drop (rest.takeWhile isHexDigit).length).length := by
        rw [List.length_pos_iff]
        intro hnil
        rw [hnil] at hbrace
        cases hbrace.1
      rw [List.length_drop] at hrest
      exact ⟨by omega, by omega, (units_length _).2⟩
    · cases h

theorem octalEscape_bounds {first : Char} {taken : Nat} {rest : List Char} {value : List Nat}
    (h : octalEscape first rest = some (taken, value)) :
    1 ≤ taken ∧ taken ≤ 1 + rest.length ∧ value.length = 1 := by
  unfold octalEscape at h
  dsimp only at h
  obtain ⟨rfl, rfl⟩ := Prod.mk.inj (Option.some.inj h)
  have hdigits := (List.takeWhile_prefix isOctalDigit
    (l := rest.take (if first < '4' then 2 else 1))).length_le
  rw [List.length_take] at hdigits
  rw [List.length_cons]
  exact ⟨by omega, by omega, rfl⟩

theorem singleEscape_length_le (ch : Char) :
    (units (singleEscape ch).toNat).length ≤ (units ch.toNat).length := by
  have hch := (units_length ch.toNat).1
  unfold singleEscape
  (repeat' split) <;> first | exact hch | exact Nat.le_refl _

/-- An escape sequence makes fewer code units than it has characters with its backslash, and the
more so the more delimiters are in it. -/
theorem escapeSequence_bounds {text : List Char} {taken : Nat} {value : List Nat}
    (h : escapeSequence text = some (taken, value)) :
    taken ≤ text.length ∧ 2 * value.length + (text.take taken).countP isDelimiter ≤
      2 * unitLength (text.take taken) + 1 := by
  unfold escapeSequence at h
  split at h
  · cases h
  · next rest =>
    obtain ⟨rfl, hrest, hvalue⟩ := fixedEscape_bounds h
    exact spent_of_length_le (by rw [List.length_cons]; omega) (by omega)
  · next rest =>
    obtain ⟨hfour, htaken, hvalue⟩ := braceEscape_bounds h
    exact spent_of_length_le (by rw [List.length_cons, List.length_cons]; omega) (by omega)
  · next rest _ =>
    obtain ⟨rfl, hrest, hvalue⟩ := fixedEscape_bounds h
    exact spent_of_length_le (by rw [List.length_cons]; omega) (by omega)
  · next rest =>
    obtain ⟨rfl, rfl⟩ := Prod.mk.inj (Option.some.inj h)
    exact spent_of_length_le (by rw [List.length_cons, List.length_cons]; omega) (Nat.zero_le _)
  · next ch rest _ _ _ _ =>
    split at h
    · obtain ⟨rfl, rfl⟩ := Prod.mk.inj (Option.some.inj h)
      exact spent_of_length_le (by rw [List.length_cons]; omega) (Nat.zero_le _)
    · split at h
      · obtain ⟨hone, htaken, hvalue⟩ := octalEscape_bounds h
        exact spent_of_length_le (by rw [List.length_cons]; omega) (by omega)
      · obtain ⟨rfl, rfl⟩ := Prod.mk.inj (Option.some.inj h)
        have hlength := singleEscape_length_le ch
        have hcount : [ch].countP isDelimiter ≤ 1 := List.countP_le_length
        rw [List.take_succ_cons, List.take_zero, unitLength_cons, unitLength_nil]
        exact ⟨by rw [List.length_cons]; omega, by omega⟩

/-- The body of a literal has half as many code units as it spends on its value and its
delimiters. -/
theorem literalFrom_bounds {skip : Nat} {text rest : List Char} {value : List Nat}
    (h : literalFrom skip text = some (value, rest)) :
    ∃ body, text = body ++ '\'' :: rest ∧ skip ≤ body.length ∧
      2 * value.length + (body.drop skip).countP isDelimiter ≤ 2 * unitLength (body.drop skip) := by
  induction text generalizing skip value with
  | nil => cases skip <;> cases h
  | cons ch text ih =>
    cases skip with
    | succ skip =>
      obtain ⟨body, rfl, hskip, hbounds⟩ := ih h
      exact ⟨ch :: body, rfl, Nat.succ_le_succ hskip, hbounds⟩
    | zero =>
      rw [literalFrom] at h
      split at h
      · next hch =>
        obtain ⟨rfl, rfl⟩ := Prod.mk.inj (Option.some.inj h)
        exact ⟨[], by rw [hch, List.nil_append], Nat.le_refl 0, Nat.le_refl 0⟩
      · next hquote =>
        split at h
        · cases h
        · split at h
          · next hbackslash =>
            split at h
            · next taken produced hescape =>
              obtain ⟨⟨inner, rest'⟩, hinner, hvalue⟩ := Option.map_eq_some_iff.mp h
              obtain ⟨rfl, rfl⟩ := Prod.mk.inj hvalue
              obtain ⟨body, rfl, htaken, hbounds⟩ := ih hinner
              have hsequence := (escapeSequence_bounds hescape).2
              rw [List.take_append_of_le_length htaken] at hsequence
              have hcount := congrArg (List.countP isDelimiter) (List.take_append_drop taken body)
              have hunits := congrArg unitLength (List.take_append_drop taken body)
              have hone := (units_length ch.toNat).1
              have hdelimiter : isDelimiter ch = true := by rw [hbackslash]; rfl
              rw [List.countP_append] at hcount
              rw [unitLength_append] at hunits
              refine ⟨ch :: body, rfl, Nat.zero_le _, ?_⟩
              rw [List.drop_zero, List.countP_cons_of_pos hdelimiter, unitLength_cons, List.length_append]
              dsimp only
              omega
            · cases h
          · next hbackslash =>
            obtain ⟨⟨inner, rest'⟩, hinner, hvalue⟩ := Option.map_eq_some_iff.mp h
            obtain ⟨rfl, rfl⟩ := Prod.mk.inj hvalue
            obtain ⟨body, rfl, _, hbounds⟩ := ih hinner
            have hdelimiter : ¬ isDelimiter ch = true := by
              rw [isDelimiter, Bool.or_eq_true, beq_iff_eq, beq_iff_eq]
              exact fun hch => hch.elim hbackslash hquote
            refine ⟨ch :: body, rfl, Nat.zero_le _, ?_⟩
            rw [List.drop_zero] at hbounds ⊢
            rw [List.countP_cons_of_neg hdelimiter, unitLength_cons, List.length_append]
            dsimp only
            omega

end Markup
