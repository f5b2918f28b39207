import Mathlib

/-!
# Double-quoted attributes

The value of an attribute goes to the first quotation mark, and the character
references in it are decoded. A reference is numeric, or one of the names of a table;
a name without its semicolon is left alone before a letter, a digit or `=`.
-/

namespace Markup

set_option autoImplicit false

/-! ## Code units -/

/-- The UTF-16 code units of a code point. -/
def units (code : Nat) : List Nat :=
  if code < 0x10000 then [code]
  else [0xD800 + (code - 0x10000) / 0x400, 0xDC00 + (code - 0x10000) % 0x400]

def utf16 (text : List Char) : List Nat := text.flatMap fun ch => units ch.toNat

def unitLength (text : List Char) : Nat := (utf16 text).length

@[simp] theorem utf16_nil : utf16 [] = [] := rfl

@[simp] theorem utf16_cons (ch : Char) (rest : List Char) :
    utf16 (ch :: rest) = units ch.toNat ++ utf16 rest := rfl

@[simp] theorem unitLength_nil : unitLength [] = 0 := rfl

@[simp] theorem unitLength_cons (ch : Char) (rest : List Char) :
    unitLength (ch :: rest) = (units ch.toNat).length + unitLength rest := by
  simp [unitLength]

@[simp] theorem unitLength_append (text rest : List Char) :
    unitLength (text ++ rest) = unitLength text + unitLength rest := by
  simp [unitLength, utf16]

theorem units_length (code : Nat) : 1 ≤ (units code).length ∧ (units code).length ≤ 2 := by
  unfold units
  split <;> simp

theorem length_le_unitLength (text : List Char) : text.length ≤ unitLength text := by
  induction text with
  | nil => exact Nat.le_refl 0
  | cons ch rest ih =>
    have hch := units_length ch.toNat
    rw [List.length_cons, unitLength_cons]
    omega

/-! ## Numbers -/

def isHexDigit (ch : Char) : Bool :=
  ch.isDigit || ('a' ≤ ch && ch ≤ 'f') || ('A' ≤ ch && ch ≤ 'F')

def digitValue (ch : Char) : Nat :=
  if ch.isDigit then ch.toNat - 48 else if ch.toNat < 97 then ch.toNat - 55 else ch.toNat - 87

def numberOf (base : Nat) (digits : List Char) : Nat :=
  digits.foldl (fun number digit => number * base + digitValue digit) 0

/-! ## Character references -/

/-- The characters a reference consists of, or that decide about a name without semicolon. -/
def isWordChar (ch : Char) : Bool := ch.isAlphanum || ch == ';' || ch == '#' || ch == '='

/-- The names, each with its semicolon if it has to have one, and what they stand for. -/
structure NamedReferences where
  names : List (List Char × List Char)
  words : ∀ entry ∈ names, entry.1.all isWordChar = true
  shorter : ∀ entry ∈ names, unitLength entry.2 ≤ entry.1.length

/-- Numbers in the range of the C1 controls mean the characters of Windows-1252. -/
def windows1252 : List (Nat × Char) :=
  [(0x80, '€'), (0x82, '‚'), (0x83, 'ƒ'), (0x84, '„'), (0x85, '…'), (0x86, '†'), (0x87, '‡'),
   (0x88, 'ˆ'), (0x89, '‰'), (0x8A, 'Š'), (0x8B, '‹'), (0x8C, 'Œ'), (0x8E, 'Ž'), (0x91, '‘'),
   (0x92, '’'), (0x93, '“'), (0x94, '”'), (0x95, '•'), (0x96, '–'), (0x97, '—'), (0x98, '˜'),
   (0x99, '™'), (0x9A, 'š'), (0x9B, '›'), (0x9C, 'œ'), (0x9E, 'ž'), (0x9F, 'Ÿ')]

/-- What is no character becomes U+FFFD. -/
def numericChar (code : Nat) : Char :=
  if code = 0 ∨ ¬ code.isValidChar then '\uFFFD'
  else (windows1252.lookup code).getD (Char.ofNat code)

/-- A number behind its `marker` characters; the semicolon may be missing. -/
def numericReference (base marker : Nat) (isDigit : Char → Bool) (word : List Char) :
    Option (Nat × List Char) :=
  let digits := word.takeWhile isDigit
  if digits.isEmpty then none
  else
    let semicolon := if (word.drop digits.length).head? = some ';' then 1 else 0
    some (marker + (digits.length + semicolon), [numericChar (numberOf base digits)])

namespace NamedReferences

variable (refs : NamedReferences)

/-- The longest name that stands at the front. -/
def longest (word : List Char) : Option (List Char × List Char) :=
  (refs.names.filter fun entry => entry.1.isPrefixOf word).argmax fun entry => entry.1.length

def named (word : List Char) : Option (Nat × List Char) :=
  match refs.longest word with
  | none => none
  | some (name, expansion) =>
    if name.getLast? = some ';' then some (name.length, expansion)
    else
      match (word.drop name.length).head? with
      | some next => if next = '=' ∨ next.isAlphanum then none else some (name.length, expansion)
      | none => some (name.length, expansion)

/-- The reference behind an ampersand: how many characters it takes, and what it stands for. -/
def reference (text : List Char) : Option (Nat × List Char) :=
  match text.takeWhile isWordChar with
  | '#' :: 'x' :: word => numericReference 16 2 isHexDigit word
  | '#' :: 'X' :: word => numericReference 16 2 isHexDigit word
  | '#' :: word => numericReference 10 1 Char.isDigit word
  | word => refs.named word

/-- The text decoded; its first `skip` characters belong to a reference already. -/
def decodeFrom : Nat → List Char → List Char
  | _, [] => []
  | skip + 1, _ :: rest => decodeFrom skip rest
  | 0, ch :: rest =>
    if ch = '&' then
      match refs.reference rest with
      | some (taken, expansion) => expansion ++ decodeFrom taken rest
      | none => ch :: decodeFrom 0 rest
    else if ch = '\x00' then '\uFFFD' :: decodeFrom 0 rest
    else ch :: decodeFrom 0 rest

def decode (text : List Char) : List Char := refs.decodeFrom 0 text

end NamedReferences

/-- The raw value behind the opening quotation mark, and the markup behind the closing one. -/
def untilQuote : List Char → Option (List Char × List Char)
  | [] => none
  | ch :: rest =>
    if ch = '"' then some ([], rest)
    else (untilQuote rest).map fun parts => (ch :: parts.1, parts.2)

def NamedReferences.attributeValue (refs : NamedReferences) (text : List Char) :
    Option (List Char × List Char) :=
  (untilQuote text).map fun parts => (refs.decode parts.1, parts.2)

/-! ## Where the attribute ends -/

theorem untilQuote_append {raw : List Char} (h : '"' ∉ raw) (markup : List Char) :
    untilQuote (raw ++ '"' :: markup) = some (raw, markup) := by
  induction raw with
  | nil => rfl
  | cons ch rest ih =>
    have hch : ch ≠ '"' := fun hch => h (hch ▸ List.mem_cons_self)
    have hrest : '"' ∉ rest := fun hrest => h (List.mem_cons_of_mem ch hrest)
    rw [List.cons_append, untilQuote, if_neg hch, ih hrest]
    rfl

/-- A quotation mark inside of the value ends the attribute early. -/
theorem length_le_of_quote {raw : List Char} (h : '"' ∈ raw) {rest : List Char}
    {parts : List Char × List Char} (hparts : untilQuote (raw ++ rest) = some parts) :
    rest.length ≤ parts.2.length := by
  induction raw generalizing parts with
  | nil => cases h
  | cons ch raw ih =>
    rw [List.cons_append, untilQuote] at hparts
    split at hparts
    · obtain rfl := Option.some.inj hparts
      rw [List.length_append]
      omega
    · next hch =>
      obtain ⟨inner, hinner, rfl⟩ := Option.map_eq_some_iff.mp hparts
      have hlength : rest.length ≤ inner.2.length :=
        ih ((List.mem_cons.mp h).resolve_left (Ne.symm hch)) hinner
      exact hlength

/-! ## What a reference takes -/

theorem numericReference_bounds {base marker : Nat} {isDigit : Char → Bool} {word : List Char}
    {taken : Nat} {expansion : List Char}
    (h : numericReference base marker isDigit word = some (taken, expansion)) :
    marker < taken ∧ taken ≤ marker + word.length ∧ expansion.length = 1 := by
  unfold numericReference at h
  dsimp only at h
  have hword : (word.takeWhile isDigit).length +
      (word.drop (word.takeWhile isDigit).length).length = word.length := by
    have hdigits := (List.takeWhile_prefix isDigit (l := word)).length_le
    rw [List.length_drop]
    omega
  split at h
  · cases h
  · next hdigits =>
    obtain ⟨rfl, rfl⟩ := Prod.mk.inj (Option.some.inj h)
    have hpos : 0 < (word.takeWhile isDigit).length := by
      rw [List.length_pos_iff]
      simpa using hdigits
    refine ⟨by omega, ?_, rfl⟩
    split
    · next hhead =>
      have hrest : 0 < (word.drop (word.takeWhile isDigit).length).length := by
        rw [List.length_pos_iff]
        intro hnil
        rw [hnil] at hhead
        cases hhead
      omega
    · omega

variable {refs : NamedReferences}

theorem named_bounds {word : List Char} {taken : Nat} {expansion : List Char}
    (h : refs.named word = some (taken, expansion)) :
    taken ≤ word.length ∧ unitLength expansion ≤ taken := by
  unfold NamedReferences.named at h
  split at h
  · cases h
  · next name stands hlongest =>
    have hmem := List.mem_filter.mp (List.argmax_mem hlongest)
    have hlength : name.length ≤ word.length :=
      (List.isPrefixOf_iff_prefix.mp hmem.2).length_le
    have hshorter := refs.shorter _ hmem.1
    have hequal : (name.length, stands) = (taken, expansion) := by
      split at h
      · exact Option.some.inj h
      · split at h
        · split at h
          · cases h
          · exact Option.some.inj h
        · exact Option.some.inj h
    obtain ⟨rfl, rfl⟩ := Prod.mk.inj hequal
    exact ⟨hlength, hshorter⟩

/-- A reference takes word characters only, and what it stands for has not more units. -/
theorem reference_bounds {text : List Char} {taken : Nat} {expansion : List Char}
    (h : refs.reference text = some (taken, expansion)) :
    taken ≤ (text.takeWhile isWordChar).length ∧ unitLength expansion ≤ taken := by
  have hnumeric {base marker : Nat} {isDigit : Char → Bool} {word : List Char} (hmarker : 1 ≤ marker)
      (hreference : numericReference base marker isDigit word = some (taken, expansion)) :
      taken ≤ marker + word.length ∧ unitLength expansion ≤ taken := by
    obtain ⟨hlt, hle, hone⟩ := numericReference_bounds hreference
    obtain ⟨ch, rfl⟩ := List.length_eq_one_iff.mp hone
    have hch := units_length ch.toNat
    rw [unitLength_cons, unitLength_nil]
    exact ⟨hle, by omega⟩
  unfold NamedReferences.reference at h
  split at h
  · next word hword =>
    have hbounds := hnumeric (by omega) h
    rw [hword, List.length_cons, List.length_cons]
    omega
  · next word hword =>
    have hbounds := hnumeric (by omega) h
    rw [hword, List.length_cons, List.length_cons]
    omega
  · next word hword =>
    have hbounds := hnumeric (by omega) h
    rw [hword, List.length_cons]
    omega
  · next word _ _ _ =>
    exact named_bounds h

theorem takeWhile_append_cons {ch : Char} (hch : isWordChar ch = false) (text rest : List Char) :
    (text ++ ch :: rest).takeWhile isWordChar = text.takeWhile isWordChar := by
  induction text with
  | nil => simp [hch]
  | cons first text ih => simp only [List.cons_append, List.takeWhile_cons, ih]

theorem reference_congr {text text' : List Char}
    (h : text.takeWhile isWordChar = text'.takeWhile isWordChar) :
    refs.reference text = refs.reference text' := by
  unfold NamedReferences.reference
  rw [h]

/-! ## What decoding keeps -/

/-- Decoded text before a character that no reference takes. -/
theorem decodeFrom_append {ch : Char} (hword : isWordChar ch = false) (hamp : ch ≠ '&')
    (hnull : ch ≠ '\x00') (rest : List Char) {skip : Nat} {text : List Char} (hskip : skip ≤ text.length) :
    refs.decodeFrom skip (text ++ ch :: rest) = refs.decodeFrom skip text ++ ch :: refs.decode rest := by
  fun_induction refs.decodeFrom skip text with
  | case1 skip =>
    obtain rfl : skip = 0 := Nat.le_zero.mp hskip
    rw [List.nil_append, List.nil_append, NamedReferences.decodeFrom, if_neg hamp, if_neg hnull]
    rfl
  | case2 skip first text ih =>
    rw [List.cons_append, NamedReferences.decodeFrom, ih (Nat.le_of_succ_le_succ hskip)]
  | case3 text taken expansion href ih =>
    have htaken := (reference_bounds href).1
    have hle := (List.takeWhile_prefix isWordChar (l := text)).length_le
    have happend : refs.reference (text ++ ch :: rest) = some (taken, expansion) :=
      (reference_congr (takeWhile_append_cons hword text rest)).trans href
    rw [List.cons_append, NamedReferences.decodeFrom, if_pos rfl, happend]
    dsimp only
    rw [ih (by omega), List.append_assoc]
  | case4 text href ih =>
    have happend : refs.reference (text ++ ch :: rest) = none :=
      (reference_congr (takeWhile_append_cons hword text rest)).trans href
    rw [List.cons_append, NamedReferences.decodeFrom, if_pos rfl, happend]
    dsimp only
    rw [ih (Nat.zero_le _), List.cons_append]
  | case5 text hne ih =>
    rw [List.cons_append, NamedReferences.decodeFrom, if_neg hne, if_pos rfl, ih (Nat.zero_le _),
      List.cons_append]
  | case6 first text hne hfirst ih =>
    rw [List.cons_append, NamedReferences.decodeFrom, if_neg hne, if_neg hfirst, ih (Nat.zero_le _),
      List.cons_append]

theorem decode_append {ch : Char} (hword : isWordChar ch = false) (hamp : ch ≠ '&')
    (hnull : ch ≠ '\x00') (text rest : List Char) :
    refs.decode (text ++ ch :: rest) = refs.decode text ++ ch :: refs.decode rest :=
  decodeFrom_append hword hamp hnull rest (Nat.zero_le _)

/-- Characters that no reference takes do not get fewer. -/
theorem countP_le_decodeFrom {p : Char → Bool}
    (hp : ∀ ch, p ch = true → isWordChar ch = false ∧ ch ≠ '&' ∧ ch ≠ '\x00')
    (skip : Nat) (text : List Char) :
    (text.drop skip).countP p ≤ (refs.decodeFrom skip text).countP p := by
  fun_induction refs.decodeFrom skip text with
  | case1 skip => simp
  | case2 skip first text ih => exact ih
  | case3 text taken expansion href ih =>
    have hword : (text.take taken).countP p = 0 := by
      rw [List.countP_eq_zero]
      intro ch hch hpch
      have htake : text.take taken <+: text.takeWhile isWordChar :=
        List.prefix_of_prefix_length_le (List.take_prefix taken text)
          (List.takeWhile_prefix isWordChar) (by
            have hle := (reference_bounds href).1
            rw [List.length_take]
            omega)
      have hall := List.mem_takeWhile_imp (htake.mem hch)
      rw [(hp ch hpch).1] at hall
      cases hall
    have hamp : p '&' = false := Bool.eq_false_iff.mpr fun h => (hp '&' h).2.1 rfl
    have hsplit := congrArg (List.countP p) (List.take_append_drop taken text)
    rw [List.countP_append] at hsplit
    rw [List.drop_zero, List.countP_cons_of_neg (by simp [hamp]), List.countP_append]
    omega
  | case4 text href ih =>
    rw [List.drop_zero] at ih ⊢
    rw [List.countP_cons, List.countP_cons]
    omega
  | case5 text hne ih =>
    have hnull : p '\x00' = false := Bool.eq_false_iff.mpr fun h => (hp '\x00' h).2.2 rfl
    rw [List.drop_zero] at ih ⊢
    rw [List.countP_cons_of_neg (by simp [hnull]), List.countP_cons]
    omega
  | case6 first text hne hfirst ih =>
    rw [List.drop_zero] at ih ⊢
    rw [List.countP_cons, List.countP_cons]
    omega

/-! ## Text without references -/

/-- No ampersand starts a reference. -/
def NamedReferences.NoReference (refs : NamedReferences) : List Char → Prop
  | [] => True
  | ch :: rest => (ch = '&' → refs.reference rest = none) ∧ refs.NoReference rest

/-- The tokeniser replaces U+0000. -/
def nullReplaced (text : List Char) : List Char := text.map fun ch => if ch = '\x00' then '\uFFFD' else ch

theorem decode_eq_nullReplaced {text : List Char} (h : refs.NoReference text) :
    refs.decode text = nullReplaced text := by
  unfold NamedReferences.decode
  induction text with
  | nil => rfl
  | cons ch rest ih =>
    rw [NamedReferences.decodeFrom, ih h.2]
    by_cases hamp : ch = '&'
    · subst hamp
      rw [if_pos rfl, h.1 rfl]
      rfl
    · rw [if_neg hamp, nullReplaced, nullReplaced, List.map_cons]
      split <;> rfl

/-- The reference `taken` from behind an ampersand, with the ampersand, gets shorter. -/
theorem unitLength_expansion_lt {text expansion decoded : List Char} {taken : Nat}
    (href : refs.reference text = some (taken, expansion))
    (hdecoded : unitLength decoded ≤ unitLength (text.drop taken)) :
    unitLength (expansion ++ decoded) < unitLength ('&' :: text) := by
  obtain ⟨htaken, hexpansion⟩ := reference_bounds href
  have hle := (List.takeWhile_prefix isWordChar (l := text)).length_le
  have htake := length_le_unitLength (text.take taken)
  have hsplit := congrArg unitLength (List.take_append_drop taken text)
  have hamp := (units_length '&'.toNat).1
  rw [List.length_take] at htake
  rw [unitLength_append] at hsplit ⊢
  rw [unitLength_cons]
  omega

theorem unitLength_decodeFrom_le (skip : Nat) (text : List Char) :
    unitLength (refs.decodeFrom skip text) ≤ unitLength (text.drop skip) := by
  fun_induction refs.decodeFrom skip text with
  | case1 skip => simp
  | case2 skip first text ih => exact ih
  | case3 text taken expansion href ih => exact Nat.le_of_lt (unitLength_expansion_lt href ih)
  | case4 text href ih =>
    rw [List.drop_zero] at ih ⊢
    rw [unitLength_cons, unitLength_cons]
    omega
  | case5 text hne ih =>
    have hunits : (units '\uFFFD'.toNat).length = (units '\x00'.toNat).length := by decide
    rw [List.drop_zero] at ih ⊢
    rw [unitLength_cons, unitLength_cons]
    omega
  | case6 first text hne hfirst ih =>
    rw [List.drop_zero] at ih ⊢
    rw [unitLength_cons, unitLength_cons]
    omega

/-- Decoding a reference makes the text shorter. -/
theorem noReference_of_unitLength_le {text : List Char}
    (h : unitLength text ≤ unitLength (refs.decode text)) : refs.NoReference text := by
  unfold NamedReferences.decode at h
  induction text with
  | nil => exact True.intro
  | cons ch rest ih =>
    have hle : unitLength (refs.decodeFrom 0 rest) ≤ unitLength rest :=
      unitLength_decodeFrom_le 0 rest
    rw [NamedReferences.decodeFrom] at h
    by_cases hamp : ch = '&'
    · subst hamp
      rw [if_pos rfl] at h
      cases href : refs.reference rest with
      | none =>
        rw [href] at h
        dsimp only at h
        rw [unitLength_cons, unitLength_cons] at h
        exact ⟨fun _ => href, ih (by omega)⟩
      | some found =>
        obtain ⟨taken, expansion⟩ := found
        rw [href] at h
        have hdecoded : unitLength (refs.decodeFrom taken rest) ≤ unitLength (rest.drop taken) :=
          unitLength_decodeFrom_le taken rest
        exact absurd (unitLength_expansion_lt href hdecoded) (Nat.not_lt.mpr h)
    · rw [if_neg hamp] at h
      have hrest : unitLength rest ≤ unitLength (refs.decodeFrom 0 rest) := by
        split at h
        · next hnull =>
          have hunits : (units '\uFFFD'.toNat).length = (units '\x00'.toNat).length := by decide
          rw [unitLength_cons, unitLength_cons, hnull] at h
          omega
        · rw [unitLength_cons, unitLength_cons] at h
          omega
      exact ⟨fun hch => absurd hch hamp, ih hrest⟩

end Markup
