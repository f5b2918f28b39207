import Mathlib

/-!
# Text as Rust's standard library treats it

A `String` is a sequence of Unicode scalar values, its bytes are UTF-8. Lean's
own functions are used where they agree with Rust's; trimming and splitting do
not, so they are spelled out here on character lists.
-/

namespace Rust

set_option autoImplicit false

abbrev Bytes := List UInt8

/-- `str::as_bytes`. -/
def asBytes (s : String) : Bytes := s.toByteArray.data.toList

/-- `str::len` counts bytes. -/
def len (s : String) : Nat := s.utf8ByteSize

/-- `String::from_utf8`. -/
def fromUtf8 (bytes : Bytes) : Option String := String.fromUTF8? ⟨bytes.toArray⟩

/-- `str::chars`. ASCII text is read off its bytes. -/
def chars (s : String) : List Char :=
  if (asBytes s).all (· < 128) then (asBytes s).map fun b => Char.ofNat b.toNat else s.toList

theorem asBytes_eq (s : String) : asBytes s = s.toList.flatMap String.utf8EncodeChar := by
  rw [asBytes, ← String.utf8Encode_toList, List.utf8Encode, List.toList_data_toByteArray]

theorem continuation_ge (b : UInt8) : 128 ≤ b &&& 0x3f ||| 0x80 := by
  revert b
  decide +kernel

/-- A character is encoded as its own number, or the last byte is not ASCII. -/
theorem utf8EncodeChar_cases (ch : Char) :
    (∃ b : UInt8, String.utf8EncodeChar ch = [b] ∧ Char.ofNat b.toNat = ch) ∨
      ∃ b ∈ String.utf8EncodeChar ch, 128 ≤ b := by
  have hlast := continuation_ge ch.val.toUInt8
  rcases ch.utf8Size_eq with h | h | h | h
  · refine .inl ⟨ch.val.toUInt8, String.utf8EncodeChar_eq_singleton h, ?_⟩
    have hle : ch.val.toNat ≤ 127 := UInt32.le_iff_toNat_le.mp (Char.utf8Size_eq_one_iff.mp h)
    have hval : ch.val.toUInt8.toNat = ch.toNat := by
      rw [UInt32.toNat_toUInt8]
      exact Nat.mod_eq_of_lt (by omega)
    rw [hval, Char.ofNat_toNat]
  · exact .inr ⟨_, by rw [String.utf8EncodeChar_eq_cons_cons h]; simp, hlast⟩
  · exact .inr ⟨_, by rw [String.utf8EncodeChar_eq_cons_cons_cons h]; simp, hlast⟩
  · exact .inr ⟨_, by rw [String.utf8EncodeChar_eq_cons_cons_cons_cons h]; simp, hlast⟩

theorem map_of_ascii {l : List Char}
    (h : (l.flatMap String.utf8EncodeChar).all (· < 128)) :
    (l.flatMap String.utf8EncodeChar).map (fun b => Char.ofNat b.toNat) = l := by
  induction l with
  | nil => rfl
  | cons ch l ih =>
    rw [List.flatMap_cons, List.all_append, Bool.and_eq_true] at h
    rw [List.flatMap_cons, List.map_append, ih h.2]
    rcases utf8EncodeChar_cases ch with ⟨b, hb, hch⟩ | ⟨b, hb, hge⟩
    · rw [hb, ← hch]
      rfl
    · have hlt := List.all_eq_true.mp h.1 b hb
      exact absurd hge (by simpa using hlt)

@[simp] theorem chars_eq (s : String) : chars s = s.toList := by
  unfold chars
  split
  · rename_i h
    rw [asBytes_eq] at h ⊢
    exact map_of_ascii h
  · rfl

/-- `char::is_whitespace`, the Unicode property White_Space. -/
def isWhitespace (c : Char) : Bool :=
  let n := c.toNat
  (9 ≤ n && n ≤ 13) || n == 0x20 || n == 0x85 || n == 0xA0 || n == 0x1680 ||
    (0x2000 ≤ n && n ≤ 0x200A) || n == 0x2028 || n == 0x2029 || n == 0x202F || n == 0x205F ||
    n == 0x3000

/-- `char::is_control`, the Unicode category Cc. -/
def isControl (c : Char) : Bool := c.toNat ≤ 0x1F || (0x7F ≤ c.toNat && c.toNat ≤ 0x9F)

/-- `char::is_ascii_alphanumeric`. -/
def isAsciiAlphanumeric (c : Char) : Bool := c.isAlphanum

def trimChars (l : List Char) : List Char :=
  ((l.dropWhile isWhitespace).reverse.dropWhile isWhitespace).reverse

def trim (s : String) : String := String.ofList (trimChars (chars s))

def startsWith (s pre : String) : Bool := (chars pre).isPrefixOf (chars s)

def endsWith (s suf : String) : Bool := (chars suf).isSuffixOf (chars s)

/-- What is left of `s` behind the first `n` characters. -/
def dropChars (s : String) (n : Nat) : String := String.ofList ((chars s).drop n)

def stripPrefix (s pre : String) : Option String :=
  if startsWith s pre then some (dropChars s pre.length) else none

def stripSuffix (s suf : String) : Option String :=
  if endsWith s suf then some (String.ofList ((chars s).take (s.length - suf.length))) else none

def splitOnceChars (c : Char) (l : List Char) : Option (List Char × List Char) :=
  match l.span (· ≠ c) with
  | (_, []) => none
  | (before, _ :: after) => some (before, after)

/-- `str::split_once` at a single character. -/
def splitOnce (s : String) (c : Char) : Option (String × String) :=
  (splitOnceChars c (chars s)).map fun parts => (String.ofList parts.1, String.ofList parts.2)

def splitChars (c : Char) : List Char → List (List Char)
  | [] => [[]]
  | x :: xs =>
    if x = c then [] :: splitChars c xs
    else match splitChars c xs with
      | [] => [[x]]
      | part :: parts => (x :: part) :: parts

/-- `str::split` at a single character, never empty. -/
def split (s : String) (c : Char) : List String := (splitChars c (chars s)).map String.ofList

def toAsciiLowercase (s : String) : String := String.ofList ((chars s).map Char.toLower)

def u64Max : Nat := 2 ^ 64 - 1

/-- `u64::saturating_add`. -/
def saturatingAdd (a b : Nat) : Nat := min (a + b) u64Max

@[simp] theorem startsWith_iff {s pre : String} : startsWith s pre ↔ pre.toList <+: s.toList := by
  simp [startsWith]

@[simp] theorem toList_dropChars (s : String) (n : Nat) :
    (dropChars s n).toList = s.toList.drop n := by
  simp [dropChars]

theorem dropChars_append (pre s : String) : dropChars (pre ++ s) pre.length = s := by
  apply String.toList_injective
  rw [toList_dropChars, String.toList_append, ← String.length_toList, List.drop_left]

theorem startsWith_append (pre s : String) : startsWith (pre ++ s) pre := by
  simp [String.toList_append]

theorem le_saturatingAdd {a : Nat} (ha : a ≤ u64Max) (b : Nat) : a ≤ saturatingAdd a b := by
  unfold saturatingAdd
  omega

/-! ## Separators -/

theorem append_cons_inj_of_notMem {α : Type} {a : α} {l l' r r' : List α} (hl : a ∉ l) (hl' : a ∉ l')
    (h : l ++ a :: r = l' ++ a :: r') : l = l' ∧ r = r' := by
  induction l generalizing l' with
  | nil =>
    cases l' with
    | nil => exact ⟨rfl, (List.cons.inj h).2⟩
    | cons b l' => exact absurd (List.cons.inj h).1 (List.ne_of_not_mem_cons hl')
  | cons b l ih =>
    cases l' with
    | nil => exact absurd (List.cons.inj h).1.symm (List.ne_of_not_mem_cons hl)
    | cons b' l' =>
      obtain ⟨rfl, htail⟩ := List.cons.inj h
      obtain ⟨rfl, rfl⟩ := ih (List.not_mem_of_not_mem_cons hl) (List.not_mem_of_not_mem_cons hl') htail
      exact ⟨rfl, rfl⟩

/-- A separator `a :: w` behind a list without `a`: where `l` and a separator begin the whole,
`l` ends at the first separator or at a later one. -/
theorem eq_or_of_separated_prefix {α : Type} {a : α} {w l m p : List α} (hw : a ∉ w) (hm : a ∉ m)
    (h : l ++ a :: w <+: m ++ (a :: w ++ p)) :
    l = m ∨ ∃ q rest, l = m ++ (a :: w ++ q) ∧ p = q ++ (a :: w ++ rest) := by
  obtain ⟨t, ht⟩ := h
  rw [List.append_assoc] at ht
  rcases List.append_eq_append_iff.mp ht with ⟨b, hb, hsep⟩ | ⟨b, hb, hsep⟩
  · cases b with
    | nil => exact .inl (by simpa using hb.symm)
    | cons x b =>
      obtain rfl : a = x := (List.cons.inj hsep).1
      exact absurd (by simp [hb]) hm
  · rcases List.append_eq_append_iff.mp hsep with ⟨q, hq, hrest⟩ | ⟨d, hd, hrest⟩
    · exact .inr ⟨q, t, hq ▸ hb, hrest⟩
    · -- `l` ends inside of the separator, at its start or at its end.
      cases b with
      | nil => exact .inl (by simpa using hb)
      | cons x b =>
        obtain ⟨rfl, rfl⟩ := List.cons.inj hd
        cases d with
        | nil => exact .inr ⟨[], t, by simpa using hb, by simpa using hrest.symm⟩
        | cons y d =>
          obtain rfl : a = y := (List.cons.inj hrest).1
          exact absurd (by simp) hw

/-! ## Prefixes and the order of texts -/

/-- Between a text and one that starts with it, all texts start with it. -/
theorem prefix_of_between {α : Type} [LinearOrder α] {p a b : List α} (hpa : ¬ a < p) (hab : ¬ b < a)
    (hb : p <+: b) : p <+: a := by
  induction p generalizing a b with
  | nil => exact List.nil_prefix
  | cons x p ih =>
    obtain ⟨t, rfl⟩ := hb
    cases a with
    | nil => exact absurd (List.nil_lt_cons x p) hpa
    | cons y a =>
      rw [List.cons_lt_cons_iff] at hpa
      rw [List.cons_append, List.cons_lt_cons_iff] at hab
      have hyx : ¬ y < x := fun h => hpa (.inl h)
      have hxy : ¬ x < y := fun h => hab (.inl h)
      obtain rfl : y = x := le_antisymm (not_lt.mp hxy) (not_lt.mp hyx)
      have htail := ih (fun h => hpa (.inr ⟨rfl, h⟩)) (fun h => hab (.inr ⟨rfl, h⟩))
        (List.prefix_append p t)
      exact List.cons_prefix_cons.mpr ⟨rfl, htail⟩

theorem startsWith_of_between {pre s t : String} (hs : pre ≤ s) (hst : s ≤ t)
    (ht : startsWith t pre = true) : startsWith s pre = true := by
  rw [startsWith_iff] at ht ⊢
  exact prefix_of_between (fun h => not_lt_of_ge hs (String.lt_iff_toList_lt.mpr h))
    (fun h => not_lt_of_ge hst (String.lt_iff_toList_lt.mpr h)) ht

theorem not_append_lt {α : Type} [LinearOrder α] (l t : List α) : ¬ l ++ t < l := by
  induction l with
  | nil => simp
  | cons x l ih => simpa [List.cons_lt_cons_iff] using ih

theorem le_of_startsWith {pre s : String} (h : startsWith s pre = true) : pre ≤ s := by
  rw [startsWith_iff] at h
  obtain ⟨t, ht⟩ := h
  refine not_lt.mp fun hlt => ?_
  rw [String.lt_iff_toList_lt, ← ht] at hlt
  exact not_append_lt _ _ hlt

end Rust
