import CloudSync.Rust.Text

/-!
# The order of texts is the order of their bytes

UTF-8 keeps the order of characters, so comparing texts by characters and
comparing them by bytes are the same.
-/

namespace Rust

set_option autoImplicit false

/-- The bytes of a character as numbers. -/
theorem utf8EncodeChar_toNat (ch : Char) :
    (String.utf8EncodeChar ch).map UInt8.toNat =
      if ch.toNat ≤ 0x7f then [ch.toNat]
      else if ch.toNat ≤ 0x7ff then [ch.toNat / 64 % 32 + 0xc0, ch.toNat % 64 + 0x80]
      else if ch.toNat ≤ 0xffff then
        [ch.toNat / 4096 % 16 + 0xe0, ch.toNat / 64 % 64 + 0x80, ch.toNat % 64 + 0x80]
      else
        [ch.toNat / 262144 % 8 + 0xf0, ch.toNat / 4096 % 64 + 0x80, ch.toNat / 64 % 64 + 0x80,
          ch.toNat % 64 + 0x80] := by
  have hval : ch.val.toNat = ch.toNat := rfl
  unfold String.utf8EncodeChar
  simp only [hval]
  split
  · simp
    omega
  · split
    · simp
      omega
    · split
      · simp
        omega
      · simp
        omega

theorem lt_of_map_toNat_lt {l l' : Bytes} (h : l.map UInt8.toNat < l'.map UInt8.toNat) : l < l' := by
  induction l generalizing l' with
  | nil =>
    cases l' with
    | nil => simp at h
    | cons b l' => exact List.nil_lt_cons b l'
  | cons a l ih =>
    cases l' with
    | nil => simp at h
    | cons b l' =>
      rw [List.map_cons, List.map_cons, List.cons_lt_cons_iff] at h
      rw [List.cons_lt_cons_iff]
      rcases h with hlt | ⟨heq, hrest⟩
      · exact .inl (UInt8.lt_iff_toNat_lt.mpr hlt)
      · exact .inr ⟨UInt8.toNat_inj.mp heq, ih hrest⟩

/-- A smaller character has smaller bytes, whatever follows. -/
theorem utf8EncodeChar_append_lt {ch ch' : Char} (h : ch < ch') (bytes bytes' : Bytes) :
    String.utf8EncodeChar ch ++ bytes < String.utf8EncodeChar ch' ++ bytes' := by
  have hlt : ch.toNat < ch'.toNat := h
  have hmax : ch'.toNat < 0x110000 := by
    have hvalid := ch'.valid
    have hval : ch'.val.toNat = ch'.toNat := rfl
    rcases hvalid with hvalid | hvalid <;> omega
  -- The number of a character in digits to the base 64, as the continuation bytes carry them.
  have hdigits (n : Nat) (hn : n < 0x110000) :
      n = n / 262144 % 8 * 262144 + n / 4096 % 64 * 4096 + n / 64 % 64 * 64 + n % 64 ∧
        n / 4096 % 64 < 64 ∧ n / 64 % 64 < 64 ∧ n % 64 < 64 := by omega
  have hch := hdigits ch.toNat (by omega)
  have hch' := hdigits ch'.toNat hmax
  apply lt_of_map_toNat_lt
  rw [List.map_append, List.map_append, utf8EncodeChar_toNat, utf8EncodeChar_toNat]
  split_ifs <;> simp only [List.cons_append, List.nil_append, List.cons_lt_cons_iff]
  case neg =>
    generalize ch.toNat / 262144 % 8 = x at *
    generalize ch.toNat / 4096 % 64 = y at *
    generalize ch.toNat / 64 % 64 = z at *
    generalize ch.toNat % 64 = w at *
    generalize ch'.toNat / 262144 % 8 = x' at *
    generalize ch'.toNat / 4096 % 64 = y' at *
    generalize ch'.toNat / 64 % 64 = z' at *
    generalize ch'.toNat % 64 = w' at *
    omega
  all_goals omega

theorem flatMap_utf8EncodeChar_lt {l l' : List Char} (h : l < l') :
    l.flatMap String.utf8EncodeChar < l'.flatMap String.utf8EncodeChar := by
  induction l generalizing l' with
  | nil =>
    cases l' with
    | nil => simp at h
    | cons ch l' =>
      rw [List.flatMap_cons, List.flatMap_nil]
      cases hbytes : String.utf8EncodeChar ch with
      | nil =>
        have hlength := String.length_utf8EncodeChar ch
        have hpos := Char.utf8Size_pos ch
        rw [hbytes, List.length_nil] at hlength
        omega
      | cons b bytes => exact List.nil_lt_cons _ _
  | cons ch l ih =>
    cases l' with
    | nil => simp at h
    | cons ch' l' =>
      rw [List.flatMap_cons, List.flatMap_cons]
      rcases List.cons_lt_cons_iff.mp h with hlt | ⟨rfl, hrest⟩
      · exact utf8EncodeChar_append_lt hlt _ _
      · exact List.append_left_lt (ih hrest)

/-- `str` is ordered by its bytes. -/
theorem asBytes_lt_asBytes_iff {s t : String} : asBytes s < asBytes t ↔ s < t := by
  have hmono {s t : String} (h : s < t) : asBytes s < asBytes t := by
    rw [asBytes_eq, asBytes_eq]
    exact flatMap_utf8EncodeChar_lt (String.lt_iff_toList_lt.mp h)
  constructor
  · intro h
    rcases lt_trichotomy s t with hlt | rfl | hgt
    · exact hlt
    · exact absurd h (List.lt_irrefl _)
    · exact absurd h (List.lt_asymm (hmono hgt))
  · exact hmono

end Rust
