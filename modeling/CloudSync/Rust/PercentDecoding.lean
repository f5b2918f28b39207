import CloudSync.Rust.Text

/-!
# Percent-encoding

`percentDecode` replaces every `%` that two hexadecimal digits follow and leaves
all other bytes alone. It is the identity exactly on the texts without such an
escape, so decoding once too often is visible exactly on the others.
-/

namespace Rust

set_option autoImplicit false

def hexDigit (b : UInt8) : Option UInt8 :=
  if 0x30 ≤ b ∧ b ≤ 0x39 then some (b - 0x30)
  else if 0x41 ≤ b ∧ b ≤ 0x46 then some (b - 0x41 + 10)
  else if 0x61 ≤ b ∧ b ≤ 0x66 then some (b - 0x61 + 10)
  else none

def escape (b high low : UInt8) : Option UInt8 :=
  if b = 0x25 then (hexDigit high).bind fun x => (hexDigit low).map fun y => x * 16 + y else none

def percentDecode : Bytes → Bytes
  | b :: high :: low :: rest =>
    match escape b high low with
    | some c => c :: percentDecode rest
    | none => b :: percentDecode (high :: low :: rest)
  | bytes => bytes

def hasEscape : Bytes → Bool
  | b :: high :: low :: rest => (escape b high low).isSome || hasEscape (high :: low :: rest)
  | _ => false

/-- `urlencoding::decode`. -/
def urlDecode (s : String) : Option String := fromUtf8 (percentDecode (asBytes s))

theorem percentDecode_length_le (bytes : Bytes) : (percentDecode bytes).length ≤ bytes.length := by
  fun_induction percentDecode bytes with
  | case1 b high low rest c _ ih => simp only [List.length_cons]; omega
  | case2 b high low rest _ ih => simp only [List.length_cons] at ih ⊢; omega
  | case3 bytes _ => exact Nat.le_refl _

theorem percentDecode_eq_self_iff (bytes : Bytes) :
    percentDecode bytes = bytes ↔ hasEscape bytes = false := by
  fun_induction percentDecode bytes with
  | case1 b high low rest c hc _ =>
    -- The escape is gone, so the result is too short to be the input.
    have hle := percentDecode_length_le rest
    constructor
    · intro h
      have hlen := congrArg List.length h
      simp only [List.length_cons] at hlen
      omega
    · intro h
      simp [hasEscape, hc] at h
  | case2 b high low rest hn ih => simp [hasEscape, hn, ih]
  | case3 bytes hshort =>
    match bytes, hshort with
    | [], _ => simp [hasEscape]
    | [_], _ => simp [hasEscape]
    | [_, _], _ => simp [hasEscape]
    | b :: high :: low :: rest, h => exact absurd rfl (h b high low rest)

@[simp] theorem fromUtf8_asBytes (s : String) : fromUtf8 (asBytes s) = some s := by
  have hbytes : (⟨(asBytes s).toArray⟩ : ByteArray) = s.toByteArray := by simp [asBytes]
  rw [fromUtf8, hbytes, String.fromUTF8?, dif_pos s.isValidUTF8]
  rfl

theorem asBytes_of_fromUtf8 {bytes : Bytes} {s : String} (h : fromUtf8 bytes = some s) :
    asBytes s = bytes := by
  simp only [fromUtf8, String.fromUTF8?] at h
  split at h
  · obtain rfl := Option.some.inj h
    simp [asBytes, String.fromUTF8]
  · cases h

/-- Decoding changes nothing exactly when there is nothing to decode. -/
theorem urlDecode_eq_self_iff (s : String) :
    urlDecode s = some s ↔ hasEscape (asBytes s) = false := by
  rw [← percentDecode_eq_self_iff]
  refine ⟨fun h => (asBytes_of_fromUtf8 h).symm, fun h => ?_⟩
  rw [urlDecode, h, fromUtf8_asBytes]

/-! ## Encoding a path -/

/-- RFC 3986 `unreserved`, and the slash that separates path segments. -/
def isPathByte (b : UInt8) : Bool :=
  (0x30 ≤ b && b ≤ 0x39) || (0x41 ≤ b && b ≤ 0x5A) || (0x61 ≤ b && b ≤ 0x7A) ||
    b == 0x2D || b == 0x2E || b == 0x5F || b == 0x7E || b == 0x2F

def upperHexDigit (n : UInt8) : UInt8 := if n < 10 then n + 0x30 else n - 10 + 0x41

def encodeByte (b : UInt8) : Bytes :=
  if isPathByte b then [b] else [0x25, upperHexDigit (b / 16), upperHexDigit (b % 16)]

def percentEncode (bytes : Bytes) : Bytes := bytes.flatMap encodeByte

theorem percentDecode_cons_of_ne {b : UInt8} (hb : b ≠ 0x25) (rest : Bytes) :
    percentDecode (b :: rest) = b :: percentDecode rest := by
  match rest with
  | [] | [_] => rfl
  | _ :: _ :: _ => simp [percentDecode, escape, hb]

theorem escape_encoded (b : UInt8) :
    escape 0x25 (upperHexDigit (b / 16)) (upperHexDigit (b % 16)) = some b := by
  revert b
  decide +kernel

theorem percentDecode_encodeByte (b : UInt8) (rest : Bytes) :
    percentDecode (encodeByte b ++ rest) = b :: percentDecode rest := by
  unfold encodeByte
  split
  · rename_i hb
    apply percentDecode_cons_of_ne
    rintro rfl
    exact absurd hb (by decide)
  · simp [percentDecode, escape_encoded]

/-- What a client encodes, one decoding gives back. -/
theorem percentDecode_percentEncode (bytes : Bytes) :
    percentDecode (percentEncode bytes) = bytes := by
  induction bytes with
  | nil => rfl
  | cons b bytes ih =>
    have h := percentDecode_encodeByte b (percentEncode bytes)
    rw [ih] at h
    simpa [percentEncode] using h

end Rust
