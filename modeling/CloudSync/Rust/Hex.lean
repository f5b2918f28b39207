import CloudSync.Rust.PercentDecoding

/-!
# Hexadecimal text (the `hex` crate)

Digits of both cases are read, two for each byte. What is read is determined up
to the case of the letters.
-/

namespace Rust

set_option autoImplicit false

/-- `hex::FromHexError`. -/
inductive FromHexError where
  | invalidHexCharacter (c : UInt8) (index : Nat)
  | oddLength
  deriving Repr, DecidableEq

def hexValue (b : UInt8) (index : Nat) : Except FromHexError UInt8 :=
  match hexDigit b with
  | some d => .ok d
  | none => .error (.invalidHexCharacter b index)

/-- The pairs of digits from position `index` on. -/
def hexPairs (index : Nat) : Bytes → Except FromHexError Bytes
  | high :: low :: rest => do
    let x ← hexValue high index
    let y ← hexValue low (index + 1)
    let bytes ← hexPairs (index + 2) rest
    return (x <<< 4 ||| y) :: bytes
  | _ => .ok []

/-- `hex::decode`. -/
def hexDecode (s : String) : Except FromHexError Bytes :=
  if (asBytes s).length % 2 ≠ 0 then .error .oddLength else hexPairs 0 (asBytes s)

/-- A digit with its letter, if it is one, in lower case. -/
def lowerDigit (b : UInt8) : UInt8 := if 0x41 ≤ b ∧ b ≤ 0x46 then b + 0x20 else b

/-- The lower-case digit of a number below 16. -/
def digitOf (n : UInt8) : UInt8 := if n < 10 then n + 0x30 else n - 10 + 0x61

def digitsOf (bytes : Bytes) : Bytes := bytes.flatMap fun b : UInt8 => [digitOf (b >>> 4), digitOf (b &&& 15)]

theorem exists_small {n : UInt8} (h : n < 16) : ∃ i : Fin 16, n = UInt8.ofNat i :=
  ⟨⟨n.toNat, UInt8.lt_iff_toNat_lt.mp h⟩, by simp⟩

theorem hexDigit_eq_some {b d : UInt8} : hexDigit b = some d ↔ d < 16 ∧ lowerDigit b = digitOf d := by
  have hlt : ∀ b : UInt8, (hexDigit b).all (· < 16) := by decide +kernel
  have hdigit : ∀ b : UInt8, ∀ i : Fin 16,
      (hexDigit b = some (UInt8.ofNat i) ↔ lowerDigit b = digitOf (UInt8.ofNat i)) := by decide +kernel
  constructor
  · intro h
    have hd : d < 16 := by simpa [h] using hlt b
    obtain ⟨i, rfl⟩ := exists_small hd
    exact ⟨hd, (hdigit b i).mp h⟩
  · rintro ⟨hd, h⟩
    obtain ⟨i, rfl⟩ := exists_small hd
    exact (hdigit b i).mpr h

theorem split_byte {x y : UInt8} (hx : x < 16) (hy : y < 16) :
    (x <<< 4 ||| y) >>> 4 = x ∧ (x <<< 4 ||| y) &&& 15 = y := by
  have h : ∀ i j : Fin 16, (UInt8.ofNat i <<< 4 ||| UInt8.ofNat j) >>> 4 = UInt8.ofNat i ∧
      (UInt8.ofNat i <<< 4 ||| UInt8.ofNat j) &&& 15 = UInt8.ofNat j := by decide +kernel
  obtain ⟨i, rfl⟩ := exists_small hx
  obtain ⟨j, rfl⟩ := exists_small hy
  exact h i j

theorem join_byte (b : UInt8) : b >>> 4 < 16 ∧ b &&& 15 < 16 ∧ (b >>> 4) <<< 4 ||| (b &&& 15) = b := by
  revert b
  decide +kernel

theorem hexValue_eq_ok {b d : UInt8} {index : Nat} : hexValue b index = .ok d ↔ hexDigit b = some d := by
  unfold hexValue
  cases hexDigit b <;> simp

theorem hexPairs_cons_eq_ok {high low : UInt8} {rest bytes : Bytes} {index : Nat} :
    hexPairs index (high :: low :: rest) = .ok bytes ↔
      ∃ (b : UInt8) (tail : Bytes), bytes = b :: tail ∧ lowerDigit high = digitOf (b >>> 4) ∧
        lowerDigit low = digitOf (b &&& 15) ∧ hexPairs (index + 2) rest = .ok tail := by
  constructor
  · intro h
    rw [hexPairs] at h
    cases hx : hexValue high index with
    | error e =>
      rw [hx] at h
      cases h
    | ok x =>
      cases hy : hexValue low (index + 1) with
      | error e =>
        rw [hx, hy] at h
        cases h
      | ok y =>
        cases ht : hexPairs (index + 2) rest with
        | error e =>
          rw [hx, hy, ht] at h
          cases h
        | ok tail =>
          rw [hx, hy, ht] at h
          obtain ⟨hxlt, hxeq⟩ := hexDigit_eq_some.mp (hexValue_eq_ok.mp hx)
          obtain ⟨hylt, hyeq⟩ := hexDigit_eq_some.mp (hexValue_eq_ok.mp hy)
          obtain ⟨hhigh, hlow⟩ := split_byte hxlt hylt
          refine ⟨_, tail, (Except.ok.inj h).symm, ?_, ?_, rfl⟩
          · rw [hhigh, hxeq]
          · rw [hlow, hyeq]
  · rintro ⟨b, tail, rfl, hhigh, hlow, ht⟩
    obtain ⟨hxlt, hylt, hb⟩ := join_byte b
    have hx : hexValue high index = .ok (b >>> 4) := hexValue_eq_ok.mpr (hexDigit_eq_some.mpr ⟨hxlt, hhigh⟩)
    have hy : hexValue low (index + 1) = .ok (b &&& 15) :=
      hexValue_eq_ok.mpr (hexDigit_eq_some.mpr ⟨hylt, hlow⟩)
    rw [hexPairs, hx, hy, ht]
    exact congrArg (fun b => Except.ok (b :: tail)) hb

theorem digitsOf_cons (b : UInt8) (bytes : Bytes) :
    digitsOf (b :: bytes) = digitOf (b >>> 4) :: digitOf (b &&& 15) :: digitsOf bytes := rfl

theorem length_digitsOf (bytes : Bytes) : (digitsOf bytes).length = 2 * bytes.length := by
  induction bytes with
  | nil => rfl
  | cons b bytes ih =>
    rw [digitsOf_cons]
    simp only [List.length_cons, ih]
    omega

theorem hexPairs_eq_ok {digits bytes : Bytes} {index : Nat} (heven : digits.length % 2 = 0) :
    hexPairs index digits = .ok bytes ↔ digits.map lowerDigit = digitsOf bytes := by
  induction bytes generalizing digits index with
  | nil =>
    match digits with
    | [] => simp [hexPairs, digitsOf]
    | [_] => cases heven
    | high :: low :: rest =>
      rw [hexPairs_cons_eq_ok]
      simp [digitsOf]
  | cons b bytes ih =>
    match digits with
    | [] => simp [hexPairs, digitsOf]
    | [_] => cases heven
    | high :: low :: rest =>
      have hrest : rest.length % 2 = 0 := by
        simp only [List.length_cons] at heven
        omega
      rw [hexPairs_cons_eq_ok, digitsOf_cons]
      simp only [List.map_cons, List.cons.injEq]
      constructor
      · rintro ⟨b', tail, ⟨rfl, rfl⟩, hhigh, hlow, ht⟩
        exact ⟨hhigh, hlow, (ih hrest).mp ht⟩
      · rintro ⟨hhigh, hlow, ht⟩
        exact ⟨b, bytes, ⟨rfl, rfl⟩, hhigh, hlow, (ih hrest).mpr ht⟩

/-- Text is read as the bytes whose digits it has, in letters of either case. -/
theorem hexDecode_eq_ok {s : String} {bytes : Bytes} :
    hexDecode s = .ok bytes ↔ (asBytes s).map lowerDigit = digitsOf bytes := by
  unfold hexDecode
  split
  · rename_i hodd
    refine ⟨fun h => (by cases h), fun h => ?_⟩
    have hlen := congrArg List.length h
    rw [List.length_map, length_digitsOf] at hlen
    omega
  · rename_i heven
    exact hexPairs_eq_ok (by omega)

end Rust
