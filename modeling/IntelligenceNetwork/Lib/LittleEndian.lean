import Mathlib.Data.Nat.ModEq

/-
  Little-endian byte strings of a fixed width.

  Main declarations:
    * `decode_encode`
    * `encode_decode`
-/

----
-- Fixed-Width Words
----

namespace LittleEndian

/- The `width` low-order bytes of `value`, lowest first. -/
def encode : Nat → Nat → List UInt8
| 0, _ => []
| width + 1, value => UInt8.ofNat value :: encode width (value / 256)

/- The number that a byte string spells, lowest byte first. -/
def decode : List UInt8 → Nat
| [] => 0
| byte :: bytes => byte.toNat + 256 * decode bytes

@[simp] theorem length_encode (width value : Nat) : (encode width value).length = width := by
  induction width generalizing value with
  | zero => rfl
  | succ width ih => simp [encode, ih]

/- Decoding recovers the value up to the encoded width. -/
theorem decode_encode (width value : Nat) : decode (encode width value) = value % 256 ^ width := by
  induction width generalizing value with
  | zero => simp [encode, decode, Nat.mod_one]
  | succ width ih =>
    have hByte : (UInt8.ofNat value).toNat = value % 256 := by
      simp
    rw [encode, decode, ih, hByte, Nat.pow_succ', Nat.mod_mul]

theorem decode_lt (bytes : List UInt8) : decode bytes < 256 ^ bytes.length := by
  induction bytes with
  | nil => simp [decode]
  | cons byte bytes ih =>
    have hByte := byte.toNat_lt
    rw [decode, List.length_cons, Nat.pow_succ']
    omega

/- Every byte string is the encoding of its number. -/
theorem encode_decode (bytes : List UInt8) : encode bytes.length (decode bytes) = bytes := by
  induction bytes with
  | nil => rfl
  | cons byte bytes ih =>
    have hByte := byte.toNat_lt
    have hLow : UInt8.ofNat (byte.toNat + 256 * decode bytes) = byte := by
      apply UInt8.toNat_inj.mp
      simp
    have hRest : (byte.toNat + 256 * decode bytes) / 256 = decode bytes := by
      omega
    rw [List.length_cons, decode, encode, hLow, hRest, ih]

end LittleEndian
