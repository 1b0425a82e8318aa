import Mathlib.Data.List.Induction
import Mathlib.Tactic.Ring

/-!
# Big-endian numbers

A natural number is written as a fixed number of bytes, most significant byte
first, and read back by accumulating the bytes from the left.  Encoding keeps
the number modulo the range of the width, so that a number that fits is read
back as it was.
-/

namespace BigEndian

/-- The last `width` base-256 digits of `number`, most significant first. -/
def encode : ℕ → ℕ → List UInt8
  | 0, _ => []
  | width + 1, number => encode width (number / 256) ++ [UInt8.ofNat number]

/-- The number whose base-256 digits are `bytes`, most significant first. -/
def decode (bytes : List UInt8) : ℕ :=
  bytes.foldl (fun number byte => 256 * number + byte.toNat) 0

@[simp]
theorem encode_length (width number : ℕ) : (encode width number).length = width := by
  induction width generalizing number with
  | zero => rfl
  | succ width ih => simp [encode, ih]

@[simp]
theorem decode_append_singleton (bytes : List UInt8) (byte : UInt8) :
    decode (bytes ++ [byte]) = 256 * decode bytes + byte.toNat := by
  simp [decode]

theorem decode_encode (width number : ℕ) :
    decode (encode width number) = number % 256 ^ width := by
  induction width generalizing number with
  | zero => simp [encode, decode, Nat.mod_one]
  | succ width ih =>
      have digit : (UInt8.ofNat number).toNat = number % 256 := by simp
      rw [encode, decode_append_singleton, ih, digit, pow_succ', Nat.mod_mul]
      ring

theorem decode_encode_of_lt (width : ℕ) {number : ℕ} (fits : number < 256 ^ width) :
    decode (encode width number) = number := by
  rw [decode_encode, Nat.mod_eq_of_lt fits]

/-- Every sequence of bytes is the encoding of a number. -/
theorem encode_decode (bytes : List UInt8) : encode bytes.length (decode bytes) = bytes := by
  induction bytes using List.reverseRecOn with
  | nil => rfl
  | append_singleton bytes byte ih =>
      have bounded := byte.toNat_lt
      have digits : (256 * decode bytes + byte.toNat) / 256 = decode bytes := by omega
      have digit : UInt8.ofNat (256 * decode bytes + byte.toNat) = byte := by
        rw [← UInt8.toNat_inj, UInt8.toNat_ofNat']
        omega
      rw [List.length_append, List.length_singleton, decode_append_singleton, encode, digits,
        digit, ih]

theorem decode_lt (bytes : List UInt8) : decode bytes < 256 ^ bytes.length := by
  have reencoded := decode_encode bytes.length (decode bytes)
  rw [encode_decode] at reencoded
  rw [reencoded]
  exact Nat.mod_lt _ (Nat.pow_pos (by decide))

end BigEndian
