import Mathlib.Data.List.Induction
import Mathlib.Tactic.Ring

/-! Fixed-width big-endian integers as byte lists, and their inverse laws. -/

namespace RobotMiddleware.Lib.BigEndian

/-- The `width` bytes of `value`, most significant first. -/
def encode (width value : Nat) : List UInt8 :=
  (List.range width).map fun index => UInt8.ofNat (value >>> ((width - index - 1) * 8))

def decode (bytes : List UInt8) : Nat :=
  bytes.foldl (fun value byte => (value <<< 8) ||| byte.toNat) 0

@[simp] theorem encode_length (width value : Nat) : (encode width value).length = width := by
  simp [encode]

theorem encode_succ (width value : Nat) : encode (width + 1) value = encode width (value / 256) ++ [UInt8.ofNat value] := by
  simp only [encode, List.range_succ, List.map_append, List.map_singleton]
  congr 1
  · apply List.map_congr_left
    intro index inside
    have bound := List.mem_range.mp inside
    have shift : (width + 1 - index - 1) * 8 = 8 + (width - index - 1) * 8 := by omega
    rw [shift, Nat.shiftRight_add, Nat.shiftRight_eq_div_pow value 8]
  · simp

theorem decode_snoc (bytes : List UInt8) (byte : UInt8) : decode (bytes ++ [byte]) = decode bytes * 256 + byte.toNat := by
  have small : byte.toNat < 2 ^ 8 := byte.toNat_lt
  simp only [decode, List.foldl_append, List.foldl_cons, List.foldl_nil]
  rw [← Nat.shiftLeft_add_eq_or_of_lt small, Nat.shiftLeft_eq]

theorem decode_encode (width value : Nat) : decode (encode width value) = value % 256 ^ width := by
  induction width generalizing value with
  | zero => simp [encode, decode, Nat.mod_one]
  | succ width ih =>
    rw [encode_succ, decode_snoc, ih]
    have low : (UInt8.ofNat value).toNat = value % 256 := by simp
    rw [low, pow_succ, mul_comm (256 ^ width), Nat.mod_mul]
    ring

/-- A value that fits its width survives the trip through its bytes. -/
theorem decode_encode_of_lt {width value : Nat} (fits : value < 256 ^ width) : decode (encode width value) = value := by
  rw [decode_encode, Nat.mod_eq_of_lt fits]

theorem decode_lt (bytes : List UInt8) : decode bytes < 256 ^ bytes.length := by
  induction bytes using List.reverseRecOn with
  | nil => simp [decode]
  | append_singleton bytes byte ih =>
    have small : byte.toNat < 256 := byte.toNat_lt
    rw [decode_snoc, List.length_append, List.length_singleton, pow_succ]
    omega

/-- Every byte string is the encoding of the integer that it reads as. -/
theorem encode_decode (bytes : List UInt8) : encode bytes.length (decode bytes) = bytes := by
  induction bytes using List.reverseRecOn with
  | nil => rfl
  | append_singleton bytes byte ih =>
    have small : byte.toNat < 256 := byte.toNat_lt
    have high : (decode bytes * 256 + byte.toNat) / 256 = decode bytes := by omega
    have low : UInt8.ofNat (decode bytes * 256 + byte.toNat) = byte := by
      apply UInt8.toNat_inj.mp
      rw [UInt8.toNat_ofNat']
      omega
    rw [List.length_append, List.length_singleton, encode_succ, decode_snoc, high, low, ih]

end RobotMiddleware.Lib.BigEndian
