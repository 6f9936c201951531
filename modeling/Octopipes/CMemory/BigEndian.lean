import Octopipes.CMemory.Slice
import Mathlib.Tactic.Ring

namespace CMemory.BigEndian

/-- The first byte has the highest weight. -/
def value : List UInt8 → Nat
  | [] => 0
  | byte :: rest => byte.toNat * 256 ^ rest.length + value rest

/-- The bytes of one value use a fixed width. -/
def digits : Nat → Nat → List UInt8
  | 0, _ => []
  | width + 1, number => UInt8.ofNat (number / 256 ^ width) :: digits width number

@[simp] theorem digits_length (width number : Nat) : (digits width number).length = width := by
  induction width with
  | zero => rfl
  | succ width ih => simp [digits, ih]

theorem value_lt (bytes : List UInt8) : value bytes < 256 ^ bytes.length := by
  induction bytes with
  | nil => simp [value]
  | cons byte rest ih =>
      have small := byte.toNat_lt
      rw [value, List.length_cons, Nat.pow_succ]
      calc byte.toNat * 256 ^ rest.length + value rest
          < byte.toNat * 256 ^ rest.length + 256 ^ rest.length := by omega
        _ = (byte.toNat + 1) * 256 ^ rest.length := by ring
        _ ≤ 256 * 256 ^ rest.length := Nat.mul_le_mul_right _ (by omega)
        _ = 256 ^ rest.length * 256 := Nat.mul_comm _ _

/-- The digits give the value back modulo the width. -/
theorem value_digits (width number : Nat) : value (digits width number) = number % 256 ^ width := by
  induction width with
  | zero => simp [digits, value, Nat.mod_one]
  | succ width ih =>
      have split : number % (256 ^ width * 256) =
          number % 256 ^ width + 256 ^ width * (number / 256 ^ width % 256) := Nat.mod_mul
      have power : 256 ^ (width + 1) = 256 ^ width * 256 := Nat.pow_succ ..
      rw [digits, value, ih, digits_length, UInt8.toNat_ofNat', power, split]
      change number / 256 ^ width % 256 * 256 ^ width + _ = _
      ring

/-- The digits depend only on the value modulo the width. -/
theorem digits_add_mul (width number carry : Nat) :
    digits width (number + carry * 256 ^ width) = digits width number := by
  induction width generalizing carry with
  | zero => rfl
  | succ width ih =>
      have weight : carry * 256 ^ (width + 1) = carry * 256 * 256 ^ width := by ring
      have positive : 0 < 256 ^ width := Nat.pow_pos (by decide)
      rw [digits, digits, weight, ih, Nat.add_mul_div_right _ _ positive]
      congr 1
      apply UInt8.toNat_inj.mp
      simp only [UInt8.toNat_ofNat']
      change (number / 256 ^ width + carry * 256) % 256 = number / 256 ^ width % 256
      omega

/-- The value of a byte string gives its digits back. -/
theorem digits_value (bytes : List UInt8) : digits bytes.length (value bytes) = bytes := by
  induction bytes with
  | nil => rfl
  | cons byte rest ih =>
      have positive : 0 < 256 ^ rest.length := Nat.pow_pos (by decide)
      have quotient : (byte.toNat * 256 ^ rest.length + value rest) / 256 ^ rest.length =
          byte.toNat := by
        rw [Nat.mul_comm, Nat.mul_add_div positive, Nat.div_eq_of_lt (value_lt rest), Nat.add_zero]
      rw [List.length_cons, digits, value, quotient, Nat.add_comm (byte.toNat * _), digits_add_mul, ih]
      simp

/-- One shift makes room for the next byte. -/
def shiftIn (size : UInt64) (byte : UInt8) : UInt64 := (size <<< 8) + byte.toUInt64

/-- The shift and add loop collects a 64-bit word from its bytes. -/
def word (bytes : List UInt8) : UInt64 := bytes.foldl shiftIn 0

theorem shiftIn_toNat (size : UInt64) (byte : UInt8) :
    (shiftIn size byte).toNat = (size.toNat * 256 + byte.toNat) % 2 ^ 64 := by
  rw [shiftIn, UInt64.toNat_add, UInt64.toNat_shiftLeft, UInt8.toNat_toUInt64, Nat.shiftLeft_eq]
  change (size.toNat * 256 % 2 ^ 64 + byte.toNat) % 2 ^ 64 = _
  rw [Nat.mod_add_mod]

theorem foldl_shiftIn (bytes : List UInt8) (initial : UInt64) :
    (bytes.foldl shiftIn initial).toNat =
      (initial.toNat * 256 ^ bytes.length + value bytes) % 2 ^ 64 := by
  induction bytes generalizing initial with
  | nil =>
      have bound := initial.toNat_lt
      simp only [List.foldl_nil, List.length_nil, value]
      omega
  | cons byte rest ih =>
      rw [List.foldl_cons, ih, shiftIn_toNat, value, List.length_cons, Nat.add_mod,
        Nat.mod_mul_mod, ← Nat.add_mod]
      congr 1
      ring

/-- Eight bytes give their exact value. -/
theorem word_toNat (bytes : List UInt8) (width : bytes.length ≤ 8) :
    (word bytes).toNat = value bytes := by
  have bound : value bytes < 2 ^ 64 := lt_of_lt_of_le (value_lt bytes) (by
    calc 256 ^ bytes.length ≤ 256 ^ 8 := Nat.pow_le_pow_right (by decide) width
      _ = 2 ^ 64 := by decide)
  rw [word, foldl_shiftIn]
  change (0 * 256 ^ bytes.length + value bytes) % 2 ^ 64 = _
  rw [Nat.zero_mul, Nat.zero_add, Nat.mod_eq_of_lt bound]

/-- The shift and mask operations cut a 64-bit word into its bytes. -/
def wordBytes (size : UInt64) : List UInt8 :=
  [(size >>> 56 &&& 0xFF).toUInt8, (size >>> 48 &&& 0xFF).toUInt8,
    (size >>> 40 &&& 0xFF).toUInt8, (size >>> 32 &&& 0xFF).toUInt8,
    (size >>> 24 &&& 0xFF).toUInt8, (size >>> 16 &&& 0xFF).toUInt8,
    (size >>> 8 &&& 0xFF).toUInt8, (size &&& 0xFF).toUInt8]

@[simp] theorem wordBytes_length (size : UInt64) : (wordBytes size).length = 8 := rfl

theorem maskedByte (size : UInt64) : (size &&& 0xFF).toUInt8 = UInt8.ofNat size.toNat := by
  apply UInt8.toNat_inj.mp
  rw [UInt64.toNat_toUInt8, UInt64.toNat_and, UInt8.toNat_ofNat']
  have mask := Nat.and_two_pow_sub_one_eq_mod size.toNat 8
  change (size.toNat &&& (2 ^ 8 - 1)) % 2 ^ 8 = _
  rw [mask, Nat.mod_mod]

theorem shiftedByte (size shift : UInt64) (exponent : Nat) (small : exponent < 8)
    (amount : shift.toNat = 8 * exponent) :
    (size >>> shift &&& 0xFF).toUInt8 = UInt8.ofNat (size.toNat / 256 ^ exponent) := by
  rw [maskedByte, UInt64.toNat_shiftRight, amount, Nat.mod_eq_of_lt (by omega),
    Nat.shiftRight_eq_div_pow, Nat.pow_mul]

/-- The masks give the big-endian digits of the word. -/
theorem wordBytes_eq (size : UInt64) : wordBytes size = digits 8 size.toNat := by
  simp only [wordBytes, digits]
  rw [shiftedByte size 56 7 (by decide) rfl, shiftedByte size 48 6 (by decide) rfl,
    shiftedByte size 40 5 (by decide) rfl, shiftedByte size 32 4 (by decide) rfl,
    shiftedByte size 24 3 (by decide) rfl, shiftedByte size 16 2 (by decide) rfl,
    shiftedByte size 8 1 (by decide) rfl, maskedByte size, Nat.pow_zero, Nat.div_one]

@[simp] theorem word_wordBytes (size : UInt64) : word (wordBytes size) = size := by
  apply UInt64.toNat_inj.mp
  rw [word_toNat _ (by simp), wordBytes_eq, value_digits]
  exact Nat.mod_eq_of_lt size.toNat_lt

theorem wordBytes_word (bytes : List UInt8) (width : bytes.length = 8) :
    wordBytes (word bytes) = bytes := by
  rw [wordBytes_eq, word_toNat bytes (by omega), ← width, digits_value]

end CMemory.BigEndian
