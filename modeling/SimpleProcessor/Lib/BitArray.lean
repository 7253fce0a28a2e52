import Mathlib.Data.Nat.Bitwise

/-!
# Words as one sequence of bits

A little-endian machine lays an array of words out as one sequence of bits, the
first word and its lowest bit first.  `load` and `store` access that sequence
through a pointer of another width: any number of bits at any bit offset.
-/

namespace SimpleProcessor.BitArray

variable {w n : Nat}

/-- The word with the given bits. -/
def ofBits (n : Nat) (bits : Nat → Bool) : BitVec n :=
  BitVec.ofNat n (Nat.ofBits fun i : Fin n => bits i)

@[simp] theorem getLsbD_ofBits (bits : Nat → Bool) (i : Nat) :
    (ofBits n bits).getLsbD i = (decide (i < n) && bits i) := by
  rw [ofBits, BitVec.getLsbD_ofNat]
  by_cases bound : i < n
  · rw [Nat.testBit_ofBits_lt _ i bound]
  · simp [bound]

theorem getLsbD_lowOnes {n bits : Nat} (bound : bits < n) (i : Nat) :
    ((1#n <<< bits) - 1#n).getLsbD i = decide (i < bits) := by
  have small : 2 ^ bits < 2 ^ n := Nat.pow_lt_pow_right (by decide) bound
  have positive : 0 < 2 ^ bits := Nat.two_pow_pos bits
  have one : 1 % 2 ^ n = 1 := Nat.mod_eq_of_lt (by omega)
  have ones : ((1#n <<< bits) - 1#n).toNat = 2 ^ bits - 1 := by
    rw [BitVec.toNat_sub, BitVec.toNat_shiftLeft, BitVec.toNat_ofNat, one, Nat.shiftLeft_eq,
      Nat.one_mul, Nat.mod_eq_of_lt small]
    have sum : 2 ^ n - 1 + 2 ^ bits = 2 ^ n + (2 ^ bits - 1) := by omega
    rw [sum, Nat.add_mod_left, Nat.mod_eq_of_lt (by omega)]
  rw [← BitVec.testBit_toNat, ones, Nat.testBit_two_pow_sub_one]

/-- One bit of an array of words. -/
def bit (data : Nat → BitVec w) (i : Nat) : Bool := (data (i / w)).getLsbD (i % w)

theorem bit_eq (data : Nat → BitVec w) (k : Nat) {j : Nat} (bound : j < w) :
    bit data (w * k + j) = (data k).getLsbD j := by
  have positive : 0 < w := Nat.lt_of_le_of_lt (Nat.zero_le j) bound
  rw [bit, Nat.mul_add_div positive, Nat.mul_add_mod, Nat.div_eq_of_lt bound,
    Nat.mod_eq_of_lt bound, Nat.add_zero]

/-- The `n` bits from a bit offset on. -/
def load (n : Nat) (data : Nat → BitVec w) (offset : Nat) : BitVec n :=
  ofBits n fun i => bit data (offset + i)

/-- Replace the bits from a bit offset on. -/
def store (data : Nat → BitVec w) (offset : Nat) (value : BitVec n) : Nat → BitVec w :=
  fun k => ofBits w fun j =>
    if offset ≤ w * k + j ∧ w * k + j < offset + n then value.getLsbD (w * k + j - offset)
    else (data k).getLsbD j

theorem getLsbD_load (data : Nat → BitVec w) (offset : Nat) {i : Nat} (bound : i < n) :
    (load n data offset).getLsbD i = bit data (offset + i) := by
  rw [load, getLsbD_ofBits, decide_eq_true bound, Bool.true_and]

/-- A store replaces the bits of its window and no others. -/
theorem bit_store (positive : 0 < w) (data : Nat → BitVec w) (offset : Nat)
    (value : BitVec n) (i : Nat) :
    bit (store data offset value) i =
      if offset ≤ i ∧ i < offset + n then value.getLsbD (i - offset) else bit data i := by
  have split : w * (i / w) + i % w = i := Nat.div_add_mod i w
  have bound : i % w < w := Nat.mod_lt i positive
  rw [bit, store, getLsbD_ofBits, decide_eq_true bound, Bool.true_and, split]
  rfl

end SimpleProcessor.BitArray
