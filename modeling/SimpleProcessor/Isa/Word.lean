import Mathlib.Algebra.Group.Nat.Defs
import Mathlib.Logic.Function.Basic

/-!
# Machine words

The simulators compute on C `int`, which is 32 bits wide and wraps.  Shift
counts outside `0..31` are undefined in C, so the two shifts are a parameter
that is only fixed on the counts the language defines.
-/

namespace SimpleProcessor

/-- A C `int` or `unsigned int`. -/
abbrev Word := BitVec 32

/-- The address of one word of a 64K-word memory. -/
abbrev Address := BitVec 16

/-- A 3-bit register field. -/
abbrev RegIndex := BitVec 3

/-- The register file `r[8]`. -/
abbrev RegFile := RegIndex → Word

/-- The contents of a 64K-word memory. -/
abbrev Image := Address → Word

namespace RegFile

/-- Registers 0 and 1, which do not exist, read as zero. -/
def LowZero (regs : RegFile) : Prop := regs 0#3 = 0#32 ∧ regs 1#3 = 0#32

theorem one_lt_iff (index : RegIndex) : 1#3 < index ↔ index ≠ 0#3 ∧ index ≠ 1#3 := by
  revert index
  decide

theorem LowZero.update {regs : RegFile} (low : regs.LowZero) {index : RegIndex}
    (named : 1#3 < index) (value : Word) :
    LowZero (Function.update regs index value) := by
  obtain ⟨notZero, notOne⟩ := (one_lt_iff index).mp named
  exact ⟨by rw [Function.update_of_ne (Ne.symm notZero)]; exact low.1,
    by rw [Function.update_of_ne (Ne.symm notOne)]; exact low.2⟩

/-- Clearing registers 0 and 1. -/
def clearLow (regs : RegFile) : RegFile :=
  Function.update (Function.update regs 0#3 0#32) 1#3 0#32

theorem clearLow_of_lowZero {regs : RegFile} (low : regs.LowZero) : clearLow regs = regs := by
  have clearZero : Function.update regs 0#3 0#32 = regs :=
    Function.update_eq_self_iff.mpr low.1.symm
  have clearOne : Function.update regs 1#3 0#32 = regs :=
    Function.update_eq_self_iff.mpr low.2.symm
  rw [clearLow, clearZero, clearOne]

theorem clearLow_update {regs : RegFile} (low : regs.LowZero) (index : RegIndex)
    (value : Word) :
    clearLow (Function.update regs index value) =
      if 1#3 < index then Function.update regs index value else regs := by
  by_cases named : 1#3 < index
  · rw [if_pos named]
    exact clearLow_of_lowZero (low.update named value)
  · rw [if_neg named]
    rw [one_lt_iff, not_and_or, not_not, not_not] at named
    obtain ⟨zero, one⟩ := low
    funext other
    by_cases isOne : other = 1#3
    · subst isOne
      simp [clearLow, one]
    · by_cases isZero : other = 0#3
      · subst isZero
        simp [clearLow, zero]
      · have notIndex : other ≠ index := by
          rcases named with rfl | rfl <;> assumption
        simp [clearLow, isOne, isZero, notIndex]

end RegFile

/-- The value of a C comparison or of `!`. -/
def intOfBool (condition : Bool) : Word := if condition then 1#32 else 0#32

@[simp] theorem intOfBool_eq_zero {condition : Bool} :
    intOfBool condition = 0#32 ↔ condition = false := by
  cases condition <;> decide

/-- The shifts `<<` and `>>` on `int` as a compiler translates them.  Counts
outside `0..31` may give any function of the operands. -/
structure Shifts where
  left : Word → Word → Word
  right : Word → Word → Word
  left_eq : ∀ value count : Word, count.toNat < 32 →
    left value count = value <<< count.toNat
  right_eq : ∀ value count : Word, count.toNat < 32 →
    right value count = value.sshiftRight count.toNat

/-- The x86 shift instructions, which use the low five bits of the count. -/
def Shifts.x86 : Shifts where
  left value count := value <<< (count.toNat % 32)
  right value count := value.sshiftRight (count.toNat % 32)
  left_eq value count bound := by rw [Nat.mod_eq_of_lt bound]
  right_eq value count bound := by rw [Nat.mod_eq_of_lt bound]

namespace Word

/-- The word is the index of a 64K-word array. -/
def InRange (word : Word) : Prop := word.toNat < 65536

instance (word : Word) : Decidable word.InRange :=
  inferInstanceAs (Decidable (word.toNat < 65536))

/-- The low 16 bits of a word, as an address. -/
def address (word : Word) : Address := word.setWidth 16

/-- An address as a nonnegative `int`. -/
def ofAddress (address : Address) : Word := address.setWidth 32

@[simp] theorem address_ofAddress (address : Address) :
    (ofAddress address).address = address := by
  simp only [Word.address, ofAddress]
  rw [BitVec.setWidth_setWidth_of_le _ (by omega), BitVec.setWidth_eq]

theorem address_ofNat (value : Nat) : address (BitVec.ofNat 32 value) = BitVec.ofNat 16 value := by
  rw [address, BitVec.setWidth_ofNat_of_le (by decide)]

theorem ofAddress_inRange (address : Address) : (ofAddress address).InRange := by
  have bound := address.isLt
  simp only [InRange, ofAddress, BitVec.toNat_setWidth]
  omega

theorem ofAddress_address {word : Word} (inRange : word.InRange) :
    ofAddress word.address = word := by
  apply BitVec.eq_of_toNat_eq
  simp only [InRange] at inRange
  simp only [ofAddress, Word.address, BitVec.toNat_setWidth]
  omega

@[simp] theorem and_mask_eq (word : Word) : word &&& 0xffff#32 = ofAddress word.address := by
  apply BitVec.eq_of_toNat_eq
  have mask := Nat.and_two_pow_sub_one_eq_mod word.toNat 16
  simp only [ofAddress, Word.address, BitVec.toNat_and, BitVec.toNat_setWidth]
  have small : word.toNat % 2 ^ 16 < 2 ^ 32 := by omega
  rw [Nat.mod_eq_of_lt small, ← mask]
  rfl

end Word

end SimpleProcessor
