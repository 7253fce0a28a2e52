import SimpleProcessor.Isa.Format
import SimpleProcessor.Llsim.Memory
import Mathlib.Data.Bool.Basic

/-!
# The assembler

A program is assembled by calls of `asm_cmd`, one for each instruction.  Every
argument is an `int` of which the low bits are used, so that no field reaches into
another one.
-/

namespace SimpleProcessor

/-- The number of an opcode. -/
def Opcode.code : Opcode → BitVec 5
  | .add => 0#5
  | .sub => 1#5
  | .lsf => 2#5
  | .rsf => 3#5
  | .and => 4#5
  | .or => 5#5
  | .xor => 6#5
  | .lhi => 7#5
  | .ld => 8#5
  | .st => 9#5
  | .dma => 10#5
  | .dmp => 11#5
  | .jlt => 16#5
  | .jle => 17#5
  | .jeq => 18#5
  | .jne => 19#5
  | .jin => 20#5
  | .hlt => 24#5
  | .u code => code

@[simp] theorem Opcode.code_ofCode (code : BitVec 5) : (Opcode.ofCode code).code = code := by
  revert code
  decide

namespace Asm

/-- The variables `mem` and `pc`. -/
structure Program where
  mem : Image
  pc : Nat

/-- The word that `asm_cmd` builds. -/
def inst (opcode dst src0 src1 immediate : Word) : Word :=
  ((opcode &&& 0x1f#32) <<< 25) ||| ((dst &&& 7#32) <<< 22) ||| ((src0 &&& 7#32) <<< 19) |||
    ((src1 &&& 7#32) <<< 16) ||| (immediate &&& 0xffff#32)

/-- `asm_cmd` -/
def asmCmd (program : Program) (opcode dst src0 src1 immediate : Word) : Checked Program :=
  if program.pc < 65536 then
    .ok {
      mem := Function.update program.mem (BitVec.ofNat 16 program.pc)
        (inst opcode dst src0 src1 immediate)
      pc := program.pc + 1 }
  else .error .outOfBounds

theorem getLsbD_maskedField (mask : Word) (width : Nat)
    (ones : ∀ j < 32, mask.getLsbD j = decide (j < width)) (value : Word) (low : Nat)
    {i : Nat} (bound : i < 32) :
    ((value &&& mask) <<< low).getLsbD i =
      (decide (low ≤ i ∧ i < low + width) && value.getLsbD (i - low)) := by
  rw [BitVec.getLsbD_shiftLeft, BitVec.getLsbD_and, ones (i - low) (by omega)]
  by_cases above : low ≤ i
  · have upper : i - low < width ↔ low ≤ i ∧ i < low + width := by omega
    rw [decide_eq_decide.mpr upper, decide_eq_true bound, decide_eq_false (by omega),
      Bool.and_comm (value.getLsbD (i - low))]
    rfl
  · have outside : ¬ (low ≤ i ∧ i < low + width) := by omega
    rw [decide_eq_false outside, decide_eq_true (show i < low by omega)]
    simp

theorem getLsbD_inst (opcode dst src0 src1 immediate : Word) {i : Nat} (bound : i < 32) :
    (inst opcode dst src0 src1 immediate).getLsbD i =
      if i < 16 then immediate.getLsbD i
      else if i < 19 then src1.getLsbD (i - 16)
      else if i < 22 then src0.getLsbD (i - 19)
      else if i < 25 then dst.getLsbD (i - 22)
      else decide (i < 30) && opcode.getLsbD (i - 25) := by
  have low := getLsbD_maskedField 0xffff#32 16 (by decide) immediate 0 bound
  rw [BitVec.shiftLeft_zero] at low
  have code := getLsbD_maskedField 0x1f#32 5 (by decide)
  have index := getLsbD_maskedField 7#32 3 (by decide)
  rw [inst]
  simp only [BitVec.getLsbD_or, low, code _ _ bound, index _ _ bound]
  grind

theorem extractLsb'_inst (opcode dst src0 src1 immediate : Word) :
    (inst opcode dst src0 src1 immediate).extractLsb' 25 5 = opcode.setWidth 5 ∧
      (inst opcode dst src0 src1 immediate).extractLsb' 22 3 = dst.setWidth 3 ∧
      (inst opcode dst src0 src1 immediate).extractLsb' 19 3 = src0.setWidth 3 ∧
      (inst opcode dst src0 src1 immediate).extractLsb' 16 3 = src1.setWidth 3 ∧
      (inst opcode dst src0 src1 immediate).setWidth 16 = immediate.setWidth 16 := by
  refine ⟨?_, ?_, ?_, ?_, ?_⟩ <;> apply BitVec.eq_of_getLsbD_eq <;> intro i bound
  all_goals
    simp only [BitVec.getLsbD_extractLsb', BitVec.getLsbD_setWidth]
    rw [getLsbD_inst _ _ _ _ _ (by omega)]
    grind

theorem ofWord_inst (opcode dst src0 src1 immediate : Word) :
    Fields.ofWord (inst opcode dst src0 src1 immediate) =
      { opcode := .ofCode (opcode.setWidth 5)
        dst := dst.setWidth 3
        src0 := src0.setWidth 3
        src1 := src1.setWidth 3
        immediate := (immediate.setWidth 16).signExtend 32 } := by
  obtain ⟨code, third, first, second, low⟩ := extractLsb'_inst opcode dst src0 src1 immediate
  rw [Fields.ofWord, code, third, first, second, low]

/-- The word of a line in a listing. -/
def word (opcode : Opcode) (dst src0 src1 immediate : Nat) : Word :=
  inst (opcode.code.setWidth 32) (.ofNat 32 dst) (.ofNat 32 src0) (.ofNat 32 src1)
    (.ofNat 32 immediate)

theorem ofWord_word {opcode : Opcode} (named : Opcode.ofCode opcode.code = opcode)
    (dst src0 src1 : Nat) {immediate : Nat} (bound : immediate ≤ 32767) :
    Fields.ofWord (word opcode dst src0 src1 immediate) =
      ⟨opcode, .ofNat 3 dst, .ofNat 3 src0, .ofNat 3 src1, .ofNat 32 immediate⟩ := by
  have index (value : Nat) : (BitVec.ofNat 32 value).setWidth 3 = BitVec.ofNat 3 value := by
    apply BitVec.eq_of_toNat_eq
    rw [BitVec.toNat_setWidth, BitVec.toNat_ofNat, BitVec.toNat_ofNat]
    omega
  have positive : ((BitVec.ofNat 32 immediate).setWidth 16).msb = false := by
    rw [BitVec.msb_eq_false_iff_two_mul_lt, BitVec.toNat_setWidth, BitVec.toNat_ofNat]
    omega
  have extended : ((BitVec.ofNat 32 immediate).setWidth 16).signExtend 32 =
      BitVec.ofNat 32 immediate := by
    apply BitVec.eq_of_toNat_eq
    rw [BitVec.signExtend_eq_setWidth_of_msb_false positive, BitVec.toNat_setWidth,
      BitVec.toNat_setWidth, BitVec.toNat_ofNat]
    omega
  rw [word, ofWord_inst, BitVec.setWidth_setWidth_of_le _ (by decide), BitVec.setWidth_eq, named,
    index, index, index, extended]

theorem inst_ofWord (word : Word) :
    inst ((Fields.ofWord word).opcode.code.setWidth 32) ((Fields.ofWord word).dst.setWidth 32)
        ((Fields.ofWord word).src0.setWidth 32) ((Fields.ofWord word).src1.setWidth 32)
        (Fields.ofWord word).immediate =
      word &&& 0x3fffffff#32 := by
  have mask : ∀ i < 32, (0x3fffffff#32).getLsbD i = decide (i < 30) := by decide
  apply BitVec.eq_of_getLsbD_eq
  intro i bound
  rw [getLsbD_inst _ _ _ _ _ bound, BitVec.getLsbD_and, mask i bound]
  simp only [Fields.ofWord, Opcode.code_ofCode, BitVec.getLsbD_setWidth,
    BitVec.getLsbD_extractLsb', BitVec.getLsbD_signExtend]
  grind

end Asm

end SimpleProcessor
