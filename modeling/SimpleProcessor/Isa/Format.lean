import SimpleProcessor.Isa.Word

/-!
# Opcodes and the instruction format

The three simulators number the opcodes alike and unpack the same five fields,
each with its own expressions.  `Fields.ofWord` is the format itself; every
decoder is compared with it.
-/

namespace SimpleProcessor

/-- The 5-bit opcodes.  Codes without a name are printed `U`. -/
inductive Opcode where
  | add
  | sub
  | lsf
  | rsf
  | and
  | or
  | xor
  | lhi
  | ld
  | st
  | dma
  | dmp
  | jlt
  | jle
  | jeq
  | jne
  | jin
  | hlt
  | u (code : BitVec 5)
  deriving DecidableEq, Repr

/-- The opcode with a given number. -/
def Opcode.ofCode (code : BitVec 5) : Opcode :=
  match code.toNat with
  | 0 => .add
  | 1 => .sub
  | 2 => .lsf
  | 3 => .rsf
  | 4 => .and
  | 5 => .or
  | 6 => .xor
  | 7 => .lhi
  | 8 => .ld
  | 9 => .st
  | 10 => .dma
  | 11 => .dmp
  | 16 => .jlt
  | 17 => .jle
  | 18 => .jeq
  | 19 => .jne
  | 20 => .jin
  | 24 => .hlt
  | _ => .u code

/-- The opcodes that all three simulators execute, except LHI and JIN. -/
def Opcode.isBasic : Opcode → Bool
  | .add | .sub | .lsf | .rsf | .and | .or | .xor | .ld | .st => true
  | .jlt | .jle | .jeq | .jne | .hlt => true
  | .lhi | .dma | .dmp | .jin | .u _ => false

/-- The five fields of an instruction word, the immediate sign-extended. -/
structure Fields where
  opcode : Opcode
  dst : RegIndex
  src0 : RegIndex
  src1 : RegIndex
  immediate : Word
  deriving DecidableEq, Repr

/-- The instruction format: bits 29..25 opcode, 24..22 dst, 21..19 src0,
18..16 src1, 15..0 immediate. -/
def Fields.ofWord (inst : Word) : Fields where
  opcode := .ofCode (inst.extractLsb' 25 5)
  dst := inst.extractLsb' 22 3
  src0 := inst.extractLsb' 19 3
  src1 := inst.extractLsb' 16 3
  immediate := (inst.setWidth 16).signExtend 32

section Expressions

variable (inst : Word)

theorem setWidth_shift_and_mask (width low : Nat) (mask : Word)
    (maskBits : ∀ i : Nat, i < width → mask.getLsbD i = true) :
    ((inst >>> low) &&& mask).setWidth width = inst.extractLsb' low width := by
  apply BitVec.eq_of_getLsbD_eq
  intro i bound
  simp only [BitVec.getLsbD_setWidth, BitVec.getLsbD_and, BitVec.getLsbD_ushiftRight,
    BitVec.getLsbD_extractLsb', maskBits i bound, bound, decide_true, Bool.true_and,
    Bool.and_true]

theorem setWidth_sshiftRight_and_mask (width low : Nat) (mask : Word)
    (maskBits : ∀ i : Nat, i < width → mask.getLsbD i = true)
    (inside : low + width ≤ 32) :
    ((inst.sshiftRight low) &&& mask).setWidth width = inst.extractLsb' low width := by
  apply BitVec.eq_of_getLsbD_eq
  intro i bound
  have noSign : low + i < 32 := by omega
  have small : ¬ 32 ≤ i := by omega
  simp only [BitVec.getLsbD_setWidth, BitVec.getLsbD_and, BitVec.getLsbD_sshiftRight,
    BitVec.getLsbD_extractLsb', maskBits i bound, bound, decide_true, Bool.true_and,
    Bool.and_true, noSign, small, decide_false, Bool.not_false, if_true]

private theorem lowMask_getLsbD :
    ∀ i : Nat, i < 32 → (0xffff#32).getLsbD i = decide (i < 16) := by
  decide

private theorem highMask_getLsbD :
    ∀ i : Nat, i < 32 → (0xffff0000#32).getLsbD i = decide (16 ≤ i) := by
  decide

private theorem signMask_eq_zero :
    (inst &&& 0xffff#32) &&& 0x8000#32 = 0#32 ↔ inst.getLsbD 15 = false := by
  have signMask : ∀ i : Nat, i < 32 →
      (0x8000#32).getLsbD i = decide (i = 15) := by decide
  constructor
  · intro equal
    have bit := congrArg (fun word : Word => word.getLsbD 15) equal
    rw [BitVec.getLsbD_and, BitVec.getLsbD_and, signMask 15 (by omega),
      lowMask_getLsbD 15 (by omega)] at bit
    simpa using bit
  · intro signBit
    apply BitVec.eq_of_getLsbD_eq
    intro i bound
    rw [BitVec.getLsbD_and, BitVec.getLsbD_and, signMask i bound]
    by_cases isSign : i = 15
    · subst isSign
      simp only [signBit, Bool.false_and]
      rfl
    · simp [isSign]

/-- The explicit sign extension of the low half: `immediate & 0x8000` decides
whether `0xffff0000` is added. -/
theorem signExtend_immediate :
    (if (inst &&& 0xffff#32) &&& 0x8000#32 = 0#32 then inst &&& 0xffff#32
      else (inst &&& 0xffff#32) ||| 0xffff0000#32) = (inst.setWidth 16).signExtend 32 := by
  apply BitVec.eq_of_getLsbD_eq
  intro i bound
  have signed : (inst.setWidth 16).msb = inst.getLsbD 15 := by
    simp [BitVec.msb_eq_getLsbD_last]
  rw [BitVec.getLsbD_signExtend, signed, BitVec.getLsbD_setWidth]
  by_cases positive : (inst &&& 0xffff#32) &&& 0x8000#32 = 0#32
  · rw [if_pos positive, BitVec.getLsbD_and, lowMask_getLsbD i bound,
      (signMask_eq_zero inst).mp positive]
    by_cases low : i < 16 <;> simp [low, bound]
  · rw [if_neg positive, BitVec.getLsbD_or, BitVec.getLsbD_and, lowMask_getLsbD i bound,
      highMask_getLsbD i bound]
    have negative : inst.getLsbD 15 = true := by
      rw [signMask_eq_zero] at positive
      simpa using positive
    rw [negative]
    by_cases low : i < 16
    · have notHigh : ¬ 16 ≤ i := by omega
      simp [low, notHigh, bound]
    · have high : 16 ≤ i := by omega
      simp [low, high, bound]

end Expressions

/-- 0: LD r2, [40]; 1: ADD r3, r2, r2; 2: ST r3, [41]; 3: JEQ 0, 0, 5; 5: JNE 0, 0, 0;
6: HLT; 40: 21. -/
def tourImage : Image := fun addr =>
  if addr = 0#16 then 0x10810028#32
  else if addr = 1#16 then 0x00d20000#32
  else if addr = 2#16 then 0x12190029#32
  else if addr = 3#16 then 0x24000005#32
  else if addr = 5#16 then 0x26000000#32
  else if addr = 6#16 then 0x30000000#32
  else if addr = 40#16 then 21#32
  else 0#32

end SimpleProcessor
