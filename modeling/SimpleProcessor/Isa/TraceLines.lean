import SimpleProcessor.Lib.Printf
import SimpleProcessor.Asm.Instruction
import SimpleProcessor.Isa.Semantics

/-!
# The lines of the instruction trace

The simulators print the same lines about an instruction, each of them at times of its
own: the instruction with the registers before it, and what it does.  `Arch.trace` is
the text of an instruction that all three of them execute.
-/

namespace SimpleProcessor

open Stdio

/-- A 3-bit field as an argument. -/
def Stdio.Arg.field (index : RegIndex) : Arg := .int (index.setWidth 32)

def loadedLine (programName : Text) (lines : Nat) : Text :=
  fprintf "program %s loaded, %d lines\n\n".toList [.string programName, .int (.ofNat 32 lines)]

/-- The line that begins an instruction. -/
def instructionLine (count pc : Word) : Text :=
  fprintf ("--- instruction %d (%04x) @ PC %d (%04x) " ++
      "-----------------------------------------------------------\n").toList
    [.int count, .int count, .int pc, .int pc]

/-- The fields of the instruction and the registers before it. -/
def fieldLines (pc inst : Word) (fields : Fields) (name : Text) (r : RegFile) : Text :=
  fprintf ("pc = %04x, inst = %08x, opcode = %d (%s), dst = %d, src0 = %d, src1 = %d, " ++
      "immediate = %08x\n").toList
    [.int pc, .int inst, .int (fields.opcode.code.setWidth 32), .string name, .field fields.dst,
      .field fields.src0, .field fields.src1, .int fields.immediate] ++
  fprintf "r[0] = 00000000 r[1] = %08x r[2] = %08x r[3] = %08x \n".toList
    [.int fields.immediate, .int (r 2#3), .int (r 3#3)] ++
  fprintf "r[4] = %08x r[5] = %08x r[6] = %08x r[7] = %08x \n\n".toList
    [.int (r 4#3), .int (r 5#3), .int (r 6#3), .int (r 7#3)]

/-- An instruction that computes, with its name in the format. -/
def computeLine (name : Text) (dst : RegIndex) (alu0 alu1 : Word) : Text :=
  fprintf (">>>> EXEC: R[%d] = %d ".toList ++ name ++ " %d <<<<\n\n".toList)
    [.field dst, .int alu0, .int alu1]

def lhiLine (dst : RegIndex) (alu0 : Word) : Text :=
  fprintf ">>>> EXEC: R[%d][31:16] = %d <<<<\n\n".toList [.field dst, .int alu0]

def loadLine (dst : RegIndex) (alu1 word : Word) : Text :=
  fprintf ">>>> EXEC: R[%d] = MEM[%d] = %08x <<<<\n\n".toList [.field dst, .int alu1, .int word]

def storeLine (alu1 : Word) (src0 : RegIndex) (alu0 : Word) : Text :=
  fprintf ">>>> EXEC: MEM[%d] = R[%d] = %08x <<<<\n\n".toList [.int alu1, .field src0, .int alu0]

/-- A conditional jump, with its name in the format, and where it leads. -/
def jumpLine (name : Text) (alu0 alu1 pc : Word) : Text :=
  fprintf (">>>> EXEC: ".toList ++ name ++ " %d, %d, %d <<<<\n\n".toList)
    [.int alu0, .int alu1, .int pc]

def jinLine (src0 : RegIndex) (alu0 : Word) : Text :=
  fprintf ">>>> EXEC: JIN R[%d] = %08x <<<<\n\n".toList [.field src0, .int alu0]

def haltLine (pc : Word) : Text := fprintf ">>>> EXEC: HALT at PC %04x<<<<\n".toList [.int pc]

def finishedLine (pc count : Word) : Text :=
  fprintf "sim finished at pc %d, %d instructions\n".toList [.int pc, .int count]

/-- `opcode_name` of the two processors. -/
def opcodeName : Opcode → Text
  | .add => "ADD".toList
  | .sub => "SUB".toList
  | .lsf => "LSF".toList
  | .rsf => "RSF".toList
  | .and => "AND".toList
  | .or => "OR".toList
  | .xor => "XOR".toList
  | .lhi => "LHI".toList
  | .ld => "LD".toList
  | .st => "ST".toList
  | .dma => "DMA".toList
  | .dmp => "DMP".toList
  | .jlt => "JLT".toList
  | .jle => "JLE".toList
  | .jeq => "JEQ".toList
  | .jne => "JNE".toList
  | .jin => "JIN".toList
  | .hlt => "HLT".toList
  | .u _ => "U".toList

theorem length_loadLine_pos (dst : RegIndex) (alu1 word : Word) :
    0 < (loadLine dst alu1 word).length :=
  length_fprintf_pos (by decide : _ = some '>') (by decide) _

namespace Arch

variable (shifts : Shifts) (count word : Word) (arch : Arch)

/-- The instruction and the registers before it. -/
def heading : Text :=
  instructionLine count arch.pc ++
    fieldLines arch.pc word (.ofWord word) (opcodeName (Fields.ofWord word).opcode) arch.regs

/-- What the instruction does. -/
def executionLines : Text :=
  let fields := Fields.ofWord word
  let alu0 := fields.operand0 arch.regs
  let alu1 := fields.operand1 arch.regs
  if fields.opcode.isCompute then computeLine (opcodeName fields.opcode) fields.dst alu0 alu1
  else if fields.opcode = .ld then loadLine fields.dst alu1 (arch.mem alu1.address)
  else if fields.opcode = .st then storeLine alu1 fields.src0 alu0
  else if fields.opcode.isBranch then
    jumpLine (opcodeName fields.opcode) alu0 alu1
      (if taken shifts fields arch.regs then fields.immediate else arch.pc + 1#32)
  else haltLine arch.pc ++ finishedLine arch.pc (count + 1#32)

def trace : Text := heading count word arch ++ executionLines shifts count word arch

/-- The instruction is no load, or a load into a register that exists. -/
def tracedAlike : Bool :=
  (Fields.ofWord word).opcode ≠ .ld || 1#3 < (Fields.ofWord word).dst

/-- The processors are silent about a load into register 0 or 1. -/
def processorTrace : Text :=
  heading count word arch ++
    if tracedAlike word then executionLines shifts count word arch else []

theorem processorTrace_cases :
    tracedAlike word = true ∧ processorTrace shifts count word arch = trace shifts count word arch ∨
      tracedAlike word = false ∧ (processorTrace shifts count word arch).length <
        (trace shifts count word arch).length := by
  cases alike : tracedAlike word with
  | true => exact Or.inl ⟨rfl, by rw [processorTrace, trace, if_pos alike]⟩
  | false =>
      refine Or.inr ⟨rfl, ?_⟩
      have load : (Fields.ofWord word).opcode = .ld := by
        simp [tracedAlike] at alike
        exact alike.1
      have line : executionLines shifts count word arch =
          loadLine (Fields.ofWord word).dst ((Fields.ofWord word).operand1 arch.regs)
            (arch.mem ((Fields.ofWord word).operand1 arch.regs).address) := by
        simp [executionLines, load, Opcode.isCompute]
      have longer := length_loadLine_pos (Fields.ofWord word).dst
        ((Fields.ofWord word).operand1 arch.regs)
        (arch.mem ((Fields.ofWord word).operand1 arch.regs).address)
      rw [processorTrace, trace, alike, line]
      simp only [Bool.false_eq_true, if_false, List.append_nil, List.length_append]
      omega

end Arch

end SimpleProcessor
