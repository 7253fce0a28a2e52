import SimpleProcessor.MultiCycle.Clock
import SimpleProcessor.Isa.Semantics

/-!
# Operands in the multi-cycle simulator

DEC1 latches two operands and EXEC0 the result.  No register changes before EXEC1,
so in EXEC1 the latches still belong to the register file that the earlier
instructions have left.
-/

namespace SimpleProcessor.MultiCycle

open Transition

/-- The decoded instruction. -/
def CpuRegisters.fields (cpu : CpuRegisters) : Fields where
  opcode := cpu.opcode
  dst := cpu.dst
  src0 := cpu.src0
  src1 := cpu.src1
  immediate := cpu.immediate

/-- What the latches hold from the clock on that fills them.  A DMA instruction reads its
third register in EXEC0, and an indirect jump is always taken. -/
structure OperandsLatched (cpu : CpuRegisters) : Prop where
  fields : cpu.ctlState = .dec1 ∨ cpu.ctlState = .exec0 ∨ cpu.ctlState = .exec1 →
    cpu.fields = Fields.ofWord cpu.inst
  alu0 : cpu.ctlState = .exec0 ∨ cpu.ctlState = .exec1 →
    cpu.alu0 = if cpu.opcode = .lhi then cpu.immediate else cpu.fields.operand0 cpu.r
  alu1 : cpu.ctlState = .exec0 ∨ cpu.ctlState = .exec1 →
    cpu.alu1 = cpu.fields.operand1 cpu.r
  dma : cpu.ctlState = .exec1 → cpu.opcode = .dma → cpu.aluout = cpu.r cpu.dst
  jin : cpu.ctlState = .exec1 → cpu.opcode = .jin → cpu.aluout = 1#32

namespace OperandsLatched

variable {cpu : CpuRegisters}

theorem of_fetching (fetching : cpu.ctlState = .idle ∨ cpu.ctlState = .fetch0 ∨
    cpu.ctlState = .fetch1 ∨ cpu.ctlState = .dec0) : OperandsLatched cpu := by
  rcases fetching with ctlState | ctlState | ctlState | ctlState <;>
    constructor <;> simp [ctlState]

theorem next (latched : OperandsLatched cpu) (shifts : Shifts) (start busy : Bool)
    (dataout : Word) : OperandsLatched (nextCpu shifts start busy dataout cpu) := by
  cases ctlState : cpu.ctlState with
  | idle =>
      apply of_fetching
      cases start <;> simp [nextCpu, ctlState]
  | fetch0 | fetch1 =>
      apply of_fetching
      simp [nextCpu, ctlState]
  | dec0 =>
      constructor <;> simp [nextCpu, ctlState, CpuRegisters.fields]
  | dec1 =>
      have fields := latched.fields (Or.inl ctlState)
      constructor
      · simpa [nextCpu, ctlState, CpuRegisters.fields] using fields
      · by_cases lhi : cpu.opcode = .lhi <;>
          simp [nextCpu, ctlState, CpuRegisters.fields, Fields.operand0, lhi]
      · simp [nextCpu, ctlState, CpuRegisters.fields, Fields.operand1]
      · simp [nextCpu, ctlState]
      · simp [nextCpu, ctlState]
  | exec0 =>
      have fields := latched.fields (Or.inr (Or.inl ctlState))
      have alu0 := latched.alu0 (Or.inl ctlState)
      have alu1 := latched.alu1 (Or.inl ctlState)
      constructor
      · simpa [nextCpu, ctlState, CpuRegisters.fields] using fields
      · simpa [nextCpu, ctlState, CpuRegisters.fields] using alu0
      · simpa [nextCpu, ctlState, CpuRegisters.fields] using alu1
      · intro _ dma
        have opcode : cpu.opcode = .dma := by simpa [nextCpu, ctlState] using dma
        simp [nextCpu, ctlState, exec0Aluout, opcode]
      · intro _ jin
        have opcode : cpu.opcode = .jin := by simpa [nextCpu, ctlState] using jin
        simp [nextCpu, ctlState, exec0Aluout, opcode]
  | exec1 =>
      apply of_fetching
      by_cases idles : cpu.inst = HLT <;> simp [nextCpu, ctlState, idles]

end OperandsLatched

theorem operandsLatched_of_run {shifts : Shifts} {image : Image} {clocks : Nat} {state : State}
    (run : runFor (next shifts) clocks (afterReset image) = some state) :
    OperandsLatched state.spro.toCpuRegisters := by
  refine runFor_invariant (motive := fun state => OperandsLatched state.spro.toCpuRegisters)
    (OperandsLatched.of_fetching (Or.inl rfl)) ?_ run
  intro state state' latched step
  obtain ⟨-, -, rfl⟩ := next_eq_some.mp step
  exact latched.next shifts _ _ _

end SimpleProcessor.MultiCycle
