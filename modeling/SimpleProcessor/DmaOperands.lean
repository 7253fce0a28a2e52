import SimpleProcessor.MultiCycle.Handshake
import SimpleProcessor.MultiCycle.Operands
import SimpleProcessor.Pipeline.DmaRequests
import SimpleProcessor.Pipeline.ProgramOrder

/-!
# The three operands of a DMA instruction

The multi-cycle processor reads the third register, `dst`, in EXEC0.  The pipeline
carries two operands; in place of the third it hands on the first one, as DEC1
has read it and before EXEC0 forwards a newer value to it.
-/

namespace SimpleProcessor

open Transition Dma

/-- The transfer that a DMA instruction asks for. -/
def Fields.dmaRequest (fields : Fields) (regs : RegFile) : Request where
  src := fields.operand0 regs
  dst := regs fields.dst
  len := fields.operand1 regs

namespace MultiCycle

variable {shifts : Shifts} {image : Image} {clocks : Nat} {state state' : State}

theorem startedRequest_dma
    (run : runFor (next shifts) clocks (afterReset image) = some state)
    (exec1 : state.spro.ctlState = .exec1) (dma : state.spro.opcode = .dma)
    (free : state.spro.dma.busy = false) (step : next shifts state = some state') :
    state.startedRequest shifts = some (state.spro.fields.dmaRequest state.spro.r) := by
  have latched := operandsLatched_of_run run
  have alu0 : state.spro.alu0 = state.spro.fields.operand0 state.spro.r := by
    rw [latched.alu0 (Or.inr exec1), if_neg (by simp [dma])]
  have alu1 : state.spro.alu1 = state.spro.fields.operand1 state.spro.r :=
    latched.alu1 (Or.inr exec1)
  have aluout : state.spro.aluout = state.spro.r state.spro.dst := latched.dma exec1 dma
  have idle : state.spro.dma.busy = false → state.spro.dma.state = .idle := fun free =>
    ((ledger_of_run run).free free).1
  obtain ⟨-, -, rfl⟩ := next_eq_some.mp step
  have starts : started state.spro.dma (state.after shifts).spro.dma =
      state.cpuClock.accepted state.spro.dma := started_next idle _ _
  rw [State.startedRequest, startedIn, step, Option.bind_some, starts]
  simp [CpuClock.accepted, free, State.cpuClock, dmaRequest, exec1, dma, alu0, alu1, aluout,
    Fields.dmaRequest, CpuRegisters.fields]

end MultiCycle

namespace Pipeline

/-- Forwarding in EXEC0 leaves the first operand of a DMA instruction as it is. -/
def State.KeepsFirst (state : State) : Prop :=
  state.spro.leavesExec0 = true → state.spro.exec1Flush = false →
    state.spro.exec0.opcode = .dma → state.spro.exec0Alu0Final = state.spro.exec0.alu0

instance (state : State) : Decidable state.KeepsFirst :=
  inferInstanceAs (Decidable (_ → _ → _ → _))

variable {shifts : Shifts} {image : Image} {btb : Btb} {clocks : Nat} {state state' : State}

theorem aluout_of_keepsFirst
    (run : runFor (next shifts) clocks (afterReset image btb) = some state)
    (keeps : ∀ visited ∈ past (next shifts) clocks (afterReset image btb), visited.KeepsFirst)
    (active : state.spro.exec1.active = true) (dma : state.spro.exec1.opcode = .dma) :
    state.spro.exec1.aluout = state.spro.exec1.alu0 := by
  refine runFor_induction_of
    (motive := fun _ state => state.spro.exec1.active = true → state.spro.exec1.opcode = .dma →
      state.spro.exec1.aluout = state.spro.exec1.alu0)
    ?_ ?_ run keeps active dma
  · intro active
    cases active
  · intro _ state state' _ keeps step active dma
    obtain ⟨-, -, -, -, rfl⟩ := next_eq_some.mp step
    obtain ⟨occupied, noStall, noFlush, moved⟩ := state.spro.exec1_entered active
    rw [State.after_exec1, moved] at dma ⊢
    have opcode : state.spro.exec0.opcode = .dma := dma
    have leaves : state.spro.leavesExec0 = true := by
      simp [Registers.leavesExec0, occupied, noStall]
    have first : state.spro.exec0Aluout shifts = state.spro.exec0.alu0 := by
      simp [Registers.exec0Aluout, opcode]
    exact first.trans (keeps leaves noFlush opcode).symm

theorem startedRequest_dma
    (run : runFor (next shifts) clocks (afterReset image btb) = some state)
    (right : ∀ visited ∈ past (next shifts) clocks (afterReset image btb),
      visited.spro.misreads everySource = false)
    (keeps : ∀ visited ∈ past (next shifts) clocks (afterReset image btb), visited.KeepsFirst)
    (active : state.spro.exec1.active = true) (dma : state.spro.exec1.opcode = .dma)
    (free : state.spro.dma.busy = false) (step : next shifts state = some state') :
    state.startedRequest shifts = some
      { state.spro.exec1.toFields.dmaRequest state.spro.r with
        dst := state.spro.exec1.operand0 state.spro.r } := by
  obtain ⟨alu0, alu1⟩ := operands_of_run run right active (by simp [dma])
  have aluout := aluout_of_keepsFirst run keeps active dma
  rw [startedRequest_eq run step, free, if_neg Bool.false_ne_true, State.executedDma,
    if_pos ⟨active, dma⟩, aluout, alu0, alu1]
  rfl

end Pipeline

/-- A DMA instruction starts the transfer that its registers describe: always in the
multi-cycle processor; in the pipeline, as long as no stall drops an instruction, no operand
is misread and EXEC0 forwards nothing new to the first one of a DMA instruction, exactly when
that first operand has the value of the third. -/
theorem dma_operands (shifts : Shifts) (image : Image) :
    (∀ (clocks : Nat) (state state' : MultiCycle.State),
      runFor (MultiCycle.next shifts) clocks (MultiCycle.afterReset image) = some state →
      state.spro.ctlState = .exec1 → state.spro.opcode = .dma → state.spro.dma.busy = false →
      MultiCycle.next shifts state = some state' →
      state.startedRequest shifts = some (state.spro.fields.dmaRequest state.spro.r)) ∧
    (∀ (btb : Pipeline.Btb) (clocks : Nat) (state state' : Pipeline.State),
      runFor (Pipeline.next shifts) clocks (Pipeline.afterReset image btb) = some state →
      (∀ visited ∈ past (Pipeline.next shifts) clocks (Pipeline.afterReset image btb),
        visited.spro.stallDrops = false ∧
        visited.spro.misreads Pipeline.everySource = false ∧ visited.KeepsFirst) →
      state.spro.exec1.active = true → state.spro.exec1.opcode = .dma →
      state.spro.dma.busy = false → Pipeline.next shifts state = some state' →
      state.ReachedInOrder shifts image
          (past (Pipeline.next shifts) clocks (Pipeline.afterReset image btb)) ∧
        (state.startedRequest shifts =
            some (state.spro.exec1.toFields.dmaRequest state.spro.r) ↔
          state.spro.exec1.operand0 state.spro.r = state.spro.r state.spro.exec1.dst)) := by
  constructor
  · intro clocks state state' run exec1 dma free step
    exact MultiCycle.startedRequest_dma run exec1 dma free step
  · intro btb clocks state state' run conditions active dma free step
    constructor
    · exact Pipeline.reachedInOrder_of_run run
        (fun visited member => (conditions visited member).1)
        (fun visited member => (conditions visited member).2.1) active
    · rw [Pipeline.startedRequest_dma run (fun visited member => (conditions visited member).2.1)
        (fun visited member => (conditions visited member).2.2) active dma free step]
      simp [Fields.dmaRequest]

/-- 0: ADD r2, r0, 40; 2: DMA r2, r2, 3; additions everywhere else. -/
def copyToItselfImage : Image := fun addr =>
  if addr = 0#16 then 0x00810028#32
  else if addr = 2#16 then 0x14910003#32
  else 0#32

/-- A DMA instruction that copies three words to where they are. -/
theorem dma_operands_same :
    (∃ state, runFor (MultiCycle.next Shifts.x86) 18
        (MultiCycle.afterReset copyToItselfImage) = some state ∧
      state.startedRequest Shifts.x86 = some ⟨40#32, 40#32, 3#32⟩) ∧
    (∃ state, runFor (Pipeline.next Shifts.x86) 8
        (Pipeline.afterReset copyToItselfImage .zero) = some state ∧
      state.startedRequest Shifts.x86 = some ⟨40#32, 40#32, 3#32⟩) := by
  constructor
  · have reached : (runFor (MultiCycle.next Shifts.x86) 18
        (MultiCycle.afterReset copyToItselfImage)).map
        (fun state => (state.spro.ctlState, state.spro.opcode, state.spro.dma.busy,
          (MultiCycle.next Shifts.x86 state).isSome,
          state.spro.fields.dmaRequest state.spro.r)) =
        some (.exec1, .dma, false, true, ⟨40#32, 40#32, 3#32⟩) := by
      decide +kernel
    obtain ⟨state, run, here⟩ := Option.map_eq_some_iff.mp reached
    simp only [Prod.mk.injEq] at here
    obtain ⟨exec1, dma, free, goesOn, request⟩ := here
    obtain ⟨state', step⟩ := Option.isSome_iff_exists.mp goesOn
    refine ⟨state, run, ?_⟩
    rw [← request]
    exact (dma_operands Shifts.x86 copyToItselfImage).1 18 state state' run exec1 dma free step
  · have reached : (runFor (Pipeline.next Shifts.x86) 8
        (Pipeline.afterReset copyToItselfImage .zero)).map
        (fun state => (state.spro.exec1.active, state.spro.exec1.opcode, state.spro.dma.busy,
          (Pipeline.next Shifts.x86 state).isSome,
          state.spro.exec1.toFields.dmaRequest state.spro.r,
          decide (state.spro.exec1.operand0 state.spro.r =
            state.spro.r state.spro.exec1.dst))) =
        some (true, .dma, false, true, ⟨40#32, 40#32, 3#32⟩, true) := by
      decide +kernel
    obtain ⟨state, run, here⟩ := Option.map_eq_some_iff.mp reached
    simp only [Prod.mk.injEq] at here
    obtain ⟨active, dma, free, goesOn, request, same⟩ := here
    obtain ⟨state', step⟩ := Option.isSome_iff_exists.mp goesOn
    refine ⟨state, run, ?_⟩
    rw [← request]
    exact ((dma_operands Shifts.x86 copyToItselfImage).2 .zero 8 state state' run
      (by decide +kernel) active dma free step).2.mpr (of_decide_eq_true same)

/-- Copying one word from address 1 to the address in register 0 copies it to address 1. -/
theorem dma_dst_replaced :
    ∃ state, runFor (Pipeline.next Shifts.x86) 6
        (Pipeline.afterReset (fun _ => 0x14090001#32) .zero) = some state ∧
      state.spro.exec1.active = true ∧ state.spro.exec1.opcode = .dma ∧
      state.spro.dma.busy = false ∧
      state.startedRequest Shifts.x86 ≠
        some (state.spro.exec1.toFields.dmaRequest state.spro.r) := by
  have reached : (runFor (Pipeline.next Shifts.x86) 6
      (Pipeline.afterReset (fun _ => 0x14090001#32) .zero)).map
      (fun state => (state.spro.exec1.active, state.spro.exec1.opcode, state.spro.dma.busy,
        state.startedRequest Shifts.x86,
        state.spro.exec1.toFields.dmaRequest state.spro.r)) =
      some (true, .dma, false, some ⟨1#32, 1#32, 1#32⟩, ⟨1#32, 0#32, 1#32⟩) := by
    decide +kernel
  obtain ⟨state, run, here⟩ := Option.map_eq_some_iff.mp reached
  simp only [Prod.mk.injEq] at here
  obtain ⟨active, dma, free, started, request⟩ := here
  refine ⟨state, run, active, dma, free, ?_⟩
  rw [started, request]
  decide

end SimpleProcessor
