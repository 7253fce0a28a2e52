import SimpleProcessor.Iss.Execution
import SimpleProcessor.MultiCycle.Operands
import SimpleProcessor.Pipeline.ProgramOrder

/-!
# LHI in the three simulators

LHI replaces the high half of its destination.  The instruction-set simulator
takes the low half from the destination.  The multi-cycle processor takes it from
`aluout`, where the result of an earlier instruction is, and the pipeline, which
carries the destination as its second operand, exchanges the two halves.
-/

namespace SimpleProcessor

open Transition

namespace Iss

variable {shifts : Shifts} {image : Image} {steps : Nat} {state state' : State}

/-- `execute` clears registers 0 and 1, so no instruction writes them. -/
theorem lowZero_of_run (run : runFor (next shifts) steps (init image) = some state) :
    state.regs.LowZero := by
  refine runFor_invariant (motive := fun state => state.regs.LowZero) ⟨rfl, rfl⟩ ?_ run
  intro state state' _ step
  rw [(executed_of_next step).2]
  simp [execute, RegFile.clearLow, RegFile.LowZero]

theorem regs_of_lhi (run : runFor (next shifts) steps (init image) = some state)
    (lhi : state.fields.opcode = .lhi) (named : 1#3 < state.fields.dst)
    (step : next shifts state = some state') :
    state'.regs = state.fields.loadHigh state.regs := by
  have low := lowZero_of_run run
  have fields : state.instruction.toFields = state.fields := fetch_toFields state.word
  have operand : state.instruction.val0 = state.fields.immediate := by
    have fetched : (fetch state.word).toFields = state.fields := fetch_toFields state.word
    simp only [State.instruction, decode, fetched, lhi, or_true, if_true]
  rw [(executed_of_next step).2]
  simp only [execute, executeOpcode, fields, lhi, operand, RegFile.clearLow_update low, named,
    if_true, Word.shiftLeft_or_and_mask, Fields.loadHigh]

end Iss

namespace MultiCycle

variable {shifts : Shifts} {image : Image} {clocks : Nat} {state state' : State}

theorem regs_of_lhi_iff (run : runFor (next shifts) clocks (afterReset image) = some state)
    (exec0 : state.spro.ctlState = .exec0) (lhi : state.spro.opcode = .lhi)
    (named : 1#3 < state.spro.dst) (done : runFor (next shifts) 2 state = some state') :
    state'.spro.r = state.spro.fields.loadHigh state.spro.r ↔
      state.spro.aluout.address = (state.spro.r state.spro.dst).address := by
  have alu0 : state.spro.alu0 = state.spro.immediate := by
    rw [(operandsLatched_of_run run).alu0 (Or.inl exec0), if_pos lhi]
  obtain ⟨middle, first, second⟩ := exists_of_runFor_succ done
  rw [runFor_one] at first
  obtain ⟨-, -, rfl⟩ := next_eq_some.mp first
  obtain ⟨-, -, rfl⟩ := next_eq_some.mp second
  have written : ((state.after shifts).after shifts).spro.r =
      Function.update state.spro.r state.spro.dst
        (.ofHalves state.spro.immediate.address state.spro.aluout.address) := by
    simp only [State.after, nextCpu, exec0, exec1Regs, lhi, named, if_true, exec0Aluout, alu0,
      Word.shiftLeft_or_and_mask]
  rw [written]
  exact (state.spro.fields.update_eq_loadHigh_iff _ _).trans
    (Word.ofHalves_inj.trans (and_iff_right rfl))

end MultiCycle

/-- LHI merges the immediate into its destination: always in the instruction-set simulator; in
the multi-cycle processor exactly when `aluout` and the destination have the same low half;
in the pipeline, as long as no stall drops an instruction and no operand is misread, exactly
when the destination has the immediate as its low half. -/
theorem lhi_merges (shifts : Shifts) (image : Image) :
    (∀ (steps : Nat) (state state' : Iss.State),
      runFor (Iss.next shifts) steps (Iss.init image) = some state →
      state.fields.opcode = .lhi → 1#3 < state.fields.dst →
      Iss.next shifts state = some state' →
      state'.regs = state.fields.loadHigh state.regs) ∧
    (∀ (clocks : Nat) (state state' : MultiCycle.State),
      runFor (MultiCycle.next shifts) clocks (MultiCycle.afterReset image) = some state →
      state.spro.ctlState = .exec0 → state.spro.opcode = .lhi → 1#3 < state.spro.dst →
      runFor (MultiCycle.next shifts) 2 state = some state' →
      (state'.spro.r = state.spro.fields.loadHigh state.spro.r ↔
        state.spro.aluout.address = (state.spro.r state.spro.dst).address)) ∧
    (∀ (btb : Pipeline.Btb) (clocks : Nat) (state state' : Pipeline.State),
      runFor (Pipeline.next shifts) clocks (Pipeline.afterReset image btb) = some state →
      (∀ visited ∈ past (Pipeline.next shifts) clocks (Pipeline.afterReset image btb),
        visited.spro.stallDrops = false ∧
        visited.spro.misreads Pipeline.everySource = false) →
      state.spro.exec1.active = true → state.spro.exec1.opcode = .lhi →
      1#3 < state.spro.exec1.dst → Pipeline.next shifts state = some state' →
      state.ReachedInOrder shifts image
          (past (Pipeline.next shifts) clocks (Pipeline.afterReset image btb)) ∧
        (state'.spro.r = state.spro.exec1.toFields.loadHigh state.spro.r ↔
          (state.spro.r state.spro.exec1.dst).address =
            state.spro.exec1.immediate.address)) := by
  refine ⟨?_, ?_, ?_⟩
  · intro steps state state' run lhi named step
    exact Iss.regs_of_lhi run lhi named step
  · intro clocks state state' run exec0 lhi named done
    exact MultiCycle.regs_of_lhi_iff run exec0 lhi named done
  · intro btb clocks state state' run conditions active lhi named step
    constructor
    · exact Pipeline.reachedInOrder_of_run run
        (fun visited member => (conditions visited member).1)
        (fun visited member => (conditions visited member).2) active
    · exact Pipeline.regs_of_lhi_iff run (fun visited member => (conditions visited member).2)
        active lhi named step

/-- 0: ADD r2, r0, 5; 1: LHI r2, 5; 2: HLT. -/
def equalHalvesImage : Image := fun addr =>
  if addr = 0#16 then 0x00810005#32
  else if addr = 1#16 then 0x0e800005#32
  else if addr = 2#16 then 0x30000000#32
  else 0#32

/-- A constant with equal halves, which the sum before it leaves in the low half. -/
theorem lhi_merges_equal_halves :
    (∃ state state', runFor (Iss.next Shifts.x86) 1 (Iss.init equalHalvesImage) = some state ∧
      Iss.next Shifts.x86 state = some state' ∧
      state'.regs = Function.update state.regs 2#3 0x50005#32) ∧
    (∃ state state', runFor (MultiCycle.next Shifts.x86) 11
        (MultiCycle.afterReset equalHalvesImage) = some state ∧
      runFor (MultiCycle.next Shifts.x86) 2 state = some state' ∧
      state'.spro.r = Function.update state.spro.r 2#3 0x50005#32) ∧
    (∃ state state', runFor (Pipeline.next Shifts.x86) 7
        (Pipeline.afterReset equalHalvesImage .zero) = some state ∧
      Pipeline.next Shifts.x86 state = some state' ∧
      state'.spro.r = Function.update state.spro.r 2#3 0x50005#32) := by
  obtain ⟨iss, multiCycle, pipeline⟩ := lhi_merges Shifts.x86 equalHalvesImage
  refine ⟨?_, ?_, ?_⟩
  · have reached : (runFor (Iss.next Shifts.x86) 1 (Iss.init equalHalvesImage)).map
        (fun state => ((Iss.next Shifts.x86 state).isSome,
          decide (state.fields.opcode = .lhi ∧ state.fields.dst = 2#3 ∧
            state.fields.immediate.address = 5#16 ∧ (state.regs 2#3).address = 5#16))) =
        some (true, true) := by
      decide +kernel
    obtain ⟨state, run, here⟩ := Option.map_eq_some_iff.mp reached
    obtain ⟨goesOn, checked⟩ := Prod.mk.inj here
    obtain ⟨lhi, dst, high, low⟩ := of_decide_eq_true checked
    obtain ⟨state', step⟩ := Option.isSome_iff_exists.mp goesOn
    refine ⟨state, state', run, step, ?_⟩
    rw [iss 1 state state' run lhi (by rw [dst]; decide) step, Fields.loadHigh, dst, high, low]
    rfl
  · have reached : (runFor (MultiCycle.next Shifts.x86) 11
        (MultiCycle.afterReset equalHalvesImage)).map
        (fun state => ((runFor (MultiCycle.next Shifts.x86) 2 state).isSome,
          decide (state.spro.ctlState = .exec0 ∧ state.spro.opcode = .lhi ∧
            state.spro.dst = 2#3 ∧ state.spro.immediate.address = 5#16 ∧
            (state.spro.r 2#3).address = 5#16 ∧ state.spro.aluout.address = 5#16))) =
        some (true, true) := by
      decide +kernel
    obtain ⟨state, run, here⟩ := Option.map_eq_some_iff.mp reached
    obtain ⟨goesOn, checked⟩ := Prod.mk.inj here
    obtain ⟨exec0, lhi, dst, high, low, aluout⟩ := of_decide_eq_true checked
    obtain ⟨state', done⟩ := Option.isSome_iff_exists.mp goesOn
    refine ⟨state, state', run, done, ?_⟩
    rw [(multiCycle 11 state state' run exec0 lhi (by rw [dst]; decide) done).mpr
      (by rw [aluout, dst, low])]
    simp only [Fields.loadHigh, MultiCycle.CpuRegisters.fields, dst, high, low]
    rfl
  · have reached : (runFor (Pipeline.next Shifts.x86) 7
        (Pipeline.afterReset equalHalvesImage .zero)).map
        (fun state => ((Pipeline.next Shifts.x86 state).isSome,
          decide (state.spro.exec1.active = true ∧ state.spro.exec1.opcode = .lhi ∧
            state.spro.exec1.dst = 2#3 ∧ state.spro.exec1.immediate.address = 5#16 ∧
            (state.spro.r 2#3).address = 5#16))) = some (true, true) := by
      decide +kernel
    obtain ⟨state, run, here⟩ := Option.map_eq_some_iff.mp reached
    obtain ⟨goesOn, checked⟩ := Prod.mk.inj here
    obtain ⟨active, lhi, dst, high, low⟩ := of_decide_eq_true checked
    obtain ⟨state', step⟩ := Option.isSome_iff_exists.mp goesOn
    refine ⟨state, state', run, step, ?_⟩
    rw [(pipeline .zero 7 state state' run (by decide +kernel) active lhi
      (by rw [dst]; decide) step).2.mpr (by rw [dst, low, high]), Fields.loadHigh, dst, high,
      low]
    rfl

/-- 0: ADD r3, r0, 7; 1: LHI r2, 1; 2: HLT. -/
def constantImage : Image := fun addr =>
  if addr = 0#16 then 0x00c10007#32
  else if addr = 1#16 then 0x0e800001#32
  else if addr = 2#16 then 0x30000000#32
  else 0#32

/-- The multi-cycle processor keeps the sum in the low half, and the pipeline has the
immediate there. -/
theorem lhi_spoils_constant :
    (∃ state state', runFor (MultiCycle.next Shifts.x86) 11
        (MultiCycle.afterReset constantImage) = some state ∧
      state.spro.ctlState = .exec0 ∧ state.spro.opcode = .lhi ∧ 1#3 < state.spro.dst ∧
      runFor (MultiCycle.next Shifts.x86) 2 state = some state' ∧
      state'.spro.r ≠ state.spro.fields.loadHigh state.spro.r) ∧
    (∃ state state', runFor (Pipeline.next Shifts.x86) 7
        (Pipeline.afterReset constantImage .zero) = some state ∧
      state.spro.exec1.active = true ∧ state.spro.exec1.opcode = .lhi ∧
      1#3 < state.spro.exec1.dst ∧
      Pipeline.next Shifts.x86 state = some state' ∧
      state'.spro.r ≠ state.spro.exec1.toFields.loadHigh state.spro.r) := by
  constructor
  · have reached : (runFor (MultiCycle.next Shifts.x86) 11
        (MultiCycle.afterReset constantImage)).map
        (fun state => (state.spro.ctlState, state.spro.opcode, state.spro.dst,
          (runFor (MultiCycle.next Shifts.x86) 2 state).map fun state' => state'.spro.r 2#3,
          state.spro.fields.loadHigh state.spro.r 2#3)) =
        some (.exec0, .lhi, 2#3, some 0x10007#32, 0x10000#32) := by
      decide +kernel
    obtain ⟨state, run, here⟩ := Option.map_eq_some_iff.mp reached
    simp only [Prod.mk.injEq] at here
    obtain ⟨exec0, lhi, dst, written, merged⟩ := here
    obtain ⟨state', done, value⟩ := Option.map_eq_some_iff.mp written
    refine ⟨state, state', run, exec0, lhi, by rw [dst]; decide, done, ?_⟩
    intro same
    rw [same, merged] at value
    exact absurd value (by decide)
  · have reached : (runFor (Pipeline.next Shifts.x86) 7
        (Pipeline.afterReset constantImage .zero)).map
        (fun state => (state.spro.exec1.active, state.spro.exec1.opcode, state.spro.exec1.dst,
          (Pipeline.next Shifts.x86 state).map fun state' => state'.spro.r 2#3,
          state.spro.exec1.toFields.loadHigh state.spro.r 2#3)) =
        some (true, .lhi, 2#3, some 1#32, 0x10000#32) := by
      decide +kernel
    obtain ⟨state, run, here⟩ := Option.map_eq_some_iff.mp reached
    simp only [Prod.mk.injEq] at here
    obtain ⟨active, lhi, dst, written, merged⟩ := here
    obtain ⟨state', step, value⟩ := Option.map_eq_some_iff.mp written
    refine ⟨state, state', run, active, lhi, by rw [dst]; decide, step, ?_⟩
    intro same
    rw [same, merged] at value
    exact absurd value (by decide)

end SimpleProcessor
