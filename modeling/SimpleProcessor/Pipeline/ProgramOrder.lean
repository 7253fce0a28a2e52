import SimpleProcessor.Pipeline.Forwarding

/-!
# Registers in the order of the program

An instruction that reads its operands right leaves in the registers what the
instruction set says, unless it is an LHI that exchanges two different halves.
The registers of a run without such clocks are what the retired instructions
make of them, one after the other.
-/

namespace SimpleProcessor

theorem Fields.source_value {fields : Fields} (notLhi : fields.opcode ≠ .lhi) (regs : RegFile) :
    (fields.source .alu0).value fields.immediate regs = fields.operand0 regs ∧
      (fields.source .alu1).value fields.immediate regs = fields.operand1 regs := by
  constructor
  · by_cases immediate : fields.src0 = 1#3 <;>
      simp [Fields.source, Source.value, Fields.operand0, notLhi, immediate]
  · by_cases immediate : fields.src1 = 1#3 <;>
      simp [Fields.source, Source.value, Fields.operand1, notLhi, immediate]

namespace Pipeline

open Transition

/-- All operands of all instructions. -/
def everySource (_ : Fields) (_ : Source) : Bool := true

/-- An LHI in EXEC1 finds the immediate in the low half of its destination. -/
def State.KeepsLow (state : State) : Prop :=
  state.spro.exec1.active = true → state.spro.exec1.opcode = .lhi →
    1#3 < state.spro.exec1.dst →
    (state.spro.r state.spro.exec1.dst).address = state.spro.exec1.immediate.address

instance (state : State) : Decidable state.KeepsLow :=
  inferInstanceAs (Decidable (_ → _ → _ → _))

/-- What the instruction that retires in a clock makes of registers.  A load brings the word
on the data bus, and JIN and DMP leave their address if they jump. -/
def State.retire (shifts : Shifts) (state : State) (regs : RegFile) : RegFile :=
  let exec1 := state.spro.exec1
  if exec1.active then
    match exec1.opcode with
    | .lhi => if 1#3 < exec1.dst then exec1.toFields.loadHigh regs else regs
    | .dmp | .jin => if state.spro.links then Function.update regs 7#3 exec1.pc else regs
    | _ => Arch.writeBack shifts exec1.toFields exec1.pc regs fun _ => state.sramd.dataout
  else regs

/-- The registers that the instructions retired in these states leave, one after the other. -/
def leftBy (shifts : Shifts) (before : List State) : RegFile :=
  before.foldl (fun regs state => state.retire shifts regs) fun _ => 0#32

/-- The program has come to the instruction in EXEC1: the instructions retired before it stand
on one path from address 0, and the registers are what they leave, unless an LHI among them
has exchanged two different halves. -/
structure State.ReachedInOrder (shifts : Shifts) (image : Image) (before : List State)
    (state : State) : Prop extends InProgramOrder image before state.spro.exec1.pc where
  r : (∀ visited ∈ before, visited.KeepsLow) → state.spro.r = leftBy shifts before

/-- EXEC1 writes what the instruction set says when `aluout` is the result of the operands. -/
theorem nextR_eq_retire {shifts : Shifts} {state : State}
    (active : state.spro.exec1.active = true) (notLhi : state.spro.exec1.opcode ≠ .lhi)
    (aluout : state.spro.exec1.opcode.isCompute = true ∨
        state.spro.exec1.opcode.isBranch = true →
      state.spro.exec1.aluout = aluResult shifts state.spro.exec1.opcode
        (state.spro.exec1.operand0 state.spro.r) (state.spro.exec1.operand1 state.spro.r)) :
    state.spro.nextR state.sramd.dataout = state.retire shifts state.spro.r := by
  simp only [Registers.nextR, State.retire, active, if_true]
  cases opcode : state.spro.exec1.opcode with
  | add | sub | lsf | rsf | and | or | xor =>
      simp only [opcode, Opcode.isCompute, true_or, forall_const] at aluout
      simp [Arch.writeBack, Arch.taken, opcode, Opcode.isCompute, Opcode.isBranch, aluout]
  | jlt | jle | jeq | jne =>
      simp only [opcode, Opcode.isBranch, or_true, forall_const] at aluout
      simp [Arch.writeBack, Arch.taken, opcode, Opcode.isCompute, Opcode.isBranch, aluout]
  | ld | st | dma | hlt | u code =>
      simp [Arch.writeBack, Arch.taken, opcode, Opcode.isCompute, Opcode.isBranch]
  | dmp | jin => simp [Registers.links, Registers.exec1Jumps, isJumpOpcode, active, opcode]
  | lhi => exact absurd opcode notLhi

section Run

variable {shifts : Shifts} {image : Image} {btb : Btb} {clocks : Nat} {state state' : State}

theorem alu_of_run (run : runFor (next shifts) clocks (afterReset image btb) = some state)
    (right : ∀ visited ∈ past (next shifts) clocks (afterReset image btb),
      visited.spro.misreads everySource = false)
    (active : state.spro.exec1.active = true) (port : AluPort) :
    state.spro.exec1.alu port =
      (state.spro.exec1.source port).value state.spro.exec1.immediate state.spro.r :=
  (forwarded_of_run run right).exec1 active port rfl

theorem operands_of_run
    (run : runFor (next shifts) clocks (afterReset image btb) = some state)
    (right : ∀ visited ∈ past (next shifts) clocks (afterReset image btb),
      visited.spro.misreads everySource = false)
    (active : state.spro.exec1.active = true) (notLhi : state.spro.exec1.opcode ≠ .lhi) :
    state.spro.exec1.alu0 = state.spro.exec1.operand0 state.spro.r ∧
      state.spro.exec1.alu1 = state.spro.exec1.operand1 state.spro.r := by
  obtain ⟨operand0, operand1⟩ := Fields.source_value notLhi state.spro.r
  exact ⟨(alu_of_run run right active .alu0).trans operand0,
    (alu_of_run run right active .alu1).trans operand1⟩

theorem aluout_of_run (run : runFor (next shifts) clocks (afterReset image btb) = some state)
    (active : state.spro.exec1.active = true)
    (computes : state.spro.exec1.opcode.isCompute = true ∨
      state.spro.exec1.opcode.isBranch = true) :
    state.spro.exec1.aluout =
      aluResult shifts state.spro.exec1.opcode state.spro.exec1.alu0 state.spro.exec1.alu1 := by
  refine exec1_of_run (fun exec1 => exec1.opcode.isCompute = true ∨ exec1.opcode.isBranch = true →
    exec1.aluout = aluResult shifts exec1.opcode exec1.alu0 exec1.alu1) ?_ run active computes
  intro spro computes
  exact Registers.exec0Aluout_eq shifts computes

theorem aluout_of_lhi (run : runFor (next shifts) clocks (afterReset image btb) = some state)
    (active : state.spro.exec1.active = true) (lhi : state.spro.exec1.opcode = .lhi) :
    state.spro.exec1.aluout =
      .ofHalves state.spro.exec1.alu1.address state.spro.exec1.alu0.address := by
  refine exec1_of_run (fun exec1 => exec1.opcode = .lhi →
    exec1.aluout = .ofHalves exec1.alu1.address exec1.alu0.address) ?_ run active lhi
  intro spro lhi
  have opcode : spro.exec0.opcode = .lhi := lhi
  simp only [Registers.exec0Aluout, opcode, Word.shiftLeft_or_and_mask]

/-- With the right operands LHI is right when both halves would be the same. -/
theorem regs_of_lhi_iff
    (run : runFor (next shifts) clocks (afterReset image btb) = some state)
    (right : ∀ visited ∈ past (next shifts) clocks (afterReset image btb),
      visited.spro.misreads everySource = false)
    (active : state.spro.exec1.active = true) (lhi : state.spro.exec1.opcode = .lhi)
    (named : 1#3 < state.spro.exec1.dst) (step : next shifts state = some state') :
    state'.spro.r = state.spro.exec1.toFields.loadHigh state.spro.r ↔
      (state.spro.r state.spro.exec1.dst).address = state.spro.exec1.immediate.address := by
  have alu0 : state.spro.exec1.alu0 = state.spro.exec1.immediate := by
    simpa [Exec0.alu, Fields.source, Source.value, lhi] using
      alu_of_run run right active .alu0
  have alu1 : state.spro.exec1.alu1 = state.spro.r state.spro.exec1.dst := by
    simpa [Exec0.alu, Fields.source, Source.value, lhi] using
      alu_of_run run right active .alu1
  have aluout := aluout_of_lhi run active lhi
  rw [alu0, alu1] at aluout
  obtain ⟨-, -, -, -, rfl⟩ := next_eq_some.mp step
  have written : (state.after shifts).spro.r =
      Function.update state.spro.r state.spro.exec1.dst
        (.ofHalves (state.spro.r state.spro.exec1.dst).address
          state.spro.exec1.immediate.address) := by
    simp [Registers.nextR, active, lhi, named, aluout]
  rw [written, Fields.update_eq_loadHigh_iff, Word.ofHalves_inj]
  constructor
  · exact fun both => both.1
  · exact fun same => ⟨same, same.symm⟩

/-- A clock in which LHI finds equal halves leaves the registers as the instruction set has
it. -/
theorem r_eq_retire (run : runFor (next shifts) clocks (afterReset image btb) = some state)
    (right : ∀ visited ∈ past (next shifts) clocks (afterReset image btb),
      visited.spro.misreads everySource = false)
    (low : state.KeepsLow) (step : next shifts state = some state') :
    state'.spro.r = state.retire shifts state.spro.r := by
  cases active : state.spro.exec1.active with
  | false =>
      obtain ⟨-, -, -, -, rfl⟩ := next_eq_some.mp step
      simp [State.retire, Registers.nextR, active]
  | true =>
      by_cases lhi : state.spro.exec1.opcode = .lhi
      · by_cases named : 1#3 < state.spro.exec1.dst
        · rw [(regs_of_lhi_iff run right active lhi named step).mpr (low active lhi named)]
          simp [State.retire, active, lhi, named]
        · obtain ⟨-, -, -, -, rfl⟩ := next_eq_some.mp step
          simp [State.retire, Registers.nextR, active, lhi, named]
      · obtain ⟨alu0, alu1⟩ := operands_of_run run right active lhi
        have aluout := aluout_of_run run active
        rw [alu0, alu1] at aluout
        obtain ⟨-, -, -, -, rfl⟩ := next_eq_some.mp step
        exact nextR_eq_retire active lhi aluout

/-- As long as no operand is misread and no LHI exchanges different halves, the registers are
what the retired instructions leave one after the other. -/
theorem r_of_run (run : runFor (next shifts) clocks (afterReset image btb) = some state)
    (right : ∀ visited ∈ past (next shifts) clocks (afterReset image btb),
      visited.spro.misreads everySource = false)
    (low : ∀ visited ∈ past (next shifts) clocks (afterReset image btb), visited.KeepsLow) :
    state.spro.r = leftBy shifts (past (next shifts) clocks (afterReset image btb)) := by
  refine observe_eq_foldl (fun state => state.spro.r) (fun regs state => state.retire shifts regs)
    run ?_
  intro index early visited visited' reached step
  refine r_eq_retire reached (fun earlier member => ?_) ?_ step
  · exact right earlier (mem_past_of_le run (Nat.le_of_lt early) member)
  · exact low visited ((mem_past_iff run).mpr ⟨index, early, reached⟩)

theorem reachedInOrder_of_run
    (run : runFor (next shifts) clocks (afterReset image btb) = some state)
    (noDrop : ∀ visited ∈ past (next shifts) clocks (afterReset image btb),
      visited.spro.stallDrops = false)
    (right : ∀ visited ∈ past (next shifts) clocks (afterReset image btb),
      visited.spro.misreads everySource = false)
    (active : state.spro.exec1.active = true) :
    state.ReachedInOrder shifts image (past (next shifts) clocks (afterReset image btb)) where
  toInProgramOrder := inProgramOrder_of_active run noDrop active
  r := r_of_run run right

end Run

end Pipeline

end SimpleProcessor
