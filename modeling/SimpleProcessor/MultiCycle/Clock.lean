import SimpleProcessor.MultiCycle.Model

/-!
# One clock of the multi-cycle simulator

The new CPU registers are a function of the old ones, of the word on the memory
bus and of `dma_busy`.  A clock succeeds exactly when the address the CPU issues
is in range; the memory sees one access, the CPU's or the engine's.
-/

namespace SimpleProcessor.MultiCycle

open Dma (CpuClock Request nextRegs portAccess oldCopy)

/-- The access `sp_ctl` makes. -/
def cpuAccess (cpu : CpuRegisters) : Option Access :=
  match cpu.ctlState with
  | .fetch0 => some (.read cpu.pc)
  | .exec0 => if cpu.opcode = .ld then some (.read (cpu.alu1 &&& 0xffff#32)) else none
  | .exec1 => if cpu.opcode = .st then some (.write cpu.alu1 cpu.alu0) else none
  | _ => none

/-- The operands of a DMA instruction in EXEC1. -/
def dmaRequest (cpu : CpuRegisters) : Option Request :=
  if cpu.ctlState = .exec1 ∧ cpu.opcode = .dma then some ⟨cpu.alu0, cpu.aluout, cpu.alu1⟩
  else none

/-- `aluout` after EXEC0. -/
def exec0Aluout (shifts : Shifts) (busy : Bool) (cpu : CpuRegisters) : Word :=
  match cpu.opcode with
  | .add => cpu.alu0 + cpu.alu1
  | .sub => cpu.alu0 - cpu.alu1
  | .lsf => shifts.left cpu.alu0 cpu.alu1
  | .rsf => shifts.right cpu.alu0 cpu.alu1
  | .and => cpu.alu0 &&& cpu.alu1
  | .or => cpu.alu0 ||| cpu.alu1
  | .xor => cpu.alu0 ^^^ cpu.alu1
  | .lhi => (cpu.alu0 <<< 16) ||| (cpu.aluout &&& 0xffff#32)
  | .ld | .st | .hlt | .u _ => cpu.aluout
  | .dma => cpu.r cpu.dst
  | .dmp => intOfBool (!busy)
  | .jlt => intOfBool (cpu.alu0.slt cpu.alu1)
  | .jle => intOfBool (cpu.alu0.sle cpu.alu1)
  | .jeq => intOfBool (cpu.alu0 = cpu.alu1)
  | .jne => intOfBool (cpu.alu0 ≠ cpu.alu1)
  | .jin => 1#32

/-- The register file after EXEC1. -/
def exec1Regs (dataout : Word) (cpu : CpuRegisters) : RegFile :=
  match cpu.opcode with
  | .add | .sub | .lsf | .rsf | .and | .or | .xor | .lhi =>
      if 1#3 < cpu.dst then Function.update cpu.r cpu.dst cpu.aluout else cpu.r
  | .ld => if 1#3 < cpu.dst then Function.update cpu.r cpu.dst dataout else cpu.r
  | .dmp | .jlt | .jle | .jeq | .jne | .jin =>
      if cpu.aluout ≠ 0#32 then Function.update cpu.r 7#3 cpu.pc else cpu.r
  | .st | .dma | .hlt | .u _ => cpu.r

/-- `pc` after EXEC1. -/
def exec1Pc (busy : Bool) (cpu : CpuRegisters) : Word :=
  match cpu.opcode with
  | .add | .sub | .lsf | .rsf | .and | .or | .xor | .lhi | .ld | .st => cpu.pc + 1#32
  | .dma => if busy then cpu.pc else cpu.pc + 1#32
  | .dmp | .jlt | .jle | .jeq | .jne | .jin =>
      if cpu.aluout ≠ 0#32 then cpu.immediate else cpu.pc + 1#32
  | .hlt | .u _ => cpu.pc

/-- The CPU registers after a clock. -/
def nextCpu (shifts : Shifts) (start busy : Bool) (dataout : Word)
    (cpu : CpuRegisters) : CpuRegisters :=
  match cpu.ctlState with
  | .idle => { cpu with pc := 0#32, ctlState := if start then .fetch0 else .idle }
  | .fetch0 => { cpu with ctlState := .fetch1 }
  | .fetch1 => { cpu with inst := dataout, ctlState := .dec0 }
  | .dec0 =>
      { cpu with
        opcode := (Fields.ofWord cpu.inst).opcode
        dst := (Fields.ofWord cpu.inst).dst
        src0 := (Fields.ofWord cpu.inst).src0
        src1 := (Fields.ofWord cpu.inst).src1
        immediate := (Fields.ofWord cpu.inst).immediate
        ctlState := .dec1 }
  | .dec1 =>
      { cpu with
        alu0 := if cpu.src0 = 1#3 ∨ cpu.opcode = .lhi then cpu.immediate else cpu.r cpu.src0
        alu1 := if cpu.src1 = 1#3 then cpu.immediate else cpu.r cpu.src1
        ctlState := .exec0 }
  | .exec0 => { cpu with aluout := exec0Aluout shifts busy cpu, ctlState := .exec1 }
  | .exec1 =>
      { cpu with
        r := exec1Regs dataout cpu
        pc := exec1Pc busy cpu
        ctlState := if cpu.inst = HLT then .idle else .fetch0 }

/-- The CPU completes an instruction in this clock. -/
def completes (cpu : CpuRegisters) : Bool := cpu.ctlState = .exec1

/-- The CPU executes a HLT in this clock. -/
def halts (cpu : CpuRegisters) : Bool := cpu.ctlState = .exec1 && cpu.opcode = .hlt

/-- The CPU as the engine sees it. -/
def State.cpuClock (state : State) : CpuClock where
  hazard := dmaHazard state.spro
  access := cpuAccess state.spro.toCpuRegisters
  request := dmaRequest state.spro.toCpuRegisters

theorem ctlDec0_eq (sp : Sp) :
    ctlDec0 sp =
      { sp with sprn := { sp.sprn with
        opcode := (Fields.ofWord sp.spro.inst).opcode
        dst := (Fields.ofWord sp.spro.inst).dst
        src0 := (Fields.ofWord sp.spro.inst).src0
        src1 := (Fields.ofWord sp.spro.inst).src1
        immediate := (Fields.ofWord sp.spro.inst).immediate
        ctlState := .dec1 } } := by
  have opcode := setWidth_sshiftRight_and_mask sp.spro.inst 5 25 0x1f#32
    (by decide) (by decide)
  have field (low : Nat) (inside : low + 3 ≤ 32) :=
    setWidth_sshiftRight_and_mask sp.spro.inst 3 low 0x7#32 (by decide) inside
  have extended := signExtend_immediate sp.spro.inst
  simp only [ctlDec0, opcode, field 22 (by decide), field 19 (by decide),
    field 16 (by decide), Fields.ofWord, ← extended]
  split <;> rfl

theorem ctlExec0_eq (shifts : Shifts) (sp : Sp) (kept : sp.sprn.aluout = sp.spro.aluout) :
    ctlExec0 shifts sp =
      (sp.sram.announce (if sp.spro.opcode = .ld
        then some (.read (sp.spro.alu1 &&& 0xffff#32)) else none)).map fun sram =>
        { sp with
          sram
          sprn := { sp.sprn with
            aluout := exec0Aluout shifts sp.spro.dma.busy sp.spro.toCpuRegisters
            ctlState := .exec1 } } := by
  cases opcode : sp.spro.opcode with
  | ld =>
      simp only [ctlExec0, opcode, exec0Aluout, if_true, ← kept, Memory.announce]
      cases llsimMemRead sp.sram (sp.spro.alu1 &&& 0xffff#32) <;> rfl
  | _ => simp [ctlExec0, opcode, exec0Aluout, ← kept, Sp.setAluout, Except.map]

theorem ctlExec1_eq (sp : Sp)
    (copies : sp.sprn = { sp.spro with cycleCounter := sp.spro.cycleCounter + 1#32 })
    (exec1 : sp.spro.ctlState = .exec1) :
    ctlExec1 sp =
      (sp.sram.announce (if sp.spro.opcode = .st
        then some (.write sp.spro.alu1 sp.spro.alu0) else none)).map fun sram =>
        { sp with
          sram
          nrSimulatedInstructions := sp.nrSimulatedInstructions + 1#32
          stopSim := halts sp.spro.toCpuRegisters || sp.stopSim
          sprn := { sp.sprn with
            r := exec1Regs sp.sram.dataout sp.spro.toCpuRegisters
            pc := exec1Pc sp.spro.dma.busy sp.spro.toCpuRegisters
            ctlState := if sp.spro.inst = HLT then .idle else .fetch0
            dma := sp.cpuClock.load sp.spro.dma } } := by
  have request : dmaRequest sp.spro.toCpuRegisters =
      if sp.spro.opcode = .dma then some ⟨sp.spro.alu0, sp.spro.aluout, sp.spro.alu1⟩
      else none := by
    simp [dmaRequest, exec1]
  cases opcode : sp.spro.opcode with
  | add | sub | lsf | rsf | and | or | xor | lhi | ld =>
      by_cases written : 1#3 < sp.spro.dst <;>
        simp [ctlExec1, opcode, copies, exec1Regs, exec1Pc, halts, written, Sp.setReg, Sp.setPc,
          request, State.cpuClock, CpuClock.load, CpuClock.accepted, Except.map]
  | st =>
      simp only [ctlExec1, opcode, copies, exec1Regs, exec1Pc, halts, Sp.setPc, Memory.announce,
        llsimMemSetDatain_full, Checked.ok_bind, if_true]
      cases llsimMemWrite { sp.sram with datain := sp.spro.alu0 } sp.spro.alu1 <;>
        simp [Except.map, request, State.cpuClock, CpuClock.load, CpuClock.accepted, opcode]
  | dma =>
      cases busy : sp.spro.dma.busy <;>
        simp [ctlExec1, opcode, copies, busy, exec1Regs, exec1Pc, halts, Sp.setPc,
          request, State.cpuClock, CpuClock.load, CpuClock.accepted, Except.map]
  | dmp | jlt | jle | jeq | jne | jin =>
      by_cases taken : sp.spro.aluout = 0#32 <;>
        simp [ctlExec1, opcode, copies, exec1Regs, exec1Pc, halts, taken, Sp.setReg, Sp.setPc,
          request, State.cpuClock, CpuClock.load, CpuClock.accepted, Except.map]
  | hlt | u code =>
      simp [ctlExec1, opcode, copies, exec1Regs, exec1Pc, halts, exec1,
        request, State.cpuClock, CpuClock.load, CpuClock.accepted, Except.map]

theorem spCtl_eq (shifts : Shifts) (state : State) :
    spCtl shifts ⟨state, state.spro⟩ =
      (state.sram.announce (cpuAccess state.spro.toCpuRegisters)).map fun sram =>
        { state with
          sram
          nrSimulatedInstructions :=
            if completes state.spro.toCpuRegisters then state.nrSimulatedInstructions + 1#32
            else state.nrSimulatedInstructions
          stopSim := halts state.spro.toCpuRegisters || state.stopSim
          sprn :=
            { nextCpu shifts state.start state.spro.dma.busy state.sram.dataout
                state.spro.toCpuRegisters with
              cycleCounter := state.spro.cycleCounter + 1#32
              dma := state.cpuClock.load state.spro.dma } } := by
  have noRequest (other : state.spro.ctlState ≠ .exec1) :
      state.cpuClock.load state.spro.dma = state.spro.dma := by
    simp [CpuClock.load, CpuClock.accepted, State.cpuClock, dmaRequest, other]
  cases ctlState : state.spro.ctlState with
  | idle =>
      rw [noRequest (by simp [ctlState])]
      obtain ⟨spro, sram, start, nrSimulatedInstructions, stopSim⟩ := state
      simp only at ctlState
      cases start <;>
        simp [spCtl, ctlState, cpuAccess, nextCpu, completes, halts, Except.map]
  | fetch0 =>
      rw [noRequest (by simp [ctlState])]
      simp only [spCtl, ctlState, cpuAccess, Memory.announce]
      cases llsimMemRead state.sram state.spro.pc <;>
        simp [ctlState, nextCpu, completes, halts, Except.map]
  | fetch1 =>
      rw [noRequest (by simp [ctlState])]
      simp [spCtl, ctlState, cpuAccess, nextCpu, completes, halts, Except.map]
  | dec0 =>
      rw [noRequest (by simp [ctlState])]
      simp [spCtl, ctlState, ctlDec0_eq, cpuAccess, nextCpu, completes, halts, Except.map]
  | dec1 =>
      rw [noRequest (by simp [ctlState])]
      simp [spCtl, ctlState, ctlDec1, cpuAccess, nextCpu, completes, halts, Except.map]
  | exec0 =>
      rw [noRequest (by simp [ctlState])]
      simp [spCtl, ctlState, ctlExec0_eq, cpuAccess, nextCpu, completes, halts]
  | exec1 =>
      simp only [spCtl, ctlState]
      rw [ctlExec1_eq _ rfl ctlState]
      simp [ctlState, cpuAccess, nextCpu, completes, State.cpuClock]

theorem State.cpuClock_wellTimed (state : State) : state.cpuClock.WellTimed := by
  intro quiet
  simp only [State.cpuClock, dmaHazard, Bool.or_eq_false_iff, Bool.and_eq_false_iff,
    decide_eq_false_iff_not] at quiet
  obtain ⟨⟨notFetch0, notLoad⟩, notStore⟩ := quiet
  simp only [State.cpuClock, cpuAccess]
  cases ctlState : state.spro.ctlState with
  | fetch0 => exact absurd ctlState notFetch0
  | exec0 => simpa [ctlState] using notLoad
  | exec1 => simpa [ctlState] using notStore
  | idle | fetch1 | dec0 | dec1 => rfl

/-- The access made in a clock, the CPU's or the engine's. -/
def State.portAccess (state : State) : Option Access :=
  Dma.portAccess state.cpuClock.hazard state.cpuClock.access state.spro.dma

/-- The state after a clock. -/
def State.after (shifts : Shifts) (state : State) : State where
  spro :=
    { nextCpu shifts state.start state.spro.dma.busy state.sram.dataout
        state.spro.toCpuRegisters with
      cycleCounter := state.spro.cycleCounter + 1#32
      dma := nextRegs state.cpuClock.hazard state.spro.dma state.sram.dataout
        (state.cpuClock.load state.spro.dma) }
  sram := state.sram.after state.portAccess
  start := state.start
  nrSimulatedInstructions :=
    if completes state.spro.toCpuRegisters then state.nrSimulatedInstructions + 1#32
    else state.nrSimulatedInstructions
  stopSim := halts state.spro.toCpuRegisters || state.stopSim

theorem spRun_eq (shifts : Shifts) (state : State) :
    spRun shifts false { state with sprn := state.spro } =
      .ok { state.after shifts with
        spro := { state.spro with dma := oldCopy state.spro.dma }
        sram := state.sram.announced state.portAccess
        sprn := (state.after shifts).spro } := by
  have turn := Dma.dmaCtl_after_cpu state.cpuClock_wellTimed state.spro.dma
    (state.cpuClock.load state.spro.dma) state.sram
  have ctl := spCtl_eq shifts { state with sram := state.sram.clearPort }
  simp only [State.cpuClock] at turn
  simp only [Memory.announce_clearPort, State.cpuClock, Except.map] at ctl
  simp only [spRun, Bool.false_eq_true, if_false, ctl, Checked.ok_bind, spDmaCtl, turn]
  rfl

theorem llsimRunClock_served (shifts : Shifts) (state : State) :
    llsimRunClock shifts false state =
      (state.sram.announced state.portAccess).serve.map fun sram =>
        { state.after shifts with sram } := by
  rw [llsimRunClock, spRun_eq, Checked.ok_bind, Checked.bind_ok_eq_map]

/-- A clock succeeds exactly when the CPU's address is in range. -/
theorem llsimRunClock_eq_ok {shifts : Shifts} {state state' : State} :
    llsimRunClock shifts false state = .ok state' ↔
      (∀ made, cpuAccess state.spro.toCpuRegisters = some made → made.InRange) ∧
      state.after shifts = state' := by
  have inRange_iff := Dma.portAccess_inRange state.spro.dma state.cpuClock_wellTimed
  rw [llsimRunClock_served, ← Checked.bind_ok_eq_map, Checked.bind_eq_ok]
  simp only [Memory.serve_announced, State.portAccess, inRange_iff]
  constructor
  · rintro ⟨sram, ⟨inRange, rfl⟩, done⟩
    exact ⟨inRange, Except.ok.inj done⟩
  · rintro ⟨inRange, rfl⟩
    exact ⟨_, ⟨inRange, rfl⟩, rfl⟩

theorem next_eq_some {shifts : Shifts} {state state' : State} :
    next shifts state = some state' ↔
      state.stopSim = false ∧
      (∀ made, cpuAccess state.spro.toCpuRegisters = some made → made.InRange) ∧
      state.after shifts = state' := by
  cases stopped : state.stopSim with
  | true => simp [next, stopped]
  | false =>
      simp only [next, stopped, Bool.false_eq_true, if_false, Checked.toOption_eq_some,
        llsimRunClock_eq_ok, true_and]

theorem next_dma {shifts : Shifts} {state state' : State}
    (step : next shifts state = some state') :
    Dma.clock state.cpuClock ⟨state.spro.dma, state.sram⟩ =
      .ok ⟨state'.spro.dma, state'.sram⟩ := by
  obtain ⟨-, inRange, rfl⟩ := next_eq_some.mp step
  exact (Dma.clock_eq_ok state.cpuClock_wellTimed).mpr ⟨inRange, rfl⟩

end SimpleProcessor.MultiCycle
