import SimpleProcessor.Isa.Format
import SimpleProcessor.Dma.Clock
import SimpleProcessor.Lib.Transition

/-!
# The multi-cycle simulator

Every register exists in an old copy `spro`, which a clock reads, and a new copy
`sprn`, which it writes.  `llsim_run_clock` ends with a copy of `sprn` to `spro`,
so between clocks the two are equal and `State` keeps one of them.

The lines of `inst_trace` are in `MultiCycle.Trace`; nothing reads the other trace files.
-/

namespace SimpleProcessor.MultiCycle

open Dma (DmaRegisters dmaCtl)

/-- `CTL_STATE_IDLE` to `CTL_STATE_EXEC1`. -/
inductive CtlState where
  | idle
  | fetch0
  | fetch1
  | dec0
  | dec1
  | exec0
  | exec1
  deriving DecidableEq, Repr

/-- The registers of the CPU proper. -/
@[ext] structure CpuRegisters where
  r : RegFile
  pc : Word
  inst : Word
  opcode : Opcode
  dst : RegIndex
  src0 : RegIndex
  src1 : RegIndex
  alu0 : Word
  alu1 : Word
  aluout : Word
  immediate : Word
  ctlState : CtlState

/-- `sp_registers_t` -/
@[ext] structure Registers extends CpuRegisters where
  cycleCounter : Word
  dma : DmaRegisters

/-- The simulator between two clocks: `sp_t`, with `spro` standing for both
copies of the registers, and the globals. -/
@[ext] structure State where
  spro : Registers
  sram : Memory
  start : Bool
  nrSimulatedInstructions : Word
  stopSim : Bool

/-- The simulator inside a clock. -/
structure Sp extends State where
  sprn : Registers

/-- All registers zero. -/
def Registers.zero : Registers where
  r := fun _ => 0#32
  pc := 0#32
  inst := 0#32
  opcode := .add
  dst := 0#3
  src0 := 0#3
  src1 := 0#3
  alu0 := 0#32
  alu1 := 0#32
  aluout := 0#32
  immediate := 0#32
  ctlState := .idle
  cycleCounter := 0#32
  dma := .reset

/-- `sp_reset` -/
def spReset (sp : Sp) : Sp := { sp with sprn := .zero }

/-- The constant `HLT`. -/
def HLT : Word := 24#32

/-- `CTL_STATE_DEC0` -/
def ctlDec0 (sp : Sp) : Sp :=
  let spro := sp.spro
  let sprn := { sp.sprn with
    opcode := .ofCode ((spro.inst.sshiftRight 25 &&& 0x1f#32).setWidth 5)
    dst := (spro.inst.sshiftRight 22 &&& 0x7#32).setWidth 3
    src0 := (spro.inst.sshiftRight 19 &&& 0x7#32).setWidth 3
    src1 := (spro.inst.sshiftRight 16 &&& 0x7#32).setWidth 3
    immediate := spro.inst &&& 0xffff#32 }
  let sprn := if sprn.immediate &&& 0x8000#32 = 0#32 then sprn
    else { sprn with immediate := sprn.immediate ||| 0xffff0000#32 }
  { sp with sprn := { sprn with ctlState := .dec1 } }

/-- `CTL_STATE_DEC1` -/
def ctlDec1 (sp : Sp) : Sp :=
  let spro := sp.spro
  { sp with sprn := { sp.sprn with
    alu0 := if spro.src0 = 1#3 ∨ spro.opcode = .lhi then spro.immediate
      else spro.r spro.src0
    alu1 := if spro.src1 = 1#3 then spro.immediate else spro.r spro.src1
    ctlState := .exec0 } }

/-- Assign to `sprn->aluout`. -/
def Sp.setAluout (sp : Sp) (value : Word) : Sp :=
  { sp with sprn := { sp.sprn with aluout := value } }

/-- `CTL_STATE_EXEC0` -/
def ctlExec0 (shifts : Shifts) (sp : Sp) : Checked Sp := do
  let spro := sp.spro
  let sp ← match spro.opcode with
    | .add => .ok (sp.setAluout (spro.alu0 + spro.alu1))
    | .sub => .ok (sp.setAluout (spro.alu0 - spro.alu1))
    | .lsf => .ok (sp.setAluout (shifts.left spro.alu0 spro.alu1))
    | .rsf => .ok (sp.setAluout (shifts.right spro.alu0 spro.alu1))
    | .and => .ok (sp.setAluout (spro.alu0 &&& spro.alu1))
    | .or => .ok (sp.setAluout (spro.alu0 ||| spro.alu1))
    | .xor => .ok (sp.setAluout (spro.alu0 ^^^ spro.alu1))
    | .lhi => .ok (sp.setAluout ((spro.alu0 <<< 16) ||| (sp.sprn.aluout &&& 0xffff#32)))
    | .ld => do
        let sram ← llsimMemRead sp.sram (spro.alu1 &&& 0xffff#32)
        .ok { sp with sram }
    | .st => .ok sp
    | .dma => .ok (sp.setAluout (spro.r spro.dst))
    | .dmp => .ok (sp.setAluout (intOfBool (!spro.dma.busy)))
    | .jlt => .ok (sp.setAluout (intOfBool (spro.alu0.slt spro.alu1)))
    | .jle => .ok (sp.setAluout (intOfBool (spro.alu0.sle spro.alu1)))
    | .jeq => .ok (sp.setAluout (intOfBool (spro.alu0 = spro.alu1)))
    | .jne => .ok (sp.setAluout (intOfBool (spro.alu0 ≠ spro.alu1)))
    | .jin => .ok (sp.setAluout 1#32)
    | .hlt | .u _ => .ok sp
  .ok { sp with sprn := { sp.sprn with ctlState := .exec1 } }

/-- Assign to `sprn->r[index]`. -/
def Sp.setReg (sp : Sp) (index : RegIndex) (value : Word) : Sp :=
  { sp with sprn := { sp.sprn with r := Function.update sp.sprn.r index value } }

/-- Assign to `sprn->pc`. -/
def Sp.setPc (sp : Sp) (value : Word) : Sp :=
  { sp with sprn := { sp.sprn with pc := value } }

/-- `CTL_STATE_EXEC1`.  `dump_sram`, which HLT calls before it stops, is left out: it prints
the memory to a file and assigns to nothing that is read again.  Its last
`llsim_mem_extract` makes a 64-bit access at the last word, behind which nothing is allocated. -/
def ctlExec1 (sp : Sp) : Checked Sp := do
  let spro := sp.spro
  let sp := { sp with nrSimulatedInstructions := sp.nrSimulatedInstructions + 1#32 }
  let sp ← match spro.opcode with
    | .add | .sub | .lsf | .rsf | .and | .or | .xor | .lhi =>
        let sp := if 1#3 < spro.dst then sp.setReg spro.dst spro.aluout else sp
        .ok (sp.setPc (spro.pc + 1#32))
    | .ld => do
        let dataout ← llsimMemExtractDataout sp.sram 31 0
        let sp := if 1#3 < spro.dst then sp.setReg spro.dst dataout else sp
        .ok (sp.setPc (spro.pc + 1#32))
    | .st => do
        let sram ← llsimMemSetDatain sp.sram spro.alu0 31 0
        let sram ← llsimMemWrite sram spro.alu1
        .ok ({ sp with sram }.setPc (spro.pc + 1#32))
    | .dma =>
        -- Suppress operation if DMA machine is already busy
        if spro.dma.busy then .ok sp
        else
          let dma := { sp.sprn.dma with
            busy := true
            src := spro.alu0
            dst := spro.aluout
            len := spro.alu1 }
          .ok ({ sp with sprn := { sp.sprn with dma } }.setPc (spro.pc + 1#32))
    | .dmp | .jlt | .jle | .jeq | .jne | .jin =>
        let sp := sp.setPc (if spro.aluout ≠ 0#32 then spro.immediate else spro.pc + 1#32)
        .ok (sp.setReg 7#3 (if spro.aluout ≠ 0#32 then spro.pc else spro.r 7#3))
    | .hlt => .ok { sp with stopSim := true }
    | .u _ => .ok sp
  .ok { sp with sprn := { sp.sprn with
    ctlState := if spro.inst = HLT then .idle else .fetch0 } }

/-- `sp_ctl` -/
def spCtl (shifts : Shifts) (sp : Sp) : Checked Sp :=
  let spro := sp.spro
  let sp := { sp with sprn := { sp.sprn with cycleCounter := spro.cycleCounter + 1#32 } }
  match spro.ctlState with
  | .idle =>
      let sprn := { sp.sprn with pc := 0#32 }
      .ok { sp with sprn := if sp.start then { sprn with ctlState := .fetch0 } else sprn }
  | .fetch0 => do
      let sram ← llsimMemRead sp.sram spro.pc
      .ok { sp with sram, sprn := { sp.sprn with ctlState := .fetch1 } }
  | .fetch1 => do
      let inst ← llsimMemExtractDataout sp.sram 31 0
      .ok { sp with sprn := { sp.sprn with inst, ctlState := .dec0 } }
  | .dec0 => .ok (ctlDec0 sp)
  | .dec1 => .ok (ctlDec1 sp)
  | .exec0 => ctlExec0 shifts sp
  | .exec1 => ctlExec1 sp

/-- The test of every state of `dma_ctl` for a clock in which the CPU uses the
memory. -/
def dmaHazard (spro : Registers) : Bool :=
  spro.ctlState = .fetch0 ||
    (spro.ctlState = .exec0 && spro.opcode = .ld) ||
    (spro.ctlState = .exec1 && spro.opcode = .st)

/-- `dma_ctl` -/
def spDmaCtl (sp : Sp) : Checked Sp := do
  let sp := { sp with sprn := { sp.sprn with cycleCounter := sp.spro.cycleCounter + 1#32 } }
  let unit ← dmaCtl (dmaHazard sp.spro) ⟨sp.spro.dma, sp.sprn.dma, sp.sram⟩
  .ok { sp with
    spro := { sp.spro with dma := unit.spro }
    sprn := { sp.sprn with dma := unit.sprn }
    sram := unit.sram }

/-- `sp_run` -/
def spRun (shifts : Shifts) (reset : Bool) (sp : Sp) : Checked Sp :=
  if reset then .ok (spReset sp)
  else do
    let sp ← spCtl shifts { sp with sram := sp.sram.clearPort }
    spDmaCtl sp

/-- `llsim_run_clock`: run the unit, serve its memory, copy the registers. -/
def llsimRunClock (shifts : Shifts) (reset : Bool) (state : State) : Checked State := do
  let sp ← spRun shifts reset { state with sprn := state.spro }
  let sram ← sp.sram.serve
  .ok { sp.toState with spro := sp.sprn, sram }

/-- One iteration of the simulation loop of `main`. -/
def next (shifts : Shifts) (state : State) : Option State :=
  if state.stopSim then none else (llsimRunClock shifts false state).toOption

/-- `sp_init`, with the loader's memory image. -/
def spInit (image : Image) : State where
  spro := .zero
  sram := llsimAllocateMemory image
  start := true
  nrSimulatedInstructions := 0#32
  stopSim := false

/-- The reset clocks of `main`. -/
def resetClocks (shifts : Shifts) : Nat → State → Checked State
  | 0, state => .ok state
  | clocks + 1, state => do
      let state ← llsimRunClock shifts true state
      resetClocks shifts clocks state

/-- The state in which the simulation loop starts. -/
def afterReset (image : Image) : State :=
  { spInit image with
    sram := { llsimAllocateMemory image with dataout := 0xBAADBAAD#32 } }

theorem resetClocks_five (shifts : Shifts) (image : Image) :
    resetClocks shifts 5 (spInit image) = .ok (afterReset image) := rfl

end SimpleProcessor.MultiCycle
