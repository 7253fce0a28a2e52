import SimpleProcessor.Isa.Format
import SimpleProcessor.Dma.Clock
import SimpleProcessor.Lib.Transition

/-!
# The pipelined simulator

Six stages write the new registers `sprn` in textual order, so a later stage
overrides an earlier one: the resets of an empty stage, the flush in DEC0 and
the flush in EXEC1.  All of them read the old registers `spro`.

Each stage's registers are one structure; a stage hands the common part on to
the next.  The lines of `inst_trace` are in `Pipeline.Trace`; nothing reads the
other trace files.
-/

namespace SimpleProcessor.Pipeline

open Dma (DmaRegisters dmaCtl)

/-- `BTB_SIZE` -/
def btbSize : Word := 64#32

/-- `btb_is_taken`, an array of `char`, and `btb_target`. -/
@[ext] structure Btb where
  isTaken : BitVec 6 → BitVec 8
  target : BitVec 6 → Word

/-- Element `pc % BTB_SIZE` of an array; the C remainder has the sign of `pc`. -/
def btbAddr (pc : Word) : Checked (BitVec 6) :=
  let index := pc.srem btbSize
  if index.slt 0#32 then .error .outOfBounds else .ok (index.setWidth 6)

/-- `fetch0_*` -/
@[ext] structure Fetch0 where
  active : Bool
  pc : Word

/-- What every later stage knows about its instruction. -/
@[ext] structure Slot where
  active : Bool
  pc : Word
  btbTarget : Word
  btbIsTaken : Word

/-- `fetch1_*` -/
@[ext] structure Fetch1 extends Slot where
  savedInst : Word
  useSaved : Bool

/-- `dec0_*` -/
@[ext] structure Dec0 extends Slot where
  inst : Word

/-- `dec1_*` -/
@[ext] structure Dec1 extends Dec0, Fields

/-- `exec0_*` -/
@[ext] structure Exec0 extends Dec1 where
  alu0 : Word
  alu1 : Word

/-- `exec1_*` -/
@[ext] structure Exec1 extends Exec0 where
  aluout : Word

/-- `mem_stall`, `mem_SRAM_DO` and `mem_dst` -/
@[ext] structure LoadLatch where
  stall : Bool
  sramDo : Word
  dst : RegIndex

/-- `sp_registers_t` -/
@[ext] structure Registers where
  r : RegFile
  cycleCounter : Word
  fetch0 : Fetch0
  fetch1 : Fetch1
  dec0 : Dec0
  dec1 : Dec1
  exec0 : Exec0
  exec1 : Exec1
  mem : LoadLatch
  dma : DmaRegisters

/-- The simulator between two clocks: `sp_t`, with `spro` standing for both
copies of the registers, and the globals. -/
@[ext] structure State where
  spro : Registers
  srami : Memory
  sramd : Memory
  btb : Btb
  start : Bool
  nrSimulatedInstructions : Word
  stopSim : Bool

/-- The simulator inside a clock. -/
structure Sp extends State where
  sprn : Registers

def Slot.zero : Slot := ⟨false, 0#32, 0#32, 0#32⟩

def Dec1.zero : Dec1 :=
  { Slot.zero with
    inst := 0#32, opcode := .add, dst := 0#3, src0 := 0#3, src1 := 0#3, immediate := 0#32 }

/-- All registers zero. -/
def Registers.zero : Registers where
  r := fun _ => 0#32
  cycleCounter := 0#32
  fetch0 := ⟨false, 0#32⟩
  fetch1 := { Slot.zero with savedInst := 0#32, useSaved := false }
  dec0 := Dec1.zero.toDec0
  dec1 := Dec1.zero
  exec0 := { Dec1.zero with alu0 := 0#32, alu1 := 0#32 }
  exec1 := { Dec1.zero with alu0 := 0#32, alu1 := 0#32, aluout := 0#32 }
  mem := ⟨false, 0#32, 0#3⟩
  dma := .reset

/-- `sp_reset` -/
def spReset (sp : Sp) : Sp := { sp with sprn := .zero }

/-- `is_jump_opcode` -/
def isJumpOpcode : Opcode → Bool
  | .dmp | .jlt | .jle | .jeq | .jne | .jin => true
  | _ => false

/-! ## Bypass and stall signals -/

namespace Registers

variable (spro : Registers)

/-- `dec1_r0_bypass_en` -/
def dec1R0BypassEn : Bool :=
  1#3 < spro.dec1.src0 && spro.dec1.src0 = spro.exec1.dst && spro.exec1.active

/-- `dec1_r1_cmp` -/
def dec1R1Cmp : RegIndex := if spro.dec1.opcode = .lhi then spro.dec1.dst else spro.dec1.src1

/-- `dec1_r1_bypass_en` -/
def dec1R1BypassEn : Bool :=
  1#3 < spro.dec1R1Cmp && spro.dec1R1Cmp = spro.exec1.dst && spro.exec1.active

/-- `exec0_alu1_cmp` -/
def exec0Alu1Cmp : RegIndex :=
  if spro.exec0.opcode = .lhi then spro.exec0.dst else spro.exec0.src1

/-- `exec0_exec1_to_alu0_bypass` and `exec0_exec1_to_alu1_bypass`, for the register
that each of them compares. -/
def exec1ToAluBypass (cmp : RegIndex) : Bool :=
  1#3 < cmp && cmp = spro.exec1.dst && spro.exec1.opcode ≠ .st && spro.exec1.active

/-- `exec0_mem_to_alu0_bypass` and `exec0_mem_to_alu1_bypass`. -/
def memToAluBypass (cmp : RegIndex) : Bool :=
  1#3 < cmp && spro.mem.stall && cmp = spro.mem.dst

/-- `exec0_alu0_final` and `exec0_alu1_final`: the multiplexer in front of the
arithmetic unit. -/
def exec0AluFinal (cmp : RegIndex) (alu : Word) : Word :=
  if spro.exec1ToAluBypass cmp || spro.memToAluBypass cmp then
    if spro.exec1ToAluBypass cmp && spro.exec1.active then spro.exec1.aluout
    else spro.mem.sramDo
  else alu

/-- `exec0_alu0_final` -/
def exec0Alu0Final : Word := spro.exec0AluFinal spro.exec0.src0 spro.exec0.alu0

/-- `exec0_alu1_final` -/
def exec0Alu1Final : Word := spro.exec0AluFinal spro.exec0Alu1Cmp spro.exec0.alu1

/-- `is_pipe_stalled`, which `sp_ctl` computes before it is read in a clock.  The
occupancy of EXEC0 is not tested. -/
def isPipeStalled : Bool :=
  spro.exec1.active &&
    ((spro.exec0.opcode = .ld && spro.exec1.opcode = .st) ||
      (spro.exec1.opcode = .ld &&
        (spro.exec1.dst = spro.exec0.src0 || spro.exec1.dst = spro.exec0Alu1Cmp)))

end Registers

/-! ## Stages -/

/-- The block `fetch0` of `sp_ctl`. -/
def ctlFetch0 (sp : Sp) : Checked Sp :=
  let spro := sp.spro
  if spro.fetch0.active && !spro.isPipeStalled then do
    let addr ← btbAddr spro.fetch0.pc
    let srami ← llsimMemRead sp.srami spro.fetch0.pc
    let sprn := { sp.sprn with
      fetch0.pc :=
        if sp.btb.isTaken addr ≠ 0#8 then sp.btb.target addr else spro.fetch0.pc + 1#32 }
    let sprn := { sprn with
      fetch1.active := true
      fetch1.pc := spro.fetch0.pc
      fetch1.btbIsTaken := (sp.btb.isTaken addr).signExtend 32
      fetch1.btbTarget := sp.btb.target addr }
    .ok { sp with srami, sprn }
  else .ok sp

/-- The block `fetch1`. -/
def ctlFetch1 (sp : Sp) : Checked Sp :=
  let spro := sp.spro
  if spro.fetch1.active then do
    let inst ← llsimMemExtractDataout sp.srami 31 0
    if spro.isPipeStalled then
      .ok { sp with sprn := { sp.sprn with
        fetch1.savedInst := inst
        fetch1.useSaved := true } }
    else
      .ok { sp with sprn := { sp.sprn with
        fetch1.useSaved := false
        dec0.active := true
        dec0.inst := if spro.fetch1.useSaved then spro.fetch1.savedInst else inst
        dec0.pc := spro.fetch1.pc
        dec0.btbIsTaken := spro.fetch1.btbIsTaken
        dec0.btbTarget := spro.fetch1.btbTarget } }
  else .ok { sp with sprn := { sp.sprn with dec0.active := false } }

/-- The block `dec0`. -/
def ctlDec0 (sp : Sp) : Sp :=
  let spro := sp.spro
  let inst := spro.dec0.inst
  let sp :=
    if spro.dec0.active && !spro.isPipeStalled then
      let opcode := Opcode.ofCode ((inst.sshiftRight 25 &&& 0x1f#32).setWidth 5)
      let sprn := { sp.sprn with
        dec1.active := true
        dec1.pc := spro.dec0.pc
        dec1.inst := inst
        dec1.opcode := opcode
        dec1.src0 := (inst.sshiftRight 19 &&& 0x7#32).setWidth 3
        dec1.src1 := (inst.sshiftRight 16 &&& 0x7#32).setWidth 3
        dec1.dst := (inst.sshiftRight 22 &&& 0x7#32).setWidth 3 }
      let immediate := inst &&& 0xffff#32
      let sprn := { sprn with
        dec1.immediate :=
          if immediate &&& 0x8000#32 = 0#32 then immediate else immediate ||| 0xffff0000#32 }
      -- if predicted jump taken, but opcode is not jump, flush pipe
      let sprn :=
        if !isJumpOpcode opcode && spro.dec0.btbIsTaken ≠ 0#32 then
          { sprn with
            fetch1.active := false
            dec0.active := false
            fetch0.pc := spro.dec0.pc + 1#32 }
        else sprn
      { sp with sprn := { sprn with
        dec1.btbIsTaken := spro.dec0.btbIsTaken
        dec1.btbTarget := spro.dec0.btbTarget } }
    else sp
  if spro.dec0.active then sp else { sp with sprn := { sp.sprn with dec1.active := false } }

/-- The block `dec1`. -/
def ctlDec1 (sp : Sp) : Sp :=
  let spro := sp.spro
  let sp :=
    if spro.dec1.active && !spro.isPipeStalled then
      let r0Final := if spro.dec1R0BypassEn then spro.exec1.aluout else spro.r spro.dec1.src0
      let alu0 :=
        if spro.dec1.src0 = 1#3 ∨ spro.dec1.opcode = .lhi then spro.dec1.immediate else r0Final
      let alu1 :=
        if spro.dec1.opcode = .lhi then
          if spro.dec1R1BypassEn then spro.exec1.aluout else spro.r spro.dec1.dst
        else
          let r1Final := if spro.dec1R1BypassEn then spro.exec1.aluout else spro.r spro.dec1.src1
          if spro.dec1.src1 = 1#3 then spro.dec1.immediate else r1Final
      { sp with sprn := { sp.sprn with
        exec0 := { spro.dec1 with active := true, alu0, alu1 } } }
    else sp
  if spro.dec1.active then sp else { sp with sprn := { sp.sprn with exec0.active := false } }

/-- Assign to `sprn->exec1_aluout`. -/
def Sp.setAluout (sp : Sp) (value : Word) : Sp :=
  { sp with sprn := { sp.sprn with exec1.aluout := value } }

/-- The block `exec0`. -/
def ctlExec0 (shifts : Shifts) (sp : Sp) : Checked Sp := do
  let spro := sp.spro
  let sp ←
    if spro.exec0.active && !spro.isPipeStalled then
      let alu0 := spro.exec0Alu0Final
      let alu1 := spro.exec0Alu1Final
      let sp := { sp with sprn := { sp.sprn with
        exec1 := { spro.exec0 with active := true, alu0, alu1, aluout := sp.sprn.exec1.aluout } } }
      match spro.exec0.opcode with
      | .add => .ok (sp.setAluout (alu0 + alu1))
      | .sub => .ok (sp.setAluout (alu0 - alu1))
      | .lsf => .ok (sp.setAluout (shifts.left alu0 alu1))
      | .rsf => .ok (sp.setAluout (shifts.right alu0 alu1))
      | .and => .ok (sp.setAluout (alu0 &&& alu1))
      | .or => .ok (sp.setAluout (alu0 ||| alu1))
      | .xor => .ok (sp.setAluout (alu0 ^^^ alu1))
      | .lhi => .ok (sp.setAluout ((alu1 <<< 16) ||| (alu0 &&& 0xffff#32)))
      | .ld => do
          let sramd ← llsimMemRead sp.sramd (alu1 &&& 0xffff#32)
          .ok { sp with sramd }
      | .st => .ok sp
      | .dma => .ok (sp.setAluout spro.exec0.alu0)
      | .dmp => .ok (sp.setAluout (intOfBool (spro.exec0.alu0 = 0#32)))
      | .jlt => .ok (sp.setAluout (intOfBool (alu0.slt alu1)))
      | .jle => .ok (sp.setAluout (intOfBool (alu0.sle alu1)))
      | .jeq => .ok (sp.setAluout (intOfBool (alu0 = alu1)))
      | .jne => .ok (sp.setAluout (intOfBool (alu0 ≠ alu1)))
      | .jin => .ok (sp.setAluout 1#32)
      | .hlt | .u _ => .ok sp
    else .ok sp
  let sp := if spro.isPipeStalled then { sp with sprn := { sp.sprn with exec1.active := false } }
    else sp
  if spro.exec0.active then .ok sp
  else .ok { sp with sprn := { sp.sprn with exec1.active := false } }

/-- Assign to `sprn->r[index]`. -/
def Sp.setReg (sp : Sp) (index : RegIndex) (value : Word) : Sp :=
  { sp with sprn := { sp.sprn with r := Function.update sp.sprn.r index value } }

/-- Clear the active bits behind EXEC1 and fetch from `target`. -/
def Sp.flush (sp : Sp) (target : Word) : Sp :=
  { sp with sprn := { sp.sprn with
    fetch1.active := false
    dec0.active := false
    dec1.active := false
    exec0.active := false
    exec1.active := false
    fetch0.pc := target } }

/-- The branch of `exec1` for jumps. -/
def ctlExec1Jump (addr : BitVec 6) (sp : Sp) : Sp :=
  let exec1 := sp.spro.exec1
  let sp := if exec1.aluout ≠ 0#32 then sp.setReg 7#3 exec1.pc else sp
  let sp := { sp with btb := {
    isTaken := Function.update sp.btb.isTaken addr (exec1.aluout.setWidth 8)
    target := Function.update sp.btb.target addr exec1.immediate } }
  let isFlushNeeded := exec1.aluout ≠ exec1.btbIsTaken ∨
    (exec1.aluout ≠ 0#32 ∧ exec1.btbTarget ≠ exec1.immediate)
  if isFlushNeeded then
    sp.flush (if exec1.aluout ≠ 0#32 then exec1.immediate else exec1.pc + 1#32)
  else sp

/-- The block `exec1`.  `dump_sram`, which HLT calls for both memories, is left out: it prints
a memory to a file and assigns to nothing that is read again.  Its last
`llsim_mem_extract` makes a 64-bit access at the last word, behind which nothing is allocated. -/
def ctlExec1 (sp : Sp) : Checked Sp :=
  let exec1 := sp.spro.exec1
  if exec1.active then do
    let sp := { sp with nrSimulatedInstructions := sp.nrSimulatedInstructions + 1#32 }
    let sp := { sp with sprn := { sp.sprn with mem.stall := false } }
    let addr ← btbAddr exec1.pc
    let sp := { sp with btb := { sp.btb with
      isTaken := Function.update sp.btb.isTaken addr 0#8 } }
    match exec1.opcode with
    | .add | .sub | .lsf | .rsf | .and | .or | .xor | .lhi =>
        .ok (if 1#3 < exec1.dst then sp.setReg exec1.dst exec1.aluout else sp)
    | .ld =>
        if 1#3 < exec1.dst then do
          let sramDo ← llsimMemExtractDataout sp.sramd 31 0
          let sp := { sp with sprn := { sp.sprn with mem := ⟨true, sramDo, exec1.dst⟩ } }
          .ok (sp.setReg exec1.dst sramDo)
        else .ok sp
    | .st => do
        let sramd ← llsimMemSetDatain sp.sramd exec1.alu0 31 0
        let sramd ← llsimMemWrite sramd exec1.alu1
        .ok { sp with sramd }
    | .dma =>
        -- Suppress operation if DMA machine is already busy
        if sp.spro.dma.busy then .ok sp
        else .ok { sp with sprn := { sp.sprn with
          dma.busy := true
          dma.src := exec1.alu0
          dma.dst := exec1.aluout
          dma.len := exec1.alu1 } }
    | .dmp | .jlt | .jle | .jeq | .jne | .jin => .ok (ctlExec1Jump addr sp)
    | .hlt => .ok { sp with stopSim := true }
    | .u _ => .ok sp
  else .ok sp

/-- `sp_ctl` -/
def spCtl (shifts : Shifts) (sp : Sp) : Checked Sp := do
  let sp := { sp with sprn := { sp.sprn with cycleCounter := sp.spro.cycleCounter + 1#32 } }
  let sp := if sp.start then { sp with sprn := { sp.sprn with fetch0.active := true } } else sp
  let sp ← ctlFetch0 sp
  let sp ← ctlFetch1 sp
  let sp := ctlDec0 sp
  let sp := ctlDec1 sp
  let sp ← ctlExec0 shifts sp
  ctlExec1 sp

/-- `is_dma_hazard` -/
def isDmaHazard (spro : Registers) : Bool :=
  (!spro.isPipeStalled && spro.exec0.active && spro.exec0.opcode = .ld) ||
    (spro.exec1.active && spro.exec1.opcode = .st)

/-- `dma_ctl`, on the data memory. -/
def spDmaCtl (sp : Sp) : Checked Sp := do
  let sp := { sp with sprn := { sp.sprn with cycleCounter := sp.spro.cycleCounter + 1#32 } }
  let unit ← dmaCtl (isDmaHazard sp.spro) ⟨sp.spro.dma, sp.sprn.dma, sp.sramd⟩
  .ok { sp with
    spro := { sp.spro with dma := unit.spro }
    sprn := { sp.sprn with dma := unit.sprn }
    sramd := unit.sram }

/-- `sp_run` -/
def spRun (shifts : Shifts) (reset : Bool) (sp : Sp) : Checked Sp :=
  if reset then .ok (spReset sp)
  else do
    let sp ← spCtl shifts
      { sp with srami := sp.srami.clearPort, sramd := sp.sramd.clearPort }
    spDmaCtl sp

/-- `llsim_run_clock`: run the unit, serve its memories, the last one allocated
first, and copy the registers. -/
def llsimRunClock (shifts : Shifts) (reset : Bool) (state : State) : Checked State := do
  let sp ← spRun shifts reset { state with sprn := state.spro }
  let sramd ← sp.sramd.serve
  let srami ← sp.srami.serve
  .ok { sp.toState with spro := sp.sprn, srami, sramd }

/-- One iteration of the simulation loop of `main`. -/
def next (shifts : Shifts) (state : State) : Option State :=
  if state.stopSim then none else (llsimRunClock shifts false state).toOption

/-- The initial contents of the branch target buffer. -/
def Btb.zero : Btb := ⟨fun _ => 0#8, fun _ => 0#32⟩

/-- `sp_init`, with the loader's memory image in both memories. -/
def spInit (image : Image) : State where
  spro := .zero
  srami := llsimAllocateMemory image
  sramd := llsimAllocateMemory image
  btb := .zero
  start := true
  nrSimulatedInstructions := 0#32
  stopSim := false

/-- The reset clocks of `main`. -/
def resetClocks (shifts : Shifts) : Nat → State → Checked State
  | 0, state => .ok state
  | clocks + 1, state => do
      let state ← llsimRunClock shifts true state
      resetClocks shifts clocks state

/-- The state in which the simulation loop starts.  No reset clears the branch
target buffer. -/
def afterReset (image : Image) (btb : Btb) : State :=
  { spInit image with
    btb
    srami := { llsimAllocateMemory image with dataout := 0xBAADBAAD#32 }
    sramd := { llsimAllocateMemory image with dataout := 0xBAADBAAD#32 } }

theorem resetClocks_five (shifts : Shifts) (image : Image) (btb : Btb) :
    resetClocks shifts 5 { spInit image with btb } = .ok (afterReset image btb) := rfl

end SimpleProcessor.Pipeline
