import SimpleProcessor.Llsim.Memory

/-!
# The DMA engine

`dma_ctl` is the same state machine in the multi-cycle and in the pipelined
simulator; only the memory it works on and the test for a hazard clock differ.
Both are parameters here.

The engine reads one word ahead of its writes.  A hazard clock belongs to the
CPU; a hazard in `doWrite` parks the word that is valid for that clock only.
-/

namespace SimpleProcessor.Dma

/-- `DMA_STATE_IDLE` to `DMA_STATE_DO`. -/
inductive DmaState where
  | idle
  | readFirst
  | doRead
  | doWrite
  | writeStalled
  | writeLast
  | stateDo
  deriving DecidableEq, Repr

/-- The `dma_*` registers. -/
@[ext] structure DmaRegisters where
  busy : Bool
  src : Word
  dst : Word
  len : Word
  reg : Word
  reg2 : Word
  doDirty : Bool
  state : DmaState
  deriving DecidableEq, Repr

/-- The registers after reset. -/
def DmaRegisters.reset : DmaRegisters where
  busy := false
  src := 0#32
  dst := 0#32
  len := 0#32
  reg := 0#32
  reg2 := 0#32
  doDirty := false
  state := .idle

/-- What `dma_ctl` works on: both copies of its registers and its memory. -/
structure Unit where
  spro : DmaRegisters
  sprn : DmaRegisters
  sram : Memory

/-- `dma_ctl`.  The `else` branch of the idle state clears `dma_busy` in the old
copy, which the simulator overwrites at the end of the clock. -/
def dmaCtl (isDmaHazard : Bool) (unit : Unit) : Checked Unit :=
  let spro := unit.spro
  let sprn := unit.sprn
  match spro.state with
  | .idle =>
      if spro.busy && (0#32).slt spro.len then
        .ok { unit with sprn := { sprn with state := .readFirst } }
      else
        .ok { unit with spro := { spro with busy := false } }
  | .readFirst =>
      if isDmaHazard then
        .ok { unit with sprn := { sprn with state := spro.state } }
      else do
        let sram ← llsimMemRead unit.sram (spro.src &&& 0xffff#32)
        let sprn := { sprn with src := spro.src + 1#32, doDirty := true }
        let sprn := { sprn with
          state := if spro.len = 1#32 then .stateDo else .doRead }
        .ok { unit with sprn, sram }
  | .doRead => do
      let dataout ← llsimMemExtractDataout unit.sram 31 0
      let sprn := if spro.doDirty then { sprn with reg := dataout } else sprn
      let sprn := { sprn with doDirty := false }
      if isDmaHazard then
        .ok { unit with sprn := { sprn with state := spro.state } }
      else do
        let sram ← llsimMemRead unit.sram (spro.src &&& 0xffff#32)
        let sprn := { sprn with src := spro.src + 1#32, doDirty := true }
        .ok { unit with sprn := { sprn with state := .doWrite }, sram }
  | .doWrite => do
      let dataout ← llsimMemExtractDataout unit.sram 31 0
      if isDmaHazard then
        .ok { unit with
          sprn := { sprn with state := .writeStalled, reg2 := dataout, doDirty := false } }
      else do
        let sprn := if spro.doDirty then { sprn with reg := dataout } else sprn
        let sprn := { sprn with doDirty := false }
        let sram ← llsimMemSetDatain unit.sram spro.reg 31 0
        let sram ← llsimMemWrite sram (spro.dst &&& 0xffff#32)
        let sprn := { sprn with dst := spro.dst + 1#32, len := spro.len - 1#32 }
        let sprn := { sprn with
          state := if spro.len = 2#32 then .writeLast else .doRead }
        .ok { unit with sprn, sram }
  | .writeStalled =>
      if isDmaHazard then
        .ok { unit with sprn := { sprn with state := spro.state } }
      else do
        let sram ← llsimMemSetDatain unit.sram spro.reg 31 0
        let sram ← llsimMemWrite sram (spro.dst &&& 0xffff#32)
        let sprn := { sprn with dst := spro.dst + 1#32, len := spro.len - 1#32 }
        let sprn := { sprn with reg := spro.reg2 }
        let sprn := { sprn with
          state := if spro.len = 2#32 then .writeLast else .doRead }
        .ok { unit with sprn, sram }
  | .writeLast =>
      if isDmaHazard then
        .ok { unit with sprn := { sprn with state := spro.state } }
      else do
        let sram ← llsimMemSetDatain unit.sram spro.reg 31 0
        let sram ← llsimMemWrite sram (spro.dst &&& 0xffff#32)
        .ok { unit with sprn := { sprn with busy := false, state := .idle }, sram }
  | .stateDo => do
      let dataout ← llsimMemExtractDataout unit.sram 31 0
      .ok { unit with sprn := { sprn with reg := dataout, state := .writeLast } }

/-- A request waits in the idle state. -/
def DmaRegisters.requested (regs : DmaRegisters) : Bool :=
  regs.busy && (0#32).slt regs.len

/-- The access the engine makes in a clock. -/
def access (isDmaHazard : Bool) (regs : DmaRegisters) : Option Access :=
  if isDmaHazard then none
  else
    match regs.state with
    | .idle | .stateDo => none
    | .readFirst | .doRead => some (.read (regs.src &&& 0xffff#32))
    | .doWrite | .writeStalled | .writeLast =>
        some (.write (regs.dst &&& 0xffff#32) regs.reg)

/-- The new registers, given the old ones, the word on the memory bus and the new
copy as the CPU left it. -/
def nextRegs (isDmaHazard : Bool) (spro : DmaRegisters) (dataout : Word)
    (sprn : DmaRegisters) : DmaRegisters :=
  match spro.state, isDmaHazard with
  | .idle, _ =>
      if spro.requested then { sprn with state := .readFirst } else sprn
  | .readFirst, true => { sprn with state := .readFirst }
  | .readFirst, false =>
      { sprn with
        src := spro.src + 1#32
        doDirty := true
        state := if spro.len = 1#32 then .stateDo else .doRead }
  | .doRead, true =>
      { sprn with
        reg := if spro.doDirty then dataout else sprn.reg
        doDirty := false
        state := .doRead }
  | .doRead, false =>
      { sprn with
        reg := if spro.doDirty then dataout else sprn.reg
        src := spro.src + 1#32
        doDirty := true
        state := .doWrite }
  | .doWrite, true =>
      { sprn with reg2 := dataout, doDirty := false, state := .writeStalled }
  | .doWrite, false =>
      { sprn with
        reg := if spro.doDirty then dataout else sprn.reg
        doDirty := false
        dst := spro.dst + 1#32
        len := spro.len - 1#32
        state := if spro.len = 2#32 then .writeLast else .doRead }
  | .writeStalled, true => { sprn with state := .writeStalled }
  | .writeStalled, false =>
      { sprn with
        dst := spro.dst + 1#32
        len := spro.len - 1#32
        reg := spro.reg2
        state := if spro.len = 2#32 then .writeLast else .doRead }
  | .writeLast, true => { sprn with state := .writeLast }
  | .writeLast, false => { sprn with busy := false, state := .idle }
  | .stateDo, _ => { sprn with reg := dataout, state := .writeLast }

/-- The old copy after `dma_ctl`. -/
def oldCopy (spro : DmaRegisters) : DmaRegisters :=
  match spro.state with
  | .idle => if spro.requested then spro else { spro with busy := false }
  | _ => spro

/-- `dma_ctl` announces its access and computes its registers; nothing else
about the memory depends on it. -/
theorem dmaCtl_eq (isDmaHazard : Bool) (unit : Unit) :
    dmaCtl isDmaHazard unit =
      (unit.sram.announce (access isDmaHazard unit.spro)).map fun sram =>
        { spro := oldCopy unit.spro
          sprn := nextRegs isDmaHazard unit.spro unit.sram.dataout unit.sprn
          sram } := by
  obtain ⟨⟨busy, src, dst, len, reg, reg2, doDirty, state⟩, sprn, sram⟩ := unit
  cases state with
  | idle =>
      by_cases waits : (busy && (0#32).slt len) = true <;>
        simp [dmaCtl, access, nextRegs, oldCopy, DmaRegisters.requested, waits, Except.map]
  | readFirst | doRead | doWrite | writeStalled | writeLast | stateDo =>
      cases isDmaHazard <;> cases doDirty <;>
        simp [dmaCtl, access, nextRegs, oldCopy, Memory.announce, Except.map,
          Checked.bind_ok_eq_map]

end SimpleProcessor.Dma
