import SimpleProcessor.Dma.Engine

/-!
# The engine among its neighbours

What the engine sees of the CPU in one clock is whether the clock is a hazard
clock, the access the CPU makes to the shared memory, and the operands of a DMA
instruction in the CPU's last stage.  A simulator's clock, restricted to the
engine and its memory, is `clock` for the inputs that its CPU produces.
-/

namespace SimpleProcessor.Dma

/-- The operands of a DMA instruction. -/
structure Request where
  src : Word
  dst : Word
  len : Word
  deriving DecidableEq, Repr

/-- The CPU's side of one clock. -/
structure CpuClock where
  hazard : Bool
  access : Option Access
  request : Option Request

/-- The engine and the memory it shares with the CPU. -/
structure System where
  dma : DmaRegisters
  sram : Memory

namespace CpuClock

/-- The CPU uses the port in hazard clocks only. -/
def WellTimed (cpu : CpuClock) : Prop := cpu.hazard = false → cpu.access = none

/-- The request that is accepted; a busy engine accepts none. -/
def accepted (cpu : CpuClock) (regs : DmaRegisters) : Option Request :=
  if regs.busy then none else cpu.request

/-- The new copy of the registers after the CPU's turn. -/
def load (cpu : CpuClock) (regs : DmaRegisters) : DmaRegisters :=
  match cpu.accepted regs with
  | none => regs
  | some request =>
      { regs with busy := true, src := request.src, dst := request.dst, len := request.len }

@[simp] theorem accepted_of_busy (cpu : CpuClock) {regs : DmaRegisters}
    (busy : regs.busy = true) : cpu.accepted regs = none := by
  simp [accepted, busy]

@[simp] theorem load_of_busy (cpu : CpuClock) {regs : DmaRegisters}
    (busy : regs.busy = true) : cpu.load regs = regs := by
  simp [load, busy]

end CpuClock

/-- One clock: the CPU announces its access and loads its request, then the
engine takes its turn, then the memory is served. -/
def clock (cpu : CpuClock) (system : System) : Checked System := do
  let sram ← system.sram.clearPort.announce cpu.access
  let unit ← dmaCtl cpu.hazard ⟨system.dma, cpu.load system.dma, sram⟩
  let sram ← unit.sram.serve
  .ok ⟨unit.sprn, sram⟩

/-- The one access made to the memory when the CPU keeps to the hazard clocks. -/
def portAccess (isDmaHazard : Bool) (cpuAccess : Option Access) (regs : DmaRegisters) :
    Option Access :=
  if isDmaHazard then cpuAccess else access false regs

@[simp] theorem access_hazard (regs : DmaRegisters) : access true regs = none := by
  simp [access]

theorem access_inRange {isDmaHazard : Bool} {regs : DmaRegisters} {made : Access}
    (makes : access isDmaHazard regs = some made) : made.InRange := by
  unfold access at makes
  split at makes
  · contradiction
  · split at makes <;> cases makes <;> simp [Access.InRange, Word.ofAddress_inRange]

theorem portAccess_inRange {isDmaHazard : Bool} {cpuAccess : Option Access}
    (regs : DmaRegisters) (timed : isDmaHazard = false → cpuAccess = none) :
    (∀ made, portAccess isDmaHazard cpuAccess regs = some made → made.InRange) ↔
      ∀ made, cpuAccess = some made → made.InRange := by
  cases isDmaHazard with
  | true => simp [portAccess]
  | false =>
      simp only [portAccess, timed rfl, Bool.false_eq_true, if_false, reduceCtorEq]
      simp only [false_implies, implies_true, iff_true]
      exact fun made makes => access_inRange makes

/-- The engine's turn after the CPU's.  The two parties together announce one
access. -/
theorem dmaCtl_after_cpu {isDmaHazard : Bool} {cpuAccess : Option Access}
    (timed : isDmaHazard = false → cpuAccess = none)
    (spro sprn : DmaRegisters) (memory : Memory) :
    dmaCtl isDmaHazard ⟨spro, sprn, memory.announced cpuAccess⟩ =
      .ok ⟨oldCopy spro, nextRegs isDmaHazard spro memory.dataout sprn,
        memory.announced (portAccess isDmaHazard cpuAccess spro)⟩ := by
  rw [dmaCtl_eq, Memory.announced_dataout]
  cases isDmaHazard with
  | true => simp [portAccess, Except.map]
  | false =>
      rw [timed rfl]
      have announce := memory.announce_clearPort (access false spro)
      simp only [Memory.announced, portAccess, Bool.false_eq_true, if_false] at announce ⊢
      rw [announce]
      rfl

theorem clock_eq_ok {cpu : CpuClock} (timed : cpu.WellTimed) {system result : System} :
    clock cpu system = .ok result ↔
      (∀ made, cpu.access = some made → made.InRange) ∧
      result =
        ⟨nextRegs cpu.hazard system.dma system.sram.dataout (cpu.load system.dma),
          system.sram.after (portAccess cpu.hazard cpu.access system.dma)⟩ := by
  have turn := dmaCtl_after_cpu timed system.dma (cpu.load system.dma) system.sram
  simp only [clock, Memory.announce_clearPort, turn, Checked.ok_bind, Checked.bind_eq_ok,
    Memory.serve_announced, portAccess_inRange _ timed]
  constructor
  · rintro ⟨served, ⟨inRange, rfl⟩, done⟩
    exact ⟨inRange, (Except.ok.inj done).symm⟩
  · rintro ⟨inRange, rfl⟩
    exact ⟨_, ⟨inRange, rfl⟩, rfl⟩

/-- The engine is free and in its idle state. -/
structure DmaRegisters.AtRest (regs : DmaRegisters) : Prop where
  free : regs.busy = false
  idle : regs.state = .idle

theorem DmaRegisters.AtRest.next {regs : DmaRegisters} (rest : regs.AtRest) {cpu : CpuClock}
    (noRequest : cpu.request = none) (dataout : Word) :
    (nextRegs cpu.hazard regs dataout (cpu.load regs)).AtRest := by
  have load : cpu.load regs = regs := by
    simp [CpuClock.load, CpuClock.accepted, noRequest]
  constructor <;>
    simp [load, nextRegs, rest.idle, DmaRegisters.requested, rest.free]

theorem DmaRegisters.AtRest.portAccess_eq {regs : DmaRegisters} (rest : regs.AtRest)
    {cpu : CpuClock} (timed : cpu.WellTimed) :
    portAccess cpu.hazard cpu.access regs = cpu.access := by
  cases hazard : cpu.hazard with
  | true => rfl
  | false => simp [portAccess, access, rest.idle, timed hazard]

end SimpleProcessor.Dma
