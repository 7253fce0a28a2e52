import SimpleProcessor.MultiCycle.Clock
import SimpleProcessor.Dma.Copying

/-!
# The DMA handshake of the multi-cycle simulator

`sp_ctl` reads `dma_busy` in EXEC0 for DMP and in EXEC1 for DMA.  The ledger of
the run says what a free engine has done by then.
-/

namespace SimpleProcessor.MultiCycle

open Transition Dma

namespace State

/-- The address the engine writes in a clock. -/
def engineWrote (state : State) : Option Address :=
  Dma.engineWrote (dmaHazard state.spro) state.spro.dma state.sram

/-- The request that a clock starts. -/
def startedRequest (shifts : Shifts) (state : State) : Option Request :=
  startedIn (fun state : State => state.spro.dma) (next shifts) state

/-- The DMA instruction that the program passes in a clock: it is in EXEC1 and
`pc` goes on to the next word. -/
def passedDma (shifts : Shifts) (state : State) : Option Request :=
  if state.spro.ctlState = .exec1 ∧ state.spro.opcode = .dma then
    (next shifts state).bind fun state' =>
      if state'.spro.pc = state.spro.pc + 1#32 then
        some ⟨state.spro.alu0, state.spro.aluout, state.spro.alu1⟩
      else none
  else none

end State

/-- The instruction register holds the word whose fields are decoded. -/
def Decoded (cpu : CpuRegisters) : Prop :=
  cpu.ctlState = .dec1 ∨ cpu.ctlState = .exec0 ∨ cpu.ctlState = .exec1 →
    cpu.opcode = (Fields.ofWord cpu.inst).opcode

section Run

variable {shifts : Shifts} {image : Image} {clocks : Nat} {state : State}

theorem Decoded.next {start busy : Bool} {dataout : Word} {cpu : CpuRegisters}
    (decoded : Decoded cpu) : Decoded (nextCpu shifts start busy dataout cpu) := by
  unfold Decoded at decoded ⊢
  cases ctlState : cpu.ctlState with
  | idle => cases start <;> simp [nextCpu, ctlState]
  | fetch0 | fetch1 => simp [nextCpu, ctlState]
  | dec0 => simp [nextCpu, ctlState]
  | dec1 | exec0 => simpa [nextCpu, ctlState] using decoded (by simp [ctlState])
  | exec1 => by_cases idles : cpu.inst = HLT <;> simp [nextCpu, ctlState, idles]

theorem decoded_of_run (run : runFor (next shifts) clocks (afterReset image) = some state) :
    Decoded state.spro.toCpuRegisters := by
  refine runFor_invariant (motive := fun state => Decoded state.spro.toCpuRegisters) ?_ ?_ run
  · simp [Decoded, afterReset, spInit, Registers.zero]
  · intro state state' decoded step
    obtain ⟨-, -, rfl⟩ := next_eq_some.mp step
    exact decoded.next

theorem ledger_of_run (run : runFor (next shifts) clocks (afterReset image) = some state) :
    Ledger ((past (next shifts) clocks (afterReset image)).filterMap
        (State.startedRequest shifts))
      ((past (next shifts) clocks (afterReset image)).filterMap State.engineWrote)
      state.spro.dma := by
  have wrote : State.engineWrote =
      wroteIn (fun state : State => state.spro.dma) State.cpuClock := by
    funext state
    exact engineWrote_eq _ _ _
  rw [wrote]
  refine Dma.ledger_of_run (fun state : State => state.sram.dataout) ?_ rfl rfl run
  intro state state' step
  obtain ⟨-, -, rfl⟩ := next_eq_some.mp step
  rfl

theorem runClocks_of_run {first : State} (run : runFor (next shifts) clocks first = some state) :
    runClocks ((past (next shifts) clocks first).map State.cpuClock)
      ⟨first.spro.dma, first.sram⟩ = .ok ⟨state.spro.dma, state.sram⟩ := by
  refine Dma.runClocks_of_run (fun state => ⟨state.spro.dma, state.sram⟩) ?_ run
  intro state state' step
  exact next_dma step

/-- The clocks that start a request are those in which the program passes a DMA
instruction. -/
theorem startedRequest_eq_passedDma
    (idle : state.spro.dma.busy = false → state.spro.dma.state = .idle) :
    state.startedRequest shifts = state.passedDma shifts := by
  rw [State.startedRequest, State.passedDma, startedIn]
  cases step : next shifts state with
  | none => simp
  | some state' =>
      obtain ⟨-, -, rfl⟩ := next_eq_some.mp step
      have starts : started state.spro.dma (state.after shifts).spro.dma =
          state.cpuClock.accepted state.spro.dma := started_next idle _ _
      rw [Option.bind_some, starts, CpuClock.accepted]
      by_cases reaches : state.spro.ctlState = .exec1 ∧ state.spro.opcode = .dma
      · have pc : (state.after shifts).spro.pc =
            if state.spro.dma.busy then state.spro.pc else state.spro.pc + 1#32 := by
          simp [State.after, nextCpu, exec1Pc, reaches]
        cases busy : state.spro.dma.busy <;>
          simp [State.cpuClock, dmaRequest, reaches, pc, busy]
      · simp [State.cpuClock, dmaRequest, reaches]

theorem requests_eq_passed (run : runFor (next shifts) clocks (afterReset image) = some state) :
    (past (next shifts) clocks (afterReset image)).filterMap (State.startedRequest shifts) =
      (past (next shifts) clocks (afterReset image)).filterMap (State.passedDma shifts) := by
  refine List.filterMap_congr fun visited member => ?_
  obtain ⟨index, -, reached⟩ := (mem_past_iff run).mp member
  exact startedRequest_eq_passedDma fun free => ((ledger_of_run reached).free free).1

/-- A DMA instruction that meets an engine at work changes neither `pc` nor the
engine's registers. -/
theorem spCtl_of_busy (exec1 : state.spro.ctlState = .exec1) (dma : state.spro.opcode = .dma)
    (busy : state.spro.dma.busy = true) {sp : Sp}
    (ctl : spCtl shifts ⟨{ state with sram := state.sram.clearPort }, state.spro⟩ = .ok sp) :
    sp.sprn.pc = state.spro.pc ∧ sp.sprn.dma = state.spro.dma := by
  have silent : cpuAccess state.spro.toCpuRegisters = none := by simp [cpuAccess, exec1, dma]
  rw [spCtl_eq, silent, Memory.announce_none] at ctl
  cases ctl
  exact ⟨by simp [nextCpu, exec1, exec1Pc, dma, busy], CpuClock.load_of_busy _ busy⟩

theorem refetched_of_busy (decoded : Decoded state.spro.toCpuRegisters)
    (exec1 : state.spro.ctlState = .exec1) (dma : state.spro.opcode = .dma)
    (busy : state.spro.dma.busy = true) {state' : State}
    (step : next shifts state = some state') :
    cpuAccess state'.spro.toCpuRegisters = some (.read state.spro.pc) := by
  have notIdle : state.spro.inst ≠ HLT := by
    intro idles
    have opcode := decoded (by simp [exec1])
    rw [dma, idles] at opcode
    exact absurd opcode (by decide)
  obtain ⟨-, -, rfl⟩ := next_eq_some.mp step
  simp [State.after, nextCpu, exec1, exec1Pc, dma, busy, notIdle, cpuAccess]

/-- `sp_ctl` loads the engine's registers for a free engine in its idle state only. -/
theorem free_of_spCtl_loads
    (idle : state.spro.dma.busy = false → state.spro.dma.state = .idle) {sp : Sp}
    (ctl : spCtl shifts ⟨{ state with sram := state.sram.clearPort }, state.spro⟩ = .ok sp)
    (loads : sp.sprn.dma ≠ state.spro.dma) :
    state.spro.dma.state = .idle ∧ state.spro.dma.busy = false := by
  rw [spCtl_eq, Memory.announce_clearPort] at ctl
  cases ctl
  cases busy : state.spro.dma.busy with
  | true => exact absurd (CpuClock.load_of_busy _ busy) loads
  | false => exact ⟨idle busy, rfl⟩

/-- The branch of a DMP is taken exactly when EXEC0 found a free engine. -/
theorem dmp_taken_iff (exec0 : state.spro.ctlState = .exec0) (dmp : state.spro.opcode = .dmp)
    {polled : State} (poll : next shifts state = some polled) :
    polled.spro.aluout ≠ 0#32 ↔ state.spro.dma.busy = false := by
  obtain ⟨-, -, rfl⟩ := next_eq_some.mp poll
  simp [State.after, nextCpu, exec0, exec0Aluout, dmp]

theorem dmp_target (exec0 : state.spro.ctlState = .exec0) (dmp : state.spro.opcode = .dmp)
    {polled branched : State} (poll : next shifts state = some polled)
    (taken : polled.spro.aluout ≠ 0#32) (branch : next shifts polled = some branched) :
    branched.spro.pc = state.spro.immediate := by
  obtain ⟨-, -, rfl⟩ := next_eq_some.mp poll
  obtain ⟨-, -, rfl⟩ := next_eq_some.mp branch
  simp only [State.after, nextCpu, exec0, exec1Pc, dmp] at taken ⊢
  rw [if_pos taken]

end Run

/-- The handshake of the CPU and the engine, in every run from reset. -/
theorem handshake (shifts : Shifts) (image : Image) (clocks : Nat) (state : State)
    (run : runFor (next shifts) clocks (afterReset image) = some state) :
    let before := past (next shifts) clocks (afterReset image)
    (∀ sp, spCtl shifts ⟨{ state with sram := state.sram.clearPort }, state.spro⟩ = .ok sp →
      sp.sprn.dma ≠ state.spro.dma →
      state.spro.dma.state = .idle ∧ state.spro.dma.busy = false) ∧
    (state.spro.ctlState = .exec1 → state.spro.opcode = .dma → state.spro.dma.busy = true →
      (∀ sp, spCtl shifts ⟨{ state with sram := state.sram.clearPort }, state.spro⟩ = .ok sp →
        sp.sprn.pc = state.spro.pc ∧ sp.sprn.dma = state.spro.dma) ∧
      (∀ state', next shifts state = some state' →
        cpuAccess state'.spro.toCpuRegisters = some (.read state.spro.pc))) ∧
    before.filterMap (State.startedRequest shifts) =
      before.filterMap (State.passedDma shifts) ∧
    (state.spro.ctlState = .exec0 → state.spro.opcode = .dmp →
      ∀ polled, next shifts state = some polled → polled.spro.aluout ≠ 0#32 →
        state.spro.dma.busy = false ∧ state.spro.dma.state = .idle ∧
        before.filterMap State.engineWrote =
          allTargets (before.filterMap (State.startedRequest shifts)) ∧
        ∀ branched, next shifts polled = some branched →
          branched.spro.pc = state.spro.immediate) := by
  have decoded := decoded_of_run run
  have ledger := ledger_of_run run
  have idle : state.spro.dma.busy = false → state.spro.dma.state = .idle := fun free =>
    (ledger.free free).1
  refine ⟨fun sp ctl => free_of_spCtl_loads idle ctl, ?_, requests_eq_passed run, ?_⟩
  · intro exec1 dma busy
    exact ⟨fun sp ctl => spCtl_of_busy exec1 dma busy ctl,
      fun state' step => refetched_of_busy decoded exec1 dma busy step⟩
  · intro exec0 dmp polled poll taken
    have free := (dmp_taken_iff exec0 dmp poll).mp taken
    exact ⟨free, idle free, (ledger.free free).2, fun branched branch =>
      dmp_target exec0 dmp poll taken branch⟩

/-- 0: DMA of three words; 1: DMA of two words; 2: DMP 7; 3: JEQ 0, 0, 2; 7: HLT. -/
def pollingImage : Image := fun addr =>
  if addr = 0#16 then 0x14010003#32
  else if addr = 1#16 then 0x14010002#32
  else if addr = 2#16 then 0x16000007#32
  else if addr = 3#16 then 0x24000002#32
  else if addr = 7#16 then 0x30000000#32
  else 0#32

/-- The second DMA instruction meets a busy engine and is fetched again, and the DMP that is
taken in the end comes after the last word of both transfers. -/
theorem handshake_polling :
    (∃ state state', runFor (next Shifts.x86) 12 (afterReset pollingImage) = some state ∧
      next Shifts.x86 state = some state' ∧ state.spro.pc = 1#32 ∧
      cpuAccess state'.spro.toCpuRegisters = some (.read 1#32)) ∧
    (past (next Shifts.x86) 35 (afterReset pollingImage)).filterMap
        (State.startedRequest Shifts.x86) = [⟨0#32, 0#32, 3#32⟩, ⟨0#32, 0#32, 2#32⟩] ∧
    (past (next Shifts.x86) 35 (afterReset pollingImage)).filterMap
        (State.passedDma Shifts.x86) = [⟨0#32, 0#32, 3#32⟩, ⟨0#32, 0#32, 2#32⟩] ∧
    (past (next Shifts.x86) 35 (afterReset pollingImage)).filterMap State.engineWrote =
      [0#16, 1#16, 2#16, 0#16, 1#16] := by
  have started : (past (next Shifts.x86) 35 (afterReset pollingImage)).filterMap
      (State.startedRequest Shifts.x86) = [⟨0#32, 0#32, 3#32⟩, ⟨0#32, 0#32, 2#32⟩] := by
    decide +kernel
  constructor
  · have reached : (runFor (next Shifts.x86) 12 (afterReset pollingImage)).map
        (fun state => (decide (state.spro.ctlState = .exec1 ∧ state.spro.opcode = .dma ∧
          state.spro.dma.busy = true ∧ state.spro.pc = 1#32),
          (next Shifts.x86 state).isSome)) = some (true, true) := by decide +kernel
    obtain ⟨state, run, here⟩ := Option.map_eq_some_iff.mp reached
    obtain ⟨checked, goesOn⟩ := Prod.mk.inj here
    obtain ⟨exec1, dma, busy, pc⟩ := of_decide_eq_true checked
    obtain ⟨state', step⟩ := Option.isSome_iff_exists.mp goesOn
    obtain ⟨-, meets, -⟩ := handshake Shifts.x86 pollingImage 12 state run
    refine ⟨state, state', run, step, pc, ?_⟩
    rw [(meets exec1 dma busy).2 state' step, pc]
  · have reached : (runFor (next Shifts.x86) 35 (afterReset pollingImage)).map
        (fun state => (decide (state.spro.ctlState = .exec0 ∧ state.spro.opcode = .dmp),
          (next Shifts.x86 state).map fun polled => decide (polled.spro.aluout ≠ 0#32))) =
        some (true, some true) := by decide +kernel
    obtain ⟨state, run, here⟩ := Option.map_eq_some_iff.mp reached
    obtain ⟨checked, next⟩ := Prod.mk.inj here
    obtain ⟨exec0, dmp⟩ := of_decide_eq_true checked
    obtain ⟨polled, step, taken⟩ := Option.map_eq_some_iff.mp next
    obtain ⟨-, -, passed, poll⟩ := handshake Shifts.x86 pollingImage 35 state run
    obtain ⟨-, -, wrote, -⟩ := poll exec0 dmp polled step (of_decide_eq_true taken)
    refine ⟨started, passed ▸ started, ?_⟩
    rw [wrote, started]
    decide

end SimpleProcessor.MultiCycle
