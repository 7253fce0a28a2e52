import SimpleProcessor.Dma.Atomic
import SimpleProcessor.MultiCycle.Progress
import SimpleProcessor.MultiCycle.Refinement

/-!
# The CPU beside the engine

`Engaged` compares the memory in the middle of a transfer with the memory in which
the transfer has already happened: they differ in the destination only, and not at
all when the engine is at rest.  A CPU that keeps away from the destination sees the
second memory.
-/

namespace SimpleProcessor.MultiCycle

open Transition Dma

/-- The engine is at rest, or it carries out the given request, and `mem` is the memory that
it works towards.  The bound is the distance to the end. -/
inductive Engaged (request : Option Request) (mem : Image) (bound : Nat) (state : State) :
    Prop where
  | rest (rest : state.spro.dma.AtRest) (data : state.sram.data = mem)
  | transfer {written : Nat} {original others : Image} {active : Request}
      (pending : active ∈ request) (proper : active.Proper)
      (inFlight : InFlight active written state.spro.dma)
      (copied : active.Copied original others
        (System.copier ⟨state.spro.dma, state.sram⟩ written))
      (mem : mem = active.copied original others)
      (distance : state.distance ≤ bound)

namespace Engaged

variable {shifts : Shifts} {request : Option Request} {mem : Image} {bound : Nat}
variable {state state' : State}

theorem data_eq (engaged : Engaged request mem bound state) {addr : Address}
    (readable : ∀ active ∈ request, ¬ active.Writes addr) :
    state.sram.data addr = mem addr := by
  cases engaged with
  | rest _ data => rw [data]
  | transfer pending _ _ copied same _ =>
      rw [same]
      exact Request.copied_outside copied (readable _ pending)

theorem of_free (engaged : Engaged request mem bound state)
    (free : state.spro.dma.busy = false) :
    state.spro.dma.AtRest ∧ state.sram.data = mem := by
  cases engaged with
  | rest rest data => exact ⟨rest, data⟩
  | transfer _ _ inFlight => simp [inFlight.busy] at free

theorem of_bound (engaged : Engaged request mem 0 state) :
    state.spro.dma.AtRest ∧ state.sram.data = mem := by
  cases engaged with
  | rest rest data => exact ⟨rest, data⟩
  | transfer _ _ inFlight _ _ distance =>
      have working : 0 < state.spro.dma.work := by
        have unfinished := inFlight.unfinished
        have shape := inFlight.shape
        rw [DmaRegisters.Shape] at shape
        rw [DmaRegisters.work]
        cases working : state.spro.dma.state <;> rw [working] at shape <;>
          simp only at shape ⊢ <;> omega
      simp only [State.distance] at distance
      omega

/-- One clock in which no request is accepted and the CPU keeps away from both ranges. -/
theorem next (engaged : Engaged request mem bound state)
    (refused : state.cpuClock.accepted state.spro.dma = none)
    (avoids : ∀ addr value, cpuAccess state.spro.toCpuRegisters = some (.write addr value) →
      ∀ active ∈ request, ¬ active.Writes addr.address ∧ ¬ active.Reads addr.address)
    (step : MultiCycle.next shifts state = some state') :
    Engaged request (state.cpuClock.stores mem) (bound - 1) state' := by
  cases engaged with
  | rest rest data =>
      have noRequest : dmaRequest state.spro.toCpuRegisters = none := by
        simpa [CpuClock.accepted, rest.free, State.cpuClock] using refused
      obtain ⟨-, -, rfl⟩ := next_eq_some.mp step
      obtain ⟨rest', sram⟩ := after_atRest shifts rest noRequest
      refine .rest rest' ?_
      rw [sram, Memory.after_data, data, CpuClock.stores]
      rfl
  | @transfer written original others active pending proper inFlight copied same distance =>
      have timed := state.cpuClock_wellTimed
      have away : state.cpuClock.Avoids active := by
        intro addr value made i inside
        obtain ⟨notWritten, notRead⟩ := avoids addr value made active pending
        constructor
        · intro source
          exact notRead (source ▸ Request.reads_source inside)
        · intro target
          exact notWritten (target ▸ Request.writes_target inside)
      have stored : state.cpuClock.stores mem =
          active.copied original (state.cpuClock.stores others) := by
        rw [same]
        simp only [CpuClock.stores]
        cases made : state.cpuClock.access with
        | none => rfl
        | some made' =>
            cases made' with
            | read addr => rfl
            | write addr value =>
                exact Request.copied_update value (avoids addr value made active pending).1
      rcases copied_next proper.ranges inFlight copied timed away (next_dma step) with
        ⟨written', goesOn, correct⟩ | ⟨idle, correct⟩
      · rcases distance_next ⟨active, written, inFlight⟩ step with free | ⟨-, closer⟩
        · rw [goesOn.busy] at free
          cases free
        · exact .transfer pending proper goesOn correct stored (by omega)
      · have free : state'.spro.dma.busy = false := by
          obtain ⟨-, -, rfl⟩ := next_eq_some.mp step
          simp only [State.after, CpuClock.load_of_busy _ inFlight.busy] at idle ⊢
          rcases inFlight.next state.cpuClock.hazard state.sram.dataout with
            free | ⟨written', goesOn⟩
          · exact free
          · exact absurd idle (inFlight.not_idle goesOn)
        refine .rest ⟨free, idle⟩ ?_
        rw [stored]
        exact Request.copied_of_correct correct rfl

theorem mono {bound' : Nat} (engaged : Engaged request mem bound state)
    (larger : bound ≤ bound') : Engaged request mem bound' state := by
  cases engaged with
  | rest rest data => exact .rest rest data
  | transfer pending proper inFlight copied same distance =>
      exact .transfer pending proper inFlight copied same (Nat.le_trans distance larger)

theorem isSome_of_busy (engaged : Engaged request mem bound state)
    (busy : state.spro.dma.busy = true) : request.isSome = true := by
  cases engaged with
  | rest rest => simp [rest.free] at busy
  | transfer pending => exact Option.isSome_of_mem pending

end Engaged

/-- The CPU registers in EXEC1, for what EXEC0 has read from `dma_busy`. -/
def inExec1 (shifts : Shifts) (busy : Bool) (word : Word) (cpu : CpuRegisters) : CpuRegisters :=
  { operandsRead word cpu with
    aluout := exec0Aluout shifts busy (operandsRead word cpu)
    ctlState := .exec1 }

/-- Only DMP looks at `dma_busy`. -/
theorem inExec1_eq {shifts : Shifts} {busy : Bool} {word : Word} {cpu : CpuRegisters}
    (notDmp : (Fields.ofWord word).opcode ≠ .dmp) :
    inExec1 shifts busy word cpu = beforeExec1 shifts word cpu := by
  have opcode : (operandsRead word cpu).opcode = (Fields.ofWord word).opcode := rfl
  have aluout : exec0Aluout shifts busy (operandsRead word cpu) =
      exec0Aluout shifts false (operandsRead word cpu) := by
    simp only [exec0Aluout]
    cases same : (operandsRead word cpu).opcode with
    | dmp => exact absurd (opcode.symm.trans same) notDmp
    | _ => rfl
  rw [inExec1, beforeExec1, aluout]

section Clocks

variable (shifts : Shifts) {request : Option Request} {mem : Image} {bound : Nat}
variable {state : State}

/-- One clock before EXEC1 with the engine at work, in the parts of the state that a
program can observe. -/
structure State.SteppedBeside (request : Option Request) (mem : Image) (bound : Nat)
    (state state' : State) : Prop where
  cpu : state'.spro.toCpuRegisters = nextCpu shifts state.start state.spro.dma.busy
    state.sram.dataout state.spro.toCpuRegisters
  engaged : Engaged request mem bound state'
  running : state'.stopSim = false
  /-- a free engine stays free -/
  free : state.spro.dma.busy = false → state'.spro.dma.busy = false
  word : ∀ addr, cpuAccess state.spro.toCpuRegisters = some (.read addr) →
    state'.sram.dataout = state.sram.data addr.address

theorem exists_next_beside (engaged : Engaged request mem (bound + 1) state)
    (running : state.stopSim = false) (notExec1 : state.spro.ctlState ≠ .exec1)
    (inRange : ∀ made, cpuAccess state.spro.toCpuRegisters = some made → made.InRange) :
    ∃ state', next shifts state = some state' ∧
      state.SteppedBeside shifts request mem bound state' := by
  have step : next shifts state = some (state.after shifts) :=
    next_eq_some.mpr ⟨running, inRange, rfl⟩
  have noRequest : dmaRequest state.spro.toCpuRegisters = none := by
    simp [dmaRequest, notExec1]
  have refused : state.cpuClock.accepted state.spro.dma = none := by
    simp [CpuClock.accepted, State.cpuClock, noRequest]
  have noStore (addr value : Word) :
      cpuAccess state.spro.toCpuRegisters ≠ some (.write addr value) := by
    cases ctlState : state.spro.ctlState with
    | exec1 => exact absurd ctlState notExec1
    | exec0 =>
        simp only [cpuAccess, ctlState]
        split <;> simp
    | idle | fetch0 | fetch1 | dec0 | dec1 => simp [cpuAccess, ctlState]
  have stored : state.cpuClock.stores mem = mem := by
    rw [CpuClock.stores]
    split
    next addr value made => exact absurd made (noStore addr value)
    next => rfl
  have engaged' := engaged.next refused (fun addr value made =>
    absurd made (noStore addr value)) step
  rw [stored] at engaged'
  refine ⟨state.after shifts, step, rfl, engaged', ?_, ?_, ?_⟩
  · simp [State.after, running, halts, notExec1]
  · intro free
    have rest := (engaged.of_free free).1
    exact (after_atRest shifts rest noRequest).1.free
  · intro addr reads
    have hazard : dmaHazard state.spro = true := by
      by_contra quiet
      have silent : cpuAccess state.spro.toCpuRegisters = none :=
        state.cpuClock_wellTimed (Bool.not_eq_true _ ▸ quiet)
      simp [reads] at silent
    simp [State.after, State.portAccess, portAccess, State.cpuClock, hazard, reads]

/-- Five clocks bring an instruction from FETCH0 to EXEC1 beside the engine.  The words that
the CPU reads are those of the memory that the engine works towards. -/
theorem reach_exec1_beside (engaged : Engaged request mem (bound + 5) state)
    (running : state.stopSim = false) (fetch0 : state.spro.ctlState = .fetch0)
    (inRange : state.spro.pc.InRange)
    (fetches : ∀ active ∈ request, ¬ active.Writes state.spro.pc.address)
    (loads : (Fields.ofWord (mem state.spro.pc.address)).opcode = .ld → ∀ active ∈ request,
      ¬ active.Writes
        ((Fields.ofWord (mem state.spro.pc.address)).operand1 state.spro.r).address) :
    let word := mem state.spro.pc.address
    ∃ busy state', runFor (next shifts) 5 state = some state' ∧
      state'.spro.toCpuRegisters = inExec1 shifts busy word state.spro.toCpuRegisters ∧
      Engaged request mem bound state' ∧ state'.stopSim = false ∧
      (busy = true → request.isSome = true) ∧
      (busy = false → state'.spro.dma.busy = false) ∧
      ((Fields.ofWord word).opcode = .ld → state'.sram.dataout =
        mem ((Fields.ofWord word).operand1 state.spro.r).address) := by
  intro word
  have readPc : cpuAccess state.spro.toCpuRegisters = some (.read state.spro.pc) := by
    simp [cpuAccess, fetch0]
  obtain ⟨state1, step1, at1⟩ := exists_next_beside shifts engaged running
    (by simp [fetch0]) (by
      rw [readPc]
      rintro _ ⟨⟩
      exact inRange)
  have cpu1 : state1.spro.toCpuRegisters =
      { state.spro.toCpuRegisters with ctlState := .fetch1 } := by
    simp [at1.cpu, nextCpu, fetch0]
  have word1 : state1.sram.dataout = word := by
    rw [at1.word _ readPc, engaged.data_eq fetches]
  have state1Ctl : state1.spro.ctlState = .fetch1 := congrArg CpuRegisters.ctlState cpu1
  obtain ⟨state2, step2, at2⟩ := exists_next_beside shifts at1.engaged at1.running
    (by simp [state1Ctl]) (by simp [cpuAccess, state1Ctl])
  have cpu2 : state2.spro.toCpuRegisters =
      { state.spro.toCpuRegisters with inst := word, ctlState := .dec0 } := by
    simp [at2.cpu, nextCpu, cpu1, word1]
  have state2Ctl : state2.spro.ctlState = .dec0 := congrArg CpuRegisters.ctlState cpu2
  obtain ⟨state3, step3, at3⟩ := exists_next_beside shifts at2.engaged at2.running
    (by simp [state2Ctl]) (by simp [cpuAccess, state2Ctl])
  have cpu3 : state3.spro.toCpuRegisters =
      { operandsRead word state.spro.toCpuRegisters with
        alu0 := state.spro.alu0, alu1 := state.spro.alu1, ctlState := .dec1 } := by
    simp [at3.cpu, nextCpu, cpu2, operandsRead]
  have state3Ctl : state3.spro.ctlState = .dec1 := congrArg CpuRegisters.ctlState cpu3
  obtain ⟨state4, step4, at4⟩ := exists_next_beside shifts at3.engaged at3.running
    (by simp [state3Ctl]) (by simp [cpuAccess, state3Ctl])
  have cpu4 : state4.spro.toCpuRegisters = operandsRead word state.spro.toCpuRegisters := by
    simp [at4.cpu, nextCpu, cpu3, operandsRead, Fields.operand1]
  have state4Ctl : state4.spro.ctlState = .exec0 := congrArg CpuRegisters.ctlState cpu4
  obtain ⟨state5, step5, at5⟩ := exists_next_beside shifts at4.engaged at4.running
    (by simp [state4Ctl]) (by
      simp only [cpuAccess, state4Ctl, Word.and_mask_eq]
      split
      · rintro _ ⟨⟩
        exact Word.ofAddress_inRange _
      · simp)
  have cpu5 : state5.spro.toCpuRegisters =
      inExec1 shifts state4.spro.dma.busy word state.spro.toCpuRegisters := by
    simp [at5.cpu, nextCpu, cpu4, inExec1, operandsRead]
  have run : runFor (next shifts) 5 state = some state5 := by
    simp [runFor, step1, step2, step3, step4, step5]
  refine ⟨state4.spro.dma.busy, state5, run, cpu5, at5.engaged, at5.running,
    at4.engaged.isSome_of_busy, at5.free, ?_⟩
  intro load
  have opcode : state4.spro.opcode = .ld := by
    rw [← load]
    exact congrArg CpuRegisters.opcode cpu4
  have address : state4.spro.alu1 = (Fields.ofWord word).operand1 state.spro.r :=
    congrArg CpuRegisters.alu1 cpu4
  have reads : cpuAccess state4.spro.toCpuRegisters =
      some (.read (state4.spro.alu1 &&& 0xffff#32)) := by
    simp [cpuAccess, state4Ctl, opcode]
  rw [at5.word _ reads, Word.and_mask_eq, Word.address_ofAddress, address]
  exact at4.engaged.data_eq (loads load)

end Clocks

end SimpleProcessor.MultiCycle
