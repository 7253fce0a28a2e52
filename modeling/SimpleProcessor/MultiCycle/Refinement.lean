import SimpleProcessor.MultiCycle.Clock
import SimpleProcessor.Iss.Execution

/-!
# The multi-cycle simulator refines the instruction-set simulator

One instruction takes six clocks, from FETCH0 to FETCH0.  With the engine at
rest the memory is the CPU's alone, so the word fetched and the word loaded are
on the bus in the clocks that use them.
-/

namespace SimpleProcessor.MultiCycle

open Transition Dma

section Quiet

variable (shifts : Shifts) {state : State}

theorem after_atRest (rest : state.spro.dma.AtRest)
    (noRequest : dmaRequest state.spro.toCpuRegisters = none) :
    (state.after shifts).spro.dma.AtRest ∧
      (state.after shifts).sram =
        state.sram.after (cpuAccess state.spro.toCpuRegisters) := by
  constructor
  · have silent : state.cpuClock.request = none := noRequest
    exact rest.next silent state.sram.dataout
  · exact congrArg state.sram.after (rest.portAccess_eq state.cpuClock_wellTimed)

/-- One clock before EXEC1 with the engine at rest, in the parts of the state that
a program can observe. -/
structure State.Stepped (shifts : Shifts) (state state' : State) : Prop where
  cpu : state'.spro.toCpuRegisters =
    nextCpu shifts state.start false state.sram.dataout state.spro.toCpuRegisters
  sram : state'.sram = state.sram.after (cpuAccess state.spro.toCpuRegisters)
  rest : state'.spro.dma.AtRest
  running : state'.stopSim = false
  count : state'.nrSimulatedInstructions = state.nrSimulatedInstructions

theorem exists_next (rest : state.spro.dma.AtRest) (running : state.stopSim = false)
    (notExec1 : state.spro.ctlState ≠ .exec1)
    (inRange : ∀ made, cpuAccess state.spro.toCpuRegisters = some made → made.InRange) :
    ∃ state', next shifts state = some state' ∧ state.Stepped shifts state' := by
  have noRequest : dmaRequest state.spro.toCpuRegisters = none := by
    simp [dmaRequest, notExec1]
  obtain ⟨restAfter, sram⟩ := after_atRest shifts rest noRequest
  refine ⟨_, next_eq_some.mpr ⟨running, inRange, rfl⟩, ?_, sram, restAfter, ?_, ?_⟩
  · simp only [State.after, rest.free]
  · simp [State.after, running, halts, notExec1]
  · simp [State.after, completes, notExec1]

theorem State.Stepped.data {shifts : Shifts} {state' : State}
    (stepped : state.Stepped shifts state') (notExec1 : state.spro.ctlState ≠ .exec1) :
    state'.sram.data = state.sram.data := by
  rw [stepped.sram, Memory.after_data]
  cases ctlState : state.spro.ctlState with
  | exec1 => exact absurd ctlState notExec1
  | exec0 =>
      simp only [cpuAccess, ctlState]
      by_cases load : state.spro.opcode = .ld <;> simp [load]
  | idle | fetch0 | fetch1 | dec0 | dec1 => simp [cpuAccess, ctlState]

end Quiet

/-- The CPU registers when the operands of `word` have been read. -/
def operandsRead (word : Word) (cpu : CpuRegisters) : CpuRegisters :=
  let fields := Fields.ofWord word
  { cpu with
    inst := word
    opcode := fields.opcode
    dst := fields.dst
    src0 := fields.src0
    src1 := fields.src1
    immediate := fields.immediate
    alu0 := if fields.src0 = 1#3 ∨ fields.opcode = .lhi then fields.immediate
      else cpu.r fields.src0
    alu1 := fields.operand1 cpu.r
    ctlState := .exec0 }

/-- The CPU registers in EXEC1. -/
def beforeExec1 (shifts : Shifts) (word : Word) (cpu : CpuRegisters) : CpuRegisters :=
  { operandsRead word cpu with
    aluout := exec0Aluout shifts false (operandsRead word cpu)
    ctlState := .exec1 }

/-- The CPU registers in the five clocks before. -/
def earlierStages (word : Word) (cpu : CpuRegisters) : List CpuRegisters :=
  [cpu, { cpu with ctlState := .fetch1 }, { cpu with inst := word, ctlState := .dec0 },
    { operandsRead word cpu with alu0 := cpu.alu0, alu1 := cpu.alu1, ctlState := .dec1 },
    operandsRead word cpu]

/-- Five clocks bring an instruction from FETCH0 to EXEC1.  A loaded word is on
the bus then. -/
theorem reach_exec1 (shifts : Shifts) {state : State} (rest : state.spro.dma.AtRest)
    (running : state.stopSim = false) (fetch0 : state.spro.ctlState = .fetch0)
    (inRange : state.spro.pc.InRange) :
    let word := state.sram.data state.spro.pc.address
    ∃ state', runFor (next shifts) 5 state = some state' ∧
      state'.spro.toCpuRegisters = beforeExec1 shifts word state.spro.toCpuRegisters ∧
      state'.sram.data = state.sram.data ∧
      state'.spro.dma.AtRest ∧ state'.stopSim = false ∧
      state'.nrSimulatedInstructions = state.nrSimulatedInstructions ∧
      ((Fields.ofWord word).opcode = .ld → state'.sram.dataout =
        state.sram.data ((Fields.ofWord word).operand1 state.spro.r).address) ∧
      (past (next shifts) 5 state).map (fun visited =>
          (visited.spro.toCpuRegisters, visited.nrSimulatedInstructions)) =
        (earlierStages word state.spro.toCpuRegisters).map (·, state.nrSimulatedInstructions) := by
  intro word
  have readPc : cpuAccess state.spro.toCpuRegisters = some (.read state.spro.pc) := by
    simp [cpuAccess, fetch0]
  obtain ⟨state1, step1, at1⟩ := exists_next shifts rest running
    (by simp [fetch0]) (by
      rw [readPc]
      rintro _ ⟨⟩
      exact inRange)
  have cpu1 : state1.spro.toCpuRegisters =
      { state.spro.toCpuRegisters with ctlState := .fetch1 } := by
    simp [at1.cpu, nextCpu, fetch0]
  have state1Ctl : state1.spro.ctlState = .fetch1 := congrArg CpuRegisters.ctlState cpu1
  obtain ⟨state2, step2, at2⟩ := exists_next shifts at1.rest at1.running
    (by simp [state1Ctl]) (by simp [cpuAccess, state1Ctl])
  have cpu2 : state2.spro.toCpuRegisters =
      { state.spro.toCpuRegisters with inst := word, ctlState := .dec0 } := by
    simp [at2.cpu, nextCpu, cpu1, at1.sram, readPc, word]
  have state2Ctl : state2.spro.ctlState = .dec0 := congrArg CpuRegisters.ctlState cpu2
  obtain ⟨state3, step3, at3⟩ := exists_next shifts at2.rest at2.running
    (by simp [state2Ctl]) (by simp [cpuAccess, state2Ctl])
  have cpu3 : state3.spro.toCpuRegisters =
      { operandsRead word state.spro.toCpuRegisters with
        alu0 := state.spro.alu0, alu1 := state.spro.alu1, ctlState := .dec1 } := by
    simp [at3.cpu, nextCpu, cpu2, operandsRead]
  have state3Ctl : state3.spro.ctlState = .dec1 := congrArg CpuRegisters.ctlState cpu3
  obtain ⟨state4, step4, at4⟩ := exists_next shifts at3.rest at3.running
    (by simp [state3Ctl]) (by simp [cpuAccess, state3Ctl])
  have cpu4 : state4.spro.toCpuRegisters = operandsRead word state.spro.toCpuRegisters := by
    simp [at4.cpu, nextCpu, cpu3, operandsRead, Fields.operand1]
  have state4Ctl : state4.spro.ctlState = .exec0 := congrArg CpuRegisters.ctlState cpu4
  obtain ⟨state5, step5, at5⟩ := exists_next shifts at4.rest at4.running
    (by simp [state4Ctl]) (by
      simp only [cpuAccess, state4Ctl, Word.and_mask_eq]
      split
      · rintro _ ⟨⟩
        exact Word.ofAddress_inRange _
      · simp)
  have cpu5 : state5.spro.toCpuRegisters =
      beforeExec1 shifts word state.spro.toCpuRegisters := by
    simp [at5.cpu, nextCpu, cpu4, beforeExec1, operandsRead]
  have run : runFor (next shifts) 5 state = some state5 := by
    simp [runFor, step1, step2, step3, step4, step5]
  have data4 : state4.sram.data = state.sram.data := by
    rw [at4.data (by simp [state3Ctl]), at3.data (by simp [state2Ctl]),
      at2.data (by simp [state1Ctl]), at1.data (by simp [fetch0])]
  refine ⟨state5, run, cpu5, ?_, at5.rest, at5.running, ?_, ?_, ?_⟩
  · rw [at5.data (by simp [state4Ctl]), data4]
  · rw [at5.count, at4.count, at3.count, at2.count, at1.count]
  · intro load
    have loads : state4.spro.opcode = .ld := by
      rw [← load]
      exact congrArg CpuRegisters.opcode cpu4
    have address : state4.spro.alu1 = (Fields.ofWord word).operand1 state.spro.r :=
      congrArg CpuRegisters.alu1 cpu4
    rw [at5.sram]
    simp [cpuAccess, state4Ctl, loads, data4, address]
  · have visited : past (next shifts) 5 state = [state, state1, state2, state3, state4] := by
      simp [past, step1, step2, step3, step4, step5]
    simp [visited, earlierStages, cpu1, cpu2, cpu3, cpu4, at1.count, at2.count, at3.count,
      at4.count]

/-! ## One instruction -/

/-- The two simulators between instructions. -/
structure Matches (state : State) (iss : Iss.State) : Prop where
  rest : state.spro.dma.AtRest
  running : state.stopSim = false
  fetch0 : state.spro.ctlState = .fetch0
  pc : state.spro.pc = Word.ofAddress iss.pc
  r : state.spro.r = iss.regs
  data : state.sram.data = iss.mem
  count : state.nrSimulatedInstructions = iss.instCount
  low : iss.regs.LowZero
  goesOn : iss.halted = false

/-- The two simulators after a HLT. -/
structure Stopped (state : State) (iss : Iss.State) : Prop where
  stopped : state.stopSim = true
  pc : state.spro.pc = Word.ofAddress (iss.pc - 1#16)
  r : state.spro.r = iss.regs
  data : state.sram.data = iss.mem
  count : state.nrSimulatedInstructions = iss.instCount
  halted : iss.halted = true

theorem exec1_execute (shifts : Shifts) (mem : Image) {word dataout : Word} {cpu : CpuRegisters}
    (basic : (Fields.ofWord word).opcode.isBasic = true)
    (loaded : (Fields.ofWord word).opcode = .ld →
      dataout = mem ((Fields.ofWord word).operand1 cpu.r).address) :
    let effect := Arch.execute shifts (Fields.ofWord word) ⟨cpu.pc, cpu.r, mem⟩
    exec1Regs dataout (beforeExec1 shifts word cpu) = effect.regs ∧
    ((Fields.ofWord word).opcode ≠ .hlt →
      exec1Pc false (beforeExec1 shifts word cpu) = effect.pc) ∧
    ((Fields.ofWord word).opcode = .hlt →
      exec1Pc false (beforeExec1 shifts word cpu) = cpu.pc) ∧
    cpuAccess (beforeExec1 shifts word cpu) =
      if (Fields.ofWord word).opcode = .st then
        some (.write ((Fields.ofWord word).operand1 cpu.r)
          ((Fields.ofWord word).operand0 cpu.r))
      else none := by
  cases opcode : (Fields.ofWord word).opcode with
  | ld =>
      simp [beforeExec1, operandsRead, opcode, exec1Regs, exec1Pc, cpuAccess, Arch.execute,
        Arch.taken, Arch.writeBack, Opcode.isCompute, Opcode.isBranch, loaded opcode]
  | add | sub | lsf | rsf | and | or | xor | st | hlt =>
      simp [beforeExec1, operandsRead, opcode, exec1Regs, exec1Pc, cpuAccess, Arch.execute,
        Arch.taken, Arch.writeBack, Opcode.isCompute, Opcode.isBranch, exec0Aluout, aluResult,
        Fields.operand0]
  | jlt | jle | jeq | jne =>
      simp [beforeExec1, operandsRead, opcode, exec1Regs, exec1Pc, cpuAccess, Arch.execute,
        Arch.taken, Arch.writeBack, Opcode.isCompute, Opcode.isBranch, exec0Aluout, aluResult,
        Fields.operand0]
  | lhi | dma | dmp | jin | u code => simp [opcode, Opcode.isBasic] at basic

theorem next_exec1 {shifts : Shifts} {state : State} {cpu : CpuRegisters} {iss iss' : Iss.State}
    (ordinary : iss.Ordinary shifts) (notIdle : iss.word ≠ HLT)
    (reached : state.spro.toCpuRegisters = beforeExec1 shifts iss.word cpu)
    (sameArch : Arch.mk cpu.pc cpu.r state.sram.data = iss.arch)
    (rest : state.spro.dma.AtRest) (running : state.stopSim = false)
    (loaded : iss.fields.opcode = .ld →
      state.sram.dataout = state.sram.data (iss.fields.operand1 cpu.r).address)
    (arch : iss'.arch = iss.arch.execute shifts iss.fields) :
    next shifts state = some (state.after shifts) ∧
      (state.after shifts).spro.dma.AtRest ∧
      (state.after shifts).spro.toCpuRegisters =
        { beforeExec1 shifts iss.word cpu with
          r := iss'.regs
          pc := if iss.fields.opcode = .hlt then cpu.pc else Word.ofAddress iss'.pc
          ctlState := .fetch0 } ∧
      (state.after shifts).sram.data = iss'.mem := by
  obtain ⟨regs, pcNext, pcHalt, store⟩ := exec1_execute shifts state.sram.data
    ordinary.basic loaded
  have fields : Fields.ofWord iss.word = iss.fields := rfl
  rw [fields] at regs pcNext pcHalt store
  rw [sameArch, ← arch] at regs pcNext
  have cpuR : cpu.r = iss.regs := congrArg Arch.regs sameArch
  have opcode : state.spro.opcode = iss.fields.opcode := congrArg CpuRegisters.opcode reached
  have noRequest : dmaRequest state.spro.toCpuRegisters = none := by
    have basic := ordinary.basic
    have notDma : state.spro.opcode ≠ .dma := by
      rw [opcode]
      intro dma
      simp [dma, Opcode.isBasic] at basic
    simp [dmaRequest, notDma]
  obtain ⟨rest', sram'⟩ := after_atRest shifts rest noRequest
  refine ⟨?_, rest', ?_, ?_⟩
  · refine next_eq_some.mpr ⟨running, ?_, rfl⟩
    rw [reached, store]
    split
    next st =>
      rintro _ ⟨⟩
      rw [cpuR]
      exact ordinary.store st
    next => simp
  · have inst : (beforeExec1 shifts iss.word cpu).inst ≠ HLT := notIdle
    have ctlState : (beforeExec1 shifts iss.word cpu).ctlState = .exec1 := rfl
    have regs' : exec1Regs state.sram.dataout (beforeExec1 shifts iss.word cpu) = iss'.regs :=
      regs
    have pc' : exec1Pc false (beforeExec1 shifts iss.word cpu) =
        if iss.fields.opcode = .hlt then cpu.pc else Word.ofAddress iss'.pc := by
      split
      next hlt => exact pcHalt hlt
      next notHlt => exact pcNext notHlt
    simp only [State.after, nextCpu, reached, rest.free, ctlState, regs', pc', inst, if_false]
  · have mem : iss'.mem = (iss.arch.execute shifts iss.fields).mem := congrArg Arch.mem arch
    have data : state.sram.data = iss.mem := congrArg Arch.mem sameArch
    rw [sram', reached, store, Memory.after_data, data, mem, cpuR]
    by_cases st : iss.fields.opcode = .st <;> simp [st, Arch.execute, Iss.State.arch]

/-- Six clocks execute the instruction that one iteration of the loop executes. -/
theorem simulates {shifts : Shifts} {state : State} {iss : Iss.State}
    (both : Matches state iss) (ordinary : iss.Ordinary shifts) (notIdle : iss.word ≠ HLT) :
    ∃ state' iss', runFor (next shifts) 6 state = some state' ∧
      Iss.next shifts iss = some iss' ∧
      (Matches state' iss' ∨ Stopped state' iss') := by
  have inRange : state.spro.pc.InRange := by
    rw [both.pc]
    exact Word.ofAddress_inRange _
  have fetched : state.sram.data state.spro.pc.address = iss.word := by
    rw [both.data, both.pc, Word.address_ofAddress]
    rfl
  obtain ⟨state5, run5, cpu5, data5, rest5, running5, count5, loaded5, -⟩ :=
    reach_exec1 shifts both.rest both.running both.fetch0 inRange
  rw [fetched] at cpu5 loaded5
  obtain ⟨iss', issStep, arch, instCount, halted⟩ :=
    Iss.next_ordinary both.goesOn both.low ordinary
  have low := (Iss.execute_of_next both.low ordinary issStep).2.1
  have sameArch : Arch.mk state.spro.pc state.spro.r state5.sram.data = iss.arch := by
    rw [both.pc, both.r, data5, both.data]
    rfl
  rw [← data5] at loaded5
  obtain ⟨step6, rest6, cpu6, data6⟩ :=
    next_exec1 ordinary notIdle cpu5 sameArch rest5 running5 loaded5 arch
  have exec1 : state5.spro.ctlState = .exec1 := congrArg CpuRegisters.ctlState cpu5
  have opcode5 : state5.spro.opcode = iss.fields.opcode := congrArg CpuRegisters.opcode cpu5
  have r6 := congrArg CpuRegisters.r cpu6
  have pc6 := congrArg CpuRegisters.pc cpu6
  have count6 : (state5.after shifts).nrSimulatedInstructions = iss'.instCount := by
    simp [State.after, completes, exec1, count5, both.count, instCount]
  refine ⟨state5.after shifts, iss', runFor_snoc run5 step6, issStep, ?_⟩
  by_cases hlt : iss.fields.opcode = .hlt
  · refine Or.inr ⟨?_, ?_, r6, data6, count6, ?_⟩
    · simp [State.after, halts, exec1, opcode5, hlt]
    · rw [Iss.pc_of_hlt ordinary.below hlt arch, ← both.pc]
      exact pc6.trans (if_pos hlt)
    · simp [halted, hlt]
  · refine Or.inl ⟨rest6, ?_, congrArg CpuRegisters.ctlState cpu6, ?_, r6, data6, count6, low, ?_⟩
    · simp [State.after, halts, opcode5, hlt, running5]
    · exact pc6.trans (if_neg hlt)
    · simp [halted, hlt]

theorem exists_first_clock (shifts : Shifts) (image : Image) :
    ∃ state, next shifts (afterReset image) = some state ∧ Matches state (Iss.init image) := by
  refine ⟨(afterReset image).after shifts, ?_, ?_⟩
  · refine next_eq_some.mpr ⟨rfl, ?_, rfl⟩
    simp [cpuAccess, afterReset, spInit, Registers.zero]
  · exact {
      rest := ⟨rfl, rfl⟩
      running := rfl
      fetch0 := rfl
      pc := rfl
      r := rfl
      data := rfl
      count := rfl
      low := ⟨rfl, rfl⟩
      goesOn := rfl }

theorem simulates_step {shifts : Shifts} {state : State} {iss iss' : Iss.State}
    (related : Matches state iss ∨ Stopped state iss)
    (condition : iss.Ordinary shifts ∧ iss.word ≠ HLT)
    (step : Iss.next shifts iss = some iss') :
    Matches state iss ∧ ∃ state', runFor (next shifts) 6 state = some state' ∧
      (Matches state' iss' ∨ Stopped state' iss') := by
  rcases related with both | stopped
  · obtain ⟨state', reached, clocks, step', outcome⟩ :=
      simulates both condition.1 condition.2
    rw [step] at step'
    cases step'
    exact ⟨both, state', clocks, outcome⟩
  · have goesOn := Iss.running_of_next step
    rw [stopped.halted] at goesOn
    cases goesOn

theorem simulates_run {shifts : Shifts} {image : Image} {k : Nat} {iss : Iss.State}
    (run : runFor (Iss.next shifts) k (Iss.init image) = some iss)
    (ordinary : ∀ visited ∈ past (Iss.next shifts) k (Iss.init image),
      visited.Ordinary shifts ∧ visited.word ≠ HLT) :
    ∃ state, runFor (next shifts) (1 + 6 * k) (afterReset image) = some state ∧
      (Matches state iss ∨ Stopped state iss) := by
  obtain ⟨first, step, both⟩ := exists_first_clock shifts image
  have reset : runFor (next shifts) 1 (afterReset image) = some first := by rw [runFor_one, step]
  obtain ⟨state, reached, related, -⟩ :=
    runFor_blocks (fun iss state => Matches state iss ∨ Stopped state iss)
      (fun _ => ([] : List Empty)) (fun _ => [])
      (fun visited visited' state condition step related => by
        obtain ⟨-, state', clocks, outcome⟩ := simulates_step related condition step
        exact ⟨state', clocks, outcome, by simp⟩)
      (Or.inl both) ordinary run
  exact ⟨state, runFor_trans reset reached, related⟩

/-- The multi-cycle simulator needs one clock and six clocks per instruction to
reach the state of the instruction-set simulator. -/
theorem refines_iss (shifts : Shifts) (image : Image) (k : Nat) (iss : Iss.State)
    (run : runFor (Iss.next shifts) k (Iss.init image) = some iss)
    (ordinary : ∀ visited ∈ past (Iss.next shifts) k (Iss.init image),
      visited.Ordinary shifts ∧ visited.word ≠ HLT) :
    ∃ state, runFor (next shifts) (1 + 6 * k) (afterReset image) = some state ∧
      (if iss.halted then
        state.stopSim = true ∧ state.spro.pc = Word.ofAddress (iss.pc - 1#16)
      else
        state.stopSim = false ∧ state.spro.ctlState = .fetch0 ∧
          state.spro.pc = Word.ofAddress iss.pc) ∧
      (∀ index : RegIndex, 2#3 ≤ index → state.spro.r index = iss.regs index) ∧
      state.sram.data = iss.mem ∧
      state.nrSimulatedInstructions = iss.instCount := by
  obtain ⟨state, reached, outcome⟩ := simulates_run run ordinary
  refine ⟨state, reached, ?_⟩
  rcases outcome with both | stopped
  · rw [if_neg (by simp [both.goesOn])]
    exact ⟨⟨both.running, both.fetch0, both.pc⟩, fun index _ => by rw [both.r], both.data,
      both.count⟩
  · rw [if_pos stopped.halted]
    exact ⟨⟨stopped.stopped, stopped.pc⟩, fun index _ => by rw [stopped.r], stopped.data,
      stopped.count⟩

/-- A load, a store and a jump, in six times six clocks. -/
theorem refines_iss_tour :
    ∃ state, runFor (next Shifts.x86) 37 (afterReset tourImage) = some state ∧
      state.stopSim = true ∧ state.spro.pc = 6#32 ∧ state.sram.data 41#16 = 42#32 ∧
      state.nrSimulatedInstructions = 6#32 := by
  have executed : (runFor (Iss.next Shifts.x86) 6 (Iss.init tourImage)).map
      (fun iss => (iss.halted, Word.ofAddress (iss.pc - 1#16), iss.mem 41#16, iss.instCount)) =
      some (true, 6#32, 42#32, 6#32) := by decide +kernel
  obtain ⟨iss, run, here⟩ := Option.map_eq_some_iff.mp executed
  simp only [Prod.mk.injEq] at here
  obtain ⟨halted, last, doubled, counted⟩ := here
  obtain ⟨state, reached, ended, -, data, count⟩ :=
    refines_iss Shifts.x86 tourImage 6 iss run (by decide +kernel)
  rw [if_pos halted, last] at ended
  exact ⟨state, reached, ended.1, ended.2, by rw [data, doubled], by rw [count, counted]⟩

end SimpleProcessor.MultiCycle
