import SimpleProcessor.MultiCycle.Clock
import SimpleProcessor.Dma.Ledger

/-!
# The CPU never notices the engine

Two runs with different engines and different contents of a set `W` of words.
The bus carries a word for one clock only, and the clocks in which the CPU takes
a word from it follow the CPU's own read, so the runs agree on those words.
-/

namespace SimpleProcessor.MultiCycle

open Transition Dma

/-- The access the engine makes in a clock. -/
def State.engineAccess (state : State) : Option Access :=
  access (dmaHazard state.spro) state.spro.dma

/-- The engine writes inside `W` in this clock. -/
def State.EngineWithin (W : Set Address) (state : State) : Prop :=
  ∀ target, writeTarget state.engineAccess = some target → target ∈ W

/-- The CPU takes no notice of `W` and of the engine on purpose: it executes
neither DMA nor DMP and reads outside `W`. -/
structure State.Unaware (W : Set Address) (state : State) : Prop where
  noHandshake : state.spro.ctlState = .exec0 ∨ state.spro.ctlState = .exec1 →
    state.spro.opcode ≠ .dma ∧ state.spro.opcode ≠ .dmp
  readsOutside : ∀ addr,
    cpuAccess state.spro.toCpuRegisters = some (.read addr) → addr.address ∉ W

/-- The CPU takes the word on the bus in this clock. -/
def takesWord (cpu : CpuRegisters) : Prop :=
  cpu.ctlState = .fetch1 ∨ (cpu.ctlState = .exec1 ∧ cpu.opcode = .ld)

/-- What the two runs have in common. -/
structure Agree (W : Set Address) (left right : State) : Prop where
  cpu : left.spro.toCpuRegisters = right.spro.toCpuRegisters
  outside : ∀ addr, addr ∉ W → left.sram.data addr = right.sram.data addr
  word : takesWord left.spro.toCpuRegisters → left.sram.dataout = right.sram.dataout
  start : left.start = right.start
  stopSim : left.stopSim = right.stopSim

section Step

variable {shifts : Shifts} {W : Set Address} {left right left' : State}

theorem nextCpu_congr {cpu : CpuRegisters} {start busy busy' : Bool} {dataout dataout' : Word}
    (noHandshake : cpu.ctlState = .exec0 ∨ cpu.ctlState = .exec1 →
      cpu.opcode ≠ .dma ∧ cpu.opcode ≠ .dmp)
    (word : takesWord cpu → dataout = dataout') :
    nextCpu shifts start busy dataout cpu = nextCpu shifts start busy' dataout' cpu := by
  cases ctlState : cpu.ctlState with
  | idle | fetch0 | dec0 | dec1 => simp only [nextCpu, ctlState]
  | fetch1 => simp only [nextCpu, ctlState, word (Or.inl ctlState)]
  | exec0 =>
      have notDmp := (noHandshake (Or.inl ctlState)).2
      have aluout : exec0Aluout shifts busy cpu = exec0Aluout shifts busy' cpu := by
        cases opcode : cpu.opcode with
        | dmp => exact absurd opcode notDmp
        | _ => simp only [exec0Aluout, opcode]
      simp only [nextCpu, ctlState, aluout]
  | exec1 =>
      have notDma := (noHandshake (Or.inr ctlState)).1
      have regs : exec1Regs dataout cpu = exec1Regs dataout' cpu := by
        cases opcode : cpu.opcode with
        | ld => rw [word (Or.inr ⟨ctlState, opcode⟩)]
        | _ => simp only [exec1Regs, opcode]
      have pc : exec1Pc busy cpu = exec1Pc busy' cpu := by
        cases opcode : cpu.opcode with
        | dma => exact absurd opcode notDma
        | _ => simp only [exec1Pc, opcode]
      simp only [nextCpu, ctlState, regs, pc]

theorem after_data_outside (within : left.EngineWithin W) {addr : Address} (outside : addr ∉ W) :
    (left.after shifts).sram.data addr =
      (left.sram.after (cpuAccess left.spro.toCpuRegisters)).data addr := by
  cases hazard : dmaHazard left.spro with
  | true => simp [State.after, State.portAccess, portAccess, State.cpuClock, hazard]
  | false =>
      have silent : cpuAccess left.spro.toCpuRegisters = none :=
        left.cpuClock_wellTimed hazard
      rw [silent]
      simp only [State.after, State.portAccess, portAccess, State.cpuClock, hazard,
        Bool.false_eq_true, if_false, Memory.after_data]
      cases made : access false left.spro.dma with
      | none => rfl
      | some made' =>
          cases made' with
          | read source => rfl
          | write target value =>
              have inside := within target.address (by
                simp only [State.engineAccess, hazard, made, writeTarget])
              have other : addr ≠ target.address := by
                rintro rfl
                exact outside inside
              exact Function.update_of_ne other _ _

theorem after_dataout_of_takesWord
    (takes : takesWord (left.after shifts).spro.toCpuRegisters) :
    ∃ addr, cpuAccess left.spro.toCpuRegisters = some (.read addr) ∧
      (left.after shifts).sram.dataout = left.sram.data addr.address := by
  have reads : ∃ addr, cpuAccess left.spro.toCpuRegisters = some (.read addr) := by
    have cpu : (left.after shifts).spro.toCpuRegisters = nextCpu shifts left.start
      left.spro.dma.busy left.sram.dataout left.spro.toCpuRegisters := rfl
    rw [cpu] at takes
    cases ctlState : left.spro.ctlState with
    | fetch0 => exact ⟨left.spro.pc, by simp [cpuAccess, ctlState]⟩
    | exec0 =>
        simp only [takesWord, nextCpu, ctlState, reduceCtorEq, false_or, true_and] at takes
        exact ⟨left.spro.alu1 &&& 0xffff#32, by simp [cpuAccess, ctlState, takes]⟩
    | idle =>
        cases started : left.start <;> simp [takesWord, nextCpu, ctlState, started] at takes
    | fetch1 | dec0 | dec1 => simp [takesWord, nextCpu, ctlState] at takes
    | exec1 =>
        by_cases idles : left.spro.inst = HLT <;>
          simp [takesWord, nextCpu, ctlState, idles] at takes
  obtain ⟨addr, reads⟩ := reads
  have hazard : dmaHazard left.spro = true := by
    by_contra quiet
    have silent : cpuAccess left.spro.toCpuRegisters = none :=
      left.cpuClock_wellTimed (Bool.not_eq_true _ ▸ quiet)
    simp [reads] at silent
  refine ⟨addr, reads, ?_⟩
  simp [State.after, State.portAccess, portAccess, State.cpuClock, hazard, reads]

theorem Agree.next (agree : Agree W left right) (unaware : left.Unaware W)
    (within : left.EngineWithin W) (within' : right.EngineWithin W)
    (step : next shifts left = some left') :
    ∃ right', next shifts right = some right' ∧ Agree W left' right' := by
  obtain ⟨running, inRange, rfl⟩ := next_eq_some.mp step
  refine ⟨right.after shifts, next_eq_some.mpr ⟨?_, ?_, rfl⟩, ?_⟩
  · rw [← agree.stopSim, running]
  · rw [← agree.cpu]
    exact inRange
  · have cpu : (left.after shifts).spro.toCpuRegisters =
        (right.after shifts).spro.toCpuRegisters := by
      simp only [State.after, ← agree.cpu, ← agree.start]
      exact nextCpu_congr unaware.noHandshake agree.word
    refine ⟨cpu, ?_, ?_, agree.start, ?_⟩
    · intro addr outside
      rw [after_data_outside within outside, after_data_outside within' outside, ← agree.cpu,
        Memory.after_data, Memory.after_data]
      rcases cpuAccess left.spro.toCpuRegisters with - | access
      · exact agree.outside addr outside
      · cases access with
        | read source => exact agree.outside addr outside
        | write target value =>
            simp only [Function.update_apply, agree.outside addr outside]
    · intro takes
      obtain ⟨addr, reads, word⟩ := after_dataout_of_takesWord takes
      rw [cpu] at takes
      obtain ⟨addr', reads', word'⟩ := after_dataout_of_takesWord takes
      rw [← agree.cpu, reads] at reads'
      cases reads'
      rw [word, word', agree.outside _ (unaware.readsOutside addr reads)]
    · simp only [State.after, agree.cpu, agree.stopSim]

end Step

/-- Whatever the engine does inside `W`, a program that neither uses the engine
nor reads from `W` computes the same, clock by clock. -/
theorem engine_invisible (shifts : Shifts) (W : Set Address) (left right : State)
    (fetch0 : left.spro.ctlState = .fetch0)
    (cpu : left.spro.toCpuRegisters = right.spro.toCpuRegisters)
    (outside : ∀ addr, addr ∉ W → left.sram.data addr = right.sram.data addr)
    (start : left.start = right.start) (stopSim : left.stopSim = right.stopSim)
    (clocks : Nat) (left' : State)
    (run : runFor (next shifts) clocks left = some left')
    (unaware : ∀ state ∈ past (next shifts) clocks left, state.Unaware W)
    (within : ∀ state ∈ past (next shifts) clocks left, state.EngineWithin W)
    (within' : ∀ state ∈ past (next shifts) clocks right, state.EngineWithin W) :
    ∃ right', runFor (next shifts) clocks right = some right' ∧
      left'.spro.toCpuRegisters = right'.spro.toCpuRegisters ∧
      ∀ addr, addr ∉ W → left'.sram.data addr = right'.sram.data addr := by
  have initially : Agree W left right := by
    refine ⟨cpu, outside, ?_, start, stopSim⟩
    rintro (fetch1 | ⟨exec1, -⟩)
    · simp [fetch0] at fetch1
    · simp [fetch0] at exec1
  obtain ⟨right', run', agree⟩ := runFor_lockstep
    (fun _ right _ agree
        (good : State.Unaware W _ ∧ State.EngineWithin W _) (within' : right.EngineWithin W) step =>
      agree.next good.1 good.2 within' step)
    initially (fun state member => ⟨unaware state member, within state member⟩) within' run
  exact ⟨right', run', agree.cpu, agree.outside⟩

/-- A CPU about to fetch from a memory of zeros, beside a given engine. -/
def readyBeside (dma : DmaRegisters) : State :=
  let idle := afterReset fun _ => 0#32
  { idle with spro := { idle.spro with ctlState := .fetch0, dma } }

/-- An engine that writes its last word while the CPU fetches. -/
theorem engine_invisible_writeLast :
    ∃ right', runFor (next Shifts.x86) 2 (readyBeside { DmaRegisters.reset with
        busy := true, dst := 100#32, len := 1#32, reg := 7#32, state := .writeLast }) =
          some right' ∧
      right'.spro.ctlState = .dec0 ∧ right'.spro.inst = 0#32 := by
  obtain ⟨right', run, cpu, -⟩ := engine_invisible Shifts.x86 {addr | addr ≠ 0#16}
    (readyBeside .reset) (readyBeside { DmaRegisters.reset with
      busy := true, dst := 100#32, len := 1#32, reg := 7#32, state := .writeLast })
    rfl rfl (fun _ _ => rfl) rfl rfl 2 _ rfl
    (by
      simp only [forall_mem_past_succ, past_zero, List.not_mem_nil, false_implies,
        implies_true, and_true]
      refine ⟨⟨by simp [readyBeside], ?_⟩, ?_⟩
      · rintro _ ⟨⟩ inside
        exact inside rfl
      · rintro _ ⟨⟩
        exact ⟨by rintro (⟨⟨⟩⟩ | ⟨⟨⟩⟩), by rintro _ ⟨⟩⟩)
    (by
      simp only [forall_mem_past_succ, past_zero, List.not_mem_nil, false_implies,
        implies_true, and_true]
      exact ⟨by rintro _ ⟨⟩, by rintro _ ⟨⟩ _ ⟨⟩⟩)
    (by
      simp only [forall_mem_past_succ, past_zero, List.not_mem_nil, false_implies,
        implies_true, and_true]
      refine ⟨by rintro _ ⟨⟩, ?_⟩
      rintro _ ⟨⟩ _ ⟨⟩
      exact (by decide : 100#16 ≠ 0#16))
  exact ⟨right', run, (congrArg CpuRegisters.ctlState cpu).symm,
    (congrArg CpuRegisters.inst cpu).symm⟩

end SimpleProcessor.MultiCycle
