import SimpleProcessor.Dma.Ledger
import SimpleProcessor.Pipeline.Clock

/-!
# The pipeline never notices the engine

No register of the pipeline depends on the registers of the engine, not even behind a DMA
or a DMP.  The data memory is the only way from one to the other, and a load takes a
word from the bus that it has read itself.  So two runs with different engines and
different contents of a set `W` of words agree, flushes and stalls included, as long as no
load that retires reads from `W`.
-/

namespace SimpleProcessor.Pipeline

open Transition Dma

/-- The registers of the CPU proper. -/
def Registers.withoutEngine (spro : Registers) : Registers := { spro with dma := .reset }

/-- The engine writes inside `W` in this clock. -/
def State.EngineWithin (W : Set Address) (state : State) : Prop :=
  ∀ target, writeTarget (access (isDmaHazard state.spro) state.spro.dma) = some target →
    target ∈ W

/-- A load takes the word on the data bus in this clock. -/
def Registers.takesWord (spro : Registers) : Prop :=
  spro.exec1.active = true ∧ spro.exec1.opcode = .ld ∧ 1#3 < spro.exec1.dst

/-- The loads that retire read outside `W`. -/
def State.Unaware (W : Set Address) (state : State) : Prop :=
  state.spro.takesWord → state.spro.exec1.alu1.address ∉ W

/-- What the two runs have in common. -/
structure Agree (W : Set Address) (left right : State) : Prop where
  cpu : left.spro.withoutEngine = right.spro.withoutEngine
  srami : left.srami = right.srami
  btb : left.btb = right.btb
  outside : ∀ addr, addr ∉ W → left.sramd.data addr = right.sramd.data addr
  word : left.spro.takesWord → left.spro.exec1.alu1.address ∉ W →
    left.sramd.dataout = right.sramd.dataout
  start : left.start = right.start
  count : left.nrSimulatedInstructions = right.nrSimulatedInstructions
  stopSim : left.stopSim = right.stopSim

section Step

variable {shifts : Shifts} {W : Set Address} {left right left' : State} {α : Type}

theorem Agree.same (agree : Agree W left right) (signal : Registers → α)
    (ofCpu : ∀ spro : Registers, signal spro.withoutEngine = signal spro) :
    signal left.spro = signal right.spro := by
  rw [← ofCpu left.spro, agree.cpu, ofCpu]

theorem nextR_congr {spro : Registers} {dataout dataout' : Word}
    (word : spro.takesWord → dataout = dataout') : spro.nextR dataout = spro.nextR dataout' := by
  simp only [Registers.nextR]
  cases active : spro.exec1.active with
  | false => rfl
  | true =>
      cases opcode : spro.exec1.opcode with
      | ld =>
          by_cases named : 1#3 < spro.exec1.dst
          · rw [word ⟨active, opcode, named⟩]
          · simp [named]
      | _ => rfl

theorem nextMem_congr {spro : Registers} {dataout dataout' : Word}
    (word : spro.takesWord → dataout = dataout') :
    spro.nextMem dataout = spro.nextMem dataout' := by
  simp only [Registers.nextMem]
  by_cases takes : spro.takesWord
  · rw [word takes]
  · have noLoad : spro.exec1.active = true → ¬ (spro.exec1.opcode = .ld ∧ 1#3 < spro.exec1.dst) :=
      fun active load => takes ⟨active, load⟩
    cases active : spro.exec1.active with
    | false => rfl
    | true => simp [noLoad active]

theorem after_data_outside (within : left.EngineWithin W) {addr : Address} (outside : addr ∉ W) :
    (left.after shifts).sramd.data addr =
      (left.sramd.after left.spro.cpuClock.access).data addr := by
  cases hazard : left.spro.cpuClock.hazard with
  | true => simp [State.after, State.dataAccess, portAccess, hazard]
  | false =>
      have silent : left.spro.cpuClock.access = none := left.spro.cpuClock_wellTimed hazard
      rw [silent]
      simp only [State.after, State.dataAccess, portAccess, hazard, Bool.false_eq_true, if_false,
        Memory.after_data]
      cases made : access false left.spro.dma with
      | none => rfl
      | some made' =>
          cases made' with
          | read source => rfl
          | write target value =>
              have quiet : isDmaHazard left.spro = false := hazard
              have inside := within target.address (by rw [quiet, made]; rfl)
              have other : addr ≠ target.address := by
                rintro rfl
                exact outside inside
              exact Function.update_of_ne other _ _

theorem after_dataout_of_takesWord (takes : (left.after shifts).spro.takesWord) :
    (left.after shifts).sramd.dataout =
      left.sramd.data (left.after shifts).spro.exec1.alu1.address := by
  rw [left.after_load shifts takes.1 takes.2.1, Memory.after_read_dataout, Word.and_mask_eq,
    Word.address_ofAddress]

theorem Agree.next_cpu (agree : Agree W left right) (unaware : left.Unaware W) :
    (left.after shifts).spro.withoutEngine = (right.after shifts).spro.withoutEngine := by
  have taken : right.spro.takesWord → left.sramd.dataout = right.sramd.dataout := by
    intro takes
    rw [← agree.same Registers.takesWord fun _ => rfl] at takes
    exact agree.word takes (unaware takes)
  simp only [Registers.withoutEngine, State.after, State.nextSprn, Registers.mk.injEq, and_true]
  refine ⟨?_, ?_, ?_, ?_, ?_, ?_, ?_, ?_, ?_⟩
  · rw [agree.same (Registers.nextR · left.sramd.dataout) fun _ => rfl]
    exact nextR_congr taken
  · exact agree.same (Registers.cycleCounter · + 1#32) fun _ => rfl
  · rw [agree.start, agree.btb]
    exact agree.same (Registers.nextFetch0 · right.start right.btb) fun _ => rfl
  · rw [agree.btb, agree.srami]
    exact agree.same (Registers.nextFetch1 · right.btb right.srami.dataout) fun _ => rfl
  · rw [agree.srami]
    exact agree.same (Registers.nextDec0 · right.srami.dataout) fun _ => rfl
  · exact agree.same Registers.nextDec1 fun _ => rfl
  · exact agree.same Registers.nextExec0 fun _ => rfl
  · exact agree.same (Registers.nextExec1 · shifts) fun _ => rfl
  · rw [agree.same (Registers.nextMem · left.sramd.dataout) fun _ => rfl]
    exact nextMem_congr taken

theorem Agree.next (agree : Agree W left right) (unaware : left.Unaware W)
    (within : left.EngineWithin W) (within' : right.EngineWithin W)
    (step : Pipeline.next shifts left = some left') :
    ∃ right', Pipeline.next shifts right = some right' ∧ Agree W left' right' := by
  obtain ⟨running, inBtb, data, fetch, rfl⟩ := next_eq_some.mp step
  have accesses : left.spro.cpuClock.access = right.spro.cpuClock.access :=
    agree.same (fun spro => spro.cpuClock.access) fun _ => rfl
  have fetches : left.spro.fetchAccess = right.spro.fetchAccess :=
    agree.same Registers.fetchAccess fun _ => rfl
  have active : left.spro.exec1.active = right.spro.exec1.active :=
    agree.same (fun spro => spro.exec1.active) fun _ => rfl
  have cpu : (left.after shifts).spro.withoutEngine = (right.after shifts).spro.withoutEngine :=
    agree.next_cpu unaware
  refine ⟨right.after shifts, next_eq_some.mpr ⟨?_, ?_, ?_, ?_, rfl⟩, cpu, ?_, ?_, ?_, ?_,
    agree.start, ?_, ?_⟩
  · rw [← agree.stopSim, running]
  · rw [← agree.same Registers.leavesBtb fun _ => rfl, inBtb]
  · rw [← accesses]
    exact data
  · rw [← fetches]
    exact fetch
  · simp only [State.after_srami, agree.srami, fetches]
  · change left.spro.nextBtb left.btb = right.spro.nextBtb right.btb
    rw [agree.btb]
    exact agree.same (Registers.nextBtb · right.btb) fun _ => rfl
  · intro addr outside
    rw [after_data_outside within outside, after_data_outside within' outside, ← accesses,
      Memory.after_data, Memory.after_data]
    rcases left.spro.cpuClock.access with - | access
    · exact agree.outside addr outside
    · cases access with
      | read source => exact agree.outside addr outside
      | write target value =>
          simp only [Function.update_apply, agree.outside addr outside]
  · intro takes outside
    have alu1 : (left.after shifts).spro.exec1.alu1 = (right.after shifts).spro.exec1.alu1 :=
      congrArg (fun spro => spro.exec1.alu1) cpu
    have takes' : (right.after shifts).spro.takesWord :=
      (congrArg Registers.takesWord cpu).mp takes
    rw [after_dataout_of_takesWord takes, after_dataout_of_takesWord takes',
      agree.outside _ outside, alu1]
  · simp only [State.after, active, agree.count]
  · simp only [State.after, agree.stopSim]
    rw [agree.same Registers.halts fun _ => rfl]

end Step

/-- Whatever the two engines do inside `W`, a program whose loads read outside `W` computes
the same in both runs, clock by clock, DMA and DMP instructions included. -/
theorem engine_unnoticed (shifts : Shifts) (W : Set Address) (left right left' : State)
    (clocks : Nat) (agree : Agree W left right)
    (run : runFor (next shifts) clocks left = some left')
    (unaware : ∀ state ∈ past (next shifts) clocks left, state.Unaware W)
    (within : ∀ state ∈ past (next shifts) clocks left, state.EngineWithin W)
    (within' : ∀ state ∈ past (next shifts) clocks right, state.EngineWithin W) :
    ∃ right', runFor (next shifts) clocks right = some right' ∧ Agree W left' right' :=
  runFor_lockstep
    (fun _ right _ agree
        (good : State.Unaware W _ ∧ State.EngineWithin W _) (within' : right.EngineWithin W) step =>
      agree.next good.1 good.2 within' step)
    agree (fun state member => ⟨unaware state member, within state member⟩) within' run

instance (W : Set Address) [DecidablePred (· ∈ W)] (state : State) : Decidable (state.Unaware W) :=
  decidable_of_iff
    (¬ (state.spro.exec1.active = true ∧ state.spro.exec1.opcode = .ld ∧
      1#3 < state.spro.exec1.dst) ∨ state.spro.exec1.alu1.address ∉ W)
    imp_iff_not_or.symm

instance (W : Set Address) [DecidablePred (· ∈ W)] (state : State) :
    Decidable (state.EngineWithin W) :=
  match target : writeTarget (access (isDmaHazard state.spro) state.spro.dma) with
  | none => .isTrue fun _ writes => by simp [target] at writes
  | some addr =>
      decidable_of_iff (addr ∈ W)
        ⟨fun inside _ writes => by
          rw [target] at writes
          cases writes
          exact inside, fun within => within addr target⟩

instance (kept : Address) : DecidablePred (· ∈ {addr | addr ≠ kept}) := fun addr =>
  inferInstanceAs (Decidable (addr ≠ kept))

/-- 0: LD r2, [6]; 1: ADD r3, r0, r0; 2: DMA 100, 100, r2; 3: DMP 0. -/
def copyingImage : Image := fun addr =>
  if addr = 0#16 then 0x10810006#32
  else if addr = 1#16 then 0x00c00000#32
  else if addr = 2#16 then 0x140a0064#32
  else if addr = 3#16 then 0x16080000#32
  else if addr = 6#16 then 2#32
  else 0#32

/-- The program beside a given engine. -/
def copyingBeside (dma : DmaRegisters) : State :=
  let idle := afterReset copyingImage .zero
  { idle with spro := { idle.spro with dma } }

/-- One engine accepts the request of the program, the other is still busy with its own. -/
theorem engine_unnoticed_copying :
    ∃ left right,
      runFor (next Shifts.x86) 12 (copyingBeside .reset) = some left ∧
      runFor (next Shifts.x86) 12 (copyingBeside { DmaRegisters.reset with
        busy := true, src := 6#32, dst := 100#32, len := 20#32 }) = some right ∧
      left.spro.dma.dst = 100#32 ∧ right.spro.dma.dst = 104#32 ∧
      Agree {addr | addr ≠ 6#16} left right := by
  have simulated : (runFor (next Shifts.x86) 12 (copyingBeside .reset)).map
      (fun left => left.spro.dma.dst) = some 100#32 := by decide +kernel
  have simulated' : (runFor (next Shifts.x86) 12 (copyingBeside { DmaRegisters.reset with
      busy := true, src := 6#32, dst := 100#32, len := 20#32 })).map
      (fun right => right.spro.dma.dst) = some 104#32 := by decide +kernel
  obtain ⟨left, run, dst⟩ := Option.map_eq_some_iff.mp simulated
  obtain ⟨right, run', agree⟩ := engine_unnoticed Shifts.x86 {addr | addr ≠ 6#16}
    (copyingBeside .reset)
    (copyingBeside { DmaRegisters.reset with
      busy := true, src := 6#32, dst := 100#32, len := 20#32 })
    left 12 ⟨rfl, rfl, rfl, fun _ _ => rfl, fun _ _ => rfl, rfl, rfl, rfl⟩ run
    (by decide +kernel) (by decide +kernel) (by decide +kernel)
  rw [run'] at simulated'
  exact ⟨left, right, run, run', dst, Option.some.inj simulated', agree⟩

end SimpleProcessor.Pipeline
