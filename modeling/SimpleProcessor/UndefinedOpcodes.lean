import SimpleProcessor.MultiCycle.Refinement
import SimpleProcessor.Pipeline.Loads

/-!
# Undefined opcodes

The instruction-set simulator ends with an error at an opcode that it does not know.  The
switches of the processors have no case for it and no default either: the multi-cycle
machine does not move `pc` and repeats the instruction forever, while the pipeline, which
has fetched the next one before, passes over it.
-/

namespace SimpleProcessor

open Transition

theorem Iss.next_of_undefined {shifts : Shifts} {state : Iss.State} {code : BitVec 5}
    (undefined : state.fields.opcode = .u code) : Iss.next shifts state = none := by
  have opcode : (Fields.ofWord (state.mem state.pc)).opcode = .u code := undefined
  simp [Iss.next, opcode, knownOpcode]

namespace MultiCycle

section Repeats

variable (shifts : Shifts) {state : State} {iss : Iss.State} {code : BitVec 5}

/-- Six clocks at an undefined opcode change nothing but the counters. -/
theorem Matches.repeats (both : Matches state iss) (undefined : iss.fields.opcode = .u code) :
    ∃ state', runFor (next shifts) 6 state = some state' ∧
      Matches state' { iss with instCount := iss.instCount + 1#32 } := by
  have inRange : state.spro.pc.InRange := by
    rw [both.pc]
    exact Word.ofAddress_inRange _
  have fetched : state.sram.data state.spro.pc.address = iss.word := by
    rw [both.data, both.pc, Word.address_ofAddress]
    rfl
  obtain ⟨state5, run5, cpu5, data5, rest5, running5, count5, -, -⟩ :=
    reach_exec1 shifts both.rest both.running both.fetch0 inRange
  rw [fetched] at cpu5
  have exec1 : state5.spro.ctlState = .exec1 := congrArg CpuRegisters.ctlState cpu5
  have opcode : state5.spro.opcode = .u code :=
    (congrArg CpuRegisters.opcode cpu5).trans undefined
  have inst : state5.spro.inst ≠ HLT := by
    rw [congrArg CpuRegisters.inst cpu5]
    intro constant
    have addition : iss.fields.opcode = .add := congrArg (Fields.opcode ∘ Fields.ofWord) constant
    rw [undefined] at addition
    cases addition
  have silent : cpuAccess state5.spro.toCpuRegisters = none := by
    simp [cpuAccess, exec1, opcode]
  obtain ⟨rest6, sram6⟩ := after_atRest shifts rest5 (by simp [dmaRequest, opcode])
  rw [silent] at sram6
  have step6 : next shifts state5 = some (state5.after shifts) :=
    next_eq_some.mpr ⟨running5, by simp [silent], rfl⟩
  refine ⟨state5.after shifts, runFor_snoc run5 step6, ?_⟩
  exact {
    rest := rest6
    running := by simp [State.after, halts, opcode, running5]
    fetch0 := by simp [State.after, nextCpu, exec1, inst]
    pc := by
      have pc5 : state5.spro.pc = state.spro.pc := by
        rw [cpu5]
        rfl
      simpa [State.after, nextCpu, exec1, exec1Pc, opcode, ← both.pc] using pc5
    r := by
      have r5 : state5.spro.r = state.spro.r := by
        rw [cpu5]
        rfl
      simpa [State.after, nextCpu, exec1, exec1Regs, opcode, ← both.r] using r5
    data := by rw [sram6, Memory.after_data, data5, both.data]
    count := by simp [State.after, completes, exec1, count5, both.count]
    low := both.low
    goesOn := both.goesOn }

theorem Matches.repeats_forever (both : Matches state iss)
    (undefined : iss.fields.opcode = .u code) (rounds : Nat) :
    ∃ state', runFor (next shifts) (6 * rounds) state = some state' ∧
      Matches state' { iss with instCount := iss.instCount + BitVec.ofNat 32 rounds } := by
  induction rounds with
  | zero => exact ⟨state, rfl, by simpa using both⟩
  | succ rounds ih =>
      obtain ⟨middle, run, matching⟩ := ih
      obtain ⟨state', further, both'⟩ := matching.repeats shifts undefined
      refine ⟨state', runFor_trans run further, ?_⟩
      rwa [BitVec.ofNat_add, ← BitVec.add_assoc]

end Repeats

end MultiCycle

namespace Pipeline

/-- The stages lead to the instruction at an address, whatever the operands in them are. -/
structure Approaches (image : Image) (pc : Word) (regs : RegFile) (mem : Image)
    (state : State) : Prop where
  frontEnd : FrontEnd image state
  near : ∀ hop ∈ state.spro.inFlight, Near hop
  btb : state.btb.Bounded
  rest : state.spro.dma.AtRest
  running : state.stopSim = false
  path : Path pc state.spro.inFlight state.spro.fetch0.pc
  r : state.spro.r = regs
  data : state.sramd.data = mem

theorem Follows.approaches {shifts : Shifts} {image : Image} {state : State} {iss : Iss.State}
    (follows : Follows shifts image state iss) :
    Approaches image (Word.ofAddress iss.pc) iss.regs iss.mem state where
  frontEnd := follows.sound.frontEnd
  near := follows.sound.near
  btb := follows.sound.btb
  rest := follows.sound.rest
  running := follows.running
  path := follows.path
  r := follows.r
  data := follows.data

namespace Approaches

variable {image mem : Image} {pc : Word} {regs : RegFile} {state : State}

theorem exec1 (approaches : Approaches image pc regs mem state)
    (active : state.spro.exec1.active = true) :
    state.retiredWord = some (pc, image pc.address) ∧
      state.spro.exec1.opcode = (Fields.ofWord (image pc.address)).opcode := by
  have here := exec1_pc_of_path active approaches.path
  obtain ⟨inst, fields⟩ := approaches.frontEnd.exec1 active
  rw [here] at inst
  rw [inst] at fields
  refine ⟨?_, congrArg Fields.opcode fields⟩
  rw [State.retiredWord, if_pos active, here, inst]

/-- A clock with an empty EXEC1, or with an undefined opcode in it, changes nothing that a
program can observe. -/
theorem next_of_quiet (shifts : Shifts) (approaches : Approaches image pc regs mem state)
    (low : pc.toNat ≤ topTarget)
    (quiet : state.spro.exec1.active = true → ∃ code, state.spro.exec1.opcode = .u code) :
    next shifts state = some (state.after shifts) ∧
      Approaches image (state.spro.reached pc) regs mem (state.after shifts) := by
  have effects : state.spro.exec1Jumps = false ∧ state.spro.isPipeStalled = false ∧
      state.spro.cpuClock.request = none ∧ state.spro.halts = false ∧
      ¬ (state.spro.exec1.active = true ∧ state.spro.exec1.opcode = .st) ∧
      ∀ dataout, state.spro.nextR dataout = state.spro.r := by
    cases active : state.spro.exec1.active with
    | false =>
        simp [Registers.exec1Jumps, Registers.isPipeStalled, Registers.cpuClock, Registers.halts,
          Registers.nextR, active]
    | true =>
        obtain ⟨code, undefined⟩ := quiet active
        simp [Registers.exec1Jumps, Registers.isPipeStalled, Registers.cpuClock, Registers.halts,
          Registers.nextR, active, undefined, isJumpOpcode]
  obtain ⟨noJump, noStall, noRequest, notHalted, noStore, r⟩ := effects
  have noDrop := (Registers.lossless_of_noStall noStall).noDrop
  refine ⟨next_eq_of_near approaches.near (fun active store => absurd ⟨active, store⟩ noStore)
    approaches.running low approaches.path, ?_⟩
  exact {
    frontEnd := approaches.frontEnd.next
    near := near_next approaches.frontEnd approaches.btb noDrop approaches.near
    btb := bounded_next approaches.btb fun jumps => by rw [noJump] at jumps; cases jumps
    rest := approaches.rest.next noRequest state.sramd.dataout
    running := by simp [State.after, notHalted, approaches.running]
    path := inFlight_next shifts approaches.frontEnd noDrop approaches.path
    r := by rw [State.after_r, r, approaches.r]
    data := by rw [sramd_data_of_rest approaches.rest, if_neg noStore, approaches.data] }

theorem exists_exec1 (shifts : Shifts) (approaches : Approaches image pc regs mem state)
    (low : pc.toNat ≤ topTarget) :
    ∃ clocks state', runFor (next shifts) clocks state = some state' ∧
      Approaches image pc regs mem state' ∧ state'.spro.exec1.active = true ∧
      (past (next shifts) clocks state).filterMap State.retiredWord = [] := by
  induction size : state.spro.rank using Nat.strongRecOn generalizing state with
  | ind size ih =>
      cases active : state.spro.exec1.active with
      | true => exact ⟨0, state, rfl, approaches, active, rfl⟩
      | false =>
          obtain ⟨step, still⟩ := approaches.next_of_quiet shifts low
            (by simp [active])
          rw [Registers.reached, if_neg (by simp [active])] at still
          obtain ⟨clocks, state', run, here, full, silent⟩ := ih _
            (size ▸ rank_next shifts approaches.frontEnd active) still rfl
          refine ⟨clocks + 1, state', ?_, here, full, ?_⟩
          · rw [runFor_succ, step]
            exact run
          · rw [past_succ_of_step clocks step, List.filterMap_cons]
            simp [State.retiredWord, active, silent]

/-- The pipeline retires an undefined opcode and goes on with the next word. -/
theorem passes (shifts : Shifts) (approaches : Approaches image pc regs mem state)
    (low : pc.toNat < topTarget) {code : BitVec 5}
    (undefined : (Fields.ofWord (image pc.address)).opcode = .u code) :
    ∃ clocks state', runFor (next shifts) clocks state = some state' ∧
      Approaches image (pc + 1#32) regs mem state' ∧ state'.spro.exec1.active = true ∧
      (past (next shifts) clocks state).filterMap State.retiredWord = [(pc, image pc.address)] := by
  obtain ⟨first, middle, firstRun, there, active, firstWords⟩ :=
    approaches.exists_exec1 shifts (Nat.le_of_lt low)
  obtain ⟨retired, opcode⟩ := there.exec1 active
  obtain ⟨step, left⟩ := there.next_of_quiet shifts (Nat.le_of_lt low)
    fun _ => ⟨code, opcode.trans undefined⟩
  have moved : middle.spro.reached pc = pc + 1#32 := by
    rw [Registers.reached, if_pos active, Exec1.successor, opcode.trans undefined,
      if_neg (by simp [isJumpOpcode]), exec1_pc_of_path active there.path]
  rw [moved] at left
  have low' : (pc + 1#32).toNat ≤ topTarget := by
    simp only [topTarget, BitVec.toNat_add, BitVec.toNat_ofNat] at low ⊢
    omega
  obtain ⟨second, state', secondRun, here, active', secondWords⟩ :=
    left.exists_exec1 shifts low'
  refine ⟨first + (1 + second), state', ?_, here, active', ?_⟩
  · refine runFor_trans firstRun (runFor_trans ?_ secondRun)
    rw [runFor_one, step]
  · rw [past_add firstRun, past_add (by rw [runFor_one, step]), past_one]
    simp [firstWords, secondWords, retired]

end Approaches

theorem follows_scheduled {shifts : Shifts} {image : Image} {btb : Btb} {k : Nat}
    {iss : Iss.State} (bounded : btb.Bounded)
    (run : runFor (Iss.next shifts) k (Iss.init image) = some iss) (goesOn : iss.halted = false)
    (word : iss.word = image iss.pc) (notLhi : iss.fields.opcode ≠ .lhi)
    (placed : ∀ visited ∈ past (Iss.next shifts) k (Iss.init image),
      Placed shifts image visited)
    (scheduled : ∀ visited ∈ past (Iss.next shifts) k (Iss.init image),
      Scheduled visited.fields visited.fields ∧
        ∀ visited' ∈ Iss.next shifts visited, Scheduled visited.fields visited'.fields) :
    ∃ clocks state, runFor (next shifts) clocks (Pipeline.afterReset image btb) = some state ∧
      Follows shifts image state iss ∧
      (past (next shifts) clocks (Pipeline.afterReset image btb)).filterMap State.retiredWord =
        (past (Iss.next shifts) k (Iss.init image)).map executedWord := by
  obtain ⟨clocks, state, reached, outcome, retired⟩ :=
    follows_prefix executedWord (fun state => (state.spro.exec1.pc, state.spro.exec1.inst))
      (fun state visited member follows => follows.retired (placed visited member))
      bounded run placed fun clocks state visited _ member follows => by
        obtain ⟨-, visited', -, -, step⟩ := exists_of_mem_past run member
        obtain ⟨own, behind⟩ := scheduled visited member
        apply Registers.lossless_of_noStall
        refine follows.noStall_of_next (placed visited member) own step fun _ => ?_
        rcases mem_past_or_eq_of_step run member step with later | rfl
        · have next := placed visited' later
          exact ⟨next.word, next.plain.notLhi, behind visited' step⟩
        · exact ⟨word, notLhi, behind visited' step⟩
  refine ⟨clocks, state, reached, ?_, retired⟩
  rcases outcome with follows | ended
  · exact follows
  · rw [ended.halted] at goesOn
    cases goesOn

end Pipeline

/-- An undefined opcode divides the three simulators.  The instruction-set simulator ends with
an error; the multi-cycle machine executes the instruction again every six clocks and never
changes a register or the memory; the pipeline retires it and the next word, as if it had no
effect. -/
theorem undefined_opcode_divides (shifts : Shifts) (image : Image) (btb : Pipeline.Btb) (k : Nat)
    (iss : Iss.State) (code : BitVec 5) (bounded : btb.Bounded)
    (run : runFor (Iss.next shifts) k (Iss.init image) = some iss) (goesOn : iss.halted = false)
    (undefined : iss.fields.opcode = .u code) (below : iss.pc.toNat < 32767)
    (word : iss.word = image iss.pc)
    (placed : ∀ visited ∈ past (Iss.next shifts) k (Iss.init image),
      Pipeline.Placed shifts image visited)
    (notIdle : ∀ visited ∈ past (Iss.next shifts) k (Iss.init image),
      visited.word ≠ MultiCycle.HLT)
    (scheduled : ∀ visited ∈ past (Iss.next shifts) k (Iss.init image),
      Pipeline.Scheduled visited.fields visited.fields ∧
        ∀ visited' ∈ Iss.next shifts visited,
          Pipeline.Scheduled visited.fields visited'.fields) :
    Iss.next shifts iss = none ∧
      (∀ rounds, ∃ state,
        runFor (MultiCycle.next shifts) (1 + 6 * (k + rounds)) (MultiCycle.afterReset image) =
          some state ∧
        MultiCycle.Matches state
          { iss with instCount := iss.instCount + BitVec.ofNat 32 rounds }) ∧
      ∃ clocks state,
        runFor (Pipeline.next shifts) clocks (Pipeline.afterReset image btb) = some state ∧
        (past (Pipeline.next shifts) clocks (Pipeline.afterReset image btb)).filterMap
            Pipeline.State.retiredWord =
          (past (Iss.next shifts) k (Iss.init image)).map Pipeline.executedWord ++
            [Pipeline.executedWord iss] ∧
        state.retiredWord = some (Word.ofAddress iss.pc + 1#32, image (iss.pc + 1#16)) ∧
        state.stopSim = false ∧ state.spro.r = iss.regs ∧ state.sramd.data = iss.mem := by
  refine ⟨Iss.next_of_undefined undefined, ?_, ?_⟩
  · intro rounds
    obtain ⟨first, reached, both | stopped⟩ := MultiCycle.simulates_run run fun visited member =>
      ⟨(placed visited member).ordinary, notIdle visited member⟩
    · obtain ⟨state, further, both'⟩ := both.repeats_forever shifts undefined rounds
      refine ⟨state, ?_, both'⟩
      rw [Nat.mul_add, ← Nat.add_assoc]
      exact runFor_trans reached further
    · rw [stopped.halted] at goesOn
      cases goesOn
  · obtain ⟨first, middle, firstRun, follows, firstWords⟩ :=
      Pipeline.follows_scheduled bounded run goesOn word (by simp [undefined]) placed scheduled
    have low : (Word.ofAddress iss.pc).toNat < Pipeline.topTarget := by
      simp only [Word.ofAddress, BitVec.toNat_setWidth, Pipeline.topTarget]
      omega
    have there : image (Word.ofAddress iss.pc).address = iss.word := by
      rw [Word.address_ofAddress, word]
    obtain ⟨second, state, secondRun, here, active, secondWords⟩ :=
      follows.approaches.passes shifts low (by rw [there]; exact undefined)
    have behind : (Word.ofAddress iss.pc + 1#32).address = iss.pc + 1#16 := by
      rw [← Iss.ofAddress_succ (by omega), Word.address_ofAddress]
    refine ⟨first + second, state, runFor_trans firstRun secondRun, ?_, ?_, here.running, here.r,
      here.data⟩
    · rw [past_add firstRun, List.filterMap_append, firstWords, secondWords, there,
        Pipeline.executedWord]
    · rw [(here.exec1 active).1, behind]

/-- 0: ADD r2, r0, 5; 1: an undefined opcode; 2: HLT. -/
def undefinedImage : Image := fun addr =>
  if addr = 0#16 then 0x00810005#32
  else if addr = 1#16 then 0x3e000000#32
  else if addr = 2#16 then 0x30000000#32
  else 0#32

/-- The pipeline gets to the HLT, the multi-cycle machine does not. -/
theorem undefined_opcode_divides_halt :
    (∃ clocks state,
      runFor (Pipeline.next Shifts.x86) clocks (Pipeline.afterReset undefinedImage .zero) =
        some state ∧ state.retiredWord = some (2#32, 0x30000000#32)) ∧
      ∃ state,
        runFor (MultiCycle.next Shifts.x86) 6007 (MultiCycle.afterReset undefinedImage) =
          some state ∧ state.spro.pc = 1#32 := by
  have executed : (runFor (Iss.next Shifts.x86) 1 (Iss.init undefinedImage)).map
      (fun iss => (iss.halted, iss.pc, iss.word)) = some (false, 1#16, 0x3e000000#32) := by
    decide +kernel
  obtain ⟨iss, run, here⟩ := Option.map_eq_some_iff.mp executed
  simp only [Prod.mk.injEq] at here
  obtain ⟨goesOn, pc, word⟩ := here
  have undefined : iss.fields.opcode = .u 31#5 := by
    rw [Iss.State.fields, word]
    decide
  obtain ⟨-, repeats, clocks, state, reached, -, retired, -⟩ :=
    undefined_opcode_divides Shifts.x86 undefinedImage .zero 1 iss 31#5
      (fun _ taken => absurd rfl taken) run goesOn undefined (by rw [pc]; decide)
      (by rw [word, pc]; rfl) (by decide +kernel) (by decide +kernel) (by decide +kernel)
  obtain ⟨later, further, both⟩ := repeats 1000
  refine ⟨⟨clocks, state, reached, ?_⟩, later, further, ?_⟩
  · rw [retired, pc]
    rfl
  · rw [both.pc]
    simp only [pc]
    rfl

end SimpleProcessor
