import SimpleProcessor.Iss.Trace
import SimpleProcessor.MultiCycle.Refinement

/-!
# The instruction trace of the multi-cycle simulator

An instruction is printed in DEC1, when its operands have been read, and what it does
in EXEC0 or, where the memory or the end of the run is concerned, in EXEC1.  The lines
come out in the order of the instruction-set simulator.
-/

namespace SimpleProcessor.MultiCycle

open Stdio Transition

/-- `printInstruction` -/
def printInstruction (sp : CpuRegisters) (nrSimulatedInstructions : Word) : Text :=
  instructionLine nrSimulatedInstructions sp.pc ++
    fieldLines sp.pc sp.inst ⟨sp.opcode, sp.dst, sp.src0, sp.src1, sp.immediate⟩
      (opcodeName sp.opcode) sp.r

/-- What EXEC0 prints. -/
def exec0Line (spro sprn : CpuRegisters) : Text :=
  let pc := if sprn.aluout ≠ 0#32 then spro.immediate else spro.pc + 1#32
  match spro.opcode with
  | .add => computeLine "ADD".toList spro.dst spro.alu0 spro.alu1
  | .sub => computeLine "SUB".toList spro.dst spro.alu0 spro.alu1
  | .lsf => computeLine "LSF".toList spro.dst spro.alu0 spro.alu1
  | .rsf => computeLine "RSF".toList spro.dst spro.alu0 spro.alu1
  | .and => computeLine "AND".toList spro.dst spro.alu0 spro.alu1
  | .or => computeLine "OR".toList spro.dst spro.alu0 spro.alu1
  | .xor => computeLine "XOR".toList spro.dst spro.alu0 spro.alu1
  | .lhi => lhiLine spro.dst spro.alu0
  | .jlt => jumpLine "JLT".toList spro.alu0 spro.alu1 pc
  | .jle => jumpLine "JLE".toList spro.alu0 spro.alu1 pc
  | .jeq => jumpLine "JEQ".toList spro.alu0 spro.alu1 pc
  | .jne => jumpLine "JNE".toList spro.alu0 spro.alu1 pc
  | .jin => jinLine spro.src0 spro.alu0
  | .ld | .st | .dma | .dmp | .hlt | .u _ => []

/-- What EXEC1 prints. -/
def exec1Line (spro sprn : CpuRegisters) (nrSimulatedInstructions : Word) : Text :=
  match spro.opcode with
  | .ld => if 1#3 < spro.dst then loadLine spro.dst spro.alu1 (sprn.r spro.dst) else []
  | .st => storeLine spro.alu1 spro.src0 spro.alu0
  | .hlt => haltLine spro.pc ++ finishedLine spro.pc nrSimulatedInstructions
  | _ => []

/-- What `sp_ctl` prints to `inst_trace.txt`. -/
def instTrace (spro sprn : CpuRegisters) (nrSimulatedInstructions : Word) : Text :=
  match spro.ctlState with
  | .dec1 => printInstruction sprn nrSimulatedInstructions
  | .exec0 => exec0Line spro sprn
  | .exec1 => exec1Line spro sprn nrSimulatedInstructions
  | .idle | .fetch0 | .fetch1 | .dec0 => []

/-- What a clock prints. -/
def State.trace (shifts : Shifts) (state : State) : Text :=
  match spCtl shifts { state with sram := state.sram.clearPort, sprn := state.spro } with
  | .ok sp => instTrace sp.spro.toCpuRegisters sp.sprn.toCpuRegisters sp.nrSimulatedInstructions
  | .error _ => []

/-- `inst_trace.txt` after that many clocks. -/
def traceFile (shifts : Shifts) (programName : Text) (lines clocks : Nat) (image : Image) :
    Text :=
  loadedLine programName lines ++
    (past (next shifts) clocks (afterReset image)).flatMap fun state => state.trace shifts

section Clock

variable {shifts : Shifts} {state : State}

theorem trace_eq (shifts : Shifts) (state : State) :
    state.trace shifts =
      instTrace state.spro.toCpuRegisters
        (nextCpu shifts state.start state.spro.dma.busy state.sram.dataout
          state.spro.toCpuRegisters)
        (if completes state.spro.toCpuRegisters then state.nrSimulatedInstructions + 1#32
        else state.nrSimulatedInstructions) := by
  have ctl := spCtl_eq shifts { state with sram := state.sram.clearPort }
  simp only [Memory.announce_clearPort, Except.map] at ctl
  rw [State.trace, ctl]
  rfl

theorem trace_of_notExec1 (notExec1 : state.spro.ctlState ≠ .exec1) :
    state.trace shifts =
      instTrace state.spro.toCpuRegisters
        (nextCpu shifts true false 0#32 state.spro.toCpuRegisters)
        state.nrSimulatedInstructions := by
  rw [trace_eq, completes]
  cases ctlState : state.spro.ctlState with
  | exec1 => exact absurd ctlState notExec1
  | exec0 =>
      simp only [instTrace, ctlState, exec0Line, nextCpu, exec0Aluout]
      cases state.spro.opcode <;> rfl
  | idle | fetch0 | fetch1 | dec0 | dec1 => simp [instTrace, nextCpu, ctlState]

end Clock

section Instruction

variable {shifts : Shifts} {word dataout count : Word} {mem : Image} {cpu : CpuRegisters}

theorem trace_earlierStages (shifts : Shifts) (mem : Image) (word count : Word)
    (fetch0 : cpu.ctlState = .fetch0) :
    ((earlierStages word cpu).flatMap fun stage =>
        instTrace stage (nextCpu shifts true false 0#32 stage) count) =
      Arch.heading count word ⟨cpu.pc, cpu.r, mem⟩ ++
        exec0Line (operandsRead word cpu) (beforeExec1 shifts word cpu) := by
  have ctlState : (operandsRead word cpu).ctlState = .exec0 := rfl
  simp only [earlierStages, List.flatMap_cons, List.flatMap_nil, instTrace, nextCpu, fetch0,
    ctlState, List.nil_append, List.append_nil]
  rfl

theorem exec_lines (basic : (Fields.ofWord word).opcode.isBasic = true)
    (loaded : (Fields.ofWord word).opcode = .ld →
      dataout = mem ((Fields.ofWord word).operand1 cpu.r).address) :
    exec0Line (operandsRead word cpu) (beforeExec1 shifts word cpu) ++
        exec1Line (beforeExec1 shifts word cpu)
          { beforeExec1 shifts word cpu with
            r := exec1Regs dataout (beforeExec1 shifts word cpu) } (count + 1#32) =
      if Arch.tracedAlike word then Arch.executionLines shifts count word ⟨cpu.pc, cpu.r, mem⟩
      else [] := by
  cases opcode : (Fields.ofWord word).opcode with
  | ld =>
      have line := loaded opcode
      by_cases named : 1#3 < (Fields.ofWord word).dst
      · simp [exec0Line, exec1Line, exec1Regs, operandsRead, beforeExec1, Arch.tracedAlike,
          Arch.executionLines, Opcode.isCompute, opcode, named, line]
      · simp [exec0Line, exec1Line, operandsRead, beforeExec1, Arch.tracedAlike, opcode, named]
  | add | sub | lsf | rsf | and | or | xor =>
      simp [exec0Line, exec1Line, operandsRead, beforeExec1, Arch.tracedAlike,
        Arch.executionLines, Opcode.isCompute, opcodeName, Fields.operand0, opcode]
  | st | hlt =>
      simp [exec0Line, exec1Line, operandsRead, beforeExec1, Arch.tracedAlike,
        Arch.executionLines, Opcode.isCompute, Opcode.isBranch, Fields.operand0, opcode]
  | jlt | jle | jeq | jne =>
      simp [exec0Line, exec1Line, operandsRead, beforeExec1, exec0Aluout, Arch.tracedAlike,
        Arch.executionLines, Arch.taken, aluResult, Opcode.isCompute, Opcode.isBranch, opcodeName,
        Fields.operand0, opcode]
  | lhi | dma | dmp | jin | u code => simp [opcode, Opcode.isBasic] at basic

theorem trace_past {state : State} (fetch0 : state.spro.ctlState = .fetch0)
    (earlier : (past (next shifts) 5 state).map (fun visited =>
        (visited.spro.toCpuRegisters, visited.nrSimulatedInstructions)) =
      (earlierStages word state.spro.toCpuRegisters).map (·, state.nrSimulatedInstructions)) :
    (past (next shifts) 5 state).flatMap (fun visited => visited.trace shifts) =
      Arch.heading state.nrSimulatedInstructions word ⟨state.spro.pc, state.spro.r, mem⟩ ++
        exec0Line (operandsRead word state.spro.toCpuRegisters)
          (beforeExec1 shifts word state.spro.toCpuRegisters) := by
  let line (stage : CpuRegisters × Word) : Text :=
    instTrace stage.1 (nextCpu shifts true false 0#32 stage.1) stage.2
  have clock : ∀ visited ∈ past (next shifts) 5 state, visited.trace shifts =
      line (visited.spro.toCpuRegisters, visited.nrSimulatedInstructions) := by
    intro visited member
    apply trace_of_notExec1
    have found := List.mem_map_of_mem (f := fun visited : State =>
      (visited.spro.toCpuRegisters, visited.nrSimulatedInstructions)) member
    rw [earlier] at found
    obtain ⟨stage, inStages, same⟩ := List.mem_map.mp found
    rw [← (Prod.mk.inj same).1]
    simp only [earlierStages, List.mem_cons, List.not_mem_nil, or_false] at inStages
    rcases inStages with rfl | rfl | rfl | rfl | rfl <;> simp [fetch0, operandsRead]
  calc (past (next shifts) 5 state).flatMap (fun visited => visited.trace shifts)
      = ((past (next shifts) 5 state).map fun visited =>
          (visited.spro.toCpuRegisters, visited.nrSimulatedInstructions)).flatMap line := by
        rw [List.flatMap_map]
        exact List.flatMap_congr clock
    _ = (earlierStages word state.spro.toCpuRegisters).flatMap fun stage =>
          line (stage, state.nrSimulatedInstructions) := by
        rw [earlier, List.flatMap_map]
    _ = _ := trace_earlierStages shifts mem word _ fetch0

theorem trace_of_matches {state : State} {iss : Iss.State} (both : Matches state iss)
    (ordinary : iss.Ordinary shifts) :
    (past (next shifts) 6 state).flatMap (fun visited => visited.trace shifts) =
      iss.arch.processorTrace shifts iss.instCount iss.word := by
  have inRange : state.spro.pc.InRange := by
    rw [both.pc]
    exact Word.ofAddress_inRange _
  have fetched : state.sram.data state.spro.pc.address = iss.word := by
    rw [both.data, both.pc, Word.address_ofAddress]
    rfl
  obtain ⟨state5, run5, cpu5, -, -, -, count5, loaded5, earlier⟩ :=
    reach_exec1 shifts both.rest both.running both.fetch0 inRange
  rw [fetched] at cpu5 loaded5 earlier
  have exec1 : state5.trace shifts =
      exec1Line (beforeExec1 shifts iss.word state.spro.toCpuRegisters)
        { beforeExec1 shifts iss.word state.spro.toCpuRegisters with
          r := exec1Regs state5.sram.dataout
            (beforeExec1 shifts iss.word state.spro.toCpuRegisters) }
        (state.nrSimulatedInstructions + 1#32) := by
    rw [trace_eq, cpu5, count5]
    rfl
  have arch : Arch.mk state.spro.pc state.spro.r state.sram.data = iss.arch := by
    rw [both.pc, both.r, both.data]
    rfl
  rw [past_snoc run5, List.flatMap_append, trace_past both.fetch0 earlier, List.flatMap_singleton,
    exec1, List.append_assoc, exec_lines ordinary.basic loaded5, arch, both.count]
  rfl

end Instruction

section Run

variable {shifts : Shifts} {image : Image} {k : Nat} {iss : Iss.State}

theorem traceFile_eq (programName : Text) (lines : Nat)
    (run : runFor (Iss.next shifts) k (Iss.init image) = some iss)
    (ordinary : ∀ visited ∈ past (Iss.next shifts) k (Iss.init image),
      visited.Ordinary shifts ∧ visited.word ≠ HLT) :
    traceFile shifts programName lines (1 + 6 * k) image =
      loadedLine programName lines ++
        (past (Iss.next shifts) k (Iss.init image)).flatMap fun visited =>
          visited.arch.processorTrace shifts visited.instCount visited.word := by
  obtain ⟨first, step, both⟩ := exists_first_clock shifts image
  have reset : runFor (next shifts) 1 (afterReset image) = some first := by rw [runFor_one, step]
  obtain ⟨-, -, -, lines⟩ :=
    runFor_blocks (fun iss state => Matches state iss ∨ Stopped state iss)
      (fun visited => visited.arch.processorTrace shifts visited.instCount visited.word)
      (fun visited => visited.trace shifts)
      (fun visited visited' state condition step related => by
        obtain ⟨both, state', clocks, outcome⟩ := simulates_step related condition step
        exact ⟨state', clocks, outcome, trace_of_matches both condition.1⟩)
      (Or.inl both) ordinary run
  have idle : (afterReset image).trace shifts = [] := by
    rw [trace_eq]
    rfl
  rw [traceFile, past_add reset, past_one, List.flatMap_append, List.flatMap_singleton, idle,
    List.nil_append, lines]

end Run

/-- For a program of basic instructions `inst_trace.txt` is the `trace.txt` of the
instruction-set simulator, character for character, as long as no load names register 0 or 1. -/
theorem trace_agrees_iff (shifts : Shifts) (image : Image) (programName : Text) (lines k : Nat)
    (iss : Iss.State) (run : runFor (Iss.next shifts) k (Iss.init image) = some iss)
    (ordinary : ∀ visited ∈ past (Iss.next shifts) k (Iss.init image),
      visited.Ordinary shifts ∧ visited.word ≠ HLT) :
    traceFile shifts programName lines (1 + 6 * k) image =
        Iss.traceFile shifts programName lines k image ↔
      ∀ visited ∈ past (Iss.next shifts) k (Iss.init image),
        visited.fields.opcode = .ld → 1#3 < visited.fields.dst := by
  rw [traceFile_eq programName lines run ordinary, Iss.traceFile, List.append_cancel_left_eq]
  exact Iss.processorTraces_eq_iff fun visited member => (ordinary visited member).1

/-- A memory full of LD r0, [5]. -/
theorem trace_agrees_iff_unnamed :
    traceFile Shifts.x86 "example.bin".toList 1 7 (fun _ => 0x10010005#32) ≠
      Iss.traceFile Shifts.x86 "example.bin".toList 1 1 fun _ => 0x10010005#32 := by
  intro same
  have named := (trace_agrees_iff Shifts.x86 (fun _ => 0x10010005#32) "example.bin".toList 1 1 _ rfl
    (by
      intro visited member
      rw [past_one, List.mem_singleton] at member
      subst member
      exact ⟨⟨by decide, by decide, by decide, by decide⟩, by decide⟩)).mp same
  have load := named (Iss.init fun _ => 0x10010005#32) (by simp) (by decide)
  exact absurd load (by decide)

end SimpleProcessor.MultiCycle
