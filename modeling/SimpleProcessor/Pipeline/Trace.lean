import SimpleProcessor.Iss.Trace
import SimpleProcessor.Pipeline.Loads

/-!
# The instruction trace of the pipeline

The pipeline prints an instruction and what it does in the clock in which it retires,
so the instructions that it has fetched in vain leave no trace.
-/

namespace SimpleProcessor.Pipeline

open Stdio Transition

/-- `printInstruction`; the count is increased behind it. -/
def printInstruction (sp : Registers) (nrSimulatedInstructions : Word) : Text :=
  instructionLine nrSimulatedInstructions sp.exec1.pc ++
    fieldLines sp.exec1.pc sp.exec1.inst sp.exec1.toFields (opcodeName sp.exec1.opcode) sp.r

/-- `printExecution`.  The line of LHI has the other operand than in the other simulators. -/
def printExecution (exec1 : Exec1) : Text :=
  let pc := if exec1.aluout ≠ 0#32 then exec1.immediate else exec1.pc + 1#32
  match exec1.opcode with
  | .add => computeLine "ADD".toList exec1.dst exec1.alu0 exec1.alu1
  | .sub => computeLine "SUB".toList exec1.dst exec1.alu0 exec1.alu1
  | .lsf => computeLine "LSF".toList exec1.dst exec1.alu0 exec1.alu1
  | .rsf => computeLine "RSF".toList exec1.dst exec1.alu0 exec1.alu1
  | .and => computeLine "AND".toList exec1.dst exec1.alu0 exec1.alu1
  | .or => computeLine "OR".toList exec1.dst exec1.alu0 exec1.alu1
  | .xor => computeLine "XOR".toList exec1.dst exec1.alu0 exec1.alu1
  | .lhi => lhiLine exec1.dst exec1.alu1
  | .jlt => jumpLine "JLT".toList exec1.alu0 exec1.alu1 pc
  | .jle => jumpLine "JLE".toList exec1.alu0 exec1.alu1 pc
  | .jeq => jumpLine "JEQ".toList exec1.alu0 exec1.alu1 pc
  | .jne => jumpLine "JNE".toList exec1.alu0 exec1.alu1 pc
  | .jin => jinLine exec1.src0 exec1.alu0
  | .ld | .st | .dma | .dmp | .hlt | .u _ => []

/-- What the block `exec1` prints itself. -/
def exec1Line (exec1 : Exec1) (r : RegFile) (nrSimulatedInstructions : Word) : Text :=
  match exec1.opcode with
  | .ld => if 1#3 < exec1.dst then loadLine exec1.dst exec1.alu1 (r exec1.dst) else []
  | .st => storeLine exec1.alu1 exec1.src0 exec1.alu0
  | .hlt => haltLine exec1.pc ++ finishedLine exec1.pc nrSimulatedInstructions
  | _ => []

/-- What `sp_ctl` prints to `inst_trace.txt` about the unit before it. -/
def instTrace (state : State) (sp : Sp) : Text :=
  let spro := state.spro
  if spro.exec1.active then
    printInstruction spro state.nrSimulatedInstructions ++ printExecution spro.exec1 ++
      exec1Line spro.exec1 sp.sprn.r sp.nrSimulatedInstructions
  else []

/-- What a clock prints. -/
def State.trace (shifts : Shifts) (state : State) : Text :=
  match spCtl shifts { state with
    srami := state.srami.clearPort, sramd := state.sramd.clearPort, sprn := state.spro } with
  | .ok sp => instTrace state sp
  | .error _ => []

/-- `inst_trace.txt` after that many clocks. -/
def traceFile (shifts : Shifts) (programName : Text) (lines clocks : Nat) (image : Image)
    (btb : Btb) : Text :=
  loadedLine programName lines ++
    (past (next shifts) clocks (afterReset image btb)).flatMap fun state => state.trace shifts

section Clock

variable {shifts : Shifts} {state : State}

theorem trace_of_empty (empty : state.spro.exec1.active = false) : state.trace shifts = [] := by
  rw [State.trace]
  split
  next => simp [instTrace, empty]
  next => rfl

theorem trace_of_active (active : state.spro.exec1.active = true)
    (inside : state.spro.leavesBtb = false) :
    state.trace shifts =
      printInstruction state.spro state.nrSimulatedInstructions ++
        printExecution state.spro.exec1 ++
        exec1Line state.spro.exec1 (state.spro.nextR state.sramd.dataout)
          (state.nrSimulatedInstructions + 1#32) := by
  have ctl := spCtl_eq shifts state
  rw [if_neg (by simp [inside]), if_pos active] at ctl
  rw [State.trace, ctl]
  exact if_pos active

end Clock

section Run

variable {shifts : Shifts} {image : Image} {btb : Btb} {k : Nat} {iss : Iss.State}

theorem Follows.exec_lines {state : State} {iss : Iss.State}
    (follows : Follows shifts image state iss) (placed : Placed shifts image iss)
    (active : state.spro.exec1.active = true) :
    printExecution state.spro.exec1 ++
        exec1Line state.spro.exec1 (state.spro.nextR state.sramd.dataout)
          (state.nrSimulatedInstructions + 1#32) =
      if Arch.tracedAlike iss.word then iss.arch.executionLines shifts iss.instCount iss.word
      else [] := by
  obtain ⟨pc, -, fields, alu0, alu1⟩ := follows.exec1 placed active
  have word : Fields.ofWord iss.word = iss.fields := rfl
  have opcode' : state.spro.exec1.opcode = iss.fields.opcode := congrArg Fields.opcode fields
  have dst : state.spro.exec1.dst = iss.fields.dst := congrArg Fields.dst fields
  have src0 : state.spro.exec1.src0 = iss.fields.src0 := congrArg Fields.src0 fields
  have immediate : state.spro.exec1.immediate = iss.fields.immediate :=
    congrArg Fields.immediate fields
  cases opcode : iss.fields.opcode with
  | ld =>
      rw [opcode] at opcode'
      by_cases named : 1#3 < iss.fields.dst
      · have loaded : state.spro.nextR state.sramd.dataout iss.fields.dst =
            iss.mem (iss.fields.operand1 iss.regs).address := by
          simp [Registers.nextR, active, opcode', dst, named, follows.loaded placed active opcode]
        simp [printExecution, exec1Line, Arch.tracedAlike, Arch.executionLines, Iss.State.arch,
          Opcode.isCompute, word, opcode, opcode', dst, named, alu1, loaded]
      · simp [printExecution, exec1Line, Arch.tracedAlike, word, opcode, opcode', dst, named]
  | add | sub | lsf | rsf | and | or | xor =>
      rw [opcode] at opcode'
      simp [printExecution, exec1Line, Arch.tracedAlike, Arch.executionLines, Iss.State.arch,
        Opcode.isCompute, opcodeName, word, opcode, opcode', dst, alu0, alu1]
  | st | hlt =>
      rw [opcode] at opcode'
      simp [printExecution, exec1Line, Arch.tracedAlike, Arch.executionLines, Iss.State.arch,
        Opcode.isCompute, Opcode.isBranch, word, opcode, opcode', src0, alu0, alu1, pc,
        follows.count]
  | jlt | jle | jeq | jne =>
      have taken := follows.taken_iff placed active (by simp [opcode, Opcode.isBranch])
      rw [opcode] at opcode'
      simp only [ne_eq] at taken
      simp [printExecution, exec1Line, Arch.tracedAlike, Arch.executionLines, Iss.State.arch,
        Opcode.isCompute, Opcode.isBranch, opcodeName, word, opcode, opcode', immediate, alu0,
        alu1, pc, taken]
  | lhi | dma | dmp | jin | u code =>
      have basic := placed.plain.basic
      simp [opcode, Opcode.isBasic] at basic

/-- The clock in which an instruction retires prints its lines. -/
theorem Follows.trace {state : State} {iss : Iss.State} (follows : Follows shifts image state iss)
    (placed : Placed shifts image iss) (active : state.spro.exec1.active = true) :
    state.trace shifts = iss.arch.processorTrace shifts iss.instCount iss.word := by
  obtain ⟨pc, inst, fields, -, -⟩ := follows.exec1 placed active
  obtain ⟨-, inside, -⟩ := next_eq_some.mp (follows.sound.next_eq (follows.admits placed)
    follows.running (ofAddress_le placed.below) follows.path)
  have heading : printInstruction state.spro state.nrSimulatedInstructions =
      iss.arch.heading iss.instCount iss.word := by
    rw [printInstruction, pc, inst, fields, follows.count, follows.r]
    rfl
  rw [trace_of_active active inside, List.append_assoc, heading,
    follows.exec_lines placed active]
  rfl

theorem exists_traceFile (bounded : btb.Bounded)
    (run : runFor (Iss.next shifts) k (Iss.init image) = some iss) (halted : iss.halted = true)
    (placed : ∀ visited ∈ past (Iss.next shifts) k (Iss.init image),
      Placed shifts image visited)
    (lossless : ∀ clocks state visited,
      runFor (next shifts) clocks (afterReset image btb) = some state →
      visited ∈ past (Iss.next shifts) k (Iss.init image) →
      Follows shifts image state visited → state.spro.Lossless) :
    ∃ clocks state, runFor (next shifts) clocks (afterReset image btb) = some state ∧
      Ended image state iss ∧
      ∀ programName lines, traceFile shifts programName lines clocks image btb =
        loadedLine programName lines ++
          (past (Iss.next shifts) k (Iss.init image)).flatMap fun visited =>
            visited.arch.processorTrace shifts visited.instCount visited.word := by
  obtain ⟨clocks, state, reached, -, ended, printed⟩ :=
    follows_run (fun visited =>
        visited.arch.processorTrace shifts visited.instCount visited.word)
      (fun state => state.trace shifts)
      (fun state visited member follows => follows.trace (placed visited member))
      bounded run halted placed lossless
  refine ⟨clocks, state, reached, ended, fun programName lines => ?_⟩
  have retiring : ∀ state : State, state.trace shifts =
      (if state.spro.exec1.active then some (state.trace shifts) else none).getD [] := by
    intro state
    cases active : state.spro.exec1.active with
    | false => simp [trace_of_empty active]
    | true => simp
  rw [traceFile, flatMap_eq_flatten _ _ retiring, printed]
  rfl

end Run

/-- For a program with loads and stores in which no stall drops an instruction or loses a
loaded operand `inst_trace.txt` is the `trace.txt` of the instruction-set simulator, character
for character, whatever was fetched in vain, as long as no load names register 0 or 1. -/
theorem retired_trace_iff (shifts : Shifts) (image : Image) (btb : Btb) (programName : Text)
    (lines k : Nat) (iss : Iss.State) (bounded : btb.Bounded)
    (run : runFor (Iss.next shifts) k (Iss.init image) = some iss) (halted : iss.halted = true)
    (placed : ∀ visited ∈ past (Iss.next shifts) k (Iss.init image),
      Placed shifts image visited)
    (lossless : ∀ clocks state,
      runFor (next shifts) clocks (afterReset image btb) = some state →
      state.stopSim = false → state.spro.Lossless) :
    ∃ clocks state, runFor (next shifts) clocks (afterReset image btb) = some state ∧
      state.stopSim = true ∧
      (traceFile shifts programName lines clocks image btb =
          Iss.traceFile shifts programName lines k image ↔
        ∀ visited ∈ past (Iss.next shifts) k (Iss.init image),
          visited.fields.opcode = .ld → 1#3 < visited.fields.dst) := by
  obtain ⟨clocks, state, reached, ended, trace⟩ := exists_traceFile bounded run halted placed
    fun clocks state visited reached _ follows => lossless clocks state reached follows.running
  refine ⟨clocks, state, reached, ended.stopped, ?_⟩
  rw [trace, Iss.traceFile, List.append_cancel_left_eq]
  exact Iss.processorTraces_eq_iff fun visited member => (placed visited member).ordinary

/-- Of the program that waits twice. -/
theorem retired_trace_iff_waiting :
    ∃ clocks, traceFile Shifts.x86 "example.bin".toList 5 clocks waitingImage .zero =
      Iss.traceFile Shifts.x86 "example.bin".toList 5 5 waitingImage := by
  obtain ⟨iss, run, halted, -⟩ := runFor_waiting
  obtain ⟨clocks, state, -, -, same⟩ :=
    retired_trace_iff Shifts.x86 waitingImage .zero "example.bin".toList 5 5 iss
      (fun _ taken => absurd rfl taken) run halted placed_waiting lossless_waiting
  exact ⟨clocks, same.mpr (by decide +kernel)⟩

end SimpleProcessor.Pipeline
