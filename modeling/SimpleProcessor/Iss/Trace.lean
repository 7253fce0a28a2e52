import SimpleProcessor.Isa.TraceLines
import SimpleProcessor.Iss.Execution

/-!
# The trace of the instruction-set simulator

An iteration of the loop in `main` prints the instruction before it is decoded and
what it does while it is executed.  An unknown opcode ends the program behind its first
line.
-/

namespace SimpleProcessor.Iss

open Stdio Transition

/-- `toOpcodeName`; it ends the program where there is no name. -/
def toOpcodeName (opcode : Opcode) : Option Text :=
  match opcode with
  | .add => some "ADD".toList
  | .sub => some "SUB".toList
  | .lsf => some "LSF".toList
  | .rsf => some "RSF".toList
  | .and => some "AND".toList
  | .or => some "OR".toList
  | .xor => some "XOR".toList
  | .lhi => some "LHI".toList
  | .ld => some "LD".toList
  | .st => some "ST".toList
  | .jlt => some "JLT".toList
  | .jle => some "JLE".toList
  | .jeq => some "JEQ".toList
  | .jne => some "JNE".toList
  | .jin => some "JIN".toList
  | .hlt => some "HLT".toList
  | .dma | .dmp | .u _ => none

/-- `printFetch` -/
def printFetch (inst : Instruction) (instCount : Word) (pc : Address) (mem : Image)
    (regs : RegFile) : Text :=
  let pcArg := Word.ofAddress pc
  instructionLine instCount pcArg ++
    match toOpcodeName inst.opcode with
    | some name => fieldLines pcArg (mem pc) inst.toFields name regs
    | none => []

/-- What `execute` prints, from the state behind its switch. -/
def executionLine (inst : Instruction) (state : State) : Text :=
  match inst.opcode with
  | .add => computeLine "ADD".toList inst.dst inst.val0 inst.val1
  | .sub => computeLine "SUB".toList inst.dst inst.val0 inst.val1
  | .lsf => computeLine "LSF".toList inst.dst inst.val0 inst.val1
  | .rsf => computeLine "RSF".toList inst.dst inst.val0 inst.val1
  | .and => computeLine "AND".toList inst.dst inst.val0 inst.val1
  | .or => computeLine "OR".toList inst.dst inst.val0 inst.val1
  | .xor => computeLine "XOR".toList inst.dst inst.val0 inst.val1
  | .lhi => lhiLine inst.dst inst.val0
  | .ld => loadLine inst.dst inst.val1 (state.mem (inst.val1 &&& 0xffff#32).address)
  | .st => storeLine inst.val1 inst.src0 inst.val0
  | .jlt => jumpLine "JLT".toList inst.val0 inst.val1 (Word.ofAddress state.pc)
  | .jle => jumpLine "JLE".toList inst.val0 inst.val1 (Word.ofAddress state.pc)
  | .jeq => jumpLine "JEQ".toList inst.val0 inst.val1 (Word.ofAddress state.pc)
  | .jne => jumpLine "JNE".toList inst.val0 inst.val1 (Word.ofAddress state.pc)
  | .jin => jinLine inst.src0 inst.val0
  | .hlt => haltLine (Word.ofAddress state.pc - 1#32)
  | .dma | .dmp | .u _ => []

/-- What one iteration of the loop prints, and the line behind the loop after its last one. -/
def State.trace (shifts : Shifts) (state : State) : Text :=
  let inst := fetch (state.mem state.pc)
  printFetch inst state.instCount state.pc state.mem state.regs ++
    if knownOpcode inst.opcode then
      let inst := decode inst state.regs
      let executed := executeOpcode shifts inst { state with pc := state.pc + 1#16 }
      executionLine inst executed ++
        if inst.opcode = .hlt then
          finishedLine (Word.ofAddress executed.pc - 1#32) (state.instCount + 1#32)
        else []
    else []

/-- `trace.txt` after that many iterations. -/
def traceFile (shifts : Shifts) (programName : Text) (lines k : Nat) (image : Image) : Text :=
  loadedLine programName lines ++
    (past (next shifts) k (init image)).flatMap fun state => state.trace shifts

section Ordinary

variable {shifts : Shifts} {state : State}

theorem toOpcodeName_eq {opcode : Opcode} (known : knownOpcode opcode = true) :
    toOpcodeName opcode = some (opcodeName opcode) := by
  cases opcode <;> first | rfl | cases known

theorem printFetch_of_ordinary (ordinary : state.Ordinary shifts) :
    printFetch (fetch state.word) state.instCount state.pc state.mem state.regs =
      state.arch.heading state.instCount state.word := by
  have fields : (fetch state.word).toFields = state.fields := fetch_toFields state.word
  have known : knownOpcode state.fields.opcode = true := knownOpcode_of_isBasic ordinary.basic
  simp only [printFetch, fields, toOpcodeName_eq known]
  rfl

theorem pc_of_branch (ordinary : state.Ordinary shifts)
    (branch : state.fields.opcode.isBranch = true) :
    Word.ofAddress
        (executeOpcode shifts state.instruction { state with pc := state.pc + 1#16 }).pc =
      if Arch.taken shifts state.fields state.regs then state.fields.immediate
      else Word.ofAddress state.pc + 1#32 := by
  rw [executeOpcode_branch branch]
  split
  next jumps => exact Word.ofAddress_address (inRange_of_le (ordinary.target jumps))
  next => exact ofAddress_succ ordinary.below

theorem executionLine_of_ordinary (ordinary : state.Ordinary shifts) :
    let executed := executeOpcode shifts state.instruction { state with pc := state.pc + 1#16 }
    (executionLine state.instruction executed ++
        if state.instruction.opcode = .hlt then
          finishedLine (Word.ofAddress executed.pc - 1#32) (state.instCount + 1#32)
        else []) =
      state.arch.executionLines shifts state.instCount state.word := by
  obtain ⟨val0, val1⟩ := instruction_vals ordinary.basic
  have fields : state.instruction.toFields = state.fields := fetch_toFields state.word
  have word : Fields.ofWord state.word = state.fields := rfl
  intro executed
  cases opcode : state.fields.opcode with
  | add | sub | lsf | rsf | and | or | xor =>
      simp [executionLine, Arch.executionLines, fields, word, opcode, val0, val1, State.arch,
        Opcode.isCompute, opcodeName]
  | ld =>
      have mem : executed.mem = state.mem := by simp [executed, executeOpcode, fields, opcode]
      simp [executionLine, Arch.executionLines, fields, word, opcode, val1, State.arch,
        Opcode.isCompute, mem]
  | st =>
      simp [executionLine, Arch.executionLines, fields, word, opcode, val0, val1, State.arch,
        Opcode.isCompute]
  | jlt | jle | jeq | jne =>
      have branch : state.fields.opcode.isBranch = true := by simp [opcode, Opcode.isBranch]
      have pc := pc_of_branch ordinary branch
      simp [executionLine, Arch.executionLines, fields, word, opcode, val0, val1, State.arch,
        Opcode.isCompute, Opcode.isBranch, opcodeName, executed, pc]
  | hlt =>
      have pc : Word.ofAddress executed.pc - 1#32 = Word.ofAddress state.pc := by
        have stays : executed.pc = state.pc + 1#16 := by
          simp [executed, executeOpcode, fields, opcode]
        rw [stays, ofAddress_succ ordinary.below, BitVec.add_sub_cancel]
      simp [executionLine, Arch.executionLines, fields, word, opcode, State.arch,
        Opcode.isCompute, Opcode.isBranch, pc]
  | lhi | dma | dmp | jin | u code =>
      have basic := ordinary.basic
      simp [opcode, Opcode.isBasic] at basic

theorem trace_of_ordinary (ordinary : state.Ordinary shifts) :
    state.trace shifts = state.arch.trace shifts state.instCount state.word := by
  have known : knownOpcode (fetch state.word).opcode = true := by
    rw [fetch_toFields]
    exact knownOpcode_of_isBasic ordinary.basic
  rw [Arch.trace, ← printFetch_of_ordinary ordinary, ← executionLine_of_ordinary ordinary]
  exact congrArg (_ ++ ·) (if_pos known)

/-- A processor prints as much as the simulator if no load names register 0 or 1. -/
theorem processorTraces_eq_iff {visited : List State}
    (ordinary : ∀ state ∈ visited, state.Ordinary shifts) :
    (visited.flatMap fun state => state.arch.processorTrace shifts state.instCount state.word) =
        visited.flatMap (fun state => state.trace shifts) ↔
      ∀ state ∈ visited, state.fields.opcode = .ld → 1#3 < state.fields.dst := by
  have alike (state : State) : Arch.tracedAlike state.word = true ↔
      (state.fields.opcode = .ld → 1#3 < state.fields.dst) := by
    simp [Arch.tracedAlike, State.fields, imp_iff_not_or]
  simp only [← alike]
  rw [flatMap_eq_iff]
  · apply forall₂_congr
    intro state member
    rw [trace_of_ordinary (ordinary state member)]
    rcases Arch.processorTrace_cases shifts state.instCount state.word state.arch with
      ⟨named, equal⟩ | ⟨unnamed, shorter⟩
    · simp [named, equal]
    · simp only [unnamed, Bool.false_eq_true, iff_false]
      intro equal
      rw [equal] at shorter
      exact Nat.lt_irrefl _ shorter
  · intro state member
    rw [trace_of_ordinary (ordinary state member)]
    exact (Arch.processorTrace_cases shifts state.instCount state.word state.arch).imp
      And.right And.right

end Ordinary

end SimpleProcessor.Iss
