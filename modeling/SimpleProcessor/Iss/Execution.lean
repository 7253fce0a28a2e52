import SimpleProcessor.Iss.Model
import SimpleProcessor.Isa.Semantics

/-!
# The instruction-set simulator executes basic instructions

The simulator keeps a 16-bit program counter that it increments before it
executes, so its link register and its targets agree with the architectural
ones below the last address only.
-/

namespace SimpleProcessor.Iss

open Transition

/-- The architectural part of the state. -/
def State.arch (state : State) : Arch := ⟨Word.ofAddress state.pc, state.regs, state.mem⟩

/-- The fields of the word about to be executed. -/
def State.fields (state : State) : Fields := Fields.ofWord state.word

/-- A basic instruction whose addresses are ordinary: the one at `pc` is not in
the last word, a taken target is a nonnegative immediate, a store address is in
range. -/
structure State.Ordinary (shifts : Shifts) (state : State) : Prop where
  basic : state.fields.opcode.isBasic = true
  below : state.pc.toNat < 65535
  target : Arch.taken shifts state.fields state.regs = true →
    state.fields.immediate.toNat ≤ 32767
  store : state.fields.opcode = .st → (state.fields.operand1 state.regs).InRange

instance (shifts : Shifts) (state : State) : Decidable (state.Ordinary shifts) :=
  decidable_of_iff
    (state.fields.opcode.isBasic = true ∧ state.pc.toNat < 65535 ∧
      (Arch.taken shifts state.fields state.regs = true →
        state.fields.immediate.toNat ≤ 32767) ∧
      (state.fields.opcode = .st → (state.fields.operand1 state.regs).InRange))
    ⟨fun ⟨basic, below, target, store⟩ => ⟨basic, below, target, store⟩,
      fun ⟨basic, below, target, store⟩ => ⟨basic, below, target, store⟩⟩

theorem ofAddress_succ {pc : Address} (below : pc.toNat < 65535) :
    Word.ofAddress (pc + 1#16) = Word.ofAddress pc + 1#32 := by
  apply BitVec.eq_of_toNat_eq
  simp only [Word.ofAddress, BitVec.toNat_setWidth, BitVec.toNat_add, BitVec.toNat_ofNat]
  omega

theorem inRange_of_le {word : Word} (bound : word.toNat ≤ 32767) : word.InRange := by
  simp only [Word.InRange]
  omega

variable {shifts : Shifts} {state state' : State}

theorem instruction_vals (basic : state.fields.opcode.isBasic = true) :
    state.instruction.val0 = state.fields.operand0 state.regs ∧
      state.instruction.val1 = state.fields.operand1 state.regs := by
  have notLhi : state.fields.opcode ≠ .lhi := by
    intro lhi
    simp [lhi, Opcode.isBasic] at basic
  have fields : (fetch state.word).toFields = state.fields := fetch_toFields state.word
  simp only [State.instruction, decode, fields, notLhi, or_false, Fields.operand0,
    Fields.operand1, and_self]

theorem arch_jump (below : state.pc.toNat < 65535) {target : Word}
    (bound : target.toNat ≤ 32767) :
    State.arch (jump { state with pc := state.pc + 1#16 } target) =
      ⟨target, Function.update state.regs 7#3 (Word.ofAddress state.pc), state.mem⟩ := by
  have link : Word.ofAddress (state.pc + 1#16) - 1#32 = Word.ofAddress state.pc := by
    rw [ofAddress_succ below, BitVec.add_sub_cancel]
  simp only [jump, State.arch, link, Word.ofAddress_address (inRange_of_le bound)]

theorem executeOpcode_branch (branch : state.fields.opcode.isBranch = true) (other : State) :
    executeOpcode shifts state.instruction other =
      if Arch.taken shifts state.fields state.regs then jump other state.fields.immediate
      else other := by
  have basic : state.fields.opcode.isBasic = true := by
    revert branch
    cases state.fields.opcode <;> simp [Opcode.isBranch, Opcode.isBasic]
  obtain ⟨val0, val1⟩ := instruction_vals basic
  have fields : state.instruction.toFields = state.fields := fetch_toFields state.word
  cases opcode : state.fields.opcode with
  | jlt | jle | jeq | jne =>
      simp [executeOpcode, fields, opcode, val0, val1, Arch.taken, Opcode.isBranch, aluResult]
  | _ => simp [opcode, Opcode.isBranch] at branch

@[simp] theorem execute_instCount (inst : Instruction) (state : State) :
    (execute shifts inst state).instCount = state.instCount := by
  simp only [execute, executeOpcode]
  cases inst.opcode <;> simp only [jump] <;> split <;> rfl

/-- `execute` has the effect of the instruction on the architectural state. -/
theorem arch_execute (low : state.regs.LowZero) (ordinary : state.Ordinary shifts) :
    (execute shifts state.instruction { state with pc := state.pc + 1#16 }).arch =
      state.arch.execute shifts state.fields := by
  obtain ⟨basic, below, target, store⟩ := ordinary
  obtain ⟨val0, val1⟩ := instruction_vals basic
  have fields : state.instruction.toFields = state.fields := fetch_toFields state.word
  have succ := ofAddress_succ below
  have clear := RegFile.clearLow_of_lowZero low
  have clearLink : RegFile.clearLow
      (Function.update state.regs 7#3 (Word.ofAddress state.pc)) =
      Function.update state.regs 7#3 (Word.ofAddress state.pc) :=
    RegFile.clearLow_of_lowZero (low.update (by decide) _)
  cases opcode : state.fields.opcode with
  | add | sub | lsf | rsf | and | or | xor =>
      simp [execute, executeOpcode, fields, opcode, val0, val1, State.arch, Arch.execute,
        Arch.taken, Arch.writeBack, Opcode.isCompute, Opcode.isBranch, aluResult,
        RegFile.clearLow_update low, succ]
  | ld =>
      simp [execute, executeOpcode, fields, opcode, val1, State.arch, Arch.execute,
        Arch.taken, Arch.writeBack, Opcode.isCompute, Opcode.isBranch,
        RegFile.clearLow_update low, succ]
  | st =>
      simp [execute, executeOpcode, fields, opcode, val0, val1, State.arch, Arch.execute,
        Arch.taken, Arch.writeBack, Opcode.isCompute, Opcode.isBranch, clear, succ]
  | jlt | jle | jeq | jne =>
      have branch : state.fields.opcode.isBranch = true := by simp [opcode, Opcode.isBranch]
      rw [execute, executeOpcode_branch branch]
      cases jumps : Arch.taken shifts state.fields state.regs with
      | true =>
          have moved := arch_jump below (target jumps)
          simp only [State.arch, Arch.mk.injEq] at moved
          obtain ⟨pc, regs, mem⟩ := moved
          simp [State.arch, Arch.execute, Arch.writeBack, opcode, Opcode.isCompute, jumps,
            pc, regs, mem, clearLink]
      | false =>
          simp [State.arch, Arch.execute, Arch.writeBack, opcode, Opcode.isCompute, jumps,
            clear, succ]
  | hlt =>
      simp [execute, executeOpcode, fields, opcode, State.arch, Arch.execute,
        Arch.taken, Arch.writeBack, Opcode.isCompute, Opcode.isBranch, clear, succ]
  | lhi | dma | dmp | jin | u code => simp [opcode, Opcode.isBasic] at basic

theorem knownOpcode_of_isBasic {opcode : Opcode} (basic : opcode.isBasic = true) :
    knownOpcode opcode = true := by
  revert basic
  cases opcode <;> simp [Opcode.isBasic, knownOpcode]

theorem next_ordinary (running : state.halted = false) (low : state.regs.LowZero)
    (ordinary : state.Ordinary shifts) :
    ∃ state', next shifts state = some state' ∧
      state'.arch = state.arch.execute shifts state.fields ∧
      state'.instCount = state.instCount + 1#32 ∧
      state'.halted = decide (state.fields.opcode = .hlt) := by
  have fields : (fetch (state.mem state.pc)).toFields = state.fields :=
    fetch_toFields state.word
  have known : knownOpcode (fetch (state.mem state.pc)).opcode = true := by
    rw [fields]
    exact knownOpcode_of_isBasic ordinary.basic
  have arch := arch_execute low ordinary
  rw [next, if_neg (by simp [running]), if_pos known]
  refine ⟨_, rfl, ?_, ?_, ?_⟩
  · exact arch
  · exact congrArg (· + 1#32) (execute_instCount ..)
  · simp only [decode, fields]

theorem running_of_next (step : next shifts state = some state') : state.halted = false := by
  cases halted : state.halted with
  | false => rfl
  | true => simp [next, halted] at step

theorem executed_of_next (step : next shifts state = some state') :
    let executed := execute shifts state.instruction { state with pc := state.pc + 1#16 }
    state'.pc = executed.pc ∧ state'.regs = executed.regs := by
  rw [next, if_neg (by simp [running_of_next step])] at step
  simp only at step
  split at step
  · cases step
    exact ⟨rfl, rfl⟩
  · cases step

theorem execute_of_next (low : state.regs.LowZero) (ordinary : state.Ordinary shifts)
    (step : next shifts state = some state') :
    state'.arch = state.arch.execute shifts state.fields ∧ state'.regs.LowZero ∧
      state'.halted = decide (state.fields.opcode = .hlt) := by
  obtain ⟨reached, step', arch, -, halted⟩ :=
    next_ordinary (running_of_next step) low ordinary
  rw [step] at step'
  cases step'
  refine ⟨arch, ?_, halted⟩
  have regs := congrArg Arch.regs arch
  simp only [State.arch, Arch.execute] at regs
  rw [regs]
  exact Arch.lowZero_writeBack low

theorem pc_of_hlt (below : state.pc.toNat < 65535) (hlt : state.fields.opcode = .hlt)
    (arch : state'.arch = state.arch.execute shifts state.fields) :
    state'.pc - 1#16 = state.pc := by
  have passed : Word.ofAddress state'.pc = Word.ofAddress (state.pc + 1#16) := by
    have pc := congrArg Arch.pc arch
    rw [ofAddress_succ below]
    simpa [State.arch, Arch.execute, Arch.taken, hlt, Opcode.isBranch] using pc
  have same := congrArg Word.address passed
  rw [Word.address_ofAddress, Word.address_ofAddress] at same
  rw [same, BitVec.add_sub_cancel]

section Run

variable {image : Image} {steps : Nat}

theorem mem_eq_of_notStored {addr : Address}
    (run : runFor (next shifts) steps (init image) = some state)
    (ordinary : ∀ visited ∈ past (next shifts) steps (init image), visited.Ordinary shifts)
    (notStored : ∀ visited ∈ past (next shifts) steps (init image),
      visited.fields.opcode = .st → (visited.fields.operand1 visited.regs).address ≠ addr) :
    state.mem addr = image addr := by
  have kept : state.regs.LowZero ∧ state.mem addr = image addr := by
    refine runFor_induction_of
      (motive := fun _ state => state.regs.LowZero ∧ state.mem addr = image addr)
      ⟨⟨rfl, rfl⟩, rfl⟩ ?_ run
      fun visited member => And.intro (ordinary visited member) (notStored visited member)
    intro _ state state' ⟨low, kept⟩ ⟨ordinary, notStored⟩ step
    obtain ⟨arch, low', -⟩ := execute_of_next low ordinary step
    have mem := congrArg Arch.mem arch
    simp only [State.arch, Arch.execute] at mem
    refine ⟨low', ?_⟩
    rw [mem]
    by_cases store : state.fields.opcode = .st
    · rw [if_pos store, Function.update_of_ne (Ne.symm (notStored store)), kept]
    · rw [if_neg store, kept]
  exact kept.2

end Run

end SimpleProcessor.Iss
