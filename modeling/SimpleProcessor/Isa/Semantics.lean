import SimpleProcessor.Isa.Format

/-!
# What a basic instruction does

The architectural state has a program counter, a register file and a memory.
`Arch.execute` is the meaning of the basic opcodes, stated once; the
instruction-set simulator and the two processors each compute it in their own
way.
-/

namespace SimpleProcessor

namespace Opcode

/-- The opcodes that write the result of the arithmetic unit to `dst`. -/
def isCompute : Opcode → Bool
  | .add | .sub | .lsf | .rsf | .and | .or | .xor => true
  | _ => false

/-- The conditional jumps on two operands. -/
def isBranch : Opcode → Bool
  | .jlt | .jle | .jeq | .jne => true
  | _ => false

theorem kind_of_isCompute {opcode : Opcode} (compute : opcode.isCompute = true) :
    opcode.isBasic = true ∧ opcode ≠ .hlt ∧ opcode ≠ .st ∧ opcode.isBranch = false := by
  revert compute
  cases opcode <;> simp [isCompute, isBasic, isBranch]

theorem kind_of_isBranch {opcode : Opcode} (branch : opcode.isBranch = true) :
    opcode.isBasic = true ∧ opcode ≠ .hlt ∧ opcode ≠ .st ∧ opcode ≠ .ld ∧
      opcode.isCompute = false := by
  revert branch
  cases opcode <;> simp [isCompute, isBasic, isBranch]

end Opcode

/-- The result of the arithmetic unit. -/
def aluResult (shifts : Shifts) (opcode : Opcode) (val0 val1 : Word) : Word :=
  match opcode with
  | .add => val0 + val1
  | .sub => val0 - val1
  | .lsf => shifts.left val0 val1
  | .rsf => shifts.right val0 val1
  | .and => val0 &&& val1
  | .or => val0 ||| val1
  | .xor => val0 ^^^ val1
  | .jlt => intOfBool (val0.slt val1)
  | .jle => intOfBool (val0.sle val1)
  | .jeq => intOfBool (val0 = val1)
  | .jne => intOfBool (val0 ≠ val1)
  | _ => 0#32

/-- The first operand: register 1 stands for the immediate. -/
def Fields.operand0 (fields : Fields) (regs : RegFile) : Word :=
  if fields.src0 = 1#3 then fields.immediate else regs fields.src0

/-- The second operand. -/
def Fields.operand1 (fields : Fields) (regs : RegFile) : Word :=
  if fields.src1 = 1#3 then fields.immediate else regs fields.src1

/-- The architectural state. -/
@[ext] structure Arch where
  pc : Word
  regs : RegFile
  mem : Image

namespace Arch

/-- The instruction jumps. -/
def taken (shifts : Shifts) (fields : Fields) (regs : RegFile) : Bool :=
  fields.opcode.isBranch &&
    aluResult shifts fields.opcode (fields.operand0 regs) (fields.operand1 regs) ≠ 0#32

/-- The register file after an instruction at `pc`. -/
def writeBack (shifts : Shifts) (fields : Fields) (pc : Word) (regs : RegFile) (mem : Image) :
    RegFile :=
  if fields.opcode.isCompute ∧ 1#3 < fields.dst then
    Function.update regs fields.dst
      (aluResult shifts fields.opcode (fields.operand0 regs) (fields.operand1 regs))
  else if fields.opcode = .ld ∧ 1#3 < fields.dst then
    Function.update regs fields.dst (mem (fields.operand1 regs).address)
  else if taken shifts fields regs then Function.update regs 7#3 pc
  else regs

/-- The effect of a basic instruction. -/
def execute (shifts : Shifts) (fields : Fields) (arch : Arch) : Arch where
  pc := if taken shifts fields arch.regs then fields.immediate else arch.pc + 1#32
  regs := writeBack shifts fields arch.pc arch.regs arch.mem
  mem :=
    if fields.opcode = .st then
      Function.update arch.mem (fields.operand1 arch.regs).address (fields.operand0 arch.regs)
    else arch.mem

section Kinds

variable {shifts : Shifts} {fields : Fields} {regs : RegFile}

theorem taken_jlt (jlt : fields.opcode = .jlt) :
    Arch.taken shifts fields regs =
      (fields.operand0 regs).slt (fields.operand1 regs) := by
  simp [Arch.taken, Opcode.isBranch, aluResult, jlt]

theorem taken_jeq (jeq : fields.opcode = .jeq) :
    Arch.taken shifts fields regs =
      decide (fields.operand0 regs = fields.operand1 regs) := by
  simp [Arch.taken, Opcode.isBranch, aluResult, jeq]

theorem taken_jne (jne : fields.opcode = .jne) :
    Arch.taken shifts fields regs =
      decide (fields.operand0 regs ≠ fields.operand1 regs) := by
  simp [Arch.taken, Opcode.isBranch, aluResult, jne]

theorem execute_compute (compute : fields.opcode.isCompute = true) (named : 1#3 < fields.dst)
    (arch : Arch) :
    execute shifts fields arch =
      { pc := arch.pc + 1#32
        regs := Function.update arch.regs fields.dst (aluResult shifts fields.opcode
          (fields.operand0 arch.regs) (fields.operand1 arch.regs))
        mem := arch.mem } := by
  obtain ⟨-, -, notStore, noBranch⟩ := Opcode.kind_of_isCompute compute
  simp [execute, writeBack, taken, compute, named, notStore, noBranch]

theorem execute_load (load : fields.opcode = .ld) (named : 1#3 < fields.dst) (arch : Arch) :
    execute shifts fields arch =
      { pc := arch.pc + 1#32
        regs := Function.update arch.regs fields.dst
          (arch.mem (fields.operand1 arch.regs).address)
        mem := arch.mem } := by
  simp [execute, writeBack, taken, load, named, Opcode.isCompute, Opcode.isBranch]

theorem execute_store (store : fields.opcode = .st) (arch : Arch) :
    execute shifts fields arch =
      { pc := arch.pc + 1#32
        regs := arch.regs
        mem := Function.update arch.mem (fields.operand1 arch.regs).address
          (fields.operand0 arch.regs) } := by
  simp [execute, writeBack, taken, store, Opcode.isCompute, Opcode.isBranch]

theorem execute_branch (branch : fields.opcode.isBranch = true) (arch : Arch) :
    execute shifts fields arch =
      { pc := if taken shifts fields arch.regs then fields.immediate else arch.pc + 1#32
        regs := if taken shifts fields arch.regs then Function.update arch.regs 7#3 arch.pc
          else arch.regs
        mem := arch.mem } := by
  obtain ⟨-, -, notStore, notLoad, noCompute⟩ := Opcode.kind_of_isBranch branch
  simp [execute, writeBack, notStore, notLoad, noCompute]

end Kinds

theorem lowZero_writeBack {shifts : Shifts} {fields : Fields} {pc : Word} {regs : RegFile}
    {mem : Image} (low : regs.LowZero) :
    RegFile.LowZero (writeBack shifts fields pc regs mem) := by
  unfold writeBack
  split
  next compute => exact low.update compute.2 _
  next =>
    split
    next load => exact low.update load.2 _
    next =>
      split
      · exact low.update (by decide) _
      · exact low

end Arch

namespace Word

/-- A word and its halves. -/
def ofHalves (high low : Address) : Word := high ++ low

theorem shiftLeft_or_and_mask (high low : Word) :
    (high <<< 16) ||| (low &&& 0xffff#32) = ofHalves high.address low.address := by
  rw [and_mask_eq]
  apply BitVec.eq_of_getLsbD_eq
  intro i bound
  simp only [ofHalves, ofAddress, address, BitVec.getLsbD_or, BitVec.getLsbD_shiftLeft,
    BitVec.getLsbD_append, BitVec.getLsbD_setWidth]
  by_cases isLow : i < 16
  · simp [isLow, bound]
  · have inHigh : i - 16 < 16 := by omega
    simp [isLow, inHigh, bound]

@[simp] theorem ofHalves_inj {high low high' low' : Address} :
    ofHalves high low = ofHalves high' low' ↔ high = high' ∧ low = low' := by
  constructor
  · intro same
    have appended : high ++ low = high' ++ low' := same
    constructor
    · rw [← BitVec.extractLsb'_append_eq_left (a := high) (b := low), appended,
        BitVec.extractLsb'_append_eq_left]
    · rw [← BitVec.setWidth_append_eq_right (a := high) (b := low), appended,
        BitVec.setWidth_append_eq_right]
  · rintro ⟨rfl, rfl⟩
    rfl

end Word

/-- The registers after LHI: the immediate above the low half of the destination. -/
def Fields.loadHigh (fields : Fields) (regs : RegFile) : RegFile :=
  Function.update regs fields.dst
    (.ofHalves fields.immediate.address (regs fields.dst).address)

theorem Fields.update_eq_loadHigh_iff (fields : Fields) (regs : RegFile) (value : Word) :
    Function.update regs fields.dst value = fields.loadHigh regs ↔
      value = .ofHalves fields.immediate.address (regs fields.dst).address :=
  (Function.update_injective regs fields.dst).eq_iff

end SimpleProcessor
