import SimpleProcessor.Isa.Format
import SimpleProcessor.Lib.Transition

/-!
# The instruction-set simulator

One iteration of the loop in `main` executes one instruction.  An unknown opcode
ends the program in `toOpcodeName`, before anything is executed; DMA and DMP are
unknown here.
-/

namespace SimpleProcessor.Iss

/-- `Instruction` -/
structure Instruction extends Fields where
  val0 : Word
  val1 : Word
  deriving DecidableEq, Repr

/-- The variables of `main`.  `halted` is the exit condition of its loop. -/
@[ext] structure State where
  pc : Address
  mem : Image
  regs : RegFile
  instCount : Word
  halted : Bool

/-- The opcodes of lab 1; `toOpcodeName` exits on the others. -/
def knownOpcode : Opcode → Bool
  | .dma | .dmp | .u _ => false
  | _ => true

/-- `fetch`.  The 16-bit field `immediate` is signed. -/
def fetch (inst : Word) : Instruction where
  opcode := .ofCode (((inst >>> 25) &&& 0x1f#32).setWidth 5)
  dst := ((inst >>> 22) &&& 0x7#32).setWidth 3
  src0 := ((inst >>> 19) &&& 0x7#32).setWidth 3
  src1 := ((inst >>> 16) &&& 0x7#32).setWidth 3
  immediate := ((inst &&& 0xffff#32).setWidth 16).signExtend 32
  val0 := 0#32
  val1 := 0#32

/-- `decode` -/
def decode (inst : Instruction) (regs : RegFile) : Instruction :=
  { inst with
    val0 := if inst.src0 = 1#3 ∨ inst.opcode = .lhi then inst.immediate
      else regs inst.src0
    val1 := if inst.src1 = 1#3 then inst.immediate else regs inst.src1 }

/-- The taken branch of a jump: `regs[7] = *pc - 1; *pc = target`. -/
def jump (state : State) (target : Word) : State :=
  { state with
    regs := Function.update state.regs 7#3 (Word.ofAddress state.pc - 1#32)
    pc := target.address }

/-- The switch of `execute`. -/
def executeOpcode (shifts : Shifts) (inst : Instruction) (state : State) : State :=
  match inst.opcode with
  | .add => { state with regs := Function.update state.regs inst.dst (inst.val0 + inst.val1) }
  | .sub => { state with regs := Function.update state.regs inst.dst (inst.val0 - inst.val1) }
  | .lsf => { state with
      regs := Function.update state.regs inst.dst (shifts.left inst.val0 inst.val1) }
  | .rsf => { state with
      regs := Function.update state.regs inst.dst (shifts.right inst.val0 inst.val1) }
  | .and => { state with regs := Function.update state.regs inst.dst (inst.val0 &&& inst.val1) }
  | .or => { state with regs := Function.update state.regs inst.dst (inst.val0 ||| inst.val1) }
  | .xor => { state with regs := Function.update state.regs inst.dst (inst.val0 ^^^ inst.val1) }
  | .lhi => { state with
      regs := Function.update state.regs inst.dst
        ((inst.val0 <<< 16) ||| (state.regs inst.dst &&& 0xffff#32)) }
  | .ld => { state with
      regs := Function.update state.regs inst.dst
        (state.mem (inst.val1 &&& 0xffff#32).address) }
  | .st => { state with
      mem := Function.update state.mem (inst.val1 &&& 0xffff#32).address inst.val0 }
  | .jlt => if inst.val0.slt inst.val1 then jump state inst.immediate else state
  | .jle => if inst.val0.sle inst.val1 then jump state inst.immediate else state
  | .jeq => if inst.val0 = inst.val1 then jump state inst.immediate else state
  | .jne => if inst.val0 ≠ inst.val1 then jump state inst.immediate else state
  | .jin => jump state inst.val0
  | .hlt | .dma | .dmp | .u _ => state

/-- `execute`: the switch, and `regs[0]` and `regs[1]` cleared after it. -/
def execute (shifts : Shifts) (inst : Instruction) (state : State) : State :=
  let state := executeOpcode shifts inst state
  { state with regs := state.regs.clearLow }

/-- One iteration of the loop in `main`; `none` when the program has ended. -/
def next (shifts : Shifts) (state : State) : Option State :=
  if state.halted then none
  else
    let inst := fetch (state.mem state.pc)
    if knownOpcode inst.opcode then
      let inst := decode inst state.regs
      let state := { state with pc := state.pc + 1#16 }
      let state := execute shifts inst state
      some { state with
        instCount := state.instCount + 1#32
        halted := inst.opcode = .hlt }
    else none

/-- The state before the loop, with the loaded memory. -/
def init (image : Image) : State where
  pc := 0#16
  mem := image
  regs := fun _ => 0#32
  instCount := 0#32
  halted := false

/-- The word about to be executed. -/
def State.word (state : State) : Word := state.mem state.pc

/-- The instruction about to be executed, with its operands. -/
def State.instruction (state : State) : Instruction :=
  decode (fetch state.word) state.regs

@[simp] theorem fetch_toFields (inst : Word) : (fetch inst).toFields = Fields.ofWord inst := by
  have low : (inst &&& 0xffff#32).setWidth 16 = inst.setWidth 16 := by
    rw [Word.and_mask_eq]
    exact Word.address_ofAddress _
  simp only [fetch, Fields.ofWord, low]
  congr 2 <;> exact setWidth_shift_and_mask inst _ _ _ (by decide)

end SimpleProcessor.Iss
