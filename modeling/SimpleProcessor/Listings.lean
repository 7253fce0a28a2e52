import SimpleProcessor.Asm.Instruction
import SimpleProcessor.Iss.Model
import SimpleProcessor.MultiCycle.Operands
import SimpleProcessor.Pipeline.Clock
import SimpleProcessor.ProgramFiles

/-!
# One instruction format

The assembler packs the five fields, and each simulator unpacks them with its own
expressions.  The two unused bits of a word are the only ones that do not survive.
`assemble_program` is a listing of calls of `asm_cmd` and a loop that prints the memory.
What a simulator decodes behind its loader is what the listing says.
-/

namespace SimpleProcessor

/-- What the decoders of the three simulators make of a word. -/
structure DecodesTo (word : Word) (fields : Fields) : Prop where
  iss : (Iss.fetch word).toFields = fields
  multiCycle : ∀ sp : MultiCycle.Sp, sp.spro.inst = word →
    (MultiCycle.ctlDec0 sp).sprn.fields = fields
  pipeline : ∀ sp : Pipeline.Sp, sp.spro.dec0.inst = word → sp.spro.dec0.active = true →
    sp.spro.isPipeStalled = false → (Pipeline.ctlDec0 sp).sprn.dec1.toFields = fields

theorem decodesTo_ofWord (word : Word) : DecodesTo word (Fields.ofWord word) where
  iss := Iss.fetch_toFields word
  multiCycle := by
    intro sp inst
    rw [MultiCycle.ctlDec0_eq, inst]
    rfl
  pipeline := by
    intro sp inst active noStall
    rw [Pipeline.ctlDec0_eq]
    simp only [active, noStall, inst, Bool.false_eq_true, if_false, if_true]

theorem setWidth_setWidth_eq_and (mask : Word) (width : Nat)
    (ones : ∀ j < 32, mask.getLsbD j = decide (j < width)) (value : Word) :
    (value.setWidth width).setWidth 32 = value &&& mask := by
  apply BitVec.eq_of_getLsbD_eq
  intro i bound
  rw [BitVec.getLsbD_setWidth, BitVec.getLsbD_setWidth, BitVec.getLsbD_and, ones i bound,
    decide_eq_true bound, Bool.true_and, Bool.and_comm]

/-- The word that `asm_cmd` stores is decoded to its arguments by all three simulators, and
every decoded word is assembled again but for its two highest bits. -/
theorem one_instruction_format (opcode dst src0 src1 immediate word : Word) :
    (∃ fields : Fields, DecodesTo (Asm.inst opcode dst src0 src1 immediate) fields ∧
      fields.opcode.code.setWidth 32 = opcode &&& 31#32 ∧
      fields.dst.setWidth 32 = dst &&& 7#32 ∧
      fields.src0.setWidth 32 = src0 &&& 7#32 ∧
      fields.src1.setWidth 32 = src1 &&& 7#32 ∧
      fields.immediate = (immediate.setWidth 16).signExtend 32 ∧
      ∀ program : Asm.Program, program.pc < 65536 →
        ∃ program', Asm.asmCmd program opcode dst src0 src1 immediate = .ok program' ∧
          program'.pc = program.pc + 1 ∧
          DecodesTo (program'.mem (.ofNat 16 program.pc)) fields) ∧
    ∃ fields : Fields, DecodesTo word fields ∧
      Asm.inst (fields.opcode.code.setWidth 32) (fields.dst.setWidth 32)
        (fields.src0.setWidth 32) (fields.src1.setWidth 32) fields.immediate =
        word &&& 0x3fffffff#32 := by
  have index := setWidth_setWidth_eq_and 7#32 3 (by decide)
  constructor
  · refine ⟨_, decodesTo_ofWord _, ?_⟩
    rw [Asm.ofWord_inst]
    refine ⟨?_, index dst, index src0, index src1, rfl, ?_⟩
    · rw [Opcode.code_ofCode]
      exact setWidth_setWidth_eq_and 31#32 5 (by decide) opcode
    · intro program room
      refine ⟨_, if_pos room, rfl, ?_⟩
      simp only [Function.update_self, ← Asm.ofWord_inst]
      exact decodesTo_ofWord _
  · exact ⟨_, decodesTo_ofWord word, Asm.inst_ofWord word⟩

/-- JNE 0, 2, 3, -1 in word 7, with arguments that reach beyond their fields. -/
theorem one_instruction_format_jump :
    ∃ program', Asm.asmCmd ⟨fun _ => 0#32, 7⟩ 51#32 8#32 10#32 3#32 0xffffffff#32 =
        .ok program' ∧
      (Iss.fetch (program'.mem 7#16)).toFields = ⟨.jne, 0#3, 2#3, 3#3, 0xffffffff#32⟩ := by
  obtain ⟨⟨fields, decoded, -, -, -, -, -, stored⟩, -⟩ :=
    one_instruction_format 51#32 8#32 10#32 3#32 0xffffffff#32 0#32
  obtain ⟨program', assembled, -, there⟩ := stored ⟨fun _ => 0#32, 7⟩ (by decide)
  refine ⟨program', assembled, there.iss.trans ?_⟩
  rw [← decoded.iss]
  decide

namespace Asm

/-- The arguments of a call of `asm_cmd`. -/
structure Call where
  opcode : Word
  dst : Word
  src0 : Word
  src1 : Word
  immediate : Word

/-- The word that the call stores. -/
def Call.inst (call : Call) : Word :=
  Asm.inst call.opcode call.dst call.src0 call.src1 call.immediate

/-- The instruction that the low bits of the arguments name. -/
def Call.fields (call : Call) : Fields where
  opcode := .ofCode (call.opcode.setWidth 5)
  dst := call.dst.setWidth 3
  src0 := call.src0.setWidth 3
  src1 := call.src1.setWidth 3
  immediate := (call.immediate.setWidth 16).signExtend 32

/-- The calls of a listing, one behind the other. -/
def asmCmds : List Call → Program → Checked Program
  | [], program => .ok program
  | call :: rest, program => do
      let program ← asmCmd program call.opcode call.dst call.src0 call.src1 call.immediate
      asmCmds rest program

/-- `assemble_program`, for any listing: the memory is cleared, the calls are made, and the
words up to `last_addr` are printed. -/
def assembleProgram (calls : List Call) (lastAddr : Nat) : Checked Stdio.Text := do
  let program ← asmCmds calls ⟨fun _ => 0#32, 0⟩
  return output program.mem lastAddr

section Calls

variable {mem : Image} {pc : Nat}

theorem asmCmd_eq_ok (room : pc < 65536) (call : Call) :
    asmCmd ⟨mem, pc⟩ call.opcode call.dst call.src0 call.src1 call.immediate =
      .ok ⟨Function.update mem (.ofNat 16 pc) call.inst, pc + 1⟩ := by
  rw [asmCmd, if_pos room]
  rfl

/-- The calls fill the memory from `pc` on, and leave the rest of it alone. -/
theorem asmCmds_eq_ok {calls : List Call} (room : pc + calls.length ≤ 65536) :
    ∃ mem', asmCmds calls ⟨mem, pc⟩ = .ok ⟨mem', pc + calls.length⟩ ∧
      (∀ i (inside : i < calls.length), mem' (.ofNat 16 (pc + i)) = calls[i].inst) ∧
      ∀ addr : Address, addr.toNat < pc ∨ pc + calls.length ≤ addr.toNat →
        mem' addr = mem addr := by
  induction calls generalizing mem pc with
  | nil => exact ⟨mem, rfl, nofun, fun _ _ => rfl⟩
  | cons call rest ih =>
      rw [List.length_cons] at room
      have here : (BitVec.ofNat 16 pc).toNat = pc := by
        rw [BitVec.toNat_ofNat]
        omega
      have shift (i : Nat) : pc + (i + 1) = pc + 1 + i := by omega
      obtain ⟨mem', assembled, listed, others⟩ :=
        @ih (Function.update mem (.ofNat 16 pc) call.inst) (pc + 1) (by omega)
      refine ⟨mem', ?_, ?_, ?_⟩
      · rw [asmCmds, asmCmd_eq_ok (by omega), Checked.ok_bind, assembled, List.length_cons,
          shift rest.length]
      · intro i inside
        cases i with
        | zero =>
            rw [Nat.add_zero, others _ (Or.inl (by omega)), Function.update_self]
            rfl
        | succ i =>
            rw [shift]
            exact listed i (Nat.lt_of_succ_lt_succ inside)
      · intro addr outside
        rw [List.length_cons] at outside
        have other : addr ≠ .ofNat 16 pc := by
          intro same
          rw [same] at outside
          omega
        rw [others addr (by omega), Function.update_of_ne other]

theorem asmCmds_eq_error {calls : List Call} (inside : pc ≤ 65536)
    (tooLong : 65536 < pc + calls.length) :
    asmCmds calls ⟨mem, pc⟩ = .error .outOfBounds := by
  induction calls generalizing mem pc with
  | nil =>
      rw [List.length_nil] at tooLong
      omega
  | cons call rest ih =>
      rw [List.length_cons] at tooLong
      by_cases room : pc < 65536
      · rw [asmCmds, asmCmd_eq_ok room, Checked.ok_bind]
        exact ih (by omega) (by omega)
      · rw [asmCmds, asmCmd, if_neg room, Checked.error_bind]

end Calls

end Asm

/-- An image in which every simulator decodes the listing, with nothing behind it. -/
structure Lists (calls : List Asm.Call) (lastAddr : Nat) (image : Image) : Prop where
  decoded : ∀ i (inside : i < calls.length),
    DecodesTo (image (.ofNat 16 i)) calls[i].fields
  cleared : ∀ addr : Address, calls.length ≤ addr.toNat → addr.toNat < lastAddr →
    image addr = 0#32

theorem decodesTo_inst (call : Asm.Call) : DecodesTo call.inst call.fields := by
  have decoded := decodesTo_ofWord call.inst
  rw [Asm.Call.inst, Asm.ofWord_inst] at decoded
  exact decoded

/-- What a loader keeps of an assembled memory is enough. -/
theorem lists_of_loaded {calls : List Asm.Call} {lastAddr : Nat} {mem image : Image}
    (fits : calls.length ≤ lastAddr) (room : lastAddr < 65536)
    (listed : ∀ i (inside : i < calls.length), mem (.ofNat 16 i) = calls[i].inst)
    (cleared : ∀ addr : Address, calls.length ≤ addr.toNat → mem addr = 0#32)
    (loaded : ∀ addr : Address, addr.toNat < lastAddr → image addr = mem addr) :
    Lists calls lastAddr image where
  decoded := by
    intro i inside
    have address : (BitVec.ofNat 16 i).toNat < lastAddr := by
      rw [BitVec.toNat_ofNat]
      omega
    rw [loaded _ address, listed i inside]
    exact decodesTo_inst _
  cleared := by
    intro addr behind inside
    rw [loaded addr inside, cleared addr behind]

/-- Assembling, printing, loading and decoding gives any listing back, on all three simulators,
as long as it fits into the printed words and they leave a word of the memory free.  A listing
that does not fit into the memory is not assembled at all. -/
theorem listing_survives (calls : List Asm.Call) (lastAddr : Nat) :
    (65536 < calls.length → Asm.assembleProgram calls lastAddr = .error .outOfBounds) ∧
    (1 ≤ lastAddr → calls.length ≤ lastAddr → lastAddr < 65536 →
      ∃ file, Asm.assembleProgram calls lastAddr = .ok file ∧
        (∃ image, Iss.load file = .ok (.accepted image lastAddr) ∧
          Lists calls lastAddr image) ∧
        (∃ image, MultiCycle.load file = .ok (.accepted image lastAddr) ∧
          Lists calls lastAddr image) ∧
        ∃ srami sramd, Pipeline.load file = .ok (.accepted (srami, sramd) lastAddr) ∧
          Lists calls lastAddr srami ∧ Lists calls lastAddr sramd) := by
  constructor
  · intro tooLong
    rw [Asm.assembleProgram, Asm.asmCmds_eq_error (Nat.zero_le _) (by simpa using tooLong),
      Checked.error_bind]
  · intro positive fits room
    obtain ⟨mem, assembled, listed, others⟩ :=
      @Asm.asmCmds_eq_ok (fun _ => 0#32) 0 calls (by omega)
    simp only [Nat.zero_add, Nat.not_lt_zero, false_or] at assembled listed others
    have injected := MultiCycle.load_output mem positive room
    have processors : Lists calls lastAddr (imageOf (withSign (written mem lastAddr))) :=
      lists_of_loaded fits room listed others fun _ inside => imageOf_withSign_written mem inside
    refine ⟨Asm.output mem lastAddr, ?_, ⟨_, Iss.load_output mem (Nat.le_of_lt room), ?_⟩,
      ⟨_, injected, processors⟩,
      ⟨_, _, Pipeline.load_eq_accepted.mpr ⟨_, injected, rfl⟩, processors, processors⟩⟩
    · rw [Asm.assembleProgram, assembled]
      rfl
    · exact lists_of_loaded fits room listed others fun _ inside => imageOf_written mem inside

/-- ADD and HLT, with one more word in the file. -/
theorem listing_survives_two :
    ∃ file, Asm.assembleProgram [⟨0#32, 2#32, 0#32, 1#32, 10#32⟩, ⟨24#32, 0#32, 0#32, 0#32, 0#32⟩]
        3 = .ok file ∧
      ∃ image, Iss.load file = .ok (.accepted image 3) ∧
        (Iss.fetch (image 0#16)).toFields = ⟨.add, 2#3, 0#3, 1#3, 10#32⟩ := by
  obtain ⟨-, survives⟩ := listing_survives
    [⟨0#32, 2#32, 0#32, 1#32, 10#32⟩, ⟨24#32, 0#32, 0#32, 0#32, 0#32⟩] 3
  obtain ⟨file, assembled, ⟨image, loaded, lists⟩, -⟩ :=
    survives (by decide) (by decide) (by decide)
  exact ⟨file, assembled, image, loaded, (lists.decoded 0 (by decide)).iss.trans (by decide)⟩

end SimpleProcessor
