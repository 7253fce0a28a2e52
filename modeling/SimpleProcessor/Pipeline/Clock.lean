import SimpleProcessor.Pipeline.Model

/-!
# One clock of the pipelined simulator

The textual order of the blocks is resolved here once: each group of registers
gets its new value as a function of the old registers, of the words on the two
memory buses and of the branch target buffer.
-/

namespace SimpleProcessor.Pipeline

open Dma (CpuClock Request nextRegs oldCopy)

/-- The element of the branch target buffer that belongs to an address. -/
def btbSlot (pc : Word) : BitVec 6 := (pc.srem btbSize).setWidth 6

/-- The address has no element: the C remainder is negative. -/
def outsideBtb (pc : Word) : Bool := (pc.srem btbSize).slt 0#32

theorem btbAddr_eq (pc : Word) :
    btbAddr pc = if outsideBtb pc then .error .outOfBounds else .ok (btbSlot pc) := rfl

theorem outsideBtb_of_lt {pc : Word} (bound : pc.toNat < 2 ^ 31) : outsideBtb pc = false := by
  have positive : pc.toInt = pc.toNat := BitVec.toInt_eq_toNat_of_lt (by omega)
  have size : btbSize.toInt = 64 := by decide
  have zero : (0#32).toInt = 0 := by decide
  rw [outsideBtb, BitVec.slt_eq_decide, decide_eq_false_iff_not, BitVec.toInt_srem, positive,
    size, zero, Int.not_lt]
  exact Int.tmod_nonneg _ (Int.natCast_nonneg _)

namespace Btb

variable (btb : Btb) (pc : Word)

/-- The prediction stored with a fetched instruction. -/
def slot : Slot where
  active := true
  pc := pc
  btbTarget := btb.target (btbSlot pc)
  btbIsTaken := (btb.isTaken (btbSlot pc)).signExtend 32

/-- The next address to fetch from. -/
def predicted : Word :=
  if btb.isTaken (btbSlot pc) ≠ 0#8 then btb.target (btbSlot pc) else pc + 1#32

end Btb

namespace Registers

variable (spro : Registers)

/-- FETCH0 fetches in this clock. -/
def fetches : Bool := spro.fetch0.active && !spro.isPipeStalled

/-- DEC0 flushes: the instruction was predicted taken and is not a jump. -/
def dec0Flush : Bool :=
  spro.dec0.active && !spro.isPipeStalled &&
    (!isJumpOpcode (Fields.ofWord spro.dec0.inst).opcode && spro.dec0.btbIsTaken ≠ 0#32)

/-- EXEC1 holds a jump. -/
def exec1Jumps : Bool := spro.exec1.active && isJumpOpcode spro.exec1.opcode

/-- EXEC1 flushes: a jump was predicted wrongly. -/
def exec1Flush : Bool :=
  spro.exec1Jumps &&
    (spro.exec1.aluout ≠ spro.exec1.btbIsTaken ||
      (spro.exec1.aluout ≠ 0#32 && spro.exec1.btbTarget ≠ spro.exec1.immediate))

/-- Where a jump in EXEC1 goes. -/
def exec1Target : Word :=
  if spro.exec1.aluout ≠ 0#32 then spro.exec1.immediate else spro.exec1.pc + 1#32

/-- `fetch0_*` after the clock. -/
def nextFetch0 (start : Bool) (btb : Btb) : Fetch0 where
  active := start || spro.fetch0.active
  pc :=
    if spro.exec1Flush then spro.exec1Target
    else if spro.dec0Flush then spro.dec0.pc + 1#32
    else if spro.fetches then btb.predicted spro.fetch0.pc
    else spro.fetch0.pc

/-- `fetch1_*` after the clock. -/
def nextFetch1 (btb : Btb) (dataout : Word) : Fetch1 :=
  let slot := if spro.fetches then btb.slot spro.fetch0.pc else spro.fetch1.toSlot
  { slot with
    active := slot.active && !spro.dec0Flush && !spro.exec1Flush
    savedInst :=
      if spro.fetch1.active && spro.isPipeStalled then dataout else spro.fetch1.savedInst
    useSaved := if spro.fetch1.active then spro.isPipeStalled else spro.fetch1.useSaved }

/-- The word FETCH1 hands to DEC0. -/
def fetchedInst (dataout : Word) : Word :=
  if spro.fetch1.useSaved then spro.fetch1.savedInst else dataout

/-- `dec0_*` after the clock. -/
def nextDec0 (dataout : Word) : Dec0 :=
  let dec0 := if spro.fetch1.active && !spro.isPipeStalled then
      { spro.fetch1.toSlot with inst := spro.fetchedInst dataout }
    else spro.dec0
  { dec0 with
    active := spro.fetch1.active && dec0.active && !spro.dec0Flush && !spro.exec1Flush }

/-- `dec1_*` after the clock. -/
def nextDec1 : Dec1 :=
  let dec1 := if spro.dec0.active && !spro.isPipeStalled then
      { spro.dec0, Fields.ofWord spro.dec0.inst with }
    else spro.dec1
  { dec1 with active := spro.dec0.active && dec1.active && !spro.exec1Flush }

/-- The first operand read in DEC1. -/
def dec1Alu0 : Word :=
  if spro.dec1.src0 = 1#3 ∨ spro.dec1.opcode = .lhi then spro.dec1.immediate
  else if spro.dec1R0BypassEn then spro.exec1.aluout else spro.r spro.dec1.src0

/-- The second operand read in DEC1. -/
def dec1Alu1 : Word :=
  if spro.dec1.opcode = .lhi then
    if spro.dec1R1BypassEn then spro.exec1.aluout else spro.r spro.dec1.dst
  else if spro.dec1.src1 = 1#3 then spro.dec1.immediate
  else if spro.dec1R1BypassEn then spro.exec1.aluout else spro.r spro.dec1.src1

/-- `exec0_*` after the clock. -/
def nextExec0 : Exec0 :=
  let exec0 := if spro.dec1.active && !spro.isPipeStalled then
      { spro.dec1 with alu0 := spro.dec1Alu0, alu1 := spro.dec1Alu1 }
    else spro.exec0
  { exec0 with active := spro.dec1.active && exec0.active && !spro.exec1Flush }

/-- `exec1_aluout` of the instruction in EXEC0. -/
def exec0Aluout (shifts : Shifts) : Word :=
  let alu0 := spro.exec0Alu0Final
  let alu1 := spro.exec0Alu1Final
  match spro.exec0.opcode with
  | .add => alu0 + alu1
  | .sub => alu0 - alu1
  | .lsf => shifts.left alu0 alu1
  | .rsf => shifts.right alu0 alu1
  | .and => alu0 &&& alu1
  | .or => alu0 ||| alu1
  | .xor => alu0 ^^^ alu1
  | .lhi => (alu1 <<< 16) ||| (alu0 &&& 0xffff#32)
  | .ld | .st | .hlt | .u _ => spro.exec1.aluout
  | .dma => spro.exec0.alu0
  | .dmp => intOfBool (spro.exec0.alu0 = 0#32)
  | .jlt => intOfBool (alu0.slt alu1)
  | .jle => intOfBool (alu0.sle alu1)
  | .jeq => intOfBool (alu0 = alu1)
  | .jne => intOfBool (alu0 ≠ alu1)
  | .jin => 1#32

/-- The instruction in EXEC0 moves on in this clock. -/
def leavesExec0 : Bool := spro.exec0.active && !spro.isPipeStalled

/-- `exec1_*` after the clock. -/
def nextExec1 (shifts : Shifts) : Exec1 :=
  let exec1 := if spro.leavesExec0 then
      { spro.exec0 with
        alu0 := spro.exec0Alu0Final
        alu1 := spro.exec0Alu1Final
        aluout := spro.exec0Aluout shifts }
    else spro.exec1
  { exec1 with active := spro.leavesExec0 && !spro.exec1Flush }

/-- The register file after the clock. -/
def nextR (dataout : Word) : RegFile :=
  if spro.exec1.active then
    match spro.exec1.opcode with
    | .add | .sub | .lsf | .rsf | .and | .or | .xor | .lhi =>
        if 1#3 < spro.exec1.dst then Function.update spro.r spro.exec1.dst spro.exec1.aluout
        else spro.r
    | .ld =>
        if 1#3 < spro.exec1.dst then Function.update spro.r spro.exec1.dst dataout else spro.r
    | .dmp | .jlt | .jle | .jeq | .jne | .jin =>
        if spro.exec1.aluout ≠ 0#32 then Function.update spro.r 7#3 spro.exec1.pc else spro.r
    | .st | .dma | .hlt | .u _ => spro.r
  else spro.r

/-- The load latch after the clock. -/
def nextMem (dataout : Word) : LoadLatch :=
  if spro.exec1.active then
    if spro.exec1.opcode = .ld ∧ 1#3 < spro.exec1.dst then ⟨true, dataout, spro.exec1.dst⟩
    else { spro.mem with stall := false }
  else spro.mem

/-- The branch target buffer after the clock. -/
def nextBtb (btb : Btb) : Btb :=
  let addr := btbSlot spro.exec1.pc
  if spro.exec1.active then
    if isJumpOpcode spro.exec1.opcode then
      { isTaken := Function.update btb.isTaken addr (spro.exec1.aluout.setWidth 8)
        target := Function.update btb.target addr spro.exec1.immediate }
    else { btb with isTaken := Function.update btb.isTaken addr 0#8 }
  else btb

theorem nextBtb_cases {spro : Registers} {btb : Btb} {slot : BitVec 6}
    (taken : (spro.nextBtb btb).isTaken slot ≠ 0#8) :
    spro.exec1Jumps = true ∧ spro.exec1.aluout ≠ 0#32 ∧
        (spro.nextBtb btb).target slot = spro.exec1.immediate ∨
      btb.isTaken slot ≠ 0#8 ∧ (spro.nextBtb btb).target slot = btb.target slot := by
  cases active : spro.exec1.active with
  | false =>
      right
      simpa [nextBtb, active] using taken
  | true =>
      cases jump : isJumpOpcode spro.exec1.opcode with
      | false =>
          right
          simp only [nextBtb, active, jump, Bool.false_eq_true, if_false, if_true] at taken ⊢
          by_cases here : slot = btbSlot spro.exec1.pc
          · simp [here] at taken
          · rw [Function.update_of_ne here] at taken
            exact ⟨taken, trivial⟩
      | true =>
          simp only [nextBtb, active, jump, if_true] at taken ⊢
          by_cases here : slot = btbSlot spro.exec1.pc
          · left
            subst here
            rw [Function.update_self] at taken ⊢
            refine ⟨by simp [exec1Jumps, active, jump], ?_, rfl⟩
            intro zero
            simp [zero] at taken
          · right
            rw [Function.update_of_ne here] at taken ⊢
            exact ⟨taken, rfl⟩

/-! ## Accesses -/

/-- The read of FETCH0. -/
def fetchAccess : Option Access := if spro.fetches then some (.read spro.fetch0.pc) else none

/-- The read of a load in EXEC0. -/
def loadAccess : Option Access :=
  if spro.leavesExec0 && spro.exec0.opcode = .ld then
    some (.read (spro.exec0Alu1Final &&& 0xffff#32))
  else none

/-- The write of a store in EXEC1. -/
def storeAccess : Option Access :=
  if spro.exec1.active && spro.exec1.opcode = .st then
    some (.write spro.exec1.alu1 spro.exec1.alu0)
  else none

/-- The CPU as the engine sees it. -/
def cpuClock : CpuClock where
  hazard := isDmaHazard spro
  access := if spro.storeAccess.isSome then spro.storeAccess else spro.loadAccess
  request :=
    if spro.exec1.active && spro.exec1.opcode = .dma then
      some ⟨spro.exec1.alu0, spro.exec1.aluout, spro.exec1.alu1⟩
    else none

/-- The simulator would read or write outside the branch target buffer. -/
def leavesBtb : Bool :=
  (spro.fetches && outsideBtb spro.fetch0.pc) || (spro.exec1.active && outsideBtb spro.exec1.pc)

/-- A HLT is in EXEC1. -/
def halts : Bool := spro.exec1.active && spro.exec1.opcode = .hlt

theorem load_or_store : spro.loadAccess = none ∨ spro.storeAccess = none := by
  by_cases store : (spro.exec1.active && spro.exec1.opcode = .st) = true
  · left
    simp only [Bool.and_eq_true, decide_eq_true_eq] at store
    by_cases load : spro.exec0.opcode = .ld <;>
      simp [loadAccess, leavesExec0, isPipeStalled, store, load]
  · right
    rw [storeAccess, if_neg store]

/-- EXEC1 holds the instruction that has left EXEC0. -/
theorem exec1_entered {shifts : Shifts} (active : (spro.nextExec1 shifts).active = true) :
    spro.exec0.active = true ∧ spro.isPipeStalled = false ∧ spro.exec1Flush = false ∧
      spro.nextExec1 shifts =
        { spro.exec0 with
          alu0 := spro.exec0Alu0Final
          alu1 := spro.exec0Alu1Final
          aluout := spro.exec0Aluout shifts } := by
  simp only [nextExec1, Bool.and_eq_true, Bool.not_eq_true'] at active ⊢
  obtain ⟨leaves, noFlush⟩ := active
  have left := leaves
  simp only [leavesExec0, Bool.and_eq_true, Bool.not_eq_true'] at left
  refine ⟨left.1, left.2, noFlush, ?_⟩
  simp only [leaves, noFlush, if_true, Bool.not_false, Bool.and_self]
  rw [← left.1]

theorem exec0_entered (active : spro.nextExec0.active = true) :
    spro.dec1.active = true ∧ spro.exec1Flush = false ∧
      (spro.isPipeStalled = false ∧
          spro.nextExec0 = { spro.dec1 with alu0 := spro.dec1Alu0, alu1 := spro.dec1Alu1 } ∨
        spro.isPipeStalled = true ∧ spro.exec0.active = true ∧
          spro.nextExec0 = spro.exec0) := by
  simp only [nextExec0, Bool.and_eq_true, Bool.not_eq_true'] at active ⊢
  obtain ⟨⟨dec1, occupied⟩, noFlush⟩ := active
  refine ⟨dec1, noFlush, ?_⟩
  cases stalled : spro.isPipeStalled with
  | false =>
      left
      simp only [dec1, noFlush, Bool.not_false, Bool.and_self, if_true, true_and]
      rw [← dec1]
  | true =>
      right
      have exec0 : spro.exec0.active = true := by simpa [stalled] using occupied
      simp only [dec1, noFlush, exec0, Bool.not_false, Bool.and_self, Bool.true_eq_false,
        and_false, if_false, true_and]
      rw [← exec0]

theorem dec1_entered (active : spro.nextDec1.active = true) :
    spro.dec0.active = true ∧ spro.exec1Flush = false ∧
      (spro.isPipeStalled = false ∧
          spro.nextDec1 = { spro.dec0, Fields.ofWord spro.dec0.inst with } ∨
        spro.isPipeStalled = true ∧ spro.dec1.active = true ∧ spro.nextDec1 = spro.dec1) := by
  simp only [nextDec1, Bool.and_eq_true, Bool.not_eq_true'] at active ⊢
  obtain ⟨⟨dec0, occupied⟩, noFlush⟩ := active
  refine ⟨dec0, noFlush, ?_⟩
  cases stalled : spro.isPipeStalled with
  | false =>
      left
      simp only [dec0, noFlush, Bool.not_false, Bool.and_self, if_true, true_and]
      rw [← dec0]
  | true =>
      right
      have dec1 : spro.dec1.active = true := by simpa [stalled] using occupied
      simp only [dec0, noFlush, dec1, Bool.not_false, Bool.and_self, Bool.true_eq_false,
        and_false, if_false, true_and]
      rw [← dec1]

theorem dec0_entered {dataout : Word} (active : (spro.nextDec0 dataout).active = true) :
    spro.fetch1.active = true ∧ spro.dec0Flush = false ∧ spro.exec1Flush = false ∧
      (spro.isPipeStalled = false ∧
          spro.nextDec0 dataout =
            { spro.fetch1.toSlot with inst := spro.fetchedInst dataout } ∨
        spro.isPipeStalled = true ∧ spro.dec0.active = true ∧
          spro.nextDec0 dataout = spro.dec0) := by
  simp only [nextDec0, Bool.and_eq_true, Bool.not_eq_true'] at active ⊢
  obtain ⟨⟨⟨fetch1, occupied⟩, noDec0Flush⟩, noFlush⟩ := active
  refine ⟨fetch1, noDec0Flush, noFlush, ?_⟩
  cases stalled : spro.isPipeStalled with
  | false =>
      left
      simp only [fetch1, noDec0Flush, noFlush, Bool.not_false, Bool.and_self, if_true, true_and]
      rw [← fetch1]
  | true =>
      right
      have dec0 : spro.dec0.active = true := by simpa [stalled] using occupied
      simp only [fetch1, noDec0Flush, noFlush, dec0, Bool.not_false, Bool.and_self,
        Bool.true_eq_false, and_false, if_false, true_and]
      rw [← dec0]

end Registers

/-! ## The blocks of `sp_ctl` -/

section Blocks

variable (shifts : Shifts) (sp : Sp)

theorem ctlFetch0_eq (free : sp.srami.read = false) :
    ctlFetch0 sp =
      if sp.spro.fetches && outsideBtb sp.spro.fetch0.pc then .error .outOfBounds
      else .ok { sp with
        srami := if sp.spro.fetches then
            { sp.srami with read := true, readAddr := sp.spro.fetch0.pc }
          else sp.srami
        sprn := { sp.sprn with
          fetch0.pc := if sp.spro.fetches then sp.btb.predicted sp.spro.fetch0.pc
            else sp.sprn.fetch0.pc
          fetch1.toSlot := if sp.spro.fetches then sp.btb.slot sp.spro.fetch0.pc
            else sp.sprn.fetch1.toSlot } } := by
  cases fetches : sp.spro.fetches with
  | false =>
      simp only [Registers.fetches] at fetches
      simp [ctlFetch0, fetches]
  | true =>
      simp only [Registers.fetches] at fetches
      cases outside : outsideBtb sp.spro.fetch0.pc <;>
        simp [ctlFetch0, fetches, btbAddr_eq, outside, llsimMemRead, free, Btb.predicted, Btb.slot]

theorem ctlFetch1_eq :
    ctlFetch1 sp = .ok { sp with sprn := { sp.sprn with
      fetch1.savedInst := if sp.spro.fetch1.active && sp.spro.isPipeStalled then
          sp.srami.dataout
        else sp.sprn.fetch1.savedInst
      fetch1.useSaved := if sp.spro.fetch1.active then sp.spro.isPipeStalled
        else sp.sprn.fetch1.useSaved
      dec0 := if sp.spro.fetch1.active then
          if sp.spro.isPipeStalled then sp.sprn.dec0
          else { sp.spro.fetch1.toSlot with
            active := true, inst := sp.spro.fetchedInst sp.srami.dataout }
        else { sp.sprn.dec0 with active := false } } } := by
  cases active : sp.spro.fetch1.active <;> cases stalled : sp.spro.isPipeStalled <;>
    simp [ctlFetch1, active, stalled, Registers.fetchedInst]

theorem ctlDec0_eq :
    ctlDec0 sp = { sp with sprn := { sp.sprn with
      fetch0.pc := if sp.spro.dec0Flush then sp.spro.dec0.pc + 1#32 else sp.sprn.fetch0.pc
      fetch1.active := sp.sprn.fetch1.active && !sp.spro.dec0Flush
      dec0.active := sp.sprn.dec0.active && !sp.spro.dec0Flush
      dec1 := if sp.spro.dec0.active then
          if sp.spro.isPipeStalled then sp.sprn.dec1
          else { sp.spro.dec0, Fields.ofWord sp.spro.dec0.inst with active := true }
        else { sp.sprn.dec1 with active := false } } } := by
  have opcode := setWidth_sshiftRight_and_mask sp.spro.dec0.inst 5 25 0x1f#32
    (by decide) (by decide)
  have field (low : Nat) (inside : low + 3 ≤ 32) :=
    setWidth_sshiftRight_and_mask sp.spro.dec0.inst 3 low 0x7#32 (by decide) inside
  have extended := signExtend_immediate sp.spro.dec0.inst
  have fields : Opcode.ofCode (sp.spro.dec0.inst.extractLsb' 25 5) =
      (Fields.ofWord sp.spro.dec0.inst).opcode := rfl
  cases active : sp.spro.dec0.active with
  | false => simp [ctlDec0, active, Registers.dec0Flush]
  | true =>
      cases stalled : sp.spro.isPipeStalled with
      | true => simp [ctlDec0, active, stalled, Registers.dec0Flush]
      | false =>
          simp only [ctlDec0, active, stalled, opcode, field 22 (by decide),
            field 19 (by decide), field 16 (by decide), extended, fields,
            Registers.dec0Flush, Bool.not_false, Bool.and_self, Bool.true_and, if_true]
          generalize (!isJumpOpcode (Fields.ofWord sp.spro.dec0.inst).opcode &&
            decide (sp.spro.dec0.btbIsTaken ≠ 0#32)) = flush
          cases flush <;> simp [Fields.ofWord]

theorem ctlDec1_eq :
    ctlDec1 sp = { sp with sprn := { sp.sprn with
      exec0 := if sp.spro.dec1.active then
          if sp.spro.isPipeStalled then sp.sprn.exec0
          else { sp.spro.dec1 with
            active := true, alu0 := sp.spro.dec1Alu0, alu1 := sp.spro.dec1Alu1 }
        else { sp.sprn.exec0 with active := false } } } := by
  cases active : sp.spro.dec1.active <;> cases stalled : sp.spro.isPipeStalled <;>
    simp [ctlDec1, active, stalled, Registers.dec1Alu0, Registers.dec1Alu1]

theorem ctlExec0_eq (free : sp.sramd.read = false)
    (kept : sp.sprn.exec1.aluout = sp.spro.exec1.aluout) :
    ctlExec0 shifts sp = .ok { sp with
      sramd := if sp.spro.leavesExec0 && sp.spro.exec0.opcode = .ld then
          { sp.sramd with
            read := true, readAddr := sp.spro.exec0Alu1Final &&& 0xffff#32 }
        else sp.sramd
      sprn := { sp.sprn with
        exec1 := if sp.spro.leavesExec0 then
            { sp.spro.exec0 with
              active := true
              alu0 := sp.spro.exec0Alu0Final
              alu1 := sp.spro.exec0Alu1Final
              aluout := sp.spro.exec0Aluout shifts }
          else { sp.sprn.exec1 with active := false } } } := by
  cases active : sp.spro.exec0.active with
  | false =>
      cases stalled : sp.spro.isPipeStalled <;>
        simp [ctlExec0, active, stalled, Registers.leavesExec0]
  | true =>
      cases stalled : sp.spro.isPipeStalled with
      | true => simp [ctlExec0, active, stalled, Registers.leavesExec0]
      | false =>
          cases opcode : sp.spro.exec0.opcode <;>
            simp [ctlExec0, active, stalled, Registers.leavesExec0, opcode, Sp.setAluout,
              Registers.exec0Aluout, llsimMemRead, free, kept]

/-- The flush of the new registers. -/
def flushIf (flush : Bool) (target : Word) (sprn : Registers) : Registers :=
  { sprn with
    fetch0.pc := if flush then target else sprn.fetch0.pc
    fetch1.active := sprn.fetch1.active && !flush
    dec0.active := sprn.dec0.active && !flush
    dec1.active := sprn.dec1.active && !flush
    exec0.active := sprn.exec0.active && !flush
    exec1.active := sprn.exec1.active && !flush }

@[simp] theorem flushIf_false (target : Word) (sprn : Registers) :
    flushIf false target sprn = sprn := by
  simp [flushIf]

theorem ctlExec1Jump_eq (addr : BitVec 6) :
    ctlExec1Jump addr sp =
      { sp with
        btb := {
          isTaken := Function.update sp.btb.isTaken addr (sp.spro.exec1.aluout.setWidth 8)
          target := Function.update sp.btb.target addr sp.spro.exec1.immediate }
        sprn := flushIf (sp.spro.exec1.aluout ≠ sp.spro.exec1.btbIsTaken ||
            (sp.spro.exec1.aluout ≠ 0#32 &&
              sp.spro.exec1.btbTarget ≠ sp.spro.exec1.immediate))
          sp.spro.exec1Target
          { sp.sprn with
            r := if sp.spro.exec1.aluout ≠ 0#32 then
                Function.update sp.sprn.r 7#3 sp.spro.exec1.pc
              else sp.sprn.r } } := by
  let flush := sp.spro.exec1.aluout ≠ sp.spro.exec1.btbIsTaken ∨
    (sp.spro.exec1.aluout ≠ 0#32 ∧ sp.spro.exec1.btbTarget ≠ sp.spro.exec1.immediate)
  have asBool : (sp.spro.exec1.aluout ≠ sp.spro.exec1.btbIsTaken ||
      (sp.spro.exec1.aluout ≠ 0#32 &&
        sp.spro.exec1.btbTarget ≠ sp.spro.exec1.immediate)) = decide flush := by
    simp [flush]
  rw [asBool]
  simp only [ctlExec1Jump, Registers.exec1Target]
  change (if flush then _ else _) = _
  by_cases flushes : flush <;> by_cases taken : sp.spro.exec1.aluout = 0#32 <;>
    simp [flushes, taken, Sp.setReg, Sp.flush, flushIf]

theorem ctlExec1_eq (free : sp.sramd.write = false) (r : sp.sprn.r = sp.spro.r)
    (mem : sp.sprn.mem = sp.spro.mem) (dma : sp.sprn.dma = sp.spro.dma) :
    ctlExec1 sp =
      if sp.spro.exec1.active && outsideBtb sp.spro.exec1.pc then .error .outOfBounds
      else .ok { sp with
        sramd := if sp.spro.exec1.active && sp.spro.exec1.opcode = .st then
            { sp.sramd with
              datain := sp.spro.exec1.alu0, write := true, writeAddr := sp.spro.exec1.alu1 }
          else sp.sramd
        btb := sp.spro.nextBtb sp.btb
        nrSimulatedInstructions :=
          if sp.spro.exec1.active then sp.nrSimulatedInstructions + 1#32
          else sp.nrSimulatedInstructions
        stopSim := sp.spro.halts || sp.stopSim
        sprn := flushIf sp.spro.exec1Flush sp.spro.exec1Target
          { sp.sprn with
            r := sp.spro.nextR sp.sramd.dataout
            mem := sp.spro.nextMem sp.sramd.dataout
            dma := sp.spro.cpuClock.load sp.spro.dma } } := by
  cases active : sp.spro.exec1.active with
  | false =>
      simp [ctlExec1, active, Registers.nextBtb, Registers.halts, Registers.exec1Flush,
        Registers.exec1Jumps, Registers.nextR, Registers.nextMem, Registers.cpuClock,
        CpuClock.load, CpuClock.accepted, ← r, ← mem, ← dma]
  | true =>
      cases outside : outsideBtb sp.spro.exec1.pc with
      | true => simp [ctlExec1, active, btbAddr_eq, outside]
      | false =>
          cases opcode : sp.spro.exec1.opcode with
          | add | sub | lsf | rsf | and | or | xor | lhi | ld =>
              by_cases written : 1#3 < sp.spro.exec1.dst <;>
                simp [ctlExec1, active, btbAddr_eq, outside, opcode, written, Sp.setReg,
                  Registers.nextBtb, Registers.halts, Registers.exec1Flush,
                  Registers.exec1Jumps, Registers.nextR, Registers.nextMem,
                  Registers.cpuClock, CpuClock.load, CpuClock.accepted, isJumpOpcode,
                  r, mem, dma]
          | dma =>
              cases busy : sp.spro.dma.busy <;>
                simp [ctlExec1, active, btbAddr_eq, outside, opcode, busy,
                  Registers.nextBtb, Registers.halts, Registers.exec1Flush,
                  Registers.exec1Jumps, Registers.nextR, Registers.nextMem,
                  Registers.cpuClock, CpuClock.load, CpuClock.accepted, isJumpOpcode,
                  r, mem, dma]
          | st | dmp | jlt | jle | jeq | jne | jin | hlt | u code =>
              simp [ctlExec1, active, btbAddr_eq, outside, opcode, llsimMemWrite, free,
                ctlExec1Jump_eq, Registers.nextBtb, Registers.halts, Registers.exec1Flush,
                Registers.exec1Jumps, Registers.nextR, Registers.nextMem,
                Registers.cpuClock, CpuClock.load, CpuClock.accepted, isJumpOpcode,
                r, mem, dma]

end Blocks

/-! ## The whole clock -/

/-- The new registers as `sp_ctl` leaves them. -/
def State.nextSprn (shifts : Shifts) (state : State) : Registers where
  r := state.spro.nextR state.sramd.dataout
  cycleCounter := state.spro.cycleCounter + 1#32
  fetch0 := state.spro.nextFetch0 state.start state.btb
  fetch1 := state.spro.nextFetch1 state.btb state.srami.dataout
  dec0 := state.spro.nextDec0 state.srami.dataout
  dec1 := state.spro.nextDec1
  exec0 := state.spro.nextExec0
  exec1 := state.spro.nextExec1 shifts
  mem := state.spro.nextMem state.sramd.dataout
  dma := state.spro.cpuClock.load state.spro.dma

/-- `sp_ctl` in closed form, for a clock that starts with equal copies. -/
theorem spCtl_eq (shifts : Shifts) (state : State) :
    spCtl shifts ⟨{ state with
        srami := state.srami.clearPort, sramd := state.sramd.clearPort }, state.spro⟩ =
      if state.spro.leavesBtb then .error .outOfBounds
      else .ok { state with
        srami := state.srami.announced state.spro.fetchAccess
        sramd := state.sramd.announced state.spro.cpuClock.access
        btb := state.spro.nextBtb state.btb
        nrSimulatedInstructions :=
          if state.spro.exec1.active then state.nrSimulatedInstructions + 1#32
          else state.nrSimulatedInstructions
        stopSim := state.spro.halts || state.stopSim
        sprn := state.nextSprn shifts } := by
  have started : (if state.start then
        ({ state with
          srami := state.srami.clearPort
          sramd := state.sramd.clearPort
          sprn := { state.spro with
            cycleCounter := state.spro.cycleCounter + 1#32, fetch0.active := true } } : Sp)
      else { state with
        srami := state.srami.clearPort
        sramd := state.sramd.clearPort
        sprn := { state.spro with cycleCounter := state.spro.cycleCounter + 1#32 } }) =
      { state with
        srami := state.srami.clearPort
        sramd := state.sramd.clearPort
        sprn := { state.spro with
          cycleCounter := state.spro.cycleCounter + 1#32
          fetch0.active := state.start || state.spro.fetch0.active } } := by
    cases state.start <;> simp
  have fetchPort : (if state.spro.fetches then
        { state.srami.clearPort with read := true, readAddr := state.spro.fetch0.pc }
      else state.srami.clearPort) = state.srami.announced state.spro.fetchAccess := by
    rw [Registers.fetchAccess]
    split <;> rfl
  have loadPort : (if state.spro.leavesExec0 && state.spro.exec0.opcode = .ld then
        { state.sramd.clearPort with
          read := true, readAddr := state.spro.exec0Alu1Final &&& 0xffff#32 }
      else state.sramd.clearPort) = state.sramd.announced state.spro.loadAccess := by
    rw [Registers.loadAccess]
    split <;> rfl
  simp only [spCtl, started]
  rw [ctlFetch0_eq _ rfl]
  cases badFetch : state.spro.fetches && outsideBtb state.spro.fetch0.pc with
  | true => simp [Registers.leavesBtb, badFetch]
  | false =>
      simp only [Bool.false_eq_true, if_false, Checked.ok_bind, ctlFetch1_eq, ctlDec0_eq,
        ctlDec1_eq]
      rw [ctlExec0_eq _ _ rfl rfl, Checked.ok_bind, ctlExec1_eq]
      · simp only [Registers.leavesBtb, badFetch, Bool.false_or, fetchPort, loadPort,
          Memory.announced_dataout]
        split
        next => rfl
        next =>
          congr 2
          · congr 1
            simp only [Registers.cpuClock]
            rcases state.spro.load_or_store with noLoad | noStore
            · rw [noLoad, Registers.storeAccess]
              split <;> rfl
            · rw [noStore]
              split
              next store => simp [Registers.storeAccess, store] at noStore
              next => rfl
          · simp only [flushIf, State.nextSprn]
            congr 1
            · cases active : state.spro.fetch1.active <;>
                cases stalled : state.spro.isPipeStalled <;>
                simp [Registers.nextDec0, active, stalled]
            · cases active : state.spro.dec0.active <;>
                cases stalled : state.spro.isPipeStalled <;>
                simp [Registers.nextDec1, active, stalled]
            · cases active : state.spro.dec1.active <;>
                cases stalled : state.spro.isPipeStalled <;>
                simp [Registers.nextExec0, active, stalled]
            · cases leaves : state.spro.leavesExec0 <;> simp [Registers.nextExec1, leaves]
      · dsimp only
        split <;> rfl
      · rfl
      · rfl
      · rfl

theorem Registers.cpuClock_wellTimed (spro : Registers) : spro.cpuClock.WellTimed := by
  intro quiet
  simp only [cpuClock, isDmaHazard, Bool.or_eq_false_iff] at quiet
  obtain ⟨noLoad, noStore⟩ := quiet
  have silent : spro.storeAccess = none := by rw [storeAccess, if_neg (by simp [noStore])]
  have noRead : (spro.leavesExec0 && spro.exec0.opcode = .ld) = false := by
    rw [← noLoad, leavesExec0, Bool.and_comm spro.exec0.active]
  simp only [cpuClock, silent, loadAccess, noRead]
  rfl

namespace State

variable (shifts : Shifts) (state : State)

/-- The access made to the data memory in a clock, the CPU's or the engine's. -/
def dataAccess : Option Access :=
  Dma.portAccess state.spro.cpuClock.hazard state.spro.cpuClock.access state.spro.dma

/-- The state after a clock. -/
def after : State where
  spro := { state.nextSprn shifts with
    dma := nextRegs state.spro.cpuClock.hazard state.spro.dma state.sramd.dataout
      (state.spro.cpuClock.load state.spro.dma) }
  srami := state.srami.after state.spro.fetchAccess
  sramd := state.sramd.after state.dataAccess
  btb := state.spro.nextBtb state.btb
  start := state.start
  nrSimulatedInstructions :=
    if state.spro.exec1.active then state.nrSimulatedInstructions + 1#32
    else state.nrSimulatedInstructions
  stopSim := state.spro.halts || state.stopSim

@[simp] theorem after_r : (state.after shifts).spro.r =
    state.spro.nextR state.sramd.dataout := rfl

@[simp] theorem after_fetch0 : (state.after shifts).spro.fetch0 =
    state.spro.nextFetch0 state.start state.btb := rfl

@[simp] theorem after_fetch1 : (state.after shifts).spro.fetch1 =
    state.spro.nextFetch1 state.btb state.srami.dataout := rfl

@[simp] theorem after_dec0 : (state.after shifts).spro.dec0 =
    state.spro.nextDec0 state.srami.dataout := rfl

@[simp] theorem after_dec1 : (state.after shifts).spro.dec1 = state.spro.nextDec1 := rfl

@[simp] theorem after_exec0 : (state.after shifts).spro.exec0 = state.spro.nextExec0 := rfl

@[simp] theorem after_exec1 : (state.after shifts).spro.exec1 =
    state.spro.nextExec1 shifts := rfl

@[simp] theorem after_mem : (state.after shifts).spro.mem =
    state.spro.nextMem state.sramd.dataout := rfl

@[simp] theorem after_srami : (state.after shifts).srami =
    state.srami.after state.spro.fetchAccess := rfl

end State

theorem spRun_eq (shifts : Shifts) (state : State) :
    spRun shifts false { state with sprn := state.spro } =
      if state.spro.leavesBtb then .error .outOfBounds
      else .ok { state.after shifts with
        spro := { state.spro with dma := oldCopy state.spro.dma }
        srami := state.srami.announced state.spro.fetchAccess
        sramd := state.sramd.announced state.dataAccess
        sprn := (state.after shifts).spro } := by
  have turn := Dma.dmaCtl_after_cpu state.spro.cpuClock_wellTimed state.spro.dma
    (state.spro.cpuClock.load state.spro.dma) state.sramd
  simp only [spRun, Bool.false_eq_true, if_false, spCtl_eq]
  split
  next => rfl
  next =>
    simp only [Registers.cpuClock] at turn
    simp only [Checked.ok_bind, spDmaCtl, Registers.cpuClock, State.nextSprn, turn]
    rfl

theorem llsimRunClock_served (shifts : Shifts) (state : State) :
    llsimRunClock shifts false state =
      if state.spro.leavesBtb then .error .outOfBounds
      else (do
        let sramd ← (state.sramd.announced state.dataAccess).serve
        let srami ← (state.srami.announced state.spro.fetchAccess).serve
        .ok { state.after shifts with sramd, srami }) := by
  rw [llsimRunClock, spRun_eq]
  split <;> rfl

/-- A clock succeeds exactly when every array index of the clock exists. -/
theorem llsimRunClock_eq_ok {shifts : Shifts} {state state' : State} :
    llsimRunClock shifts false state = .ok state' ↔
      state.spro.leavesBtb = false ∧
      (∀ made, state.spro.cpuClock.access = some made → made.InRange) ∧
      (∀ made, state.spro.fetchAccess = some made → made.InRange) ∧
      state.after shifts = state' := by
  have inRange_iff := Dma.portAccess_inRange state.spro.dma state.spro.cpuClock_wellTimed
  rw [llsimRunClock_served]
  cases leaves : state.spro.leavesBtb with
  | true => simp
  | false =>
      simp only [Bool.false_eq_true, if_false, Checked.bind_eq_ok, Memory.serve_announced,
        State.dataAccess, inRange_iff, true_and]
      constructor
      · rintro ⟨sramd, ⟨data, rfl⟩, srami, ⟨fetch, rfl⟩, done⟩
        exact ⟨data, fetch, Except.ok.inj done⟩
      · rintro ⟨data, fetch, rfl⟩
        exact ⟨_, ⟨data, rfl⟩, _, ⟨fetch, rfl⟩, rfl⟩

theorem next_eq_some {shifts : Shifts} {state state' : State} :
    next shifts state = some state' ↔
      state.stopSim = false ∧
      state.spro.leavesBtb = false ∧
      (∀ made, state.spro.cpuClock.access = some made → made.InRange) ∧
      (∀ made, state.spro.fetchAccess = some made → made.InRange) ∧
      state.after shifts = state' := by
  cases stopped : state.stopSim with
  | true => simp [next, stopped]
  | false =>
      simp only [next, stopped, Bool.false_eq_true, if_false, Checked.toOption_eq_some,
        llsimRunClock_eq_ok, true_and]

theorem next_dma {shifts : Shifts} {state state' : State}
    (step : next shifts state = some state') :
    Dma.clock state.spro.cpuClock ⟨state.spro.dma, state.sramd⟩ =
      .ok ⟨state'.spro.dma, state'.sramd⟩ := by
  obtain ⟨-, -, inRange, -, rfl⟩ := next_eq_some.mp step
  exact (Dma.clock_eq_ok state.spro.cpuClock_wellTimed).mpr ⟨inRange, rfl⟩

/-- A load has read the memory in the clock in which it has left EXEC0; the engine waits. -/
theorem State.after_load (shifts : Shifts) (state : State)
    (active : (state.after shifts).spro.exec1.active = true)
    (load : (state.after shifts).spro.exec1.opcode = .ld) :
    (state.after shifts).sramd =
      state.sramd.after (some (.read ((state.after shifts).spro.exec1.alu1 &&& 0xffff#32))) := by
  obtain ⟨occupied, noStall, -, moved⟩ := state.spro.exec1_entered active
  rw [State.after_exec1, moved] at load ⊢
  have load : state.spro.exec0.opcode = .ld := load
  have reads : state.spro.loadAccess =
      some (.read (state.spro.exec0Alu1Final &&& 0xffff#32)) := by
    simp [Registers.loadAccess, Registers.leavesExec0, occupied, noStall, load]
  have noStore : state.spro.storeAccess = none := by
    rcases state.spro.load_or_store with silent | silent
    · rw [reads] at silent
      cases silent
    · exact silent
  have hazard : isDmaHazard state.spro = true := by
    simp [isDmaHazard, occupied, noStall, load]
  simp only [State.after, State.dataAccess, Registers.cpuClock, Dma.portAccess, hazard, noStore,
    reads, Option.isSome_none, Bool.false_eq_true, if_false, if_true]

/-- The instructions behind FETCH0 have addresses with the property. -/
structure Registers.StagePcs (property : Word → Prop) (spro : Registers) : Prop where
  fetch1 : spro.fetch1.active = true → property spro.fetch1.pc
  dec0 : spro.dec0.active = true → property spro.dec0.pc
  dec1 : spro.dec1.active = true → property spro.dec1.pc
  exec0 : spro.exec0.active = true → property spro.exec0.pc
  exec1 : spro.exec1.active = true → property spro.exec1.pc

theorem Registers.StagePcs.next {property : Word → Prop} {state : State}
    (stagePcs : state.spro.StagePcs property) (shifts : Shifts)
    (fetched : state.spro.fetches = true → property state.spro.fetch0.pc) :
    (state.after shifts).spro.StagePcs property where
  fetch1 := by
    intro active
    cases fetches : state.spro.fetches with
    | true => simpa [Registers.nextFetch1, fetches, Btb.slot] using fetched fetches
    | false =>
        simp only [State.after_fetch1, Registers.nextFetch1, fetches, Bool.false_eq_true,
          if_false, Bool.and_eq_true] at active ⊢
        exact stagePcs.fetch1 active.1.1
  dec0 := by
    intro active
    obtain ⟨fetch1, -, -, ⟨-, moved⟩ | ⟨-, dec0, kept⟩⟩ := state.spro.dec0_entered active
    · rw [State.after_dec0, moved]
      exact stagePcs.fetch1 fetch1
    · rw [State.after_dec0, kept]
      exact stagePcs.dec0 dec0
  dec1 := by
    intro active
    obtain ⟨dec0, -, ⟨-, moved⟩ | ⟨-, dec1, kept⟩⟩ := state.spro.dec1_entered active
    · rw [State.after_dec1, moved]
      exact stagePcs.dec0 dec0
    · rw [State.after_dec1, kept]
      exact stagePcs.dec1 dec1
  exec0 := by
    intro active
    obtain ⟨dec1, -, ⟨-, moved⟩ | ⟨-, exec0, kept⟩⟩ := state.spro.exec0_entered active
    · rw [State.after_exec0, moved]
      exact stagePcs.dec1 dec1
    · rw [State.after_exec0, kept]
      exact stagePcs.exec0 exec0
  exec1 := by
    intro active
    obtain ⟨exec0, -, -, moved⟩ := state.spro.exec1_entered active
    rw [State.after_exec1, moved]
    exact stagePcs.exec0 exec0

end SimpleProcessor.Pipeline
