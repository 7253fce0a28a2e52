import SimpleProcessor.Pipeline.FrontEnd
import SimpleProcessor.Isa.Semantics

/-!
# Forwarding

Forwarding compares raw register fields.  An operand that is not read, or a
destination field that is not written, takes part in the comparison like any
other, and a jump writes the link register without naming it.

`Registers.misreads` collects the clocks in which this goes wrong for the
operands of interest.  As long as no such clock occurs these operands reach
EXEC1 as the immediate or as the value of the register really read.
-/

namespace SimpleProcessor

/-- The two inputs of the arithmetic unit. -/
inductive AluPort where
  | alu0
  | alu1
  deriving DecidableEq, Repr

/-- An operand: the register that is read, or `none` for the immediate, and the
field that forwarding compares. -/
structure Source where
  read : Option RegIndex
  compared : RegIndex
  compared_of_read : ∀ index, read = some index → compared = index

/-- The value that an operand stands for. -/
def Source.value (source : Source) (immediate : Word) (regs : RegFile) : Word :=
  match source.read with
  | none => immediate
  | some index => regs index

/-- The operands of an instruction.  LHI reads its destination through the second
one, and its first one is the immediate whatever `src0` says. -/
def Fields.source (fields : Fields) : AluPort → Source
  | .alu0 =>
      { read := if fields.src0 = 1#3 ∨ fields.opcode = .lhi then none else some fields.src0
        compared := fields.src0
        compared_of_read := by
          intro index read
          split at read
          · cases read
          · exact Option.some.inj read }
  | .alu1 =>
      { read :=
          if fields.opcode = .lhi then some fields.dst
          else if fields.src1 = 1#3 then none else some fields.src1
        compared := if fields.opcode = .lhi then fields.dst else fields.src1
        compared_of_read := by
          intro index read
          split at read
          next lhi =>
            rw [if_pos lhi]
            exact Option.some.inj read
          next notLhi =>
            rw [if_neg notLhi]
            split at read
            · cases read
            · exact Option.some.inj read }

namespace Opcode

/-- The opcodes that write the register `dst`. -/
def writesDst (opcode : Opcode) : Bool :=
  opcode.isCompute || opcode = .lhi || opcode = .ld

theorem not_jump_of_writesDst {opcode : Opcode} (writes : opcode.writesDst = true) :
    Pipeline.isJumpOpcode opcode = false := by
  cases opcode <;> simp [writesDst, isCompute] at writes <;> rfl

end Opcode

theorem Fields.writesDst_of_named {fields : Fields} (basic : fields.opcode.isBasic = true)
    (dst : fields.opcode = .st ∨ fields.opcode.isBranch = true ∨ fields.opcode = .hlt →
      fields.dst = 0#3)
    (named : 1#3 < fields.dst) : fields.opcode.writesDst = true := by
  cases opcode : fields.opcode with
  | add | sub | lsf | rsf | and | or | xor | ld => rfl
  | st | hlt =>
      rw [dst (by simp [opcode])] at named
      exact absurd named (by decide)
  | jlt | jle | jeq | jne =>
      rw [dst (by simp [opcode, Opcode.isBranch])] at named
      exact absurd named (by decide)
  | lhi | dma | dmp | jin | u code => simp [opcode, Opcode.isBasic] at basic

namespace Pipeline

open Transition

theorem Registers.exec0Aluout_eq (shifts : Shifts) {spro : Registers}
    (computes : spro.exec0.opcode.isCompute = true ∨ spro.exec0.opcode.isBranch = true) :
    spro.exec0Aluout shifts =
      aluResult shifts spro.exec0.opcode spro.exec0Alu0Final spro.exec0Alu1Final := by
  simp only [exec0Aluout]
  revert computes
  cases spro.exec0.opcode <;> simp [Opcode.isCompute, Opcode.isBranch, aluResult]

/-- `exec0_alu0` and `exec0_alu1`. -/
def Exec0.alu (exec0 : Exec0) : AluPort → Word
  | .alu0 => exec0.alu0
  | .alu1 => exec0.alu1

namespace Registers

variable (spro : Registers)

/-- The instruction in EXEC0 writes a register through its field `dst`. -/
def exec0Writes (index : RegIndex) : Bool :=
  spro.exec0.active && spro.exec0.opcode.writesDst && 1#3 < index && index = spro.exec0.dst

/-- The instruction in EXEC1 writes a register through its field `dst`. -/
def exec1Writes (index : RegIndex) : Bool :=
  spro.exec1.active && spro.exec1.opcode.writesDst && 1#3 < index && index = spro.exec1.dst

/-- A taken jump in EXEC1 writes the link register. -/
def links : Bool := spro.exec1Jumps && spro.exec1.aluout ≠ 0#32

/-- What a register holds after the instruction in EXEC1, which is not a load. -/
def written (index : RegIndex) : Word :=
  if spro.exec1Writes index then spro.exec1.aluout
  else if spro.links && index = 7#3 then spro.exec1.pc
  else spro.r index

/-- `dec1_r0_bypass_en` and `dec1_r1_bypass_en`, for the register that each of them
compares. -/
def exec1ToDec1Bypass (index : RegIndex) : Bool :=
  1#3 < index && index = spro.exec1.dst && spro.exec1.active

/-- `dec1_r0_final` and `dec1_r1_final`. -/
def dec1Final (index : RegIndex) : Word :=
  if spro.exec1ToDec1Bypass index then spro.exec1.aluout else spro.r index

/-- The operands that DEC1 hands to EXEC0. -/
def dec1Alu : AluPort → Word
  | .alu0 => spro.dec1Alu0
  | .alu1 => spro.dec1Alu1

/-- The load latch repeats the register it has loaded. -/
def Latched : Prop := spro.mem.stall = true → spro.mem.sramDo = spro.r spro.mem.dst

/-- EXEC1 forwards a result that is not what it writes, or the link register is
written and not forwarded. -/
def forwardsWrongly (forwarded : Bool) (index : RegIndex) : Bool :=
  if forwarded then !spro.exec1Writes index && spro.exec1.aluout ≠ spro.written index
  else spro.links && index = 7#3 && spro.r 7#3 ≠ spro.exec1.pc

/-- The instruction that leaves DEC1 takes a wrong value along, and the one in EXEC0
will not correct it. -/
def dec1Misreads (source : Source) : Bool :=
  spro.dec1.active && !spro.isPipeStalled && !spro.exec1Flush &&
    source.read.any fun index =>
      !spro.exec0Writes index && spro.forwardsWrongly (spro.exec1ToDec1Bypass index) index

/-- The operand in EXEC0 that waits for the value of the load latch does not get
it: the pipe is stalled by an instruction that does not load the register again. -/
def losesOperand (src : RegIndex) (alu : Word) : Bool :=
  spro.memToAluBypass src && alu ≠ spro.mem.sramDo &&
    !(spro.exec1.opcode = .ld && spro.exec1.dst = src)

/-- The immediate in EXEC0 is replaced because a field that is not read matches. -/
def immediateReplaced (compared : RegIndex) (immediate : Word) : Bool :=
  if spro.exec1ToAluBypass compared then spro.exec1.aluout ≠ immediate
  else spro.memToAluBypass compared && spro.mem.sramDo ≠ immediate

/-- The instruction that leaves EXEC0 takes a wrong value along, or the one that waits
there loses a loaded value. -/
def exec0Misreads (source : Source) (immediate alu : Word) : Bool :=
  (spro.leavesExec0 && !spro.exec1Flush &&
    match source.read with
    | none => spro.immediateReplaced source.compared immediate
    | some index => spro.forwardsWrongly (spro.exec1ToAluBypass index) index) ||
  (spro.isPipeStalled && spro.exec0.active && spro.dec1.active &&
    source.read.any (spro.losesOperand · alu))

/-- In this clock an operand of interest goes wrong in DEC1 or in EXEC0. -/
def misreads (watched : Fields → Source → Bool) : Bool :=
  [AluPort.alu0, AluPort.alu1].any fun port =>
    (watched spro.dec1.toFields (spro.dec1.source port) &&
      spro.dec1Misreads (spro.dec1.source port)) ||
    (watched spro.exec0.toFields (spro.exec0.source port) &&
      spro.exec0Misreads (spro.exec0.source port) spro.exec0.immediate (spro.exec0.alu port))

theorem misreads_eq_false {spro : Registers} {watched : Fields → Source → Bool} :
    spro.misreads watched = false ↔
      ∀ port : AluPort,
        (watched spro.dec1.toFields (spro.dec1.source port) = true →
          spro.dec1Misreads (spro.dec1.source port) = false) ∧
        (watched spro.exec0.toFields (spro.exec0.source port) = true →
          spro.exec0Misreads (spro.exec0.source port) spro.exec0.immediate
            (spro.exec0.alu port) = false) := by
  simp only [misreads, List.any_cons, List.any_nil, Bool.or_false, Bool.or_eq_false_iff,
    Bool.and_eq_false_imp]
  constructor
  · rintro ⟨zero, one⟩ port
    cases port with
    | alu0 => exact zero
    | alu1 => exact one
  · intro both
    exact ⟨both .alu0, both .alu1⟩

/-! ## Values of registers -/

variable {spro} {index : RegIndex}

/-- A loading instruction in EXEC1 that writes this register. -/
def exec1Loads (spro : Registers) (index : RegIndex) : Bool :=
  spro.exec1Writes index && spro.exec1.opcode = .ld

theorem exec1Writes_iff :
    spro.exec1Writes index = true ↔
      spro.exec1.active = true ∧ spro.exec1.opcode.writesDst = true ∧
        1#3 < index ∧ index = spro.exec1.dst := by
  simp only [exec1Writes, Bool.and_eq_true, decide_eq_true_eq, and_assoc]

theorem exec1ToDec1Bypass_of_writes (writes : spro.exec1Writes index = true) :
    spro.exec1ToDec1Bypass index = true := by
  obtain ⟨active, -, named, dst⟩ := exec1Writes_iff.mp writes
  simp [exec1ToDec1Bypass, active, ← dst, named]

theorem exec1ToAluBypass_of_writes (writes : spro.exec1Writes index = true) :
    spro.exec1ToAluBypass index = true := by
  obtain ⟨active, opcode, named, dst⟩ := exec1Writes_iff.mp writes
  have notStore : spro.exec1.opcode ≠ .st := by
    intro store
    simp [store, Opcode.writesDst, Opcode.isCompute] at opcode
  simp [exec1ToAluBypass, active, ← dst, named, notStore]

theorem nextR_apply (dataout : Word) :
    spro.nextR dataout index = if spro.exec1Loads index then dataout else spro.written index := by
  cases active : spro.exec1.active with
  | false => simp [nextR, exec1Loads, written, exec1Writes, links, exec1Jumps, active]
  | true =>
      cases opcode : spro.exec1.opcode with
      | add | sub | lsf | rsf | and | or | xor | lhi | ld =>
          by_cases same : index = spro.exec1.dst
          · by_cases named : 1#3 < spro.exec1.dst <;>
              simp [nextR, exec1Loads, written, exec1Writes, links, exec1Jumps, isJumpOpcode,
                Opcode.writesDst, Opcode.isCompute, active, opcode, same, named]
          · by_cases named : 1#3 < spro.exec1.dst <;>
              simp [nextR, exec1Loads, written, exec1Writes, links, exec1Jumps, isJumpOpcode,
                Opcode.writesDst, Opcode.isCompute, active, opcode, same, named]
      | dmp | jlt | jle | jeq | jne | jin =>
          by_cases taken : spro.exec1.aluout = 0#32
          · simp [nextR, exec1Loads, written, exec1Writes, links, exec1Jumps, isJumpOpcode,
              Opcode.writesDst, Opcode.isCompute, active, opcode, taken]
          · simp [nextR, exec1Loads, written, exec1Writes, links, exec1Jumps, isJumpOpcode,
              Opcode.writesDst, Opcode.isCompute, active, opcode, taken, Function.update_apply]
      | st | dma | hlt | u code =>
          simp [nextR, exec1Loads, written, exec1Writes, links, exec1Jumps, isJumpOpcode,
            Opcode.writesDst, Opcode.isCompute, active, opcode]

theorem nextR_link_of_links (dataout : Word) (links : spro.links = true) :
    spro.nextR dataout 7#3 = spro.exec1.pc := by
  have jump : isJumpOpcode spro.exec1.opcode = true := by
    simp only [Registers.links, exec1Jumps, Bool.and_eq_true] at links
    exact links.1.2
  have notDst : spro.exec1Writes 7#3 = false := by
    rw [← Bool.not_eq_true]
    intro writes
    obtain ⟨-, opcode, -, -⟩ := exec1Writes_iff.mp writes
    simp [Opcode.not_jump_of_writesDst opcode] at jump
  simp [nextR_apply, exec1Loads, written, notDst, links]

theorem written_of_notForwarded {forwarded : Bool}
    (offered : spro.exec1Writes index = true → forwarded = true)
    (right : spro.forwardsWrongly forwarded index = false) :
    spro.written index = if forwarded then spro.exec1.aluout else spro.r index := by
  cases forwarded with
  | true =>
      rw [if_pos rfl]
      cases writes : spro.exec1Writes index with
      | true => rw [written, if_pos writes]
      | false =>
          simp only [forwardsWrongly, if_true, writes, Bool.not_false, Bool.true_and,
            decide_eq_false_iff_not, ne_eq, not_not] at right
          exact right.symm
  | false =>
      have notWritten : spro.exec1Writes index = false := by
        rw [← Bool.not_eq_true]
        intro writes
        cases offered writes
      rw [if_neg Bool.false_ne_true, written, notWritten, if_neg Bool.false_ne_true]
      by_cases link : (spro.links && index = 7#3) = true
      · rw [if_pos link]
        simp only [forwardsWrongly, Bool.false_eq_true, if_false, link, Bool.true_and,
          decide_eq_false_iff_not, ne_eq, not_not] at right
        simp only [Bool.and_eq_true, decide_eq_true_eq] at link
        rw [link.2, right]
      · rw [if_neg link]

/-- For a register other than the link register only a false offer is wrong. -/
theorem forwardsWrongly_of_notLink {index : RegIndex} {forwarded : Bool} (notLink : index ≠ 7#3)
    (offered : forwarded = true → spro.exec1ToDec1Bypass index = true) :
    spro.forwardsWrongly forwarded index =
      (forwarded && !spro.exec1.opcode.writesDst && spro.exec1.aluout ≠ spro.r index) := by
  cases forwarded with
  | false => simp [forwardsWrongly, notLink]
  | true =>
      have bypass := offered rfl
      simp only [exec1ToDec1Bypass, Bool.and_eq_true, decide_eq_true_eq] at bypass
      obtain ⟨⟨named, dst⟩, active⟩ := bypass
      have writes : spro.exec1Writes index = spro.exec1.opcode.writesDst := by
        rw [dst] at named
        simp [exec1Writes, active, dst, named]
      cases result : spro.exec1.opcode.writesDst <;>
        simp [forwardsWrongly, written, writes, result, notLink]

theorem exec1ToDec1Bypass_of_alu {index : RegIndex}
    (offered : spro.exec1ToAluBypass index = true) : spro.exec1ToDec1Bypass index = true := by
  simp only [exec1ToAluBypass, Bool.and_eq_true, decide_eq_true_eq] at offered
  simp only [exec1ToDec1Bypass, Bool.and_eq_true, decide_eq_true_eq]
  exact ⟨offered.1.1, offered.2⟩

theorem dec1Alu_eq (port : AluPort) :
    spro.dec1Alu port =
      match (spro.dec1.source port).read with
      | none => spro.dec1.immediate
      | some index => spro.dec1Final index := by
  cases port with
  | alu0 =>
      by_cases immediate : spro.dec1.src0 = 1#3 ∨ spro.dec1.opcode = .lhi <;>
        simp [dec1Alu, dec1Alu0, Fields.source, immediate, dec1Final, dec1R0BypassEn,
          exec1ToDec1Bypass]
  | alu1 =>
      by_cases lhi : spro.dec1.opcode = .lhi
      · simp [dec1Alu, dec1Alu1, Fields.source, lhi, dec1Final, dec1R1BypassEn, dec1R1Cmp,
          exec1ToDec1Bypass]
      · by_cases immediate : spro.dec1.src1 = 1#3 <;>
          simp [dec1Alu, dec1Alu1, Fields.source, lhi, immediate, dec1Final, dec1R1BypassEn,
            dec1R1Cmp, exec1ToDec1Bypass]

/-- Where EXEC0 stands for an operand: it has the value, or the value comes from EXEC1
or from the load latch. -/
def Waiting (spro : Registers) (source : Source) (immediate alu : Word) : Prop :=
  match source.read with
  | none => alu = immediate
  | some index =>
      alu = spro.r index ∨ spro.exec1Writes index = true ∨ spro.memToAluBypass index = true

end Registers

section Register

variable {shifts : Shifts} {state : State} {index : RegIndex} {alu : Word}

theorem after_memToAluBypass_of_load (active : state.spro.exec1.active = true)
    (load : state.spro.exec1.opcode = .ld) (named : 1#3 < index)
    (dst : index = state.spro.exec1.dst) :
    (state.after shifts).spro.memToAluBypass index = true := by
  rw [dst] at named
  simp [Registers.memToAluBypass, Registers.nextMem, active, load, dst, named]

theorem latched_next (latched : state.spro.Latched) : (state.after shifts).spro.Latched := by
  intro stall
  cases active : state.spro.exec1.active with
  | false =>
      simp only [State.after_mem, Registers.nextMem, active, Bool.false_eq_true, if_false]
        at stall
      simpa [Registers.nextMem, Registers.nextR, active] using latched stall
  | true =>
      by_cases load : state.spro.exec1.opcode = .ld ∧ 1#3 < state.spro.exec1.dst
      · simp [Registers.nextMem, Registers.nextR, active, load]
      · simp [Registers.nextMem, active, load] at stall

theorem sramDo_of_memToAluBypass (latched : state.spro.Latched)
    (covered : state.spro.memToAluBypass index = true) :
    1#3 < index ∧ state.spro.mem.sramDo = state.spro.r index := by
  simp only [Registers.memToAluBypass, Bool.and_eq_true, decide_eq_true_eq] at covered
  obtain ⟨⟨named, stall⟩, dst⟩ := covered
  exact ⟨named, by rw [dst]; exact latched stall⟩

/-- What DEC1 reads is the value that the register will have, or a load will bring it. -/
theorem dec1Final_after (shifts : Shifts)
    (right : state.spro.forwardsWrongly (state.spro.exec1ToDec1Bypass index) index = false) :
    state.spro.dec1Final index = (state.after shifts).spro.r index ∨
      (state.after shifts).spro.memToAluBypass index = true := by
  have written := Registers.written_of_notForwarded Registers.exec1ToDec1Bypass_of_writes right
  rw [State.after_r, Registers.nextR_apply, written, ← Registers.dec1Final]
  cases loads : state.spro.exec1Loads index with
  | false => simp
  | true =>
      right
      simp only [Registers.exec1Loads, Bool.and_eq_true, decide_eq_true_eq] at loads
      obtain ⟨writes, load⟩ := loads
      obtain ⟨occupied, -, named, dst⟩ := Registers.exec1Writes_iff.mp writes
      exact after_memToAluBypass_of_load occupied load named dst

theorem kept_of_stall (latched : state.spro.Latched)
    (stalled : state.spro.isPipeStalled = true)
    (notLost : state.spro.losesOperand index alu = false)
    (waiting : alu = state.spro.r index ∨ state.spro.exec1Writes index = true ∨
      state.spro.memToAluBypass index = true) :
    alu = (state.after shifts).spro.r index ∨
      (state.after shifts).spro.memToAluBypass index = true := by
  have notJump := Registers.not_jump_of_stalled stalled
  cases writes : state.spro.exec1Writes index with
  | true =>
      right
      obtain ⟨active, opcode, named, dst⟩ := Registers.exec1Writes_iff.mp writes
      simp only [Registers.isPipeStalled, Bool.and_eq_true, Bool.or_eq_true,
        decide_eq_true_eq] at stalled
      rcases stalled.2 with ⟨-, store⟩ | ⟨load, -⟩
      · simp [store, Opcode.writesDst, Opcode.isCompute] at opcode
      · exact after_memToAluBypass_of_load active load named dst
  | false =>
      left
      have notLink : state.spro.links = false := by
        simp [Registers.links, Registers.exec1Jumps, notJump.2]
      have kept : state.spro.nextR state.sramd.dataout index = state.spro.r index := by
        simp [Registers.nextR_apply, Registers.exec1Loads, Registers.written, writes, notLink]
      rw [State.after_r, kept]
      rcases waiting with value | written | covered
      · exact value
      · simp [writes] at written
      · obtain ⟨named, loaded⟩ := sramDo_of_memToAluBypass latched covered
        have notLoaded : ¬ (state.spro.exec1.opcode = .ld ∧ state.spro.exec1.dst = index) := by
          rintro ⟨load, dst⟩
          rw [← dst] at named
          simp [Registers.exec1Writes, notJump.1, load, ← dst, named, Opcode.writesDst]
            at writes
        have same : alu = state.spro.mem.sramDo := by
          simpa [Registers.losesOperand, covered, notLoaded] using notLost
        rw [same, loaded]

/-- What EXEC0 hands on is the value that the register will have. -/
theorem exec0AluFinal_register (latched : state.spro.Latched) (dataout : Word)
    (noLoad : state.spro.exec1Loads index = false)
    (right : state.spro.forwardsWrongly (state.spro.exec1ToAluBypass index) index = false)
    (waiting : alu = state.spro.r index ∨ state.spro.exec1Writes index = true ∨
      state.spro.memToAluBypass index = true) :
    state.spro.exec0AluFinal index alu = state.spro.nextR dataout index := by
  have written := Registers.written_of_notForwarded Registers.exec1ToAluBypass_of_writes right
  rw [Registers.nextR_apply, noLoad, if_neg Bool.false_ne_true, written]
  cases offered : state.spro.exec1ToAluBypass index with
  | true =>
      have active : state.spro.exec1.active = true := by
        simp only [Registers.exec1ToAluBypass, Bool.and_eq_true] at offered
        exact offered.2
      simp [Registers.exec0AluFinal, offered, active]
  | false =>
      cases covered : state.spro.memToAluBypass index with
      | true =>
          obtain ⟨-, loaded⟩ := sramDo_of_memToAluBypass latched covered
          simp [Registers.exec0AluFinal, offered, covered, loaded]
      | false =>
          have value : alu = state.spro.r index := by
            rcases waiting with value | writes | latch
            · exact value
            · simp [Registers.exec1ToAluBypass_of_writes writes] at offered
            · simp [covered] at latch
          simp [Registers.exec0AluFinal, offered, covered, value]

end Register

/-! ## One operand in one clock -/

section Operand

variable {shifts : Shifts} {state : State} {source : Source} {immediate alu : Word}

theorem waiting_of_dec1 (shifts : Shifts) (immediate : Word)
    (active : state.spro.dec1.active = true)
    (noStall : state.spro.isPipeStalled = false) (noFlush : state.spro.exec1Flush = false)
    (right : state.spro.dec1Misreads source = false) :
    (state.after shifts).spro.Waiting source immediate
      (match source.read with
        | none => immediate
        | some index => state.spro.dec1Final index) := by
  cases read : source.read with
  | none => simp [Registers.Waiting, read]
  | some index =>
      simp only [Registers.Waiting, read]
      simp only [Registers.dec1Misreads, active, noStall, noFlush, read, Option.any_some,
        Bool.not_false, Bool.and_self, Bool.true_and, Bool.and_eq_false_imp,
        Bool.not_eq_eq_eq_not, Bool.not_true] at right
      cases overwritten : state.spro.exec0Writes index with
      | true =>
          right; left
          simp only [Registers.exec0Writes, Bool.and_eq_true, decide_eq_true_eq] at overwritten
          obtain ⟨⟨⟨occupied, opcode⟩, named⟩, dst⟩ := overwritten
          rw [dst] at named
          simp [Registers.exec1Writes, Registers.nextExec1, Registers.leavesExec0, occupied,
            noStall, noFlush, opcode, dst, named]
      | false => exact (dec1Final_after shifts (right overwritten)).imp_right Or.inr

theorem waiting_of_stall (latched : state.spro.Latched)
    (stalled : state.spro.isPipeStalled = true) (occupied : state.spro.exec0.active = true)
    (behind : state.spro.dec1.active = true)
    (right : state.spro.exec0Misreads source immediate alu = false)
    (waiting : state.spro.Waiting source immediate alu) :
    (state.after shifts).spro.Waiting source immediate alu := by
  cases read : source.read with
  | none => simpa [Registers.Waiting, read] using waiting
  | some index =>
      simp only [Registers.Waiting, read] at waiting ⊢
      simp only [Registers.exec0Misreads, read, Option.any_some, stalled, occupied, behind,
        Bool.and_self, Bool.true_and, Bool.or_eq_false_iff] at right
      exact (kept_of_stall latched stalled right.2 waiting).imp_right Or.inr

theorem exec0AluFinal_of_waiting (latched : state.spro.Latched) (dataout : Word)
    (leaves : state.spro.leavesExec0 = true) (noFlush : state.spro.exec1Flush = false)
    (noLoad : ∀ index, source.read = some index → state.spro.exec1Loads index = false)
    (right : state.spro.exec0Misreads source immediate alu = false)
    (waiting : state.spro.Waiting source immediate alu) :
    state.spro.exec0AluFinal source.compared alu =
      source.value immediate (state.spro.nextR dataout) := by
  simp only [Registers.exec0Misreads, leaves, noFlush, Bool.not_false, Bool.and_self,
    Bool.true_and, Bool.or_eq_false_iff] at right
  cases read : source.read with
  | none =>
      simp only [Registers.Waiting, read] at waiting
      simp only [Source.value, read, waiting]
      have kept : state.spro.immediateReplaced source.compared immediate = false := by
        simpa [read] using right.1
      cases offered : state.spro.exec1ToAluBypass source.compared with
      | true =>
          have active : state.spro.exec1.active = true := by
            simp only [Registers.exec1ToAluBypass, Bool.and_eq_true] at offered
            exact offered.2
          simpa [Registers.exec0AluFinal, Registers.immediateReplaced, offered, active] using kept
      | false =>
          cases covered : state.spro.memToAluBypass source.compared with
          | true =>
              simpa [Registers.exec0AluFinal, Registers.immediateReplaced, offered, covered]
                using kept
          | false => simp [Registers.exec0AluFinal, offered, covered]
  | some index =>
      simp only [Registers.Waiting, read] at waiting
      have forwarded : state.spro.forwardsWrongly (state.spro.exec1ToAluBypass index) index =
          false := by
        simpa [read] using right.1
      rw [source.compared_of_read index read, exec0AluFinal_register latched dataout
        (noLoad index read) forwarded waiting]
      simp only [Source.value, read]

end Operand

/-- The operands of interest in EXEC0 and EXEC1. -/
structure Forwarded (watched : Fields → Source → Bool) (spro : Registers) : Prop where
  latched : spro.Latched
  exec0 : spro.exec0.active = true → ∀ port : AluPort,
    watched spro.exec0.toFields (spro.exec0.source port) = true →
      spro.Waiting (spro.exec0.source port) spro.exec0.immediate (spro.exec0.alu port)
  exec1 : spro.exec1.active = true → ∀ port : AluPort,
    watched spro.exec1.toFields (spro.exec1.source port) = true →
      spro.exec1.alu port = (spro.exec1.source port).value spro.exec1.immediate spro.r

namespace Forwarded

variable {watched : Fields → Source → Bool} {shifts : Shifts} {state : State}

theorem afterReset (image : Image) (btb : Btb) :
    Forwarded watched (afterReset image btb).spro where
  latched := by intro stall; cases stall
  exec0 := by intro active; cases active
  exec1 := by intro active; cases active

theorem next_exec0 (forwarded : Forwarded watched state.spro)
    (right : state.spro.misreads watched = false)
    (active : (state.after shifts).spro.exec0.active = true) (port : AluPort)
    (interest : watched (state.after shifts).spro.exec0.toFields
      ((state.after shifts).spro.exec0.source port) = true) :
    (state.after shifts).spro.Waiting ((state.after shifts).spro.exec0.source port)
      (state.after shifts).spro.exec0.immediate ((state.after shifts).spro.exec0.alu port) := by
  obtain ⟨rightDec1, rightExec0⟩ := Registers.misreads_eq_false.mp right port
  obtain ⟨entered, noFlush, ⟨noStall, moved⟩ | ⟨stalled, waited, kept⟩⟩ :=
    state.spro.exec0_entered active
  · rw [State.after_exec0, moved] at interest ⊢
    have read := waiting_of_dec1 shifts state.spro.dec1.immediate entered noStall noFlush
      (rightDec1 interest)
    rw [← Registers.dec1Alu_eq] at read
    cases port with
    | alu0 => exact read
    | alu1 => exact read
  · rw [State.after_exec0, kept] at interest ⊢
    exact waiting_of_stall forwarded.latched stalled waited entered (rightExec0 interest)
      (forwarded.exec0 waited port interest)

theorem next_exec1 (forwarded : Forwarded watched state.spro)
    (right : state.spro.misreads watched = false)
    (active : (state.after shifts).spro.exec1.active = true) (port : AluPort)
    (interest : watched (state.after shifts).spro.exec1.toFields
      ((state.after shifts).spro.exec1.source port) = true) :
    (state.after shifts).spro.exec1.alu port =
      ((state.after shifts).spro.exec1.source port).value
        (state.after shifts).spro.exec1.immediate (state.after shifts).spro.r := by
  obtain ⟨-, rightExec0⟩ := Registers.misreads_eq_false.mp right port
  obtain ⟨occupied, noStall, noFlush, moved⟩ := state.spro.exec1_entered active
  rw [State.after_exec1, moved] at interest ⊢
  have leaves : state.spro.leavesExec0 = true := by
    simp [Registers.leavesExec0, occupied, noStall]
  have noLoad : ∀ index, (state.spro.exec0.source port).read = some index →
      state.spro.exec1Loads index = false := by
    intro index read
    rw [← Bool.not_eq_true]
    intro loads
    simp only [Registers.exec1Loads, Bool.and_eq_true, decide_eq_true_eq] at loads
    obtain ⟨writes, load⟩ := loads
    obtain ⟨executed, -, -, dst⟩ := Registers.exec1Writes_iff.mp writes
    have compared := (state.spro.exec0.source port).compared_of_read index read
    cases port with
    | alu0 =>
        have same : state.spro.exec1.dst = state.spro.exec0.src0 := (compared.trans dst).symm
        simp [Registers.isPipeStalled, executed, load, same] at noStall
    | alu1 =>
        have same : state.spro.exec1.dst = state.spro.exec0Alu1Cmp := (compared.trans dst).symm
        simp [Registers.isPipeStalled, executed, load, same] at noStall
  have final := exec0AluFinal_of_waiting forwarded.latched state.sramd.dataout leaves noFlush
    noLoad (rightExec0 interest) (forwarded.exec0 occupied port interest)
  cases port with
  | alu0 => exact final
  | alu1 => exact final

theorem next (forwarded : Forwarded watched state.spro)
    (right : state.spro.misreads watched = false) :
    Forwarded watched (state.after shifts).spro where
  latched := latched_next forwarded.latched
  exec0 := forwarded.next_exec0 right
  exec1 := forwarded.next_exec1 right

end Forwarded

section Run

variable {watched : Fields → Source → Bool} {shifts : Shifts} {image : Image} {btb : Btb}
  {clocks : Nat} {state : State}

theorem forwarded_of_run
    (run : runFor (next shifts) clocks (afterReset image btb) = some state)
    (right : ∀ visited ∈ past (next shifts) clocks (afterReset image btb),
      visited.spro.misreads watched = false) :
    Forwarded watched state.spro := by
  refine runFor_induction_of (motive := fun _ state => Forwarded watched state.spro)
    (.afterReset image btb) ?_ run right
  intro _ state state' forwarded right step
  obtain ⟨-, -, -, -, rfl⟩ := next_eq_some.mp step
  exact forwarded.next right

end Run

end Pipeline

end SimpleProcessor
