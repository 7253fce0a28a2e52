import SimpleProcessor.Pipeline.Forwarding

/-!
# Operands of programs without loads

Without loads the pipe never waits for an operand and the load latch stays
empty.  What remains of the ways to misread an operand are the two that have
nothing to do with memory: a field matches that is not read or not written, and
a taken jump writes the link register behind a reader's back.
-/

namespace SimpleProcessor

/-- The instructions without loads and without LHI, DMA and indirect jumps; where there is no
destination the field is 0. -/
structure Fields.Assembled (fields : Fields) : Prop where
  basic : fields.opcode.isBasic = true
  notLoad : fields.opcode ≠ .ld
  dst : fields.opcode = .st ∨ fields.opcode.isBranch = true ∨ fields.opcode = .hlt →
    fields.dst = 0#3

instance (fields : Fields) : Decidable fields.Assembled :=
  decidable_of_iff
    (fields.opcode.isBasic = true ∧ fields.opcode ≠ .ld ∧
      (fields.opcode = .st ∨ fields.opcode.isBranch = true ∨ fields.opcode = .hlt →
        fields.dst = 0#3))
    ⟨fun ⟨basic, notLoad, dst⟩ => ⟨basic, notLoad, dst⟩,
      fun ⟨basic, notLoad, dst⟩ => ⟨basic, notLoad, dst⟩⟩

namespace Pipeline

open Transition

/-- The operands that do not come from the link register. -/
def notLinkSource (_ : Fields) (source : Source) : Bool := source.read ≠ some 7#3

/-- The operands that come from the link register. -/
def linkSource (_ : Fields) (source : Source) : Bool := source.read = some 7#3

namespace Registers

variable (spro : Registers)

/-- EXEC1 offers a result for a register that it does not write, or EXEC0 replaces an
immediate because the field beside it matches. -/
def matchesUnused : Bool :=
  [AluPort.alu0, AluPort.alu1].any fun port =>
    (spro.dec1.active && !spro.isPipeStalled && !spro.exec1Flush &&
      (spro.dec1.source port).read.any fun index =>
        index ≠ 7#3 && !spro.exec0Writes index && spro.exec1ToDec1Bypass index &&
          !spro.exec1.opcode.writesDst && spro.exec1.aluout ≠ spro.r index) ||
    (spro.leavesExec0 && !spro.exec1Flush &&
      match (spro.exec0.source port).read with
      | none =>
          spro.exec1ToAluBypass (spro.exec0.source port).compared &&
            spro.exec1.aluout ≠ spro.exec0.immediate
      | some index =>
          index ≠ 7#3 && spro.exec1ToAluBypass index && !spro.exec1.opcode.writesDst &&
            spro.exec1.aluout ≠ spro.r index)

/-- A taken jump in EXEC1 changes the link register behind an instruction that has read
it, and the pipeline is not flushed. -/
def missesLink : Bool :=
  spro.links && !spro.exec1Flush && spro.r 7#3 ≠ spro.exec1.pc &&
    [AluPort.alu0, AluPort.alu1].any fun port =>
      (spro.dec1.active && (spro.dec1.source port).read = some 7#3 && !spro.exec0Writes 7#3) ||
      (spro.exec0.active && (spro.exec0.source port).read = some 7#3)

variable {spro}

theorem memToAluBypass_of_empty (empty : spro.mem.stall = false) (index : RegIndex) :
    spro.memToAluBypass index = false := by
  simp [memToAluBypass, empty]

theorem losesOperand_of_empty (empty : spro.mem.stall = false) (index : RegIndex) (alu : Word) :
    spro.losesOperand index alu = false := by
  simp [losesOperand, memToAluBypass_of_empty empty]

/-- Without a loaded value, a clock without a false match misreads no register but the
link register. -/
theorem misreads_of_matchesUnused (empty : spro.mem.stall = false)
    (noMatch : spro.matchesUnused = false) : spro.misreads notLinkSource = false := by
  rw [misreads_eq_false]
  intro port
  have perPort := List.any_eq_false.mp noMatch port (by cases port <;> simp)
  simp only [Bool.not_eq_true, Bool.or_eq_false_iff] at perPort
  obtain ⟨dec1, exec0⟩ := perPort
  constructor
  · intro interest
    cases read : (spro.dec1.source port).read with
    | none => simp [dec1Misreads, read]
    | some index =>
        have notLink : index ≠ 7#3 := by simpa [notLinkSource, read] using interest
        simp only [read, Option.any_some] at dec1
        simp only [dec1Misreads, read, Option.any_some,
          forwardsWrongly_of_notLink notLink id]
        simpa [notLink, Bool.and_assoc] using dec1
  · intro interest
    cases read : (spro.exec0.source port).read with
    | none =>
        simp only [read] at exec0
        cases offered : spro.exec1ToAluBypass (spro.exec0.source port).compared with
        | false =>
            simp [exec0Misreads, read, immediateReplaced, offered, memToAluBypass_of_empty empty]
        | true => simpa [exec0Misreads, read, immediateReplaced, offered] using exec0
    | some index =>
        have notLink : index ≠ 7#3 := by simpa [notLinkSource, read] using interest
        simp only [read] at exec0
        simp only [exec0Misreads, read, Option.any_some, losesOperand_of_empty empty,
          Bool.and_false, Bool.or_false,
          forwardsWrongly_of_notLink notLink exec1ToDec1Bypass_of_alu]
        simpa [notLink, Bool.and_assoc] using exec0

end Registers

section Run

variable {shifts : Shifts} {image : Image} {btb : Btb} {clocks : Nat} {state : State}

theorem empty_next (empty : state.spro.mem.stall = false)
    (notLoad : state.spro.exec1.active = true → state.spro.exec1.opcode ≠ .ld) :
    (state.after shifts).spro.mem.stall = false := by
  cases active : state.spro.exec1.active with
  | false => simpa [Registers.nextMem, active] using empty
  | true => simp [Registers.nextMem, active, notLoad active]

theorem forwarded_of_loadFree {watched : Fields → Source → Bool} {good : State → Prop}
    (right : ∀ state : State, FrontEnd image state → state.spro.mem.stall = false →
      (state.spro.exec1.active = true → (Fields.ofWord state.spro.exec1.inst).opcode ≠ .ld) →
      good state → state.spro.misreads watched = false)
    (run : runFor (next shifts) clocks (afterReset image btb) = some state)
    (loadFree : ∀ visited ∈ past (next shifts) clocks (afterReset image btb),
      visited.spro.exec1.active = true → (Fields.ofWord visited.spro.exec1.inst).opcode ≠ .ld)
    (conditions : ∀ visited ∈ past (next shifts) clocks (afterReset image btb), good visited) :
    Forwarded watched state.spro := by
  have all : FrontEnd image state ∧ state.spro.mem.stall = false ∧
      Forwarded watched state.spro := by
    refine runFor_induction_of
      (motive := fun _ state => FrontEnd image state ∧ state.spro.mem.stall = false ∧
        Forwarded watched state.spro)
      ⟨.afterReset image btb, rfl, .afterReset image btb⟩ ?_ run
      fun visited member => And.intro (loadFree visited member) (conditions visited member)
    intro _ state state' ⟨frontEnd, empty, forwarded⟩ ⟨notLoad, met⟩ step
    obtain ⟨-, -, -, -, rfl⟩ := next_eq_some.mp step
    refine ⟨frontEnd.next, empty_next empty ?_, forwarded.next ?_⟩
    · intro active
      rw [(frontEnd.exec1 active).fields]
      exact notLoad active
    · exact right state frontEnd empty notLoad met
  exact all.2.2

end Run

/-- As long as no unused field matches, every operand but the link register reaches EXEC1 as
the immediate or as the value of the register really read. -/
theorem used_fields_decide (shifts : Shifts) (image : Image) (btb : Btb) (clocks : Nat)
    (state : State)
    (run : runFor (next shifts) clocks (afterReset image btb) = some state)
    (loadFree : ∀ visited ∈ past (next shifts) clocks (afterReset image btb),
      visited.spro.exec1.active = true → (Fields.ofWord visited.spro.exec1.inst).opcode ≠ .ld)
    (noMatch : ∀ visited ∈ past (next shifts) clocks (afterReset image btb),
      visited.spro.matchesUnused = false)
    (active : state.spro.exec1.active = true) (port : AluPort)
    (notLink : (state.spro.exec1.source port).read ≠ some 7#3) :
    state.spro.exec1.alu port =
      (state.spro.exec1.source port).value state.spro.exec1.immediate state.spro.r := by
  have right (state : State) (_ : FrontEnd image state) (empty : state.spro.mem.stall = false)
      (_ : state.spro.exec1.active = true →
        (Fields.ofWord state.spro.exec1.inst).opcode ≠ .ld)
      (noMatch : state.spro.matchesUnused = false) :
      state.spro.misreads notLinkSource = false :=
    Registers.misreads_of_matchesUnused empty noMatch
  apply (forwarded_of_loadFree right run loadFree noMatch).exec1 active port
  simpa [notLinkSource] using notLink

/-- 0: ADD r4, r0, 5; 1: ST r0, [100] with 2 in its field dst; 3: ADD r3, r2, r2. -/
def unusedDstImage : Image := fun addr =>
  if addr = 0#16 then 0x01010005#32
  else if addr = 1#16 then 0x12810064#32
  else if addr = 3#16 then 0x00d20000#32
  else 0#32

/-- The store reaches EXEC1 before the addition that its field would match. -/
theorem used_fields_decide_store :
    ∃ state, runFor (next Shifts.x86) 7 (afterReset unusedDstImage .zero) = some state ∧
      state.spro.exec1.pc = 1#32 ∧
      state.spro.exec1.alu .alu1 =
        (state.spro.exec1.source .alu1).value state.spro.exec1.immediate state.spro.r := by
  have reached : (runFor (next Shifts.x86) 7 (afterReset unusedDstImage .zero)).map
      (fun state => (state.spro.exec1.active, state.spro.exec1.pc,
        decide ((state.spro.exec1.source .alu1).read ≠ some 7#3))) =
      some (true, 1#32, true) := by
    decide +kernel
  obtain ⟨state, run, here⟩ := Option.map_eq_some_iff.mp reached
  simp only [Prod.mk.injEq] at here
  obtain ⟨active, pc, notLink⟩ := here
  refine ⟨state, run, pc, ?_⟩
  exact used_fields_decide Shifts.x86 unusedDstImage .zero 7 state run (by decide +kernel)
    (by decide +kernel) active .alu1 (of_decide_eq_true notLink)

/-- The addition at address 3 gets the old result instead of register 2. -/
theorem unused_dst_matches :
    ∃ state, runFor (next Shifts.x86) 9 (afterReset unusedDstImage .zero) = some state ∧
      (∀ visited ∈ past (next Shifts.x86) 9 (afterReset unusedDstImage .zero),
        visited.spro.exec1.active = true →
          (Fields.ofWord visited.spro.exec1.inst).opcode ≠ .ld) ∧
      state.spro.exec1.active = true ∧
      (state.spro.exec1.source .alu0).read ≠ some 7#3 ∧
      state.spro.exec1.alu .alu0 ≠
        (state.spro.exec1.source .alu0).value state.spro.exec1.immediate state.spro.r := by
  have reached : (runFor (next Shifts.x86) 9 (afterReset unusedDstImage .zero)).map
      (fun state => (state.spro.exec1.active, (state.spro.exec1.source .alu0).read,
        state.spro.exec1.alu .alu0, state.spro.r 2#3)) = some (true, some 2#3, 5#32, 0#32) := by
    decide +kernel
  obtain ⟨state, run, here⟩ := Option.map_eq_some_iff.mp reached
  simp only [Prod.mk.injEq] at here
  obtain ⟨active, read, alu0, register⟩ := here
  refine ⟨state, run, by decide +kernel, active, ?_, ?_⟩
  · rw [read]
    decide
  · rw [alu0, Source.value, read]
    simp only [register]
    decide

namespace Registers

variable {spro : Registers}

/-- The instruction in EXEC1 writes the link register, as a destination or as a link. -/
def writesLink (spro : Registers) : Bool := spro.exec1Writes 7#3 || spro.links

theorem nextR_link_of_quiet (dataout : Word) (quiet : spro.writesLink = false) :
    spro.nextR dataout 7#3 = spro.r 7#3 := by
  simp only [writesLink, Bool.or_eq_false_iff] at quiet
  simp [nextR_apply, exec1Loads, written, quiet]

/-- Where every named destination is written, the link register is only forwarded wrongly
behind a taken jump. -/
theorem forwardsWrongly_link {forwarded : Bool}
    (assembled : spro.exec1.active = true → spro.exec1.toFields.Assembled)
    (offered : forwarded = true → spro.exec1ToDec1Bypass 7#3 = true)
    (wrong : spro.forwardsWrongly forwarded 7#3 = true) :
    spro.links = true ∧ spro.r 7#3 ≠ spro.exec1.pc := by
  cases forwarded with
  | false =>
      simpa [forwardsWrongly] using wrong
  | true =>
      have bypass := offered rfl
      simp only [exec1ToDec1Bypass, Bool.and_eq_true, decide_eq_true_eq] at bypass
      obtain ⟨⟨named, dst⟩, active⟩ := bypass
      have opcode : spro.exec1.opcode.writesDst = true :=
        Fields.writesDst_of_named (assembled active).basic (assembled active).dst (dst ▸ named)
      have writes : spro.exec1Writes 7#3 = true :=
        exec1Writes_iff.mpr ⟨active, opcode, named, dst⟩
      simp [forwardsWrongly, writes] at wrong

theorem misreads_of_missesLink (empty : spro.mem.stall = false)
    (assembled : spro.exec1.active = true → spro.exec1.toFields.Assembled)
    (seen : spro.missesLink = false) : spro.misreads linkSource = false := by
  rw [misreads_eq_false]
  intro port
  have member : port ∈ [AluPort.alu0, AluPort.alu1] := by cases port <;> simp
  constructor
  · intro interest
    have read : (spro.dec1.source port).read = some 7#3 := of_decide_eq_true interest
    rw [← Bool.not_eq_true]
    intro misread
    simp only [dec1Misreads, read, Option.any_some, Bool.and_eq_true, Bool.not_eq_true']
      at misread
    obtain ⟨⟨⟨active, -⟩, noFlush⟩, notOverwritten, wrong⟩ := misread
    obtain ⟨links, stale⟩ := forwardsWrongly_link assembled id wrong
    have missed : spro.missesLink = true := by
      simp only [missesLink, links, noFlush, stale, Bool.not_false, Bool.and_self, ne_eq,
        not_false_eq_true, decide_true, Bool.true_and, List.any_eq_true]
      exact ⟨port, member, by simp [active, read, notOverwritten]⟩
    simp [seen] at missed
  · intro interest
    have read : (spro.exec0.source port).read = some 7#3 := of_decide_eq_true interest
    rw [← Bool.not_eq_true]
    intro misread
    simp only [exec0Misreads, read, Option.any_some, losesOperand_of_empty empty, leavesExec0,
      Bool.and_false, Bool.or_false, Bool.and_eq_true, Bool.not_eq_true'] at misread
    obtain ⟨⟨⟨active, -⟩, noFlush⟩, wrong⟩ := misread
    obtain ⟨links, stale⟩ := forwardsWrongly_link assembled exec1ToDec1Bypass_of_alu wrong
    have missed : spro.missesLink = true := by
      simp only [missesLink, links, noFlush, stale, Bool.not_false, Bool.and_self, ne_eq,
        not_false_eq_true, decide_true, Bool.true_and, List.any_eq_true]
      exact ⟨port, member, by simp [active, read]⟩
    simp [seen] at missed

end Registers

/-- Between a taken jump and the next writer the link register holds the jump's address. -/
theorem link_kept {shifts : Shifts} {later : Nat} {jump state : State}
    (links : jump.spro.links = true)
    (onward : runFor (next shifts) (later + 1) jump = some state)
    (quiet : ∀ visited ∈ (past (next shifts) (later + 1) jump).tail,
      visited.spro.writesLink = false) :
    state.spro.r 7#3 = jump.spro.exec1.pc := by
  obtain ⟨after, step, rest⟩ := Option.bind_eq_some_iff.mp onward
  rw [past_succ_of_step later step, List.tail_cons] at quiet
  obtain ⟨-, -, -, -, rfl⟩ := next_eq_some.mp step
  refine runFor_induction_of
    (motive := fun _ state => state.spro.r 7#3 = jump.spro.exec1.pc)
    (Registers.nextR_link_of_links jump.sramd.dataout links) ?_ rest quiet
  intro _ state state' kept quiet step
  obtain ⟨-, -, -, -, rfl⟩ := next_eq_some.mp step
  rw [State.after_r, Registers.nextR_link_of_quiet _ quiet]
  exact kept

/-- As long as no link is missed, the instructions behind a taken jump see its address. -/
theorem link_seen (shifts : Shifts) (image : Image) (btb : Btb) (before later : Nat)
    (jump state : State)
    (toJump : runFor (next shifts) before (afterReset image btb) = some jump)
    (onward : runFor (next shifts) (later + 1) jump = some state)
    (program : ∀ visited ∈ past (next shifts) (before + (later + 1)) (afterReset image btb),
      visited.spro.exec1.active = true → (Fields.ofWord visited.spro.exec1.inst).Assembled)
    (seen : ∀ visited ∈ past (next shifts) (before + (later + 1)) (afterReset image btb),
      visited.spro.missesLink = false)
    (links : jump.spro.links = true)
    (quiet : ∀ visited ∈ (past (next shifts) (later + 1) jump).tail,
      visited.spro.writesLink = false)
    (active : state.spro.exec1.active = true) (port : AluPort)
    (reads : (state.spro.exec1.source port).read = some 7#3) :
    state.spro.exec1.alu port = jump.spro.exec1.pc := by
  have right (state : State) (frontEnd : FrontEnd image state)
      (empty : state.spro.mem.stall = false)
      (_ : state.spro.exec1.active = true →
        (Fields.ofWord state.spro.exec1.inst).opcode ≠ .ld)
      (good : (state.spro.exec1.active = true →
          (Fields.ofWord state.spro.exec1.inst).Assembled) ∧ state.spro.missesLink = false) :
      state.spro.misreads linkSource = false := by
    apply Registers.misreads_of_missesLink empty _ good.2
    intro active
    rw [(frontEnd.exec1 active).fields]
    exact good.1 active
  have forwarded : Forwarded linkSource state.spro :=
    forwarded_of_loadFree right (runFor_trans toJump onward)
      (fun visited member active => (program visited member active).notLoad)
      (fun visited member => ⟨program visited member, seen visited member⟩)
  rw [forwarded.exec1 active port (by simp [linkSource, reads]), Source.value, reads]
  exact link_kept links onward quiet

/-- 1: JEQ r0, r0, 3; 3: ADD r2, r7, r0. -/
def linkImage : Image := fun addr =>
  if addr = 1#16 then 0x24000003#32
  else if addr = 3#16 then 0x00b80000#32
  else 0#32

/-- A jump that was not predicted: the reader is fetched after the flush. -/
theorem link_seen_flushed :
    ∃ jump state, runFor (next Shifts.x86) 7 (afterReset linkImage .zero) = some jump ∧
      runFor (next Shifts.x86) 6 jump = some state ∧ jump.spro.exec1.pc = 1#32 ∧
      state.spro.exec1.pc = 3#32 ∧ state.spro.exec1.alu .alu0 = jump.spro.exec1.pc := by
  have atJump : (runFor (next Shifts.x86) 7 (afterReset linkImage .zero)).map
      (fun jump => (jump.spro.links, jump.spro.exec1.pc,
        (past (next Shifts.x86) 6 jump).tail.all fun visited => !visited.spro.writesLink)) =
      some (true, 1#32, true) := by
    decide +kernel
  obtain ⟨jump, toJump, here⟩ := Option.map_eq_some_iff.mp atJump
  simp only [Prod.mk.injEq] at here
  obtain ⟨links, jumpPc, quiet⟩ := here
  have atReader : (runFor (next Shifts.x86) 13 (afterReset linkImage .zero)).map
      (fun state => (state.spro.exec1.active, state.spro.exec1.pc,
        (state.spro.exec1.source .alu0).read)) = some (true, 3#32, some 7#3) := by
    decide +kernel
  obtain ⟨state, run, here⟩ := Option.map_eq_some_iff.mp atReader
  simp only [Prod.mk.injEq] at here
  obtain ⟨active, pc, reads⟩ := here
  have onward : runFor (next Shifts.x86) 6 jump = some state := by
    rw [← run, show 13 = 7 + 6 from rfl, runFor_add, toJump, Option.bind_some]
  refine ⟨jump, state, toJump, onward, jumpPc, pc, ?_⟩
  refine link_seen Shifts.x86 linkImage .zero 7 5 jump state toJump onward (by decide +kernel)
    (by decide +kernel) links ?_ active .alu0 reads
  intro visited member
  simpa using List.all_eq_true.mp quiet visited member

/-- 0: JEQ r0, r0, 2; 2: ADD r2, r7, r0; 3: JEQ r0, r0, 0. -/
def linkLoopImage : Image := fun addr =>
  if addr = 0#16 then 0x24000002#32
  else if addr = 2#16 then 0x00b80000#32
  else if addr = 3#16 then 0x24000000#32
  else 0#32

/-- In the second iteration the jump at address 0 is predicted and its successor has read
the link of the jump at address 3. -/
theorem link_missed :
    ∃ jump state, runFor (next Shifts.x86) 19 (afterReset linkLoopImage .zero) = some jump ∧
      runFor (next Shifts.x86) 1 jump = some state ∧
      (∀ visited ∈ past (next Shifts.x86) 20 (afterReset linkLoopImage .zero) ++ [state],
        visited.spro.exec1.active = true →
          (Fields.ofWord visited.spro.exec1.inst).Assembled) ∧
      jump.spro.links = true ∧
      (∀ visited ∈ (past (next Shifts.x86) 1 jump).tail, visited.spro.writesLink = false) ∧
      state.spro.exec1.active = true ∧ (state.spro.exec1.source .alu0).read = some 7#3 ∧
      state.spro.exec1.alu .alu0 ≠ jump.spro.exec1.pc := by
  have atJump : (runFor (next Shifts.x86) 19 (afterReset linkLoopImage .zero)).map
      (fun jump => (jump.spro.links, jump.spro.exec1.pc)) = some (true, 0#32) := by
    decide +kernel
  obtain ⟨jump, toJump, here⟩ := Option.map_eq_some_iff.mp atJump
  obtain ⟨links, jumpPc⟩ := Prod.mk.inj here
  have atReader : (runFor (next Shifts.x86) 20 (afterReset linkLoopImage .zero)).map
      (fun state => (state.spro.exec1.active, (state.spro.exec1.source .alu0).read,
        state.spro.exec1.alu .alu0)) = some (true, some 7#3, 3#32) := by
    decide +kernel
  obtain ⟨state, run, here⟩ := Option.map_eq_some_iff.mp atReader
  simp only [Prod.mk.injEq] at here
  obtain ⟨active, reads, alu0⟩ := here
  have onward : runFor (next Shifts.x86) 1 jump = some state := by
    rw [← run, show 20 = 19 + 1 from rfl, runFor_add, toJump, Option.bind_some]
  refine ⟨jump, state, toJump, onward, ?_, links, ?_, active, reads, ?_⟩
  · rw [← past_snoc run]
    decide +kernel
  · simp [past_one]
  · rw [alu0, jumpPc]
    decide

end Pipeline

end SimpleProcessor
