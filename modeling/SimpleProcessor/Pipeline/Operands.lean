import SimpleProcessor.Pipeline.Forwarding

/-!
# Operands in the pipeline

An operand is read in DEC1, one clock before the instruction in EXEC1 writes
its result, and corrected in EXEC0.  While an instruction waits in EXEC0, each
of its operands is the value of its register or is covered by the load latch.
The latch lives for one instruction only: when a stall holds the consumer of a
load back, the instruction in EXEC1 clears the latch and the loaded value is
lost.
-/

namespace SimpleProcessor

/-- Basic instructions that name no destination where they have none, and do not
read the link register. -/
structure Fields.Plain (fields : Fields) : Prop where
  basic : fields.opcode.isBasic = true
  dst : fields.opcode = .st ∨ fields.opcode.isBranch = true ∨ fields.opcode = .hlt →
    fields.dst = 0#3
  src0 : fields.src0 ≠ 7#3
  src1 : fields.src1 ≠ 7#3

theorem Fields.Plain.notLhi {fields : Fields} (plain : fields.Plain) : fields.opcode ≠ .lhi := by
  intro lhi
  have basic := plain.basic
  simp [lhi, Opcode.isBasic] at basic

instance (fields : Fields) : Decidable fields.Plain :=
  decidable_of_iff
    (fields.opcode.isBasic = true ∧
      (fields.opcode = .st ∨ fields.opcode.isBranch = true ∨ fields.opcode = .hlt →
        fields.dst = 0#3) ∧
      fields.src0 ≠ 7#3 ∧ fields.src1 ≠ 7#3)
    ⟨fun ⟨basic, dst, src0, src1⟩ => ⟨basic, dst, src0, src1⟩,
      fun ⟨basic, dst, src0, src1⟩ => ⟨basic, dst, src0, src1⟩⟩

namespace Pipeline

open Transition

namespace Registers

variable (spro : Registers)

/-- A stall loses a loaded operand of the instruction in EXEC0. -/
def latchLost : Bool :=
  spro.isPipeStalled && spro.exec0.active && spro.dec1.active &&
    (spro.losesOperand spro.exec0.src0 spro.exec0.alu0 ||
      spro.losesOperand spro.exec0.src1 spro.exec0.alu1)

/-- The value that the second half of the pipeline has for an operand. -/
structure Holds (src : RegIndex) (immediate alu : Word) : Prop where
  immediate : src = 1#3 → alu = immediate
  register : src ≠ 1#3 → alu = spro.r src ∨ spro.memToAluBypass src = true

end Registers

section Operand

variable {shifts : Shifts} {state : State} {src : RegIndex} {immediate alu : Word}

theorem forwardsWrongly_of_plain {forwarded : Bool}
    (plain : state.spro.exec1.active = true → state.spro.exec1.toFields.Plain)
    (notLink : src ≠ 7#3)
    (offered : forwarded = true → state.spro.exec1ToDec1Bypass src = true) :
    state.spro.forwardsWrongly forwarded src = false := by
  rw [Registers.forwardsWrongly_of_notLink notLink offered]
  cases forwarded with
  | false => rfl
  | true =>
      have bypass := offered rfl
      simp only [Registers.exec1ToDec1Bypass, Bool.and_eq_true, decide_eq_true_eq] at bypass
      obtain ⟨⟨named, dst⟩, active⟩ := bypass
      have writes : state.spro.exec1.opcode.writesDst = true :=
        Fields.writesDst_of_named (plain active).basic (plain active).dst (dst ▸ named)
      simp [writes]

theorem holds_dec1 (shifts : Shifts) (immediate : Word)
    (plain : state.spro.exec1.active = true → state.spro.exec1.toFields.Plain)
    (notLink : src ≠ 7#3) :
    (state.after shifts).spro.Holds src immediate
      (if src = 1#3 then immediate else state.spro.dec1Final src) := by
  constructor
  · intro one
    rw [if_pos one]
  · intro notOne
    rw [if_neg notOne]
    exact dec1Final_after shifts (forwardsWrongly_of_plain plain notLink id)

theorem holds_stalled (latched : state.spro.Latched)
    (stalled : state.spro.isPipeStalled = true)
    (notLost : state.spro.losesOperand src alu = false)
    (holds : state.spro.Holds src immediate alu) :
    (state.after shifts).spro.Holds src immediate alu := by
  constructor
  · exact holds.immediate
  · intro notOne
    exact kept_of_stall latched stalled notLost ((holds.register notOne).imp_right Or.inr)

theorem exec0AluFinal_eq (latched : state.spro.Latched) (dataout : Word)
    (plain : state.spro.exec1.active = true → state.spro.exec1.toFields.Plain)
    (notLink : src ≠ 7#3)
    (noLoad : state.spro.exec1.active = true → state.spro.exec1.opcode = .ld →
      state.spro.exec1.dst ≠ src)
    (holds : state.spro.Holds src immediate alu) :
    state.spro.exec0AluFinal src alu =
      if src = 1#3 then immediate else state.spro.nextR dataout src := by
  by_cases one : src = 1#3
  · simp [Registers.exec0AluFinal, Registers.exec1ToAluBypass, Registers.memToAluBypass,
      holds.immediate one, one]
  · rw [if_neg one]
    apply exec0AluFinal_register latched dataout _ _ ((holds.register one).imp_right Or.inr)
    · rw [← Bool.not_eq_true]
      intro loads
      simp only [Registers.exec1Loads, Bool.and_eq_true, decide_eq_true_eq] at loads
      obtain ⟨active, -, -, dst⟩ := Registers.exec1Writes_iff.mp loads.1
      exact noLoad active loads.2 dst.symm
    · exact forwardsWrongly_of_plain plain notLink Registers.exec1ToDec1Bypass_of_alu

end Operand

/-- The operands in EXEC0 and EXEC1 of plain instructions. -/
structure OperandsHeld (spro : Registers) : Prop where
  latched : spro.Latched
  exec0 : spro.exec0.active = true → spro.exec0.toFields.Plain →
    spro.Holds spro.exec0.src0 spro.exec0.immediate spro.exec0.alu0 ∧
      spro.Holds spro.exec0.src1 spro.exec0.immediate spro.exec0.alu1
  exec1 : spro.exec1.active = true → spro.exec1.toFields.Plain →
    spro.exec1.alu0 = spro.exec1.operand0 spro.r ∧ spro.exec1.alu1 = spro.exec1.operand1 spro.r

namespace OperandsHeld

variable {shifts : Shifts} {state : State}

theorem afterReset (image : Image) (btb : Btb) : OperandsHeld (afterReset image btb).spro where
  latched := by intro stall; cases stall
  exec0 := by intro active; cases active
  exec1 := by intro active; cases active

theorem next_exec0 (held : OperandsHeld state.spro)
    (executed : state.spro.exec1.active = true → state.spro.exec1.toFields.Plain)
    (notLost : state.spro.latchLost = false)
    (active : (state.after shifts).spro.exec0.active = true)
    (plain : (state.after shifts).spro.exec0.toFields.Plain) :
    (state.after shifts).spro.Holds (state.after shifts).spro.exec0.src0
        (state.after shifts).spro.exec0.immediate (state.after shifts).spro.exec0.alu0 ∧
      (state.after shifts).spro.Holds (state.after shifts).spro.exec0.src1
        (state.after shifts).spro.exec0.immediate (state.after shifts).spro.exec0.alu1 := by
  obtain ⟨entered, -, ⟨-, moved⟩ | ⟨stalled, waited, kept⟩⟩ := state.spro.exec0_entered active
  · rw [State.after_exec0, moved] at plain ⊢
    have notLhi : state.spro.dec1.opcode ≠ .lhi := plain.notLhi
    constructor
    · have read := holds_dec1 shifts state.spro.dec1.immediate executed plain.src0
      simpa [Registers.dec1Alu0, Registers.dec1R0BypassEn, notLhi, Registers.dec1Final,
        Registers.exec1ToDec1Bypass] using read
    · have read := holds_dec1 shifts state.spro.dec1.immediate executed plain.src1
      simpa [Registers.dec1Alu1, Registers.dec1R1BypassEn, Registers.dec1R1Cmp, notLhi,
        Registers.dec1Final, Registers.exec1ToDec1Bypass] using read
  · rw [State.after_exec0, kept] at plain ⊢
    simp only [Registers.latchLost, stalled, waited, entered, Bool.and_self, Bool.true_and,
      Bool.or_eq_false_iff] at notLost
    obtain ⟨holds0, holds1⟩ := held.exec0 waited plain
    constructor
    · exact holds_stalled held.latched stalled notLost.1 holds0
    · exact holds_stalled held.latched stalled notLost.2 holds1

theorem next_exec1 (held : OperandsHeld state.spro)
    (executed : state.spro.exec1.active = true → state.spro.exec1.toFields.Plain)
    (active : (state.after shifts).spro.exec1.active = true)
    (plain : (state.after shifts).spro.exec1.toFields.Plain) :
    (state.after shifts).spro.exec1.alu0 =
        (state.after shifts).spro.exec1.operand0 (state.after shifts).spro.r ∧
      (state.after shifts).spro.exec1.alu1 =
        (state.after shifts).spro.exec1.operand1 (state.after shifts).spro.r := by
  obtain ⟨waited, noStall, -, moved⟩ := state.spro.exec1_entered active
  rw [State.after_exec1, moved] at plain ⊢
  have notLhi : state.spro.exec0.opcode ≠ .lhi := plain.notLhi
  have cmp : state.spro.exec0Alu1Cmp = state.spro.exec0.src1 := by
    rw [Registers.exec0Alu1Cmp, if_neg notLhi]
  have noLoad (occupied : state.spro.exec1.active = true)
      (load : state.spro.exec1.opcode = .ld) :
      state.spro.exec1.dst ≠ state.spro.exec0.src0 ∧
        state.spro.exec1.dst ≠ state.spro.exec0.src1 := by
    simpa [Registers.isPipeStalled, occupied, load, cmp] using noStall
  obtain ⟨holds0, holds1⟩ := held.exec0 waited plain
  constructor
  · exact exec0AluFinal_eq held.latched _ executed plain.src0
      (fun occupied load => (noLoad occupied load).1) holds0
  · rw [Registers.exec0Alu1Final, cmp]
    exact exec0AluFinal_eq held.latched _ executed plain.src1
      (fun occupied load => (noLoad occupied load).2) holds1

theorem next (held : OperandsHeld state.spro)
    (executed : state.spro.exec1.active = true → state.spro.exec1.toFields.Plain)
    (notLost : state.spro.latchLost = false) : OperandsHeld (state.after shifts).spro where
  latched := latched_next held.latched
  exec0 := held.next_exec0 executed notLost
  exec1 := held.next_exec1 executed

end OperandsHeld

section Run

variable {shifts : Shifts} {image : Image} {btb : Btb} {clocks : Nat} {state : State}

theorem operandsHeld_of_run
    (run : runFor (next shifts) clocks (afterReset image btb) = some state)
    (plain : ∀ visited ∈ past (next shifts) clocks (afterReset image btb),
      visited.spro.exec1.active = true → (Fields.ofWord visited.spro.exec1.inst).Plain)
    (notLost : ∀ visited ∈ past (next shifts) clocks (afterReset image btb),
      visited.spro.latchLost = false) :
    OperandsHeld state.spro := by
  have both : FrontEnd image state ∧ OperandsHeld state.spro := by
    refine runFor_induction_of
      (motive := fun _ state => FrontEnd image state ∧ OperandsHeld state.spro)
      ⟨.afterReset image btb, .afterReset image btb⟩ ?_ run
      fun visited member => And.intro (plain visited member) (notLost visited member)
    intro _ state state' ⟨frontEnd, held⟩ ⟨plain, notLost⟩ step
    obtain ⟨-, -, -, -, rfl⟩ := next_eq_some.mp step
    refine ⟨frontEnd.next, held.next ?_ notLost⟩
    intro active
    rw [(frontEnd.exec1 active).fields]
    exact plain active
  exact both.2

end Run

/-- As long as no stall loses a loaded operand, the plain instructions of a program
reach EXEC1 with the values of their registers. -/
theorem operands_current (shifts : Shifts) (image : Image) (btb : Btb) (clocks : Nat)
    (state : State)
    (run : runFor (next shifts) clocks (afterReset image btb) = some state)
    (plain : ∀ visited ∈ past (next shifts) clocks (afterReset image btb) ++ [state],
      visited.spro.exec1.active = true → (Fields.ofWord visited.spro.exec1.inst).Plain)
    (notLost : ∀ visited ∈ past (next shifts) clocks (afterReset image btb),
      visited.spro.latchLost = false)
    (active : state.spro.exec1.active = true) :
    state.spro.exec1.alu0 = state.spro.exec1.operand0 state.spro.r ∧
      state.spro.exec1.alu1 = state.spro.exec1.operand1 state.spro.r := by
  have held := operandsHeld_of_run run
    (fun visited member => plain visited (List.mem_append_left _ member)) notLost
  apply held.exec1 active
  rw [((frontEnd_of_run run).exec1 active).fields]
  exact plain state (List.mem_append_right _ (List.mem_singleton_self state)) active

/-- 0: LD r2, [0]; 1: ADD r3, r2, r2. -/
def loadUseImage : Image := fun addr =>
  if addr = 0#16 then 0x10810000#32
  else if addr = 1#16 then 0x00d20000#32
  else 0#32

/-- An addition right behind the load that it uses. -/
theorem operands_current_loadUse :
    ∃ state, runFor (next Shifts.x86) 8 (afterReset loadUseImage .zero) = some state ∧
      state.spro.exec1.pc = 1#32 ∧
      state.spro.exec1.alu0 = state.spro.exec1.operand0 state.spro.r ∧
      state.spro.exec1.alu1 = state.spro.exec1.operand1 state.spro.r := by
  have reached : (runFor (next Shifts.x86) 8 (afterReset loadUseImage .zero)).map
      (fun state => (state.spro.exec1.active, state.spro.exec1.pc)) = some (true, 1#32) := by
    decide +kernel
  obtain ⟨state, run, here⟩ := Option.map_eq_some_iff.mp reached
  obtain ⟨active, pc⟩ := Prod.mk.inj here
  refine ⟨state, run, pc, ?_⟩
  refine operands_current Shifts.x86 loadUseImage .zero 8 state run ?_ (by decide +kernel) active
  rw [← past_snoc run]
  decide +kernel

/-- 0: LD r2, [0]; 1: ST 0, [100]; 2: LD r3, [r2]. -/
def storeBetweenImage : Image := fun addr =>
  if addr = 0#16 then 0x10810000#32
  else if addr = 1#16 then 0x12010064#32
  else if addr = 2#16 then 0x10c20000#32
  else 0#32

/-- The store holds the second load back in EXEC0 and clears the latch it waits for. -/
theorem loaded_operand_lost :
    ∃ state, runFor (next Shifts.x86) 9 (afterReset storeBetweenImage .zero) = some state ∧
      (∀ visited ∈ past (next Shifts.x86) 9 (afterReset storeBetweenImage .zero) ++ [state],
        visited.spro.exec1.active = true → (Fields.ofWord visited.spro.exec1.inst).Plain) ∧
      state.spro.exec1.active = true ∧
      ¬ (state.spro.exec1.alu0 = state.spro.exec1.operand0 state.spro.r ∧
        state.spro.exec1.alu1 = state.spro.exec1.operand1 state.spro.r) := by
  have reached : (runFor (next Shifts.x86) 9 (afterReset storeBetweenImage .zero)).map
      (fun state => (state.spro.exec1.active, state.spro.exec1.alu1,
        state.spro.exec1.operand1 state.spro.r)) = some (true, 0#32, 0x10810000#32) := by
    decide +kernel
  obtain ⟨state, run, here⟩ := Option.map_eq_some_iff.mp reached
  simp only [Prod.mk.injEq] at here
  obtain ⟨active, alu1, operand1⟩ := here
  refine ⟨state, run, ?_, active, ?_⟩
  · rw [← past_snoc run]
    decide +kernel
  · intro current
    rw [alu1, operand1] at current
    exact absurd current.2 (by decide)

end Pipeline

end SimpleProcessor
