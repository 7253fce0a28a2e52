import SimpleProcessor.Iss.Execution
import SimpleProcessor.MultiCycle.Operands
import SimpleProcessor.Pipeline.Forwarding

/-!
# Indirect jumps

The instruction-set simulator goes to the address in the register.  Both
processors handle JIN together with the conditional jumps, in a case that goes to
the immediate and does not look at the operand.
-/

namespace SimpleProcessor

open Transition

/-- The address that an indirect jump goes to. -/
def Fields.indirectTarget (fields : Fields) (regs : RegFile) : Address :=
  (regs fields.src0).address

theorem Iss.pc_of_jin {shifts : Shifts} {state state' : Iss.State}
    (jin : state.fields.opcode = .jin) (indirect : state.fields.src0 ≠ 1#3)
    (step : Iss.next shifts state = some state') :
    state'.pc = state.fields.indirectTarget state.regs := by
  have fields : state.instruction.toFields = state.fields := Iss.fetch_toFields state.word
  have target : state.instruction.val0 = state.regs state.fields.src0 := by
    have fetched : (Iss.fetch state.word).toFields = state.fields := Iss.fetch_toFields state.word
    simp only [Iss.State.instruction, Iss.decode, fetched, jin, indirect, reduceCtorEq, or_self,
      if_false]
  rw [(Iss.executed_of_next step).1]
  simp only [Iss.execute, Iss.executeOpcode, fields, jin, Iss.jump, target, Fields.indirectTarget]

namespace MultiCycle

variable {shifts : Shifts} {image : Image} {clocks : Nat} {state state' : State}

theorem next_jin (run : runFor (next shifts) clocks (afterReset image) = some state)
    (exec1 : state.spro.ctlState = .exec1) (jin : state.spro.opcode = .jin)
    (step : next shifts state = some state') :
    state'.spro.pc = state.spro.immediate ∧ state'.spro.r 7#3 = state.spro.pc ∧
      state'.spro.ctlState = .fetch0 := by
  have latched := operandsLatched_of_run run
  have aluout : state.spro.aluout ≠ 0#32 := by
    rw [latched.jin exec1 jin]
    decide
  have notIdle : state.spro.inst ≠ HLT := by
    intro idles
    have opcode : state.spro.opcode = (Fields.ofWord state.spro.inst).opcode :=
      congrArg Fields.opcode (latched.fields (Or.inr (Or.inr exec1)))
    rw [jin, idles] at opcode
    exact absurd opcode (by decide)
  obtain ⟨-, -, rfl⟩ := next_eq_some.mp step
  simp [State.after, nextCpu, exec1, exec1Pc, exec1Regs, jin, aluout, notIdle]

theorem pc_of_firstAfter {steps : Nat} {later : State} {target : Word}
    (first : ∀ state', next shifts state = some state' →
      state'.spro.pc = target ∧ state'.spro.ctlState = .fetch0)
    (executed : FirstAfter (next shifts) (fun state => state.spro.ctlState = .exec1) steps state
      later) :
    later.spro.pc = target := by
  have fetched : later.spro.pc = target ∧ later.spro.ctlState ≠ .idle := by
    refine executed.induction
      (motive := fun state => state.spro.pc = target ∧ state.spro.ctlState ≠ .idle) ?_ ?_
      fun _ _ => trivial
    · intro state' step
      obtain ⟨pc, fetch0⟩ := first state' step
      exact ⟨pc, by simp [fetch0]⟩
    · intro state state' ⟨pc, notIdle⟩ notExec1 _ step
      obtain ⟨-, -, rfl⟩ := next_eq_some.mp step
      rw [← pc]
      cases ctlState : state.spro.ctlState with
      | idle => exact absurd ctlState notIdle
      | exec1 => exact absurd ctlState notExec1
      | fetch0 | fetch1 | dec0 | dec1 | exec0 => simp [State.after, nextCpu, ctlState]
  exact fetched.1

end MultiCycle

namespace Pipeline

variable {shifts : Shifts} {image : Image} {btb : Btb} {clocks : Nat} {state state' : State}

theorem aluout_of_jin (run : runFor (next shifts) clocks (afterReset image btb) = some state)
    (active : state.spro.exec1.active = true) (jin : state.spro.exec1.opcode = .jin) :
    state.spro.exec1.aluout = 1#32 := by
  refine exec1_of_run (fun exec1 => exec1.opcode = .jin → exec1.aluout = 1#32) ?_
    run active jin
  intro spro jin
  have opcode : spro.exec0.opcode = .jin := jin
  simp only [Registers.exec0Aluout, opcode]

theorem link_of_jin (run : runFor (next shifts) clocks (afterReset image btb) = some state)
    (active : state.spro.exec1.active = true) (jin : state.spro.exec1.opcode = .jin)
    (step : next shifts state = some state') :
    state'.spro.r 7#3 = state.spro.exec1.pc := by
  have aluout := aluout_of_jin run active jin
  obtain ⟨-, -, -, -, rfl⟩ := next_eq_some.mp step
  apply Registers.nextR_link_of_links
  simp [Registers.links, Registers.exec1Jumps, active, jin, isJumpOpcode, aluout]

theorem pc_of_firstAfter {steps : Nat} {later : State}
    (run : runFor (next shifts) clocks (afterReset image btb) = some state)
    (noDrop : ∀ visited ∈ past (next shifts) (clocks + (steps + 1)) (afterReset image btb),
      visited.spro.stallDrops = false)
    (active : state.spro.exec1.active = true)
    (executed : FirstAfter (next shifts) (fun state => state.spro.exec1.active = true) steps
      state later) :
    later.spro.exec1.pc = state.spro.exec1.successor := by
  rw [past_add run, List.forall_mem_append] at noDrop
  obtain ⟨before, onward⟩ := noDrop
  obtain ⟨expected, -, path⟩ := path_of_run run before
  have frontEnd := frontEnd_of_run run
  have reached : FrontEnd image later ∧
      Path state.spro.exec1.successor later.spro.inFlight later.spro.fetch0.pc := by
    refine executed.induction
      (motive := fun later => FrontEnd image later ∧
        Path state.spro.exec1.successor later.spro.inFlight later.spro.fetch0.pc) ?_ ?_ onward
    · intro second step
      have noDrop : state.spro.stallDrops = false := by
        apply onward
        rw [past_succ_of_step steps step]
        exact List.mem_cons_self
      obtain ⟨-, -, -, -, rfl⟩ := next_eq_some.mp step
      refine ⟨frontEnd.next, ?_⟩
      have next := inFlight_next shifts frontEnd noDrop path
      rwa [Registers.reached, if_pos active] at next
    · intro middle middle' upToHere empty noDrop step
      obtain ⟨frontEnd, path⟩ := upToHere
      obtain ⟨-, -, -, -, rfl⟩ := next_eq_some.mp step
      refine ⟨frontEnd.next, ?_⟩
      have next := inFlight_next shifts frontEnd noDrop path
      rwa [Registers.reached, if_neg empty] at next
  exact exec1_pc_of_path executed.happens reached.2

end Pipeline

/-- An indirect jump goes to the register in the instruction-set simulator, and in the
processors exactly when its immediate is the address in the register; in the pipeline this
is so as long as no stall drops an instruction.  Both processors link it. -/
theorem indirect_jumps (shifts : Shifts) (image : Image) :
    (∀ state state' : Iss.State, state.fields.opcode = .jin → state.fields.src0 ≠ 1#3 →
      Iss.next shifts state = some state' →
      state'.pc = state.fields.indirectTarget state.regs) ∧
    (∀ (clocks : Nat) (state : MultiCycle.State),
      runFor (MultiCycle.next shifts) clocks (MultiCycle.afterReset image) = some state →
      state.spro.ctlState = .exec1 → state.spro.opcode = .jin →
      (∀ (steps : Nat) (later : MultiCycle.State),
        FirstAfter (MultiCycle.next shifts) (fun state => state.spro.ctlState = .exec1) steps
          state later →
        (later.spro.pc = .ofAddress (state.spro.fields.indirectTarget state.spro.r) ↔
          state.spro.immediate =
            .ofAddress (state.spro.fields.indirectTarget state.spro.r))) ∧
      ∀ state', MultiCycle.next shifts state = some state' →
        state'.spro.r 7#3 = state.spro.pc) ∧
    (∀ (btb : Pipeline.Btb) (clocks : Nat) (state : Pipeline.State),
      runFor (Pipeline.next shifts) clocks (Pipeline.afterReset image btb) = some state →
      state.spro.exec1.active = true → state.spro.exec1.opcode = .jin →
      (∀ (steps : Nat) (later : Pipeline.State),
        (∀ visited ∈ past (Pipeline.next shifts) (clocks + (steps + 1))
            (Pipeline.afterReset image btb), visited.spro.stallDrops = false) →
        FirstAfter (Pipeline.next shifts) (fun state => state.spro.exec1.active = true) steps
          state later →
        (later.spro.exec1.pc =
            .ofAddress (state.spro.exec1.indirectTarget state.spro.r) ↔
          state.spro.exec1.immediate =
            .ofAddress (state.spro.exec1.indirectTarget state.spro.r))) ∧
      ∀ state', Pipeline.next shifts state = some state' →
        state'.spro.r 7#3 = state.spro.exec1.pc) := by
  refine ⟨?_, ?_, ?_⟩
  · intro state state' jin indirect step
    exact Iss.pc_of_jin jin indirect step
  · intro clocks state run exec1 jin
    refine ⟨fun steps later executed => ?_, fun state' step =>
      (MultiCycle.next_jin run exec1 jin step).2.1⟩
    have pc : later.spro.pc = state.spro.immediate := by
      apply MultiCycle.pc_of_firstAfter _ executed
      intro state' step
      obtain ⟨pc, -, fetch0⟩ := MultiCycle.next_jin run exec1 jin step
      exact ⟨pc, fetch0⟩
    rw [pc]
  · intro btb clocks state run active jin
    refine ⟨fun steps later noDrop executed => ?_, fun state' step =>
      Pipeline.link_of_jin run active jin step⟩
    have successor : state.spro.exec1.successor = state.spro.exec1.immediate := by
      simp [Pipeline.Exec1.successor, jin, Pipeline.isJumpOpcode,
        Pipeline.aluout_of_jin run active jin]
    rw [Pipeline.pc_of_firstAfter run noDrop active executed, successor]

/-- A JIN at address 0 through a register that is zero, with the immediate zero. -/
theorem indirect_jumps_zero :
    ∃ state later, runFor (Pipeline.next Shifts.x86) 6
        (Pipeline.afterReset (fun _ => 0x28100000#32) .zero) = some state ∧
      state.spro.exec1.opcode = .jin ∧
      FirstAfter (Pipeline.next Shifts.x86) (fun state => state.spro.exec1.active = true) 5
        state later ∧
      later.spro.exec1.pc = .ofAddress (state.spro.exec1.indirectTarget state.spro.r) := by
  have reached : (runFor (Pipeline.next Shifts.x86) 6
      (Pipeline.afterReset (fun _ => 0x28100000#32) .zero)).map
      (fun state => (decide (state.spro.exec1.active = true ∧ state.spro.exec1.opcode = .jin ∧
          state.spro.exec1.immediate =
            .ofAddress (state.spro.exec1.indirectTarget state.spro.r) ∧
          ∀ index < 5, ∀ visited ∈ runFor (Pipeline.next Shifts.x86) (index + 1) state,
            visited.spro.exec1.active ≠ true),
        (runFor (Pipeline.next Shifts.x86) 6 state).map fun later => later.spro.exec1.active)) =
      some (true, some true) := by
    decide +kernel
  obtain ⟨state, run, here⟩ := Option.map_eq_some_iff.mp reached
  obtain ⟨checked, last⟩ := Prod.mk.inj here
  obtain ⟨active, jin, same, silent⟩ := of_decide_eq_true checked
  obtain ⟨later, onward, happens⟩ := Option.map_eq_some_iff.mp last
  have executed : FirstAfter (Pipeline.next Shifts.x86)
      (fun state => state.spro.exec1.active = true) 5 state later := ⟨onward, happens, silent⟩
  refine ⟨state, later, run, jin, executed, ?_⟩
  exact (((indirect_jumps Shifts.x86 fun _ => 0x28100000#32).2.2 .zero 6 state run active jin).1
    5 later (by decide +kernel) executed).mpr same

/-- 0: JIN r2, with 5 in the immediate field. -/
def indirectImage : Image := fun addr => if addr = 0#16 then 0x28100005#32 else 0#32

/-- Register 2 is zero, and both processors go to address 5. -/
theorem indirect_jumps_to_immediate :
    (∃ state later, runFor (MultiCycle.next Shifts.x86) 6
        (MultiCycle.afterReset indirectImage) = some state ∧
      state.spro.ctlState = .exec1 ∧ state.spro.opcode = .jin ∧ state.spro.src0 ≠ 1#3 ∧
      FirstAfter (MultiCycle.next Shifts.x86) (fun state => state.spro.ctlState = .exec1) 5
        state later ∧
      later.spro.pc ≠ .ofAddress (state.spro.fields.indirectTarget state.spro.r)) ∧
    (∃ state later, runFor (Pipeline.next Shifts.x86) 6
        (Pipeline.afterReset indirectImage .zero) = some state ∧
      state.spro.exec1.active = true ∧ state.spro.exec1.opcode = .jin ∧
      state.spro.exec1.src0 ≠ 1#3 ∧
      FirstAfter (Pipeline.next Shifts.x86) (fun state => state.spro.exec1.active = true) 5
        state later ∧
      later.spro.exec1.pc ≠ .ofAddress (state.spro.exec1.indirectTarget state.spro.r)) := by
  constructor
  · have reached : (runFor (MultiCycle.next Shifts.x86) 6
        (MultiCycle.afterReset indirectImage)).map
        (fun state => (decide (state.spro.ctlState = .exec1 ∧ state.spro.opcode = .jin ∧
            state.spro.src0 ≠ 1#3 ∧
            ∀ index < 5, ∀ visited ∈ runFor (MultiCycle.next Shifts.x86) (index + 1) state,
              visited.spro.ctlState ≠ .exec1),
          state.spro.fields.indirectTarget state.spro.r,
          (runFor (MultiCycle.next Shifts.x86) 6 state).map
            fun later => (later.spro.ctlState, later.spro.pc))) =
        some (true, 0#16, some (.exec1, 5#32)) := by
      decide +kernel
    obtain ⟨state, run, here⟩ := Option.map_eq_some_iff.mp reached
    obtain ⟨checked, here⟩ := Prod.mk.inj here
    obtain ⟨exec1, jin, indirect, silent⟩ := of_decide_eq_true checked
    obtain ⟨target, last⟩ := Prod.mk.inj here
    obtain ⟨later, onward, there⟩ := Option.map_eq_some_iff.mp last
    obtain ⟨happens, pc⟩ := Prod.mk.inj there
    refine ⟨state, later, run, exec1, jin, indirect, ⟨onward, happens, silent⟩, ?_⟩
    rw [pc, target]
    decide
  · have reached : (runFor (Pipeline.next Shifts.x86) 6
        (Pipeline.afterReset indirectImage .zero)).map
        (fun state => (decide (state.spro.exec1.active = true ∧
            state.spro.exec1.opcode = .jin ∧ state.spro.exec1.src0 ≠ 1#3 ∧
            ∀ index < 5, ∀ visited ∈ runFor (Pipeline.next Shifts.x86) (index + 1) state,
              visited.spro.exec1.active ≠ true),
          state.spro.exec1.indirectTarget state.spro.r,
          (runFor (Pipeline.next Shifts.x86) 6 state).map
            fun later => (later.spro.exec1.active, later.spro.exec1.pc))) =
        some (true, 0#16, some (true, 5#32)) := by
      decide +kernel
    obtain ⟨state, run, here⟩ := Option.map_eq_some_iff.mp reached
    obtain ⟨checked, here⟩ := Prod.mk.inj here
    obtain ⟨active, jin, indirect, silent⟩ := of_decide_eq_true checked
    obtain ⟨target, last⟩ := Prod.mk.inj here
    obtain ⟨later, onward, there⟩ := Option.map_eq_some_iff.mp last
    obtain ⟨happens, pc⟩ := Prod.mk.inj there
    refine ⟨state, later, run, active, jin, indirect, ⟨onward, happens, silent⟩, ?_⟩
    rw [pc, target]
    decide

end SimpleProcessor
