import SimpleProcessor.MultiCycle.Operands

/-!
# The exit from EXEC1

EXEC1 dispatches on the 5-bit opcode, but it leaves for the idle state by a
comparison of the whole instruction register with the constant `HLT`.  The word 24
is not a HLT instruction but an addition; after it the machine starts again at
address 0.
-/

namespace SimpleProcessor.MultiCycle

open Transition

namespace State

/-- What EXEC1 does with the control state: a HLT stops the simulation, every other
instruction is followed by the fetch from the `pc` that EXEC1 has set. -/
structure LeavesExec1 (shifts : Shifts) (state : State) : Prop where
  goesOn : state.spro.ctlState = .exec1 → (Fields.ofWord state.spro.inst).opcode ≠ .hlt →
    ∀ state', llsimRunClock shifts false state = .ok state' →
      state'.spro.ctlState = .fetch0 ∧
        state'.spro.pc = exec1Pc state.spro.dma.busy state.spro.toCpuRegisters
  stops : state.spro.ctlState = .exec1 → (Fields.ofWord state.spro.inst).opcode = .hlt →
    ∀ state', llsimRunClock shifts false state = .ok state' → state'.stopSim = true

/-- The word in EXEC1 is not the one that the exit test takes for a HLT. -/
def NotHltConstant (state : State) : Prop :=
  state.spro.ctlState = .exec1 → state.spro.inst ≠ HLT

instance (state : State) : Decidable state.NotHltConstant :=
  inferInstanceAs (Decidable (state.spro.ctlState = .exec1 → state.spro.inst ≠ HLT))

end State

section Clock

variable {shifts : Shifts} {image : Image} {clocks : Nat} {state state' : State}

theorem nextCpu_idle_iff {busy : Bool} {dataout : Word} {cpu : CpuRegisters} :
    (nextCpu shifts true busy dataout cpu).ctlState = .idle ↔
      cpu.ctlState = .exec1 ∧ cpu.inst = HLT := by
  cases ctlState : cpu.ctlState with
  | idle | fetch0 | fetch1 | dec0 | dec1 | exec0 => simp [nextCpu, ctlState]
  | exec1 => by_cases constant : cpu.inst = HLT <;> simp [nextCpu, ctlState, constant]

theorem leavesExec1_of_notHltConstant (latched : OperandsLatched state.spro.toCpuRegisters)
    (notConstant : state.NotHltConstant) : state.LeavesExec1 shifts := by
  constructor
  · intro exec1 _ state' clock
    obtain ⟨-, rfl⟩ := llsimRunClock_eq_ok.mp clock
    have notHlt : state.spro.inst ≠ HLT := notConstant exec1
    simp [State.after, nextCpu, exec1, notHlt]
  · intro exec1 hlt state' clock
    obtain ⟨-, rfl⟩ := llsimRunClock_eq_ok.mp clock
    have fields := latched.fields (Or.inr (Or.inr exec1))
    have opcode : state.spro.opcode = .hlt := (congrArg Fields.opcode fields).trans hlt
    simp [State.after, halts, exec1, opcode]

theorem notHltConstant_of_leavesExec1 (latched : OperandsLatched state.spro.toCpuRegisters)
    (leaves : state.LeavesExec1 shifts) : state.NotHltConstant := by
  intro exec1 constant
  have addition : (Fields.ofWord state.spro.inst).opcode = .add := by
    rw [constant]
    decide
  have fields := latched.fields (Or.inr (Or.inr exec1))
  have opcode : state.spro.opcode = .add := (congrArg Fields.opcode fields).trans addition
  have clock : llsimRunClock shifts false state = .ok (state.after shifts) := by
    refine llsimRunClock_eq_ok.mpr ⟨?_, rfl⟩
    simp [cpuAccess, exec1, opcode]
  have fetches := (leaves.goesOn exec1 (by simp [addition]) _ clock).1
  simp [State.after, nextCpu, exec1, constant] at fetches

theorem start_of_run (run : runFor (next shifts) clocks (afterReset image) = some state) :
    state.start = true := by
  refine runFor_invariant (motive := fun state => state.start = true) rfl ?_ run
  intro state state' start step
  obtain ⟨-, -, rfl⟩ := next_eq_some.mp step
  exact start

/-- As long as the word 24 is not executed, the idle state is the first one. -/
theorem first_of_idle (run : runFor (next shifts) clocks (afterReset image) = some state)
    (notConstant : ∀ visited ∈ past (next shifts) clocks (afterReset image),
      visited.NotHltConstant)
    (idle : state.spro.ctlState = .idle) : clocks = 0 := by
  cases clocks with
  | zero => rfl
  | succ clocks =>
      obtain ⟨last, before, step⟩ := exists_of_runFor_succ run
      rw [past_snoc before, List.forall_mem_append, List.forall_mem_singleton] at notConstant
      obtain ⟨-, -, rfl⟩ := next_eq_some.mp step
      simp only [State.after, start_of_run before, nextCpu_idle_iff] at idle
      exact absurd idle.2 (notConstant.2 idle.1)

end Clock

/-- The control state machine does not restart a program in a number of clocks exactly when
the word 24 is not executed in them. -/
theorem never_restarts_iff (shifts : Shifts) (image : Image) (clocks : Nat) :
    (∀ index ≤ clocks, ∀ visited, runFor (next shifts) index (afterReset image) = some visited →
      (visited.spro.ctlState = .idle → index = 0) ∧ visited.LeavesExec1 shifts) ↔
    ∀ index ≤ clocks, ∀ visited, runFor (next shifts) index (afterReset image) = some visited →
      visited.NotHltConstant := by
  constructor
  · intro kept index bound visited reached
    exact notHltConstant_of_leavesExec1 (operandsLatched_of_run reached)
      (kept index bound visited reached).2
  · intro notConstant index bound visited reached
    constructor
    · apply first_of_idle reached
      intro earlier member
      obtain ⟨index', before, reached'⟩ := (mem_past_iff reached).mp member
      exact notConstant index' (by omega) earlier reached'
    · exact leavesExec1_of_notHltConstant (operandsLatched_of_run reached)
        (notConstant index bound visited reached)

/-- 0: ADD 0, 0, 0 with the immediate 24. -/
theorem addition_restarts :
    ∃ state, runFor (next Shifts.x86) 7 (afterReset fun _ => 0x00000018#32) = some state ∧
      state.spro.ctlState = .idle ∧ state.spro.pc = 1#32 ∧
      ∃ restarted, runFor (next Shifts.x86) 1 state = some restarted ∧
        restarted.spro.ctlState = .fetch0 ∧ restarted.spro.pc = 0#32 :=
  ⟨_, rfl, rfl, rfl, _, rfl, rfl, rfl⟩

end SimpleProcessor.MultiCycle
