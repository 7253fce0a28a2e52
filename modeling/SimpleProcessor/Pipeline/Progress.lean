import SimpleProcessor.Dma.Progress
import SimpleProcessor.Pipeline.DmaRequests

/-!
# The engine makes progress beside the pipeline

A store holds the data memory in EXEC1 and a load when it leaves EXEC0, in any number of
clocks in a row.  But each of these clocks belongs to an instruction of its own: a store
retires in it, and a load retires in the next one unless a flush has discarded it.
-/

namespace SimpleProcessor.Pipeline

open Transition Dma

namespace Registers

variable (spro : Registers)

/-- A load is in EXEC1. -/
def loads : Bool := spro.exec1.active && spro.exec1.opcode = .ld

/-- A load or a store is in EXEC1. -/
def accesses : Bool := spro.exec1.active && (spro.exec1.opcode = .ld || spro.exec1.opcode = .st)

end Registers

theorem loads_next (shifts : Shifts) {state : State} (leaves : state.spro.leavesExec0 = true)
    (load : state.spro.exec0.opcode = .ld) :
    state.spro.exec1Flush = true ∨ (state.after shifts).spro.loads = true := by
  cases flush : state.spro.exec1Flush with
  | true => exact Or.inl rfl
  | false =>
      right
      simp [Registers.loads, Registers.nextExec1, leaves, flush, load]

/-- A hazard clock is one of a store in EXEC1, or of a load that gets there unless it is
discarded. -/
theorem hazard_accounted (shifts : Shifts) (state : State) :
    (isDmaHazard state.spro).toNat + state.spro.loads.toNat ≤
      state.spro.accesses.toNat + state.spro.exec1Flush.toNat +
        (state.after shifts).spro.loads.toNat := by
  by_cases store : state.spro.exec1.active = true ∧ state.spro.exec1.opcode = .st
  · have hazard := Bool.toNat_le (isDmaHazard state.spro)
    have noLoad : state.spro.loads = false := by simp [Registers.loads, store]
    have access : state.spro.accesses = true := by simp [Registers.accesses, store]
    rw [noLoad, access, Bool.toNat_true, Bool.toNat_false]
    omega
  · have same : state.spro.accesses = state.spro.loads := by
      cases active : state.spro.exec1.active with
      | false => simp [Registers.loads, Registers.accesses, active]
      | true =>
          have noStore : state.spro.exec1.opcode ≠ .st := fun opcode => store ⟨active, opcode⟩
          simp [Registers.loads, Registers.accesses, active, noStore]
    rw [same]
    cases hazard : isDmaHazard state.spro with
    | false =>
        rw [Bool.toNat_false]
        omega
    | true =>
        have leaving : state.spro.leavesExec0 = true ∧ state.spro.exec0.opcode = .ld := by
          simp only [isDmaHazard, Bool.or_eq_true, Bool.and_eq_true, Bool.not_eq_true',
            decide_eq_true_eq, store, or_false] at hazard
          simp [Registers.leavesExec0, hazard]
        rcases loads_next shifts leaving.1 leaving.2 with flush | loads
        · rw [flush, Bool.toNat_true]
          omega
        · rw [loads, Bool.toNat_true]
          omega

/-- The hazard clocks up to a state, with the load that has left EXEC0 in the last of them. -/
def HazardsAccounted (first : State) (before : List State) (later : State) : Prop :=
  before.countP (fun visited => isDmaHazard visited.spro) + first.spro.loads.toNat ≤
    before.countP (fun visited => visited.spro.accesses) +
      before.countP (fun visited => visited.spro.exec1Flush) + later.spro.loads.toNat

section Run

variable {shifts : Shifts} {clocks : Nat} {first state : State}

theorem hazardsAccounted_of_run (run : runFor (next shifts) clocks first = some state) :
    HazardsAccounted first (past (next shifts) clocks first) state := by
  have count (condition : Bool) : (if condition then 1 else 0) = condition.toNat := by
    cases condition <;> rfl
  refine runFor_induction (motive := HazardsAccounted first) ?_ ?_ run
  · simp [HazardsAccounted]
  · intro before later later' accounted step
    obtain ⟨-, -, -, -, rfl⟩ := next_eq_some.mp step
    have clock := hazard_accounted shifts later
    simp only [HazardsAccounted, List.countP_append, List.countP_singleton, count] at accounted ⊢
    omega

theorem hazards_le (run : runFor (next shifts) clocks first = some state) :
    (past (next shifts) clocks first).countP (fun visited => isDmaHazard visited.spro) ≤
      (past (next shifts) clocks first).countP (fun visited => visited.spro.accesses) +
        (past (next shifts) clocks first).countP (fun visited => visited.spro.exec1Flush) + 1 := by
  have accounted := hazardsAccounted_of_run run
  have pending := Bool.toNat_le state.spro.loads
  rw [HazardsAccounted] at accounted
  omega

end Run

/-- A transfer of n words that is still under way has had at most 2 n + 2 clocks, one for each
load and store that has retired meanwhile, and one for each flush in EXEC1. -/
theorem transfer_budget (shifts : Shifts) (image : Image) (btb : Btb) (clocks later : Nat)
    (state accepted final : State) (request : Request)
    (run : runFor (next shifts) clocks (afterReset image btb) = some state)
    (starts : state.startedRequest shifts = some request) (words : 1 ≤ request.len.toInt)
    (step : next shifts state = some accepted)
    (further : runFor (next shifts) later accepted = some final)
    (busy : ∀ visited ∈ past (next shifts) later accepted, visited.spro.dma.busy = true)
    (goesOn : final.spro.dma.busy = true) :
    later ≤ 2 * request.len.toInt.toNat + 2 +
      (past (next shifts) later accepted).countP (fun visited => visited.spro.accesses) +
      (past (next shifts) later accepted).countP (fun visited => visited.spro.exec1Flush) := by
  have idle : state.spro.dma.busy = false → state.spro.dma.state = .idle := fun free =>
    ((ledger_of_run run).free free).1
  have positive : 0 < request.count := by
    simp only [Request.count]
    omega
  have engine : ∀ state state', next shifts state = some state' →
      state'.spro.dma = nextRegs state.spro.cpuClock.hazard state.spro.dma state.sramd.dataout
        (state.spro.cpuClock.load state.spro.dma) := by
    intro state state' step
    obtain ⟨-, -, -, -, rfl⟩ := next_eq_some.mp step
    rfl
  rw [State.startedRequest, startedIn, step, Option.bind_some, engine state accepted step] at starts
  obtain ⟨inFlight, work⟩ := InFlight.of_started idle _ _ starts positive
  rw [← engine state accepted step] at inFlight work
  have own : (past (next shifts) later accepted).countP
      (fun visited => !isDmaHazard visited.spro) < accepted.spro.dma.work :=
    own_clocks_lt (fun state : State => state.spro.dma) (fun state => state.spro.cpuClock)
      (fun state => state.sramd.dataout) engine further inFlight busy goesOn
  have hazards := hazards_le further
  have split : (past (next shifts) later accepted).countP
        (fun visited => isDmaHazard visited.spro) +
      (past (next shifts) later accepted).countP (fun visited => !isDmaHazard visited.spro) =
        later := by
    have length := length_past further
    rw [List.length_eq_countP_add_countP fun visited : State => isDmaHazard visited.spro] at length
    simpa using length
  have count : request.count = request.len.toInt.toNat := rfl
  omega

/-- 0: DMA of one word; ST everywhere else. -/
def storesImage : Image := fun addr => if addr = 0#16 then 0x14010001#32 else 0x12000000#32

/-- Stores in a row hold the transfer of one word up for as long as they go on. -/
theorem transfer_budget_stores :
    ∃ accepted final, runFor (next Shifts.x86) 40 accepted = some final ∧
      final.spro.dma.busy = true ∧
      36 ≤ (past (next Shifts.x86) 40 accepted).countP fun visited => visited.spro.accesses := by
  have executed : ((runFor (next Shifts.x86) 6 (afterReset storesImage .zero)).bind fun state =>
      (next Shifts.x86 state).bind fun accepted =>
        (runFor (next Shifts.x86) 40 accepted).map fun final =>
          (state.startedRequest Shifts.x86,
            (past (next Shifts.x86) 40 accepted).all fun visited => visited.spro.dma.busy,
            (past (next Shifts.x86) 40 accepted).countP fun visited => visited.spro.exec1Flush,
            final.spro.dma.busy)) = some (some ⟨0#32, 0#32, 1#32⟩, true, 0, true) := by
    decide +kernel
  obtain ⟨state, run, executed⟩ := Option.bind_eq_some_iff.mp executed
  obtain ⟨accepted, step, executed⟩ := Option.bind_eq_some_iff.mp executed
  obtain ⟨final, further, here⟩ := Option.map_eq_some_iff.mp executed
  simp only [Prod.mk.injEq] at here
  obtain ⟨starts, busy, flushes, goesOn⟩ := here
  have budget := transfer_budget Shifts.x86 storesImage .zero 6 40 state accepted final
    ⟨0#32, 0#32, 1#32⟩ run starts (by decide) step further (List.all_eq_true.mp busy) goesOn
  have words : (BitVec.toInt 1#32).toNat = 1 := by decide
  refine ⟨accepted, final, further, goesOn, ?_⟩
  simp only [flushes, words] at budget
  omega

end SimpleProcessor.Pipeline
