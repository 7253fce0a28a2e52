import Mathlib.Algebra.GroupWithZero.Nat
import SimpleProcessor.Pipeline.Speculation

/-!
# How many clocks the pipeline needs

Every clock either retires an instruction or pays for an empty EXEC1.  Stages are
empty at the start, behind a flush and behind a stall, and an empty stage moves
towards EXEC1 with the instructions; so the clocks of a run are accounted for by
its instructions and by what its flushes and stalls have emptied.
-/

namespace SimpleProcessor.Pipeline

open Transition

namespace Registers

variable (spro : Registers)

/-- The number of empty stages from FETCH1 to EXEC1. -/
def empty : Nat :=
  (!spro.fetch1.active).toNat + (!spro.dec0.active).toNat + (!spro.dec1.active).toNat +
    (!spro.exec0.active).toNat + (!spro.exec1.active).toNat

/-- The number of instructions that a stall drops. -/
def dropped : Nat :=
  (spro.dec1.active && !spro.dec0.active).toNat + (spro.exec0.active && !spro.dec1.active).toNat

/-- The number of stages that a clock empties: a flush discards the instructions behind
the jump and the one being fetched, a flush in DEC0 those behind DEC0, and a stall
leaves EXEC1 empty.  In the first clock nothing is fetched yet. -/
def lost : Nat :=
  if spro.exec1Flush then
    1 + spro.fetch1.active.toNat + spro.dec0.active.toNat + spro.dec1.active.toNat +
      spro.exec0.active.toNat
  else if spro.isPipeStalled then 1 + spro.dropped
  else if spro.dec0Flush then 1 + spro.fetch1.active.toNat
  else (!spro.fetch0.active).toNat

theorem lost_le : spro.lost ≤
    5 * spro.exec1Flush.toNat + 2 * spro.dec0Flush.toNat + spro.isPipeStalled.toNat +
      2 * spro.stallDrops.toNat + (!spro.fetch0.active).toNat := by
  have fetch1 := Bool.toNat_le spro.fetch1.active
  rw [lost]
  cases flush : spro.exec1Flush with
  | true =>
      have dec0 := Bool.toNat_le spro.dec0.active
      have dec1 := Bool.toNat_le spro.dec1.active
      have exec0 := Bool.toNat_le spro.exec0.active
      simp only [if_true, Bool.toNat_true]
      omega
  | false =>
      cases stalled : spro.isPipeStalled with
      | true =>
          have dropped : spro.dropped ≤ 2 * spro.stallDrops.toNat := by
            rw [Registers.dropped, stallDrops, stalled]
            cases spro.dec1.active <;> cases spro.dec0.active <;> cases spro.exec0.active <;>
              decide
          simp only [Bool.false_eq_true, if_false, if_true, Bool.toNat_true]
          omega
      | false =>
          cases steers : spro.dec0Flush with
          | true =>
              simp only [Bool.false_eq_true, if_false, if_true, Bool.toNat_true]
              omega
          | false => simp

end Registers

section Clock

variable {shifts : Shifts} {image : Image} {state : State}

theorem emptyStages_next (shifts : Shifts) (frontEnd : FrontEnd image state) :
    (state.after shifts).spro.empty + 1 =
      state.spro.empty + state.spro.exec1.active.toNat + state.spro.lost := by
  cases flush : state.spro.exec1Flush with
  | true =>
      have active : state.spro.exec1.active = true := by
        simp only [Registers.exec1Flush, Registers.exec1Jumps, Bool.and_eq_true] at flush
        exact flush.1.1
      have emptied : (state.after shifts).spro.empty = 5 := by
        simp [Registers.empty, Registers.nextFetch1, Registers.nextDec0, Registers.nextDec1,
          Registers.nextExec0, Registers.nextExec1, flush]
      rw [emptied, Registers.lost, if_pos flush, Registers.empty, active]
      cases state.spro.fetch1.active <;> cases state.spro.dec0.active <;>
        cases state.spro.dec1.active <;> cases state.spro.exec0.active <;> rfl
  | false =>
  cases stalled : state.spro.isPipeStalled with
  | true =>
      have active := (Registers.not_jump_of_stalled stalled).1
      have noDec0Flush : state.spro.dec0Flush = false := by
        simp [Registers.dec0Flush, stalled]
      have behind := frontEnd.behind
      simp only [Registers.lost, flush, stalled, Registers.dropped, Registers.empty, active,
        State.after_fetch1, State.after_dec0, State.after_dec1, State.after_exec0,
        State.after_exec1, Registers.nextFetch1, Registers.fetches, Registers.nextDec0,
        Registers.nextDec1, Registers.nextExec0, Registers.nextExec1, Registers.leavesExec0,
        noDec0Flush, Bool.not_true, Bool.and_false, Bool.false_eq_true, if_false, if_true]
      revert behind
      cases state.spro.fetch1.active <;> cases state.spro.dec0.active <;>
        cases state.spro.dec1.active <;> cases state.spro.exec0.active <;> simp
  | false =>
      have fetching := frontEnd.fetching
      have fetch1 : (state.after shifts).spro.fetch1.active =
          (state.spro.fetch0.active && !state.spro.dec0Flush) := by
        cases fetches : state.spro.fetch0.active with
        | true => simp [Registers.nextFetch1, Registers.fetches, fetches, stalled, flush, Btb.slot]
        | false =>
            have empty : state.spro.fetch1.active = false := by
              simpa [fetches] using fetching
            simp [Registers.nextFetch1, Registers.fetches, fetches, empty]
      have dec0 : (state.after shifts).spro.dec0.active =
          (state.spro.fetch1.active && !state.spro.dec0Flush) := by
        cases active : state.spro.fetch1.active <;>
          simp [Registers.nextDec0, active, stalled, flush]
      have dec1 : (state.after shifts).spro.dec1.active = state.spro.dec0.active := by
        cases active : state.spro.dec0.active <;>
          simp [Registers.nextDec1, active, stalled, flush]
      have exec0 : (state.after shifts).spro.exec0.active = state.spro.dec1.active := by
        cases active : state.spro.dec1.active <;>
          simp [Registers.nextExec0, active, stalled, flush]
      have exec1 : (state.after shifts).spro.exec1.active = state.spro.exec0.active := by
        cases active : state.spro.exec0.active <;>
          simp [Registers.nextExec1, Registers.leavesExec0, active, stalled, flush]
      simp only [Registers.lost, flush, stalled, Registers.empty, fetch1, dec0, dec1, exec0,
        exec1, Bool.false_eq_true, if_false]
      cases state.spro.dec0Flush <;> cases state.spro.fetch0.active <;>
        cases state.spro.fetch1.active <;> cases state.spro.exec1.active <;> simp <;> omega

end Clock

/-- An instruction retires in this clock. -/
def State.retires (state : State) : Bool := state.spro.exec1.active

theorem length_retired {ε : Type} (event : State → ε) (visited : List State) :
    (visited.filterMap fun state =>
      if state.spro.exec1.active then some (event state) else none).length =
        visited.countP State.retires := by
  rw [List.length_filterMap_eq_countP]
  congr 1
  funext state
  cases active : state.spro.exec1.active <;> simp [State.retires, active]

theorem sum_lost_le (visited : List State) :
    (visited.map fun state => state.spro.lost).sum ≤
      5 * visited.countP (fun state => state.spro.exec1Flush) +
        2 * visited.countP (fun state => state.spro.dec0Flush) +
        visited.countP (fun state => state.spro.isPipeStalled) +
        2 * visited.countP (fun state => state.spro.stallDrops) +
        visited.countP (fun state => !state.spro.fetch0.active) := by
  have count (active : Bool) : (if active then 1 else 0) = active.toNat := by
    cases active <;> rfl
  induction visited with
  | nil => simp
  | cons first rest ih =>
      have clock := first.spro.lost_le
      simp only [List.map_cons, List.sum_cons, List.countP_cons, count]
      omega

section Run

variable {shifts : Shifts} {image : Image} {btb : Btb} {clocks : Nat} {state : State}

theorem fetch0_idle_le (run : runFor (next shifts) clocks (afterReset image btb) = some state) :
    (past (next shifts) clocks (afterReset image btb)).countP
      (fun visited => !visited.spro.fetch0.active) ≤ 1 := by
  have counted : (past (next shifts) clocks (afterReset image btb)).countP
        (fun visited => !visited.spro.fetch0.active) + (!state.spro.fetch0.active).toNat ≤ 1 := by
    have both : state.start = true ∧ (past (next shifts) clocks (afterReset image btb)).countP
        (fun visited => !visited.spro.fetch0.active) + (!state.spro.fetch0.active).toNat ≤ 1 := by
      refine runFor_induction
        (motive := fun before state => state.start = true ∧ before.countP
          (fun visited => !visited.spro.fetch0.active) + (!state.spro.fetch0.active).toNat ≤ 1)
        ?_ ?_ run
      · exact ⟨rfl, Nat.le_refl 1⟩
      · intro before state state' ⟨start, counted⟩ step
        obtain ⟨-, -, -, -, rfl⟩ := next_eq_some.mp step
        refine ⟨start, ?_⟩
        have fetching : (state.after shifts).spro.fetch0.active = true := by
          simp [Registers.nextFetch0, start]
        rw [List.countP_append, List.countP_singleton, fetching]
        cases active : state.spro.fetch0.active <;> simp [active] at counted ⊢ <;> omega
    exact both.2
  omega

/-- Every clock of a run retires an instruction or pays for an empty stage. -/
theorem clocks_eq (run : runFor (next shifts) clocks (afterReset image btb) = some state) :
    clocks + state.spro.empty =
      5 + (past (next shifts) clocks (afterReset image btb)).countP State.retires +
        ((past (next shifts) clocks (afterReset image btb)).map
          fun visited => visited.spro.lost).sum := by
  have balanced : FrontEnd image state ∧
      (past (next shifts) clocks (afterReset image btb)).length + state.spro.empty =
        5 + (past (next shifts) clocks (afterReset image btb)).countP State.retires +
          ((past (next shifts) clocks (afterReset image btb)).map
            fun visited => visited.spro.lost).sum := by
    refine runFor_induction
      (motive := fun before state => FrontEnd image state ∧
        before.length + state.spro.empty = 5 + before.countP State.retires +
          (before.map fun visited => visited.spro.lost).sum)
      ⟨.afterReset image btb, rfl⟩ ?_ run
    intro before state state' ⟨frontEnd, balanced⟩ step
    obtain ⟨-, -, -, -, rfl⟩ := next_eq_some.mp step
    refine ⟨frontEnd.next, ?_⟩
    have clock := emptyStages_next shifts frontEnd
    have retired : [state].countP State.retires = state.spro.exec1.active.toNat := by
      rw [List.countP_singleton, State.retires]
      cases state.spro.exec1.active <;> rfl
    rw [List.length_append, List.length_singleton, List.countP_append, retired,
      List.map_append, List.sum_append, List.map_singleton, List.sum_singleton]
    omega
  have length := length_past run
  omega

/-- What the flushes and the stalls of a run cost at most. -/
theorem clocks_le_budget (run : runFor (next shifts) clocks (afterReset image btb) = some state) :
    let visited := past (next shifts) clocks (afterReset image btb)
    clocks ≤ 6 + visited.countP State.retires +
      5 * visited.countP (fun state => state.spro.exec1Flush) +
      2 * visited.countP (fun state => state.spro.dec0Flush) +
      visited.countP (fun state => state.spro.isPipeStalled) +
      2 * visited.countP (fun state => state.spro.stallDrops) := by
  intro visited
  have balanced : clocks + state.spro.empty =
      5 + visited.countP State.retires + (visited.map fun state => state.spro.lost).sum :=
    clocks_eq run
  have lost := sum_lost_le visited
  have idle : visited.countP (fun state => !state.spro.fetch0.active) ≤ 1 := fetch0_idle_le run
  omega

theorem clocks_le (frontEnd : FrontEnd image state) {state' : State}
    (run : runFor (next shifts) clocks state = some state') :
    clocks + state'.spro.rank ≤
      state.spro.rank + 6 * (past (next shifts) clocks state).countP State.retires := by
  have balanced : FrontEnd image state' ∧
      (past (next shifts) clocks state).length + state'.spro.rank ≤
        state.spro.rank + 6 * (past (next shifts) clocks state).countP State.retires := by
    refine runFor_induction
      (motive := fun before later => FrontEnd image later ∧
        before.length + later.spro.rank ≤ state.spro.rank + 6 * before.countP State.retires)
      ⟨frontEnd, by simp⟩ ?_ run
    intro before later later' ⟨frontEnd, balanced⟩ step
    obtain ⟨-, -, -, -, rfl⟩ := next_eq_some.mp step
    refine ⟨frontEnd.next, ?_⟩
    rw [List.length_append, List.length_singleton, List.countP_append, List.countP_singleton,
      State.retires]
    cases active : later.spro.exec1.active with
    | false =>
        have smaller := rank_next shifts frontEnd active
        simp only [Bool.false_eq_true, if_false]
        omega
    | true =>
        have fetching : (later.after shifts).spro.fetch0.active = true := by
          simp [Registers.nextFetch0, frontEnd.start]
        have rank := (later.after shifts).spro.rank_le.2.2.2.2.2 fetching
        simp only [if_true]
        omega
  have length := length_past run
  omega

theorem clocks_le_of_stopped
    (run : runFor (next shifts) clocks (afterReset image btb) = some state)
    (stopped : state.stopSim = true) :
    clocks ≤
      1 + 6 * (past (next shifts) clocks (afterReset image btb)).countP State.retires := by
  cases clocks with
  | zero =>
      cases run
      cases stopped
  | succ before =>
      obtain ⟨last, reached, step⟩ := exists_of_runFor_succ run
      obtain ⟨running, -, -, -, rfl⟩ := next_eq_some.mp step
      have halts : last.spro.exec1.active = true := by
        simp only [State.after, running, Registers.halts, Bool.or_false, Bool.and_eq_true]
          at stopped
        exact stopped.1
      have earlier := clocks_le (.afterReset image btb) reached
      have start : (Pipeline.afterReset image btb).spro.rank = 6 := rfl
      rw [past_snoc reached, List.countP_append, List.countP_singleton, State.retires,
        if_pos halts]
      omega

end Run

/-- The clocks of a run: one for each instruction that retires, at most five for each flush
in EXEC1, two for each flush in DEC0 and one for each stall, two more for a stall that drops
instructions, and six to fill the stages. -/
theorem clock_budget (shifts : Shifts) (image : Image) (btb : Btb) (clocks : Nat) (state : State)
    (run : runFor (next shifts) clocks (afterReset image btb) = some state) :
    let visited := past (next shifts) clocks (afterReset image btb)
    clocks + state.spro.empty =
        5 + visited.countP State.retires + (visited.map fun state => state.spro.lost).sum ∧
      clocks ≤ 6 + visited.countP State.retires +
        5 * visited.countP (fun state => state.spro.exec1Flush) +
        2 * visited.countP (fun state => state.spro.dec0Flush) +
        visited.countP (fun state => state.spro.isPipeStalled) +
        2 * visited.countP (fun state => state.spro.stallDrops) :=
  ⟨clocks_eq run, clocks_le_budget run⟩

/-- From the second clock on an instruction retires in any six clocks, whatever the pipeline
predicts and however often it stalls: no program takes more clocks for an instruction than
the multi-cycle machine takes. -/
theorem retires_in_six_clocks (shifts : Shifts) (image : Image) (btb : Btb) (before clocks : Nat)
    (state state' : State)
    (reached : runFor (next shifts) (before + 1) (afterReset image btb) = some state)
    (run : runFor (next shifts) clocks state = some state') :
    clocks ≤ 5 + 6 * (past (next shifts) clocks state).countP State.retires := by
  obtain ⟨last, earlier, step⟩ := exists_of_runFor_succ reached
  have start := (frontEnd_of_run earlier).start
  obtain ⟨-, -, -, -, rfl⟩ := next_eq_some.mp step
  have fetching : (last.after shifts).spro.fetch0.active = true := by
    simp [Registers.nextFetch0, start]
  have rank := (last.after shifts).spro.rank_le.2.2.2.2.2 fetching
  have clocks_le := clocks_le (frontEnd_of_run reached) run
  omega

/-- 0: JEQ r0, r0, 0 flushes once and is predicted from then on. -/
def spinImage : Image := fun addr => if addr = 0#16 then 0x24000000#32 else 0#32

theorem retires_in_six_clocks_spin :
    ∃ state state', runFor (next Shifts.x86) 1 (afterReset spinImage .zero) = some state ∧
      runFor (next Shifts.x86) 12 state = some state' ∧
      12 ≤ 5 + 6 * (past (next Shifts.x86) 12 state).countP State.retires := by
  have run : (runFor (next Shifts.x86) (1 + 12) (afterReset spinImage .zero)).isSome = true := by
    decide +kernel
  obtain ⟨state', run⟩ := Option.isSome_iff_exists.mp run
  rw [runFor_add] at run
  obtain ⟨state, reached, onward⟩ := Option.bind_eq_some_iff.mp run
  exact ⟨state, state', reached, onward,
    retires_in_six_clocks Shifts.x86 spinImage .zero 0 12 state state' reached onward⟩

/-- The jump retires three times: six clocks fill the stages and five pay for its flush. -/
theorem clock_budget_spin :
    ∃ state, runFor (next Shifts.x86) 14 (afterReset spinImage .zero) = some state ∧
      14 + state.spro.empty = 5 +
        (past (next Shifts.x86) 14 (afterReset spinImage .zero)).countP State.retires +
        ((past (next Shifts.x86) 14 (afterReset spinImage .zero)).map
          fun state => state.spro.lost).sum := by
  have run : (runFor (next Shifts.x86) 14 (afterReset spinImage .zero)).isSome = true := by
    decide +kernel
  obtain ⟨state, run⟩ := Option.isSome_iff_exists.mp run
  exact ⟨state, run, (clock_budget Shifts.x86 spinImage .zero 14 state run).1⟩

end SimpleProcessor.Pipeline
