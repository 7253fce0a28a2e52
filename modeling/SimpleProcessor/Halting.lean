import SimpleProcessor.Programs

/-!
# Programs that stop and programs that do not

What was proved about portable programs that halt says nothing about the others.  Every
beginning of a run is matched by the processors as well, so a program that loops on the
instruction-set simulator loops on them, and no clock of the pipeline ever retires an
instruction that the simulator would not execute.
-/

namespace SimpleProcessor

open Transition
open Iss (Loaded)

section Portable

variable {shifts : Shifts} {program : List Word} {image : Image} {btb : Pipeline.Btb}

/-- The stores of a program go behind it, however long it runs. -/
def StoresBehind (shifts : Shifts) (program : List Word) (image : Image) : Prop :=
  ∀ k iss, runFor (Iss.next shifts) k (Iss.init image) = some iss → iss.halted = false →
    iss.StoresBehind program.length

theorem StoresBehind.past (behind : StoresBehind shifts program image) {k : Nat}
    {iss : Iss.State} (run : runFor (Iss.next shifts) k (Iss.init image) = some iss) :
    ∀ visited ∈ past (Iss.next shifts) k (Iss.init image),
      visited.StoresBehind program.length := by
  intro visited member
  obtain ⟨index, _, -, reached, step⟩ := exists_of_mem_past run member
  exact behind index visited reached (Iss.running_of_next step)

theorem StoresBehind.of_direct (closed : Iss.Closed program) (direct : Iss.Direct program)
    (loaded : Loaded program image) : StoresBehind shifts program image := by
  intro k iss run running
  have stores := Iss.storesBehind_of_direct closed direct loaded run
  have within := (Iss.within_of_run closed loaded run stores).1
  exact (within.inside running).storesBehind direct

section Run

variable (portable : Portable program) (loaded : Loaded program image)
  (behind : StoresBehind shifts program image)
include portable loaded behind

theorem Portable.inside_reached {k : Nat} {iss : Iss.State}
    (run : runFor (Iss.next shifts) k (Iss.init image) = some iss) (running : iss.halted = false) :
    iss.Within program ∧ iss.Inside program ∧ iss.StoresBehind program.length := by
  have within := (Iss.within_of_run portable.toClosed loaded run (behind.past run)).1
  exact ⟨within, within.inside running, behind k iss run running⟩

/-- The simulator halts or runs on forever. -/
theorem Portable.halts_or_runs :
    (∃ k iss, runFor (Iss.next shifts) k (Iss.init image) = some iss ∧ iss.halted = true) ∨
      ∀ k, ∃ iss, runFor (Iss.next shifts) k (Iss.init image) = some iss := by
  refine stops_or_runs (fun iss : Iss.State => iss.halted = true) fun k iss run goesOn => ?_
  have running : iss.halted = false := Bool.not_eq_true _ ▸ goesOn
  obtain ⟨within, inside, stores⟩ := portable.inside_reached loaded behind run running
  obtain ⟨iss', step, -⟩ :=
    Iss.next_ordinary running within.low (inside.ordinary portable.toClosed stores)
  exact ⟨iss', step⟩

theorem Portable.pipeline_prefix (bounded : btb.Bounded) {k : Nat} {iss : Iss.State}
    (run : runFor (Iss.next shifts) k (Iss.init image) = some iss) :
    ∃ clocks state,
      runFor (Pipeline.next shifts) clocks (Pipeline.afterReset image btb) = some state ∧
      (past (Pipeline.next shifts) clocks (Pipeline.afterReset image btb)).filterMap
        Pipeline.State.retiredWord =
          (past (Iss.next shifts) k (Iss.init image)).map Pipeline.executedWord := by
  have placed := portable.placed_run loaded run (behind.past run)
  have scheduled := portable.scheduled_run loaded run (behind.past run)
  have lossless (clocks : Nat) (state : Pipeline.State) (visited : Iss.State)
      (reached : runFor (Pipeline.next shifts) clocks (Pipeline.afterReset image btb) = some state)
      (member : visited ∈ past (Iss.next shifts) k (Iss.init image))
      (follows : Pipeline.Follows shifts image state visited) : state.spro.Lossless := by
    obtain ⟨index, visited', -, before, step⟩ := exists_of_mem_past run member
    obtain ⟨own, next⟩ := scheduled visited member
    apply Pipeline.Registers.lossless_of_noStall
    refine follows.noStall (placed visited member) own step ?_ fun _ => next visited' step
    intro goesOn
    obtain ⟨-, inside, stores⟩ :=
      portable.inside_reached loaded behind (runFor_snoc before step) goesOn
    exact portable.placed loaded inside stores
  obtain ⟨clocks, state, reached, -, retired⟩ :=
    Pipeline.follows_prefix Pipeline.executedWord
      (fun state => (state.spro.exec1.pc, state.spro.exec1.inst))
      (fun state visited member follows => follows.retired (placed visited member))
      bounded run placed lossless
  exact ⟨clocks, state, reached, retired⟩

theorem Portable.runs_on (bounded : btb.Bounded)
    (runs : ∀ k, ∃ iss, runFor (Iss.next shifts) k (Iss.init image) = some iss) (clocks : Nat) :
    (∃ state, runFor (MultiCycle.next shifts) clocks (MultiCycle.afterReset image) =
        some state) ∧
      ∃ state, runFor (Pipeline.next shifts) clocks (Pipeline.afterReset image btb) =
        some state := by
  obtain ⟨iss, run⟩ := runs clocks
  constructor
  · obtain ⟨state, reached, -⟩ := portable.multi_cycle loaded run (behind.past run)
    obtain ⟨middle, before, -⟩ := exists_of_le reached (by omega : clocks ≤ 1 + 6 * clocks)
    exact ⟨middle, before⟩
  · obtain ⟨longer, state, reached, retired⟩ :=
      portable.pipeline_prefix loaded behind bounded run
    obtain ⟨middle, before, -⟩ := exists_of_le reached (steps_le_of_events run reached retired)
    exact ⟨middle, before⟩

/-- At every clock the pipeline has retired what some beginning of the run executes. -/
theorem Portable.retires_prefix (bounded : btb.Bounded) {clocks : Nat} {state : Pipeline.State}
    (reached : runFor (Pipeline.next shifts) clocks (Pipeline.afterReset image btb) =
      some state) :
    ∃ k iss, runFor (Iss.next shifts) k (Iss.init image) = some iss ∧
      (past (Pipeline.next shifts) clocks (Pipeline.afterReset image btb)).filterMap
        Pipeline.State.retiredWord =
          (past (Iss.next shifts) k (Iss.init image)).map Pipeline.executedWord := by
  rcases portable.halts_or_runs loaded behind with ⟨k, iss, run, halted⟩ | runs
  · obtain ⟨longer, final, refines, -⟩ :=
      portable.pipeline loaded bounded run halted (behind.past run)
    have stuck : Pipeline.next shifts final = none := if_pos refines.stopped
    exact exists_run_of_shorter run refines.run refines.retired
      (le_of_stopped refines.run stuck reached)
  · obtain ⟨iss, run⟩ := runs clocks
    obtain ⟨longer, final, run', retired⟩ :=
      portable.pipeline_prefix loaded behind bounded run
    exact exists_run_of_shorter run run' retired (steps_le_of_events run run' retired)

end Run

end Portable

/-- A portable program stops on one of the three simulators if and only if it stops on the
others, and runs on forever on all of them otherwise; and no clock of the pipeline has retired
anything but what a beginning of the run on the instruction-set simulator executes. -/
theorem portable_stops_alike (shifts : Shifts) (program : List Word) (image : Image)
    (btb : Pipeline.Btb) (portable : Portable program) (loaded : Loaded program image)
    (bounded : btb.Bounded) (behind : StoresBehind shifts program image) :
    let halts := ∃ k iss,
      runFor (Iss.next shifts) k (Iss.init image) = some iss ∧ iss.halted = true
    ((∃ clocks state, runFor (MultiCycle.next shifts) clocks (MultiCycle.afterReset image) =
        some state ∧ state.stopSim = true) ↔ halts) ∧
      ((∃ clocks state, runFor (Pipeline.next shifts) clocks (Pipeline.afterReset image btb) =
        some state ∧ state.stopSim = true) ↔ halts) ∧
      (¬ halts → ∀ clocks,
        (∃ state, runFor (MultiCycle.next shifts) clocks (MultiCycle.afterReset image) =
          some state) ∧
        ∃ state, runFor (Pipeline.next shifts) clocks (Pipeline.afterReset image btb) =
          some state) ∧
      ∀ clocks state,
        runFor (Pipeline.next shifts) clocks (Pipeline.afterReset image btb) = some state →
        ∃ k iss, runFor (Iss.next shifts) k (Iss.init image) = some iss ∧
          (past (Pipeline.next shifts) clocks (Pipeline.afterReset image btb)).filterMap
            Pipeline.State.retiredWord =
              (past (Iss.next shifts) k (Iss.init image)).map Pipeline.executedWord := by
  intro halts
  have runsOn (never : ¬ halts) (clocks : Nat) :=
    portable.runs_on loaded behind bounded
      ((portable.halts_or_runs loaded behind).resolve_left never) clocks
  refine ⟨⟨?_, ?_⟩, ⟨?_, ?_⟩, runsOn, fun clocks state reached =>
    portable.retires_prefix loaded behind bounded reached⟩
  · rintro ⟨clocks, state, run, stopped⟩
    by_contra never
    exact next_ne_none_of_runs (fun clocks => (runsOn never clocks).1) run (if_pos stopped)
  · rintro ⟨k, iss, run, halted⟩
    obtain ⟨state, reached, stopped⟩ :=
      portable.multi_cycle_stops loaded run halted (behind.past run)
    exact ⟨_, state, reached, stopped.stopped⟩
  · rintro ⟨clocks, state, run, stopped⟩
    by_contra never
    exact next_ne_none_of_runs (fun clocks => (runsOn never clocks).2) run (if_pos stopped)
  · rintro ⟨k, iss, run, halted⟩
    obtain ⟨clocks, state, refines, -⟩ :=
      portable.pipeline loaded bounded run halted (behind.past run)
    exact ⟨clocks, state, refines.run, refines.stopped⟩

/-- A multiplier that is its own negation keeps the pipeline running as well. -/
theorem portable_stops_alike_negative :
    ¬ ∃ clocks state, runFor (Pipeline.next Shifts.x86) clocks (Pipeline.afterReset
      (Iss.multiplicationImage (fun _ => 0#32) 3#32 0x80000000#32) .zero) = some state ∧
        state.stopSim = true := by
  have loaded := loaded_multiplication (fun _ => 0#32) 3#32 0x80000000#32
  obtain ⟨-, pipeline, -, -⟩ := portable_stops_alike Shifts.x86 Iss.multiplicationProgram
    (Iss.multiplicationImage (fun _ => 0#32) 3#32 0x80000000#32) .zero portable_multiplication
    loaded (fun _ taken => absurd rfl taken)
    (.of_direct portable_multiplication.toClosed direct_multiplication loaded)
  rw [pipeline]
  rintro ⟨k, iss, run, halted⟩
  exact next_ne_none_of_runs
    (fun steps => Iss.reaches_negative.exists_runFor (runFor_of_return Iss.negative_returns steps))
    run (Iss.next_of_halted halted)

end SimpleProcessor
