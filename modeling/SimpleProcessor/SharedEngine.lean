import SimpleProcessor.MultiCycle.Handshake
import SimpleProcessor.Pipeline.DmaRequests
import SimpleProcessor.Dma.Progress

/-!
# The engine in both processors

The hazard test of `dma_ctl` covers exactly the clocks in which the CPU uses the
shared port, so the assertions of the memory port never fire, in any state of
either processor.

The idle state of `dma_ctl` is meant to release a request whose length is not
positive, but it clears the flag in the old registers, and `llsim_run_clock`
copies the new ones over them.  In both processors such a request keeps the
engine busy for the rest of the run.
-/

namespace SimpleProcessor

open Transition Dma

/-- The assertions about more than one access to a memory in a clock. -/
def Fault.isPortConflict : Fault → Bool
  | .multipleWrites | .multipleReads | .simultaneousAccess => true
  | .readOutOfRange | .writeOutOfRange | .unsupportedBits | .outOfBounds => false

theorem Memory.serve_announced_fault {memory : Memory} {access : Option Access} {fault : Fault}
    (failed : (memory.announced access).serve = .error fault) :
    fault.isPortConflict = false := by
  rcases Memory.serve_fault (memory.announced_exclusive access) failed with rfl | rfl | rfl <;>
    rfl

theorem MultiCycle.llsimRunClock_fault {shifts : Shifts} {state : State} {fault : Fault}
    (failed : llsimRunClock shifts false state = .error fault) :
    fault.isPortConflict = false := by
  rw [llsimRunClock_served, ← Checked.bind_ok_eq_map, Checked.bind_eq_error] at failed
  rcases failed with notServed | ⟨sram, -, contradictory⟩
  · exact Memory.serve_announced_fault notServed
  · cases contradictory

theorem Pipeline.llsimRunClock_fault {shifts : Shifts} {state : State} {fault : Fault}
    (failed : llsimRunClock shifts false state = .error fault) :
    fault.isPortConflict = false := by
  rw [llsimRunClock_served] at failed
  split at failed
  next =>
    cases failed
    rfl
  next =>
    simp only [Checked.bind_eq_error] at failed
    rcases failed with notServed | ⟨sramd, -, notServed | ⟨srami, -, contradictory⟩⟩
    · exact Memory.serve_announced_fault notServed
    · exact Memory.serve_announced_fault notServed
    · cases contradictory

/-- Both processors keep to one access per memory and clock, in every state and
so in every run. -/
theorem port_exclusion (shifts : Shifts) :
    (∀ state : MultiCycle.State,
      (∀ fault, MultiCycle.llsimRunClock shifts false state = .error fault →
        fault.isPortConflict = false) ∧
      ∀ sp, MultiCycle.spRun shifts false { state with sprn := state.spro } = .ok sp →
        ¬ (sp.sram.read = true ∧ sp.sram.write = true)) ∧
    (∀ state : Pipeline.State,
      (∀ fault, Pipeline.llsimRunClock shifts false state = .error fault →
        fault.isPortConflict = false) ∧
      ∀ sp, Pipeline.spRun shifts false { state with sprn := state.spro } = .ok sp →
        ¬ (sp.srami.read = true ∧ sp.srami.write = true) ∧
        ¬ (sp.sramd.read = true ∧ sp.sramd.write = true)) := by
  refine ⟨fun state => ⟨fun fault failed => MultiCycle.llsimRunClock_fault failed, ?_⟩,
    fun state => ⟨fun fault failed => Pipeline.llsimRunClock_fault failed, ?_⟩⟩
  · intro sp run
    rw [MultiCycle.spRun_eq] at run
    cases run
    exact Memory.announced_exclusive _ _
  · intro sp run
    rw [Pipeline.spRun_eq] at run
    split at run
    next => cases run
    next =>
      cases run
      exact ⟨Memory.announced_exclusive _ _, Memory.announced_exclusive _ _⟩

theorem MultiCycle.stuck_of_empty {shifts : Shifts} {image : Image} {clocks later : Nat}
    {state accepted final : MultiCycle.State} {request : Request}
    (run : runFor (MultiCycle.next shifts) clocks (MultiCycle.afterReset image) = some state)
    (starts : state.startedRequest shifts = some request) (empty : request.len.toInt ≤ 0)
    (step : MultiCycle.next shifts state = some accepted)
    (rest : runFor (MultiCycle.next shifts) later accepted = some final) :
    final.spro.dma.Stuck := by
  refine stuck_of_run (fun state : MultiCycle.State => state.spro.dma)
    MultiCycle.State.cpuClock (fun state => state.sram.dataout) ?_ rfl rfl run starts empty
    step rest
  intro state state' step
  obtain ⟨-, -, rfl⟩ := MultiCycle.next_eq_some.mp step
  rfl

theorem Pipeline.stuck_of_empty {shifts : Shifts} {image : Image} {btb : Pipeline.Btb}
    {clocks later : Nat} {state accepted final : Pipeline.State} {request : Request}
    (run : runFor (Pipeline.next shifts) clocks (Pipeline.afterReset image btb) = some state)
    (starts : state.startedRequest shifts = some request) (empty : request.len.toInt ≤ 0)
    (step : Pipeline.next shifts state = some accepted)
    (rest : runFor (Pipeline.next shifts) later accepted = some final) :
    final.spro.dma.Stuck := by
  refine stuck_of_run (fun state : Pipeline.State => state.spro.dma)
    (fun state => state.spro.cpuClock) (fun state => state.sramd.dataout) ?_ rfl rfl run starts
    empty step rest
  intro state state' step
  obtain ⟨-, -, -, -, rfl⟩ := Pipeline.next_eq_some.mp step
  rfl

theorem Dma.startedIn_of_busy {σ : Type} {regs : σ → DmaRegisters} {next : σ → Option σ}
    {state : σ} (busy : (regs state).busy = true) : startedIn regs next state = none := by
  rw [startedIn]
  cases next state <;> simp [started, busy]

/-- A request without words makes no access and is never released: no later DMA
instruction is accepted and, in the multi-cycle processor, no DMP takes its branch. -/
theorem empty_requests_kept (shifts : Shifts) (image : Image) (btb : Pipeline.Btb) :
    (∀ clocks state request accepted,
      runFor (MultiCycle.next shifts) clocks (MultiCycle.afterReset image) = some state →
      state.startedRequest shifts = some request → request.len.toInt ≤ 0 →
      MultiCycle.next shifts state = some accepted →
      ∀ later final, runFor (MultiCycle.next shifts) later accepted = some final →
        (∀ sprn sram, dmaCtl (MultiCycle.dmaHazard final.spro) ⟨final.spro.dma, sprn, sram⟩ =
          .ok ⟨{ final.spro.dma with busy := false }, sprn, sram⟩) ∧
        final.spro.dma.busy = true ∧
        final.startedRequest shifts = none ∧
        (final.spro.ctlState = .exec0 → final.spro.opcode = .dmp →
          ∀ polled, MultiCycle.next shifts final = some polled → polled.spro.aluout = 0#32)) ∧
    (∀ clocks state request accepted,
      runFor (Pipeline.next shifts) clocks (Pipeline.afterReset image btb) = some state →
      state.startedRequest shifts = some request → request.len.toInt ≤ 0 →
      Pipeline.next shifts state = some accepted →
      ∀ later final, runFor (Pipeline.next shifts) later accepted = some final →
        (∀ sprn sram, dmaCtl (Pipeline.isDmaHazard final.spro) ⟨final.spro.dma, sprn, sram⟩ =
          .ok ⟨{ final.spro.dma with busy := false }, sprn, sram⟩) ∧
        final.spro.dma.busy = true ∧
        final.startedRequest shifts = none) := by
  constructor
  · intro clocks state request accepted run starts empty step later final rest
    have stuck := MultiCycle.stuck_of_empty run starts empty step rest
    refine ⟨fun sprn sram => stuck.dmaCtl_eq _ sprn sram, stuck.busy,
      startedIn_of_busy stuck.busy, ?_⟩
    intro exec0 dmp polled poll
    have taken_iff := MultiCycle.dmp_taken_iff exec0 dmp poll
    rw [stuck.busy] at taken_iff
    simpa using taken_iff
  · intro clocks state request accepted run starts empty step later final rest
    have stuck := Pipeline.stuck_of_empty run starts empty step rest
    exact ⟨fun sprn sram => stuck.dmaCtl_eq _ sprn sram, stuck.busy,
      startedIn_of_busy stuck.busy⟩

/-- In a memory full of DMA instructions of length zero the first one blocks the engine. -/
theorem empty_requests_kept_zero :
    ∃ state accepted,
      runFor (MultiCycle.next Shifts.x86) 6 (MultiCycle.afterReset fun _ => 0x14010000#32) =
        some state ∧
      MultiCycle.next Shifts.x86 state = some accepted ∧
      ∀ later final, runFor (MultiCycle.next Shifts.x86) later accepted = some final →
        final.spro.dma.busy = true := by
  obtain ⟨multiCycle, -⟩ := empty_requests_kept Shifts.x86 (fun _ => 0x14010000#32) .zero
  refine ⟨_, _, rfl, rfl, ?_⟩
  intro later final rest
  exact (multiCycle 6 _ ⟨0#32, 0#32, 0#32⟩ _ rfl rfl (by decide) rfl later final rest).2.1

/-- The same memory in both processors: the request of length zero is accepted, and
`dma_busy` is one in every later state. -/
theorem empty_request_never_released :
    ((runFor (MultiCycle.next Shifts.x86) 30
        (MultiCycle.afterReset fun _ => 0x14010000#32)).isSome = true ∧
      ∃ state accepted,
        runFor (MultiCycle.next Shifts.x86) 6 (MultiCycle.afterReset fun _ => 0x14010000#32) =
          some state ∧
        state.startedRequest Shifts.x86 = some ⟨0#32, 0#32, 0#32⟩ ∧
        MultiCycle.next Shifts.x86 state = some accepted ∧
        ¬ ∃ later final, runFor (MultiCycle.next Shifts.x86) later accepted = some final ∧
          final.spro.dma.busy = false) ∧
    ((runFor (Pipeline.next Shifts.x86) 30
        (Pipeline.afterReset (fun _ => 0x14010000#32) .zero)).isSome = true ∧
      ∃ state accepted,
        runFor (Pipeline.next Shifts.x86) 6
          (Pipeline.afterReset (fun _ => 0x14010000#32) .zero) = some state ∧
        state.startedRequest Shifts.x86 = some ⟨0#32, 0#32, 0#32⟩ ∧
        Pipeline.next Shifts.x86 state = some accepted ∧
        ¬ ∃ later final, runFor (Pipeline.next Shifts.x86) later accepted = some final ∧
          final.spro.dma.busy = false) := by
  constructor
  · have reached : (runFor (MultiCycle.next Shifts.x86) 6
        (MultiCycle.afterReset fun _ => 0x14010000#32)).map (fun state =>
          (state.startedRequest Shifts.x86, (MultiCycle.next Shifts.x86 state).isSome)) =
        some (some ⟨0#32, 0#32, 0#32⟩, true) := by decide +kernel
    obtain ⟨state, run, here⟩ := Option.map_eq_some_iff.mp reached
    obtain ⟨starts, steps⟩ := Prod.mk.inj here
    obtain ⟨accepted, step⟩ := Option.isSome_iff_exists.mp steps
    refine ⟨by decide +kernel, state, accepted, run, starts, step, ?_⟩
    rintro ⟨later, final, rest, free⟩
    have stuck := MultiCycle.stuck_of_empty run starts (by decide) step rest
    rw [stuck.busy] at free
    contradiction
  · have reached : (runFor (Pipeline.next Shifts.x86) 6
        (Pipeline.afterReset (fun _ => 0x14010000#32) .zero)).map (fun state =>
          (state.startedRequest Shifts.x86, (Pipeline.next Shifts.x86 state).isSome)) =
        some (some ⟨0#32, 0#32, 0#32⟩, true) := by decide +kernel
    obtain ⟨state, run, here⟩ := Option.map_eq_some_iff.mp reached
    obtain ⟨starts, steps⟩ := Prod.mk.inj here
    obtain ⟨accepted, step⟩ := Option.isSome_iff_exists.mp steps
    refine ⟨by decide +kernel, state, accepted, run, starts, step, ?_⟩
    rintro ⟨later, final, rest, free⟩
    have stuck := Pipeline.stuck_of_empty run starts (by decide) step rest
    rw [stuck.busy] at free
    contradiction

end SimpleProcessor
