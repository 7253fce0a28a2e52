import SimpleProcessor.Dma.Copying

/-!
# Progress of the engine

A transfer needs a known number of clocks of its own, and a hazard clock takes
nothing back: it only renames the state in which the engine waits.  A request
without words never makes a step, because the idle state clears `dma_busy` in
the copy of the registers that the end of the clock overwrites.
-/

namespace SimpleProcessor.Dma

open Transition

universe u

/-- The clocks of its own that the engine needs before it is free. -/
def DmaRegisters.work (regs : DmaRegisters) : Nat :=
  match regs.state with
  | .idle => 2 * regs.len.toNat + 2
  | .readFirst => 2 * regs.len.toNat + 1
  | .doRead => 2 * regs.len.toNat - 1
  | .doWrite | .writeStalled => 2 * regs.len.toNat - 2
  | .stateDo => 2
  | .writeLast => 1

namespace InFlight

variable {request : Request} {written : Nat} {regs : DmaRegisters}

/-- A transfer goes on until the engine is free. -/
theorem next (inFlight : InFlight request written regs) (isDmaHazard : Bool) (dataout : Word) :
    (nextRegs isDmaHazard regs dataout regs).busy = false ∨
      ∃ written', InFlight request written' (nextRegs isDmaHazard regs dataout regs) := by
  cases write : writeTarget (access isDmaHazard regs) with
  | none => exact Or.inr ⟨written, inFlight.next_quiet dataout write⟩
  | some target =>
      obtain ⟨-, continues | ⟨-, free, -⟩⟩ := inFlight.next_write dataout write
      · exact Or.inr ⟨written + 1, continues⟩
      · exact Or.inl free

theorem work_hazard (inFlight : InFlight request written regs) (dataout : Word) :
    (nextRegs true regs dataout regs).work ≤ regs.work := by
  have requested := inFlight.requested
  obtain ⟨busy, src, dst, len, reg, reg2, doDirty, state⟩ := regs
  cases state with
  | idle => simp [nextRegs, requested rfl, DmaRegisters.work]
  | readFirst | doRead | doWrite | writeStalled | writeLast | stateDo =>
      simp [nextRegs, DmaRegisters.work]

/-- A clock of its own brings the engine one step closer to the end. -/
theorem work_free (inFlight : InFlight request written regs) (dataout : Word)
    (busy : (nextRegs false regs dataout regs).busy = true) :
    (nextRegs false regs dataout regs).work < regs.work := by
  have requested := inFlight.requested
  have unfinished := inFlight.unfinished
  have shape := inFlight.shape
  obtain ⟨regsBusy, src, dst, len, reg, reg2, doDirty, state⟩ := regs
  simp only at unfinished
  have fewer := toNat_sub_one unfinished
  have two := eq_ofNat_iff len 2 (by omega)
  cases state with
  | idle => simp [nextRegs, requested rfl, DmaRegisters.work]
  | readFirst =>
      by_cases single : len = 1#32
      · simp [nextRegs, single, DmaRegisters.work]
      · simp only [nextRegs, single, if_false, DmaRegisters.work]
        omega
  | doRead =>
      have long : 2 ≤ len.toNat := shape
      simp only [nextRegs, DmaRegisters.work]
      omega
  | doWrite | writeStalled =>
      have long : 2 ≤ len.toNat := shape.1
      by_cases last : len = 2#32
      · simp [nextRegs, last, DmaRegisters.work]
      · simp only [nextRegs, last, if_false, DmaRegisters.work, fewer]
        rw [two] at last
        omega
  | writeLast => simp [nextRegs] at busy
  | stateDo => simp [nextRegs, DmaRegisters.work]

theorem work_pos (inFlight : InFlight request written regs) : 0 < regs.work := by
  have unfinished := inFlight.unfinished
  have shape := inFlight.shape
  obtain ⟨busy, src, dst, len, reg, reg2, doDirty, state⟩ := regs
  simp only at unfinished
  cases state with
  | idle | readFirst | writeLast | stateDo =>
      simp only [DmaRegisters.work]
      omega
  | doRead =>
      have long : 2 ≤ len.toNat := shape
      simp only [DmaRegisters.work]
      omega
  | doWrite | writeStalled =>
      have long : 2 ≤ len.toNat := shape.1
      simp only [DmaRegisters.work]
      omega

theorem of_started (idle : regs.busy = false → regs.state = .idle) (cpu : CpuClock)
    (dataout : Word)
    (starts : started regs (nextRegs cpu.hazard regs dataout (cpu.load regs)) = some request)
    (words : 0 < request.count) :
    InFlight request 0 (nextRegs cpu.hazard regs dataout (cpu.load regs)) ∧
      (nextRegs cpu.hazard regs dataout (cpu.load regs)).work = 2 * request.count + 2 := by
  rw [started_next idle] at starts
  have free : regs.busy = false := by
    rw [← Bool.not_eq_true]
    intro busy
    simp [CpuClock.accepted, busy] at starts
  have loaded : nextRegs cpu.hazard regs dataout (cpu.load regs) = { regs with
      busy := true, src := request.src, dst := request.dst, len := request.len } := by
    simp [nextRegs, idle free, DmaRegisters.requested, free, CpuClock.load, starts]
  have length : request.count = request.len.toNat := toInt_toNat_eq words
  have inFlight := InFlight.of_loaded
    { regs with busy := true, src := request.src, dst := request.dst, len := request.len }
    rfl (idle free) words
  rw [loaded]
  refine ⟨inFlight, ?_⟩
  simp [DmaRegisters.work, idle free, length]

end InFlight

/-- The engine holds a request that it never starts. -/
structure DmaRegisters.Stuck (regs : DmaRegisters) : Prop where
  busy : regs.busy = true
  idle : regs.state = .idle
  empty : (0#32).slt regs.len = false

namespace DmaRegisters.Stuck

variable {regs : DmaRegisters}

theorem next (stuck : regs.Stuck) (cpu : CpuClock) (dataout : Word) :
    nextRegs cpu.hazard regs dataout (cpu.load regs) = regs := by
  rw [CpuClock.load_of_busy cpu stuck.busy]
  simp [nextRegs, stuck.idle, requested, stuck.empty]

/-- `dma_ctl` leaves the memory and the new registers alone; it releases the old ones. -/
theorem dmaCtl_eq (stuck : regs.Stuck) (isDmaHazard : Bool) (sprn : DmaRegisters)
    (sram : Memory) :
    dmaCtl isDmaHazard ⟨regs, sprn, sram⟩ = .ok ⟨{ regs with busy := false }, sprn, sram⟩ := by
  simp [dmaCtl, stuck.idle, stuck.empty]

theorem of_started (idle : regs.busy = false → regs.state = .idle) (cpu : CpuClock)
    (dataout : Word) {request : Request}
    (starts : started regs (nextRegs cpu.hazard regs dataout (cpu.load regs)) = some request)
    (empty : request.len.toInt ≤ 0) :
    (nextRegs cpu.hazard regs dataout (cpu.load regs)).Stuck := by
  have noWords : (0#32).slt request.len = false := by
    rw [← Bool.not_eq_true, slt_zero_iff]
    omega
  rw [started_next idle] at starts
  cases busy : regs.busy with
  | true => simp [CpuClock.accepted, busy] at starts
  | false =>
      have load : cpu.load regs = { regs with
          busy := true, src := request.src, dst := request.dst, len := request.len } := by
        rw [CpuClock.load, starts]
      have still : nextRegs cpu.hazard regs dataout (cpu.load regs) = cpu.load regs := by
        simp [nextRegs, idle busy, requested, busy]
      rw [still, load]
      exact ⟨rfl, idle busy, noWords⟩

end DmaRegisters.Stuck

section Run

variable {σ : Type u} {next : σ → Option σ} (regs : σ → DmaRegisters) (cpu : σ → CpuClock)

theorem own_clocks_lt (dataout : σ → Word)
    (engine : ∀ state state', next state = some state' →
      regs state' = nextRegs (cpu state).hazard (regs state) (dataout state)
        ((cpu state).load (regs state)))
    {start final : σ} {clocks : Nat} (run : runFor next clocks start = some final)
    {request : Request} {written : Nat} (transfer : InFlight request written (regs start))
    (busy : ∀ visited ∈ past next clocks start, (regs visited).busy = true)
    (goesOn : (regs final).busy = true) :
    (past next clocks start).countP (fun visited => !(cpu visited).hazard) < (regs start).work := by
  induction clocks generalizing start written with
  | zero =>
      cases run
      exact transfer.work_pos
  | succ clocks ih =>
      rw [runFor_succ] at run
      obtain ⟨middle, step, rest⟩ := Option.bind_eq_some_iff.mp run
      rw [past_succ_of_step clocks step, List.forall_mem_cons] at busy
      have clock := engine start middle step
      rw [CpuClock.load_of_busy _ busy.1] at clock
      have still : (regs middle).busy = true := by
        cases clocks with
        | zero =>
            cases rest
            exact goesOn
        | succ clocks => exact busy.2 middle (List.mem_cons_self ..)
      rcases transfer.next (cpu start).hazard (dataout start) with free | ⟨written', inFlight⟩
      · rw [← clock, still] at free
        cases free
      · rw [← clock] at inFlight
        have counted := ih rest inFlight busy.2
        rw [past_succ_of_step clocks step, List.countP_cons]
        cases hazard : (cpu start).hazard with
        | true =>
            have work := transfer.work_hazard (dataout start)
            rw [← hazard, ← clock] at work
            simp only [Bool.not_true, Bool.false_eq_true, if_false]
            omega
        | false =>
            have occupied := still
            rw [clock, hazard] at occupied
            have work := transfer.work_free (dataout start) occupied
            rw [← hazard, ← clock] at work
            simp only [Bool.not_false, if_true]
            omega

/-- In every run from a resting engine, a request without words keeps the engine busy
for the rest of the run. -/
theorem stuck_of_run (dataout : σ → Word)
    (engine : ∀ state state', next state = some state' →
      regs state' = nextRegs (cpu state).hazard (regs state) (dataout state)
        ((cpu state).load (regs state)))
    {start state accepted final : σ} (free : (regs start).busy = false)
    (idle : (regs start).state = .idle) {clocks later : Nat}
    (run : runFor next clocks start = some state) {request : Request}
    (starts : startedIn regs next state = some request) (empty : request.len.toInt ≤ 0)
    (step : next state = some accepted) (rest : runFor next later accepted = some final) :
    (regs final).Stuck := by
  have ledger := ledger_of_run dataout engine free idle run
  refine runFor_invariant (motive := fun state => (regs state).Stuck) ?_ ?_ rest
  · rw [startedIn, step, Option.bind_some, engine state accepted step] at starts
    rw [engine state accepted step]
    exact .of_started (fun free => (ledger.free free).1) _ _ starts empty
  · intro state state' stuck step
    rw [engine state state' step, stuck.next]
    exact stuck

end Run

end SimpleProcessor.Dma
