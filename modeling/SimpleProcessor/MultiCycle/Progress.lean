import SimpleProcessor.MultiCycle.Handshake
import SimpleProcessor.Dma.Progress

/-!
# The engine makes progress beside the CPU

The CPU takes the memory port in FETCH0, in EXEC0 of a load and in EXEC1 of a
store, and so for two clocks in a row only when a store is followed by the next
fetch.  `claims` counts the hazard clocks directly ahead; it falls in each of
them and rises by at most one in a clock that is left to the engine.
-/

namespace SimpleProcessor.MultiCycle

open Transition Dma

/-- The hazard clocks directly ahead, and one for the EXEC0 of a store. -/
def CpuRegisters.claims (cpu : CpuRegisters) : Nat :=
  match cpu.ctlState with
  | .fetch0 => 1
  | .exec0 => if cpu.opcode = .ld ∨ cpu.opcode = .st then 1 else 0
  | .exec1 => if cpu.opcode = .st then 2 else 0
  | .idle | .fetch1 | .dec0 | .dec1 => 0

/-- The engine is at work and the CPU has the memory port. -/
def State.blocked (state : State) : Bool := state.spro.dma.busy && dmaHazard state.spro

section Clock

variable {shifts : Shifts} {state state' : State}

theorem claims_le (cpu : CpuRegisters) : cpu.claims ≤ 2 := by
  cases ctlState : cpu.ctlState with
  | idle | fetch0 | fetch1 | dec0 | dec1 => simp [CpuRegisters.claims, ctlState]
  | exec0 =>
      simp only [CpuRegisters.claims, ctlState]
      split <;> omega
  | exec1 =>
      simp only [CpuRegisters.claims, ctlState]
      split <;> omega

theorem claims_of_hazard (hazard : dmaHazard state.spro = true)
    (step : next shifts state = some state') :
    state'.spro.claims < state.spro.claims := by
  obtain ⟨-, -, rfl⟩ := next_eq_some.mp step
  simp only [dmaHazard, Bool.or_eq_true, Bool.and_eq_true, decide_eq_true_eq] at hazard
  rcases hazard with (fetch0 | ⟨exec0, load⟩) | ⟨exec1, store⟩
  · simp [CpuRegisters.claims, State.after, nextCpu, fetch0]
  · simp [CpuRegisters.claims, State.after, nextCpu, exec0, load]
  · by_cases idles : state.spro.inst = HLT <;>
      simp [CpuRegisters.claims, State.after, nextCpu, exec1, store, idles]

theorem claims_of_free (free : dmaHazard state.spro = false)
    (step : next shifts state = some state') :
    state'.spro.claims ≤ state.spro.claims + 1 := by
  obtain ⟨-, -, rfl⟩ := next_eq_some.mp step
  cases ctlState : state.spro.ctlState with
  | idle =>
      cases start : state.start <;>
        simp [CpuRegisters.claims, State.after, nextCpu, ctlState, start]
  | fetch0 => simp [dmaHazard, ctlState] at free
  | fetch1 | dec0 => simp [CpuRegisters.claims, State.after, nextCpu, ctlState]
  | dec1 =>
      simp only [CpuRegisters.claims, State.after, nextCpu, ctlState]
      split <;> omega
  | exec0 =>
      by_cases store : state.spro.opcode = .st <;>
        simp [CpuRegisters.claims, State.after, nextCpu, ctlState, store]
  | exec1 =>
      by_cases idles : state.spro.inst = HLT <;>
        simp [CpuRegisters.claims, State.after, nextCpu, ctlState, idles]

/-- The CPU has the memory port in at most two consecutive clocks. -/
theorem not_blocked_thrice {second third : State} (step : next shifts state = some second)
    (step' : next shifts second = some third) :
    ¬ (state.blocked = true ∧ second.blocked = true ∧ third.blocked = true) := by
  simp only [State.blocked, Bool.and_eq_true]
  rintro ⟨⟨-, first⟩, ⟨-, again⟩, -, still⟩
  have bound := claims_le state.spro.toCpuRegisters
  have fewer := claims_of_hazard first step
  have fewest := claims_of_hazard again step'
  have claim : 0 < third.spro.claims := by
    simp only [dmaHazard, Bool.or_eq_true, Bool.and_eq_true, decide_eq_true_eq] at still
    rcases still with (fetch0 | ⟨exec0, load⟩) | ⟨exec1, store⟩
    · simp [CpuRegisters.claims, fetch0]
    · simp [CpuRegisters.claims, exec0, load]
    · simp [CpuRegisters.claims, exec1, store]
  omega

/-- The engine's work, counted twice for the clocks that the CPU may take from it. -/
def State.distance (state : State) : Nat := 2 * state.spro.dma.work + state.spro.claims

/-- Every clock of a transfer ends it or brings its end closer. -/
theorem distance_next (transfer : ∃ request written, InFlight request written state.spro.dma)
    (step : next shifts state = some state') :
    state'.spro.dma.busy = false ∨
      (∃ request written, InFlight request written state'.spro.dma) ∧
        state'.distance < state.distance := by
  obtain ⟨request, written, inFlight⟩ := transfer
  have dma : state'.spro.dma =
      nextRegs (dmaHazard state.spro) state.spro.dma state.sram.dataout state.spro.dma := by
    obtain ⟨-, -, rfl⟩ := next_eq_some.mp step
    have load := CpuClock.load_of_busy state.cpuClock inFlight.busy
    simp only [State.after, load]
    rfl
  rcases inFlight.next (dmaHazard state.spro) state.sram.dataout with free | ⟨written', goesOn⟩
  · left
    rw [dma]
    exact free
  · right
    rw [← dma] at goesOn
    refine ⟨⟨request, written', goesOn⟩, ?_⟩
    cases hazard : dmaHazard state.spro with
    | true =>
        have work := inFlight.work_hazard state.sram.dataout
        have claims := claims_of_hazard hazard step
        rw [← hazard, ← dma] at work
        simp only [State.distance]
        omega
    | false =>
        have busy := goesOn.busy
        rw [dma, hazard] at busy
        have work := inFlight.work_free state.sram.dataout busy
        have claims := claims_of_free hazard step
        rw [← hazard, ← dma] at work
        simp only [State.distance]
        omega

end Clock

theorem loaded_transfer (shifts : Shifts) {state : State} (rest : state.spro.dma.AtRest)
    {request : Request} (offered : dmaRequest state.spro.toCpuRegisters = some request)
    (words : 0 < request.count) :
    (state.after shifts).spro.dma.state = .idle ∧
      InFlight request 0 (state.after shifts).spro.dma ∧
      (state.after shifts).distance ≤ 4 * request.count + 5 := by
  have accepts : state.cpuClock.accepted state.spro.dma = some request := by
    simpa [CpuClock.accepted, rest.free, State.cpuClock] using offered
  have loaded : (state.after shifts).spro.dma = { state.spro.dma with
      busy := true, src := request.src, dst := request.dst, len := request.len } := by
    simp [State.after, nextRegs, rest.idle, DmaRegisters.requested, rest.free, CpuClock.load,
      accepts]
  have inFlight := InFlight.of_loaded (state.after shifts).spro.dma (by rw [loaded])
    (by rw [loaded]; exact rest.idle) (by rw [loaded]; exact words)
  rw [loaded] at inFlight ⊢
  refine ⟨rest.idle, inFlight, ?_⟩
  have executed : state.spro.ctlState = .exec1 ∧ state.spro.opcode = .dma := by
    rw [dmaRequest] at offered
    split at offered
    next executed => exact executed
    next => contradiction
  have claims : (state.after shifts).spro.claims ≤ 1 := by
    by_cases idles : state.spro.inst = HLT <;>
      simp [CpuRegisters.claims, State.after, nextCpu, executed, idles]
  have length : request.count = request.len.toNat := toInt_toNat_eq words
  have work : (state.after shifts).spro.dma.work = 2 * request.count + 2 := by
    rw [loaded, length]
    simp [DmaRegisters.work, rest.idle]
  rw [State.distance, work]
  omega

theorem accepted_distance {shifts : Shifts} {image : Image} {clocks : Nat}
    {state accepted : State} (run : runFor (next shifts) clocks (afterReset image) = some state)
    {request : Request} (starts : state.startedRequest shifts = some request)
    (words : 0 < request.count) (step : next shifts state = some accepted) :
    (∃ request written, InFlight request written accepted.spro.dma) ∧
      accepted.distance ≤ 4 * request.count + 5 := by
  have idle : state.spro.dma.busy = false → state.spro.dma.state = .idle := fun free =>
    ((ledger_of_run run).free free).1
  rw [State.startedRequest, startedIn, step, Option.bind_some] at starts
  obtain ⟨-, -, rfl⟩ := next_eq_some.mp step
  have accepts : state.cpuClock.accepted state.spro.dma = some request := by
    rw [← starts]
    exact (started_next idle state.cpuClock state.sram.dataout).symm
  have free : state.spro.dma.busy = false := by
    rw [← Bool.not_eq_true]
    intro busy
    simp [CpuClock.accepted, busy] at accepts
  have offered : dmaRequest state.spro.toCpuRegisters = some request := by
    simpa [CpuClock.accepted, free, State.cpuClock] using accepts
  obtain ⟨-, inFlight, distance⟩ := loaded_transfer shifts ⟨free, idle free⟩ offered words
  exact ⟨⟨request, 0, inFlight⟩, distance⟩

/-- The engine waits for the CPU at most two clocks in a row, and a transfer of n words
is over 6 n + 4 clocks after the clock that has accepted it. -/
theorem transfer_ends (shifts : Shifts) (image : Image) (clocks : Nat) (state : State)
    (run : runFor (next shifts) clocks (afterReset image) = some state) :
    (∀ second third, next shifts state = some second → next shifts second = some third →
      ¬ (state.blocked = true ∧ second.blocked = true ∧ third.blocked = true)) ∧
    ∀ request accepted, state.startedRequest shifts = some request → 1 ≤ request.len.toInt →
      next shifts state = some accepted →
      ∃ later ≤ 6 * request.len.toInt.toNat + 4,
        runFor (next shifts) later accepted = none ∨
        ∃ final, runFor (next shifts) later accepted = some final ∧
          final.spro.dma.busy = false := by
  constructor
  · intro second third step step'
    exact not_blocked_thrice step step'
  · intro request accepted starts words step
    have positive : 0 < request.count := by
      simp only [Request.count]
      omega
    obtain ⟨transfer, distance⟩ := accepted_distance run starts positive step
    obtain ⟨later, bound, outcome⟩ := reaches_of_measure
      (fun state : State => ∃ request written, InFlight request written state.spro.dma)
      (fun state : State => state.spro.dma.busy = false)
      State.distance (fun state state' => distance_next) transfer
    refine ⟨later, ?_, outcome⟩
    simp only [Request.count] at positive distance
    omega

/-- A memory full of DMA instructions that copy one word. -/
theorem transfer_ends_one :
    ∃ state accepted,
      runFor (next Shifts.x86) 6 (afterReset fun _ => 0x14010001#32) = some state ∧
      next Shifts.x86 state = some accepted ∧ accepted.spro.dma.busy = true ∧
      ∃ later ≤ 10, runFor (next Shifts.x86) later accepted = none ∨
        ∃ final, runFor (next Shifts.x86) later accepted = some final ∧
          final.spro.dma.busy = false := by
  obtain ⟨-, ends⟩ := transfer_ends Shifts.x86 (fun _ => 0x14010001#32) 6 _ rfl
  exact ⟨_, _, rfl, rfl, rfl, ends ⟨0#32, 0#32, 1#32⟩ _ rfl (by decide) rfl⟩

end SimpleProcessor.MultiCycle
