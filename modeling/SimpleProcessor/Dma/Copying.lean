import SimpleProcessor.Dma.Ledger
import SimpleProcessor.Lib.ReadAhead
import SimpleProcessor.Lib.Transition

/-!
# A transfer copies its range

The engine refines the read-ahead copier: the words read and not yet written
are the word in `dma_reg`, the word parked in `dma_reg2` and the word that is
valid on the memory bus, depending on the state.  Hazard clocks may come in any
pattern; they move words between these places and never change the queue.

Both processors drive the engine in the same way, so that the clocks of any of their
runs are a run of the engine and its memory, and keep a ledger.
-/

namespace SimpleProcessor.Dma

open ReadAhead (Copy Correct Ranges)

/-- The engine's words in order, given the word on the memory bus. -/
def DmaRegisters.queue (regs : DmaRegisters) (dataout : Word) : List Word :=
  match regs.state with
  | .idle | .readFirst => []
  | .doRead => [if regs.doDirty then dataout else regs.reg]
  | .doWrite => [regs.reg, dataout]
  | .writeStalled => [regs.reg, regs.reg2]
  | .writeLast => [regs.reg]
  | .stateDo => [dataout]

@[simp] theorem DmaRegisters.length_queue (regs : DmaRegisters) (dataout : Word) :
    (regs.queue dataout).length = regs.state.queued := by
  unfold queue DmaState.queued
  cases regs.state <;> rfl

namespace InFlight

variable {request : Request} {written : Nat} {regs : DmaRegisters}

theorem queue_of_none (inFlight : InFlight request written regs) {isDmaHazard : Bool}
    (quiet : access isDmaHazard regs = none) (dataout dataout' : Word) :
    (nextRegs isDmaHazard regs dataout regs).queue dataout' = regs.queue dataout := by
  have requested := inFlight.requested
  obtain ⟨busy, src, dst, len, reg, reg2, doDirty, state⟩ := regs
  cases state with
  | idle => simp [nextRegs, requested rfl, DmaRegisters.queue]
  | readFirst | doRead | doWrite | writeStalled | writeLast | stateDo =>
      cases isDmaHazard <;> simp_all [access, nextRegs, DmaRegisters.queue]

theorem queue_of_read (inFlight : InFlight request written regs) {isDmaHazard : Bool}
    {addr : Word} (read : access isDmaHazard regs = some (.read addr))
    (dataout dataout' : Word) :
    addr.address = request.src.address +
        BitVec.ofNat 16 (written + regs.state.queued) ∧
      written + regs.state.queued < request.count ∧
      (nextRegs isDmaHazard regs dataout regs).queue dataout' =
        regs.queue dataout ++ [dataout'] := by
  have source := congrArg Word.address inFlight.src
  rw [address_add_ofNat] at source
  have remaining := inFlight.remaining
  have unfinished := inFlight.unfinished
  have shape := inFlight.shape
  obtain ⟨busy, src, dst, len, reg, reg2, doDirty, state⟩ := regs
  cases isDmaHazard with
  | true => simp at read
  | false =>
      cases state with
      | idle | doWrite | writeStalled | writeLast | stateDo => simp [access] at read
      | readFirst =>
          refine ⟨?_, ?_, ?_⟩
          · rw [← source]
            simpa [access] using congrArg Word.address (Access.read.inj (Option.some.inj read)).symm
          · simp only [DmaState.queued]
            simp only at remaining unfinished
            omega
          · by_cases single : len = 1#32 <;>
              simp [nextRegs, single, DmaRegisters.queue]
      | doRead =>
          refine ⟨?_, ?_, ?_⟩
          · rw [← source]
            simpa [access] using congrArg Word.address (Access.read.inj (Option.some.inj read)).symm
          · simp only [DmaRegisters.Shape] at shape
            simp only [DmaState.queued]
            simp only at remaining
            omega
          · simp [nextRegs, DmaRegisters.queue]

/-- A write takes the head of the queue to the next target, and either two words
were queued or every word has been read. -/
theorem queue_of_write (inFlight : InFlight request written regs) {isDmaHazard : Bool}
    {addr value : Word} (write : access isDmaHazard regs = some (.write addr value))
    (dataout dataout' : Word) :
    regs.queue dataout =
        value :: (nextRegs isDmaHazard regs dataout regs).queue dataout' ∧
      (written + regs.state.queued = request.count ∨
        written + 2 ≤ written + regs.state.queued) := by
  have remaining := inFlight.remaining
  have shape := inFlight.shape
  obtain ⟨busy, src, dst, len, reg, reg2, doDirty, state⟩ := regs
  cases isDmaHazard with
  | true => simp at write
  | false =>
      cases state with
      | idle | readFirst | doRead | stateDo => simp [access] at write
      | doWrite | writeStalled =>
          simp only [DmaRegisters.Shape] at shape
          obtain ⟨-, rfl⟩ := (by simpa [access] using write :
            Word.ofAddress dst.address = addr ∧ reg = value)
          refine ⟨?_, Or.inr (by simp [DmaState.queued])⟩
          by_cases last : len = 2#32 <;>
            simp [nextRegs, last, shape.2, DmaRegisters.queue]
      | writeLast =>
          simp only [DmaRegisters.Shape] at shape
          obtain ⟨-, rfl⟩ := (by simpa [access] using write :
            Word.ofAddress dst.address = addr ∧ reg = value)
          refine ⟨rfl, Or.inl ?_⟩
          simp only [DmaState.queued]
          simp only at remaining
          omega

end InFlight

namespace Request

/-- The addresses read, by position. -/
def source (request : Request) (i : Nat) : Address :=
  request.src.address + BitVec.ofNat 16 i

/-- The addresses written, by position. -/
def target (request : Request) (i : Nat) : Address :=
  request.dst.address + BitVec.ofNat 16 i

end Request

/-- The CPU's store in a clock, applied to a memory. -/
def CpuClock.stores (cpu : CpuClock) (image : Image) : Image :=
  match cpu.access with
  | some (.write addr value) => Function.update image addr.address value
  | _ => image

/-- The CPU stores to neither range of a request. -/
def CpuClock.Avoids (cpu : CpuClock) (request : Request) : Prop :=
  ∀ addr value, cpu.access = some (.write addr value) →
    ∀ i, i < request.count →
      addr.address ≠ request.source i ∧ addr.address ≠ request.target i

/-- The copier that an engine and its memory stand for. -/
def System.copier (system : System) (written : Nat) : Copy Address Word where
  mem := system.sram.data
  written := written
  queue := system.dma.queue system.sram.dataout

/-- The words copied so far, relative to the memory when the request was
accepted and to the memory with the CPU's stores alone. -/
abbrev Request.Copied (request : Request) (original others : Image)
    (copy : Copy Address Word) : Prop :=
  Correct request.source request.target request.count original others copy

section Step

variable {request : Request} {written : Nat} {original others : Image}
variable {cpu : CpuClock} {system result : System}

private theorem copied_of_hazard (inFlight : InFlight request written system.dma)
    (copied : request.Copied original others (system.copier written))
    (avoids : cpu.Avoids request) :
    request.Copied original (cpu.stores others)
      (System.copier ⟨nextRegs true system.dma system.sram.dataout system.dma,
        system.sram.after cpu.access⟩ written) := by
  have queue := inFlight.queue_of_none (access_hazard system.dma) system.sram.dataout
    (system.sram.after cpu.access).dataout
  simp only [System.copier, queue, Memory.after_data, CpuClock.stores]
  cases made : cpu.access with
  | none => exact copied
  | some made' =>
      cases made' with
      | read addr => exact copied
      | write addr value => exact copied.store value (avoids addr value made)

private theorem copied_of_turn (ranges : Ranges request.source request.target request.count)
    (inFlight : InFlight request written system.dma)
    (copied : request.Copied original others (system.copier written)) :
    let next : System := ⟨nextRegs false system.dma system.sram.dataout system.dma,
      system.sram.after (access false system.dma)⟩
    (InFlight request written next.dma ∧
        request.Copied original others (next.copier written)) ∨
      ((InFlight request (written + 1) next.dma ∨
          (written + 1 = request.count ∧ next.dma.state = .idle)) ∧
        request.Copied original others (next.copier (written + 1))) := by
  intro next
  have fetched : (system.copier written).fetched = written + system.dma.state.queued := by
    simp [Copy.fetched, System.copier]
  cases made : access false system.dma with
  | none =>
      have quiet : writeTarget (access false system.dma) = none := by rw [made]; rfl
      refine Or.inl ⟨inFlight.next_quiet _ quiet, ?_⟩
      simp only [System.copier, next, made, Memory.after_data,
        inFlight.queue_of_none made]
      exact copied
  | some made' =>
      cases made' with
      | read addr =>
          have quiet : writeTarget (access false system.dma) = none := by rw [made]; rfl
          obtain ⟨source, more, queue⟩ := inFlight.queue_of_read made system.sram.dataout
            (system.sram.data addr.address)
          refine Or.inl ⟨inFlight.next_quiet _ quiet, ?_⟩
          have read := copied.read (by rw [fetched]; exact more)
          simp only [Copy.read, fetched, Request.source, ← source] at read
          simp only [System.copier, next, made, Memory.after_data,
            Memory.after_read_dataout, queue]
          exact read
      | write addr value =>
          have write : writeTarget (access false system.dma) = some addr.address := by
            rw [made]
            rfl
          obtain ⟨target, outcome⟩ := inFlight.next_write system.sram.dataout write
          obtain ⟨queue, ahead⟩ := inFlight.queue_of_write made system.sram.dataout
            (system.sram.after (some (.write addr value))).dataout
          refine Or.inr ⟨outcome.imp_right fun finished => ⟨finished.1, finished.2.2⟩, ?_⟩
          have wrote := copied.write ranges queue (by rw [fetched]; exact ahead)
          simp only [System.copier, next, made, Memory.after_data, target]
          exact wrote

/-- One clock of a transfer: it goes on, or its last word has been written. -/
theorem copied_next (ranges : Ranges request.source request.target request.count)
    (inFlight : InFlight request written system.dma)
    (copied : request.Copied original others (system.copier written))
    (timed : cpu.WellTimed) (avoids : cpu.Avoids request)
    (step : clock cpu system = .ok result) :
    (∃ written', InFlight request written' result.dma ∧
        request.Copied original (cpu.stores others) (result.copier written')) ∨
      (result.dma.state = .idle ∧
        request.Copied original (cpu.stores others) (result.copier request.count)) := by
  obtain ⟨-, rfl⟩ := (clock_eq_ok timed).mp step
  rw [cpu.load_of_busy inFlight.busy]
  cases hazard : cpu.hazard with
  | true =>
      exact Or.inl ⟨written, inFlight.next_quiet _ (by simp [writeTarget]),
        copied_of_hazard inFlight copied avoids⟩
  | false =>
      have noStore : cpu.stores others = others := by
        simp [CpuClock.stores, timed hazard]
      rw [noStore]
      rcases copied_of_turn ranges inFlight copied with ⟨goesOn, correct⟩ | ⟨outcome, correct⟩
      · exact Or.inl ⟨written, goesOn, correct⟩
      · rcases outcome with goesOn | ⟨last, idle⟩
        · exact Or.inl ⟨written + 1, goesOn, correct⟩
        · exact Or.inr ⟨idle, last ▸ correct⟩

end Step

/-! ## Whole transfers -/

/-- The engine and its memory after a sequence of clocks. -/
def runClocks : List CpuClock → System → Checked System
  | [], system => .ok system
  | cpu :: rest, system => do
      let system ← clock cpu system
      runClocks rest system

/-- The CPU's stores of a sequence of clocks, applied to a memory. -/
def cpuStores (clocks : List CpuClock) (image : Image) : Image :=
  clocks.foldl (fun image cpu => cpu.stores image) image

theorem InFlight.not_idle {request : Request} {written written' : Nat}
    {regs : DmaRegisters} {isDmaHazard : Bool} {dataout : Word}
    (inFlight : InFlight request written regs)
    (goesOn : InFlight request written' (nextRegs isDmaHazard regs dataout regs)) :
    (nextRegs isDmaHazard regs dataout regs).state ≠ .idle := by
  have requested := inFlight.requested
  have busy := goesOn.busy
  obtain ⟨regsBusy, src, dst, len, reg, reg2, doDirty, state⟩ := regs
  cases state with
  | idle => simp [nextRegs, requested rfl]
  | readFirst | doRead | doWrite | writeStalled | writeLast | stateDo =>
      cases isDmaHazard <;> simp_all [nextRegs] <;> split <;> simp

/-- The first return to the idle state comes with every word copied. -/
theorem copied_at_return {request : Request} {original : Image}
    (ranges : Ranges request.source request.target request.count)
    (clocks : List CpuClock) :
    ∀ {written : Nat} {others : Image} {start final : System},
      (∀ cpu ∈ clocks, cpu.WellTimed ∧ cpu.Avoids request) →
      InFlight request written start.dma →
      request.Copied original others (start.copier written) →
      (∀ k, 0 < k → k < clocks.length → ∀ middle,
        runClocks (clocks.take k) start = .ok middle → middle.dma.state ≠ .idle) →
      clocks ≠ [] → runClocks clocks start = .ok final → final.dma.state = .idle →
      request.Copied original (cpuStores clocks others) (final.copier request.count) := by
  induction clocks with
  | nil =>
      intro written others start final _ _ _ _ nonempty
      exact absurd rfl nonempty
  | cons cpu rest ih =>
      intro written others start final well inFlight copied first _ run back
      obtain ⟨timed, avoids⟩ := well cpu (List.mem_cons_self ..)
      obtain ⟨next, step, later⟩ := Checked.bind_eq_ok.mp run
      have outcome := copied_next ranges inFlight copied timed avoids step
      have sameLoad := cpu.load_of_busy inFlight.busy
      cases rest with
      | nil =>
          cases later
          rcases outcome with ⟨written', goesOn, -⟩ | ⟨-, done⟩
          · obtain ⟨-, rfl⟩ := (clock_eq_ok timed).mp step
            rw [sameLoad] at goesOn back
            exact absurd back (inFlight.not_idle goesOn)
          · exact done
      | cons second rest =>
          have notBack : next.dma.state ≠ .idle :=
            first 1 Nat.one_pos (by simp) next (by
              simp only [List.take_succ_cons, List.take_zero, runClocks, step]
              rfl)
          rcases outcome with ⟨written', goesOn, correct⟩ | ⟨idle, -⟩
          · refine ih (fun cpu member => well cpu (List.mem_cons_of_mem _ member))
              goesOn correct ?_ (List.cons_ne_nil _ _) later back
            intro k positive bound middle reached
            refine first (k + 1) (Nat.succ_pos k) (by simpa using bound) middle ?_
            rw [List.take_succ_cons]
            exact Checked.bind_eq_ok.mpr ⟨next, step, reached⟩
          · exact absurd idle notBack

/-- The ranges of a request whose destination starts at the source, one word
behind it, or outside it. -/
theorem ranges_of_distance {request : Request} (bounded : request.count ≤ 65536)
    (distance : (request.dst.address - request.src.address).toNat = 0 ∨
      (request.dst.address - request.src.address).toNat = 1 ∨
      request.count ≤ (request.dst.address - request.src.address).toNat) :
    Ranges request.source request.target request.count := by
  have srcBound := request.src.address.isLt
  have dstBound := request.dst.address.isLt
  rw [BitVec.toNat_sub] at distance
  constructor
  · intro i j iBound jBound same
    have sameNat := congrArg BitVec.toNat same
    simp only [Request.target, BitVec.toNat_add, BitVec.toNat_ofNat] at sameNat
    omega
  · intro i j iBound jBound same
    have sameNat := congrArg BitVec.toNat same
    simp only [Request.source, Request.target, BitVec.toNat_add, BitVec.toNat_ofNat] at sameNat
    omega

/-- DMA copy: from the clock after a request has been accepted to the clock in
which the engine is idle again, with hazard clocks in any pattern, the engine
copies the range and leaves every other word to the CPU. -/
theorem transfer_copies (s d : Word) (n : Nat) (positive : 1 ≤ n) (bounded : n ≤ 65536)
    (distance : (d - s).toNat % 65536 = 0 ∨ (d - s).toNat % 65536 = 1 ∨
      n ≤ (d - s).toNat % 65536)
    (clocks : List CpuClock) (start final : System)
    (busy : start.dma.busy = true) (idle : start.dma.state = .idle)
    (src : start.dma.src = s) (dst : start.dma.dst = d)
    (len : start.dma.len = BitVec.ofNat 32 n)
    (timed : ∀ cpu ∈ clocks, cpu.WellTimed)
    (outside : ∀ cpu ∈ clocks, ∀ addr value, cpu.access = some (.write addr value) →
      ∀ i, i < n → addr.address ≠ s.address + BitVec.ofNat 16 i ∧
        addr.address ≠ d.address + BitVec.ofNat 16 i)
    (run : runClocks clocks start = .ok final)
    (nonempty : clocks ≠ []) (back : final.dma.state = .idle)
    (first : ∀ k, 0 < k → k < clocks.length → ∀ middle,
      runClocks (clocks.take k) start = .ok middle → middle.dma.state ≠ .idle) :
    (∀ i, i < n → final.sram.data (d.address + BitVec.ofNat 16 i) =
        start.sram.data (s.address + BitVec.ofNat 16 i)) ∧
    (∀ cell, (∀ i, i < n → cell ≠ d.address + BitVec.ofNat 16 i) →
      final.sram.data cell = cpuStores clocks start.sram.data cell) := by
  subst src dst
  have count : (Request.mk start.dma.src start.dma.dst start.dma.len).count = n := by
    have whole : start.dma.len.toNat = n := by
      rw [len, BitVec.toNat_ofNat]
      omega
    simp only [Request.count, BitVec.toInt_eq_toNat_cond, whole]
    split <;> omega
  have inFlight := InFlight.of_loaded start.dma busy idle (by omega)
  have ranges : Ranges (Request.mk start.dma.src start.dma.dst start.dma.len).source
      (Request.mk start.dma.src start.dma.dst start.dma.len).target
      (Request.mk start.dma.src start.dma.dst start.dma.len).count := by
    apply ranges_of_distance (by omega)
    rw [count]
    have low : (start.dma.dst.address - start.dma.src.address).toNat =
        (start.dma.dst - start.dma.src).toNat % 65536 := by
      simp only [Word.address, BitVec.toNat_sub, BitVec.toNat_setWidth]
      omega
    rw [low]
    exact distance
  have copied := copied_at_return ranges clocks
    (fun cpu member => ⟨timed cpu member, fun addr value made i bound =>
      outside cpu member addr value made i (count ▸ bound)⟩)
    inFlight (by
      have empty : start.copier 0 = ⟨start.sram.data, 0, []⟩ := by
        simp [System.copier, DmaRegisters.queue, idle]
      rw [empty]
      exact Correct.start _ _ _ _)
    first nonempty run back
  exact ⟨fun i bound => copied.copied i (by rw [← count] at bound; exact bound),
    fun cell outside => copied.frame cell fun i bound => outside i (by
      rw [← count]
      exact bound)⟩

/-- Ten clocks in which the CPU loads twice and stores once. -/
def sharedClocks : List CpuClock :=
  [⟨false, none, none⟩, ⟨false, none, none⟩, ⟨true, some (.read 7#32), none⟩,
    ⟨false, none, none⟩, ⟨true, some (.write 90#32 5#32), none⟩, ⟨false, none, none⟩,
    ⟨true, some (.read 7#32), none⟩, ⟨false, none, none⟩, ⟨false, none, none⟩,
    ⟨false, none, none⟩]

/-- Three words are to be copied by one place, in a memory of its own addresses. -/
def shiftingSystem : System :=
  ⟨{ DmaRegisters.reset with busy := true, src := 3#32, dst := 4#32, len := 3#32 },
    llsimAllocateMemory Word.ofAddress⟩

theorem store_of_sharedClocks {cpu : CpuClock} (member : cpu ∈ sharedClocks)
    {addr value : Word} (stores : cpu.access = some (.write addr value)) : addr = 90#32 := by
  simp only [sharedClocks, List.mem_cons, List.not_mem_nil, or_false] at member
  rcases member with rfl | rfl | rfl | rfl | rfl | rfl | rfl | rfl | rfl | rfl <;> cases stores
  rfl

/-- The engine reads each word before it overwrites it, in spite of the CPU. -/
theorem transfer_copies_shifting :
    ∃ final, runClocks sharedClocks shiftingSystem = .ok final ∧
      [4#16, 5#16, 6#16, 7#16, 90#16].map final.sram.data =
        [3#32, 4#32, 5#32, 7#32, 5#32] := by
  have ends : (runClocks sharedClocks shiftingSystem).toOption.map
      (fun final => final.dma.state) = some .idle := by decide +kernel
  have works : ∀ k < 10, 0 < k → ((runClocks (sharedClocks.take k) shiftingSystem).toOption.map
      fun middle => middle.dma.state) ≠ some .idle := by decide +kernel
  obtain ⟨final, run, back⟩ := Option.map_eq_some_iff.mp ends
  have run := Checked.toOption_eq_some.mp run
  obtain ⟨copied, others⟩ := transfer_copies 3#32 4#32 3 (by decide) (by decide) (by decide)
    sharedClocks shiftingSystem final rfl rfl rfl rfl rfl
    (by simp [sharedClocks, CpuClock.WellTimed])
    (by
      intro cpu member addr value stores i bound
      rw [store_of_sharedClocks member stores]
      revert i
      decide)
    run (List.cons_ne_nil _ _) back
    (by
      intro k positive bound middle reached idle
      apply works k bound positive
      rw [reached]
      exact congrArg some idle)
  refine ⟨final, run, ?_⟩
  have first : final.sram.data 4#16 = 3#32 := copied 0 (by decide)
  have second : final.sram.data 5#16 = 4#32 := copied 1 (by decide)
  have third : final.sram.data 6#16 = 5#32 := copied 2 (by decide)
  have behind : final.sram.data 7#16 = 7#32 := others 7#16 (by decide)
  have stored : final.sram.data 90#16 = 5#32 := others 90#16 (by decide)
  simp only [List.map_cons, List.map_nil, first, second, third, behind, stored]

section Run

open Transition

universe u

variable {σ : Type u} {next : σ → Option σ}
variable (regs : σ → DmaRegisters) (cpu : σ → CpuClock)

/-- The request started in the clock from a state. -/
def startedIn (next : σ → Option σ) (state : σ) : Option Request :=
  (next state).bind fun state' => started (regs state) (regs state')

/-- The address the engine writes in the clock from a state. -/
def wroteIn (state : σ) : Option Address := writeTarget (access (cpu state).hazard (regs state))

variable {regs cpu}

/-- The ledger of a run that starts with an engine at rest. -/
theorem ledger_of_run (dataout : σ → Word)
    (engine : ∀ state state', next state = some state' →
      regs state' = nextRegs (cpu state).hazard (regs state) (dataout state)
        ((cpu state).load (regs state)))
    {start state : σ} (free : (regs start).busy = false) (idle : (regs start).state = .idle)
    {clocks : Nat} (run : runFor next clocks start = some state) :
    Ledger ((past next clocks start).filterMap (startedIn regs next))
      ((past next clocks start).filterMap (wroteIn regs cpu)) (regs state) := by
  refine runFor_induction (motive := fun before state =>
    Ledger (before.filterMap (startedIn regs next)) (before.filterMap (wroteIn regs cpu))
      (regs state)) ?_ ?_ run
  · exact .rest free idle
  · intro before state state' ledger step
    have starts : startedIn regs next state = (cpu state).accepted (regs state) := by
      rw [startedIn, step, Option.bind_some, engine state state' step]
      exact started_next (fun free => (ledger.free free).1) _ _
    have grown := ledger.next (cpu state) (dataout state)
    rw [← starts] at grown
    rw [filterMap_snoc, filterMap_snoc, engine state state' step]
    exact grown

/-- A run in which every clock is one of `clock` is a run of the engine and its memory,
which is what the copying of a transfer is proved about. -/
theorem runClocks_of_run (system : σ → System)
    (clocked : ∀ state state', next state = some state' →
      clock (cpu state) (system state) = .ok (system state'))
    {clocks : Nat} {start state : σ} (run : runFor next clocks start = some state) :
    runClocks ((past next clocks start).map cpu) (system start) = .ok (system state) := by
  induction clocks generalizing start with
  | zero =>
      cases run
      rfl
  | succ clocks ih =>
      obtain ⟨middle, step, rest⟩ := Option.bind_eq_some_iff.mp run
      rw [past_succ_of_step clocks step, List.map_cons, runClocks, clocked start middle step]
      exact ih rest

end Run

end SimpleProcessor.Dma
