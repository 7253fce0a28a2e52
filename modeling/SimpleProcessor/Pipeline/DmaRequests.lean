import SimpleProcessor.Pipeline.FrontEnd
import SimpleProcessor.Dma.Copying

/-!
# DMA instructions in the pipeline

The pipeline does not wait for the engine.  A DMA instruction that reaches
EXEC1 while the engine is busy retires without a transfer, and DMP tests its
operand instead of the engine.  Both are correct in exactly those clocks in
which the test that the code makes agrees with the engine.
-/

namespace SimpleProcessor.Pipeline

open Transition Dma

/-- The program has a DMA instruction at the address of a hop. -/
def callsDma (image : Image) (hop : Hop Word) : Bool :=
  (Fields.ofWord (image hop.pc.address)).opcode = .dma

namespace State

/-- The address the engine writes in a clock. -/
def engineWrote (state : State) : Option Address :=
  Dma.engineWrote (isDmaHazard state.spro) state.spro.dma state.sramd

/-- The request that a clock starts. -/
def startedRequest (shifts : Shifts) (state : State) : Option Request :=
  startedIn (fun state : State => state.spro.dma) (next shifts) state

/-- The DMA instruction that retires in a clock. -/
def executedDma (state : State) : Option Request :=
  if state.spro.exec1.active = true ∧ state.spro.exec1.opcode = .dma then
    some ⟨state.spro.exec1.alu0, state.spro.exec1.aluout, state.spro.exec1.alu1⟩
  else none

/-- The hop of an instruction that starts a transfer. -/
def startedHop (shifts : Shifts) (state : State) : Option (Hop Word) :=
  (state.startedRequest shifts).bind fun _ => state.retired

/-- A DMA instruction in EXEC1 finds a free engine. -/
def DmaFree (state : State) : Prop :=
  state.spro.exec1.active = true → state.spro.exec1.opcode = .dma →
    state.spro.dma.busy = false

/-- A DMA instruction with words to copy finds the engine busy, and they are never
copied. -/
def losesWords (state : State) : Bool :=
  state.spro.dma.busy && state.spro.exec1.active && state.spro.exec1.opcode = .dma &&
    (0#32).slt state.spro.exec1.alu1

end State

instance (state : State) : Decidable state.DmaFree :=
  inferInstanceAs (Decidable (_ → _ → _))

/-- A transfer with words to copy is under way, or starts in this clock. -/
def Registers.unfinished (spro : Registers) : Bool :=
  (spro.dma.busy && (0#32).slt spro.dma.len) ||
    (!spro.dma.busy && spro.exec1.active && spro.exec1.opcode = .dma &&
      (0#32).slt spro.exec1.alu1)

/-- The operand of a DMP that leaves EXEC0 is zero when the engine has finished and has
refused no words, and only then. -/
def State.DmpAgrees (state : State) (before : List State) : Prop :=
  state.spro.leavesExec0 = true → state.spro.exec1Flush = false →
    state.spro.exec0.opcode = .dmp →
    (state.spro.exec0.alu0 = 0#32 ↔
      state.spro.unfinished = false ∧ ∀ earlier ∈ before, earlier.losesWords = false)

instance (state : State) (before : List State) : Decidable (state.DmpAgrees before) :=
  inferInstanceAs (Decidable (_ → _ → _ → _))

section Run

variable {shifts : Shifts} {image : Image} {btb : Btb} {clocks : Nat} {state : State}

theorem ledger_of_run (run : runFor (next shifts) clocks (afterReset image btb) = some state) :
    Ledger ((past (next shifts) clocks (afterReset image btb)).filterMap
        (State.startedRequest shifts))
      ((past (next shifts) clocks (afterReset image btb)).filterMap State.engineWrote)
      state.spro.dma := by
  have wrote : State.engineWrote =
      wroteIn (fun state : State => state.spro.dma) (fun state => state.spro.cpuClock) := by
    funext state
    exact engineWrote_eq _ _ _
  rw [wrote]
  refine Dma.ledger_of_run (fun state : State => state.sramd.dataout) ?_ rfl rfl run
  intro state state' step
  obtain ⟨-, -, -, -, rfl⟩ := next_eq_some.mp step
  rfl

theorem runClocks_of_run {first : State} (run : runFor (next shifts) clocks first = some state) :
    runClocks ((past (next shifts) clocks first).map fun state => state.spro.cpuClock)
      ⟨first.spro.dma, first.sramd⟩ = .ok ⟨state.spro.dma, state.sramd⟩ := by
  refine Dma.runClocks_of_run (fun state => ⟨state.spro.dma, state.sramd⟩) ?_ run
  intro state state' step
  exact next_dma step

/-- A clock starts the DMA instruction in EXEC1 unless the engine is busy. -/
theorem startedRequest_eq (run : runFor (next shifts) clocks (afterReset image btb) = some state)
    {state' : State} (step : next shifts state = some state') :
    state.startedRequest shifts = if state.spro.dma.busy then none else state.executedDma := by
  have idle : state.spro.dma.busy = false → state.spro.dma.state = .idle := fun free =>
    ((ledger_of_run run).free free).1
  rw [State.startedRequest, startedIn, step, Option.bind_some]
  obtain ⟨-, -, -, -, rfl⟩ := next_eq_some.mp step
  have starts : started state.spro.dma (state.after shifts).spro.dma =
      state.spro.cpuClock.accepted state.spro.dma := started_next idle _ _
  rw [starts, CpuClock.accepted]
  simp [Registers.cpuClock, State.executedDma]

theorem startedRequests_eq
    (run : runFor (next shifts) clocks (afterReset image btb) = some state) :
    (past (next shifts) clocks (afterReset image btb)).filterMap (State.startedRequest shifts) =
      (past (next shifts) clocks (afterReset image btb)).filterMap fun visited =>
        if visited.spro.dma.busy then none else visited.executedDma := by
  apply List.filterMap_congr
  intro visited member
  obtain ⟨index, visited', -, reached, step⟩ := exists_of_mem_past run member
  exact startedRequest_eq reached step

/-- The DMA instruction of a clock starts its transfer exactly when it finds a free
engine. -/
theorem startedRequest_eq_iff
    (run : runFor (next shifts) clocks (afterReset image btb) = some state) {state' : State}
    (step : next shifts state = some state') :
    state.startedRequest shifts = state.executedDma ↔ state.DmaFree := by
  rw [startedRequest_eq run step]
  cases busy : state.spro.dma.busy with
  | false => simp [State.DmaFree, busy]
  | true =>
      rw [if_pos rfl, eq_comm]
      simp [State.DmaFree, State.executedDma, busy]

theorem filter_retired (words : state.spro.exec1.active = true → state.spro.exec1.Holds image) :
    state.retired.filter (callsDma image) = state.executedDma.bind fun _ => state.retired := by
  cases active : state.spro.exec1.active with
  | false => simp [State.retired, active]
  | true =>
      have opcode : state.spro.exec1.opcode =
          (Fields.ofWord (image state.spro.exec1.pc.address)).opcode := by
        rw [← (words active).inst]
        exact congrArg Fields.opcode (words active).fields
      by_cases dma : state.spro.exec1.opcode = .dma
      · simp [State.retired, State.executedDma, callsDma, active, dma, ← opcode]
      · simp [State.retired, State.executedDma, callsDma, active, dma, ← opcode]

theorem startedHop_eq_iff
    (run : runFor (next shifts) clocks (afterReset image btb) = some state) {state' : State}
    (step : next shifts state = some state') :
    state.startedHop shifts = state.retired.filter (callsDma image) ↔ state.DmaFree := by
  rw [filter_retired (frontEnd_of_run run).exec1, State.startedHop, startedRequest_eq run step]
  cases busy : state.spro.dma.busy with
  | false => simp [State.DmaFree, busy]
  | true =>
      rw [if_pos rfl, Option.bind_none, eq_comm, Option.bind_eq_none_iff]
      by_cases executed : state.spro.exec1.active = true ∧ state.spro.exec1.opcode = .dma
      · simp [State.DmaFree, State.executedDma, State.retired, busy, executed]
      · rw [State.executedDma, if_neg executed]
        simpa [State.DmaFree, busy] using executed

theorem requests_eq_executed
    (run : runFor (next shifts) clocks (afterReset image btb) = some state)
    (free : ∀ visited ∈ past (next shifts) clocks (afterReset image btb), visited.DmaFree) :
    (past (next shifts) clocks (afterReset image btb)).filterMap (State.startedRequest shifts) =
      (past (next shifts) clocks (afterReset image btb)).filterMap State.executedDma := by
  apply List.filterMap_congr
  intro visited member
  obtain ⟨index, visited', -, reached, step⟩ := exists_of_mem_past run member
  exact (startedRequest_eq_iff reached step).mpr (free visited member)

/-- The DMA instructions on the path are the ones that start a transfer, one each, if all
of them find a free engine, and only then. -/
theorem startedHops_eq_iff
    (run : runFor (next shifts) clocks (afterReset image btb) = some state) :
    (past (next shifts) clocks (afterReset image btb)).filterMap (State.startedHop shifts) =
        ((past (next shifts) clocks (afterReset image btb)).filterMap State.retired).filter
          (callsDma image) ↔
      ∀ visited ∈ past (next shifts) clocks (afterReset image btb), visited.DmaFree := by
  rw [List.filter_filterMap, filterMap_eq_iff]
  · apply forall₂_congr
    intro visited member
    obtain ⟨index, visited', -, reached, step⟩ := exists_of_mem_past run member
    exact startedHop_eq_iff reached step
  · intro visited member
    obtain ⟨index, visited', -, reached, step⟩ := exists_of_mem_past run member
    rw [filter_retired (frontEnd_of_run reached).exec1, State.startedHop,
      startedRequest_eq reached step]
    cases visited.spro.dma.busy with
    | false => exact Or.inl rfl
    | true => exact Or.inr rfl

/-- The words of all transfers, the one started in this clock included, are written
when nothing is unfinished. -/
theorem drained_iff (run : runFor (next shifts) clocks (afterReset image btb) = some state)
    {state' : State} (step : next shifts state = some state') :
    (past (next shifts) clocks (afterReset image btb)).filterMap State.engineWrote =
        allTargets ((past (next shifts) (clocks + 1) (afterReset image btb)).filterMap
          (State.startedRequest shifts)) ↔
      state.spro.unfinished = false := by
  have ledger := ledger_of_run run
  rw [past_snoc run, filterMap_snoc, startedRequest_eq run step]
  cases busy : state.spro.dma.busy with
  | true =>
      have unfinished := ledger.unfinished_iff
      rw [busy] at unfinished
      simp only [if_true, Option.toList_none, List.append_nil, Registers.unfinished, busy,
        Bool.true_and, Bool.not_true, Bool.false_and, Bool.or_false]
      rw [← Bool.not_eq_true, ← not_iff_not, not_not]
      simpa using unfinished
  | false =>
      obtain ⟨-, written⟩ := ledger.free busy
      rw [written, allTargets_append]
      by_cases reaches : state.spro.exec1.active = true ∧ state.spro.exec1.opcode = .dma
      · have empty := Request.targets_eq_nil_iff
          ⟨state.spro.exec1.alu0, state.spro.exec1.aluout, state.spro.exec1.alu1⟩
        simpa [State.executedDma, Registers.unfinished, busy, reaches] using empty
      · have silent : (state.spro.exec1.active && decide (state.spro.exec1.opcode = .dma)) =
            false := by
          simpa using reaches
        simp [State.executedDma, Registers.unfinished, busy, reaches, silent, allTargets]

theorem written_begins (run : runFor (next shifts) clocks (afterReset image btb) = some state) :
    (past (next shifts) clocks (afterReset image btb)).filterMap State.engineWrote <+:
      allTargets ((past (next shifts) (clocks + 1) (afterReset image btb)).filterMap
        (State.startedRequest shifts)) := by
  rw [past_snoc run, filterMap_snoc, allTargets_append]
  exact (ledger_of_run run).writes_begin.trans (List.prefix_append _ _)

/-- The engine was asked for every word that DMA instructions copy, unless it has refused
some. -/
theorem started_words_iff
    (run : runFor (next shifts) clocks (afterReset image btb) = some state) :
    allTargets ((past (next shifts) clocks (afterReset image btb)).filterMap
        (State.startedRequest shifts)) =
        allTargets ((past (next shifts) clocks (afterReset image btb)).filterMap
          State.executedDma) ↔
      ∀ earlier ∈ past (next shifts) clocks (afterReset image btb),
        earlier.losesWords = false := by
  rw [startedRequests_eq run]
  refine (allTargets_eq_iff (fun visited : State => visited.spro.dma.busy) State.executedDma
    _).trans ?_
  apply forall₂_congr
  intro visited _
  by_cases reaches : visited.spro.exec1.active = true ∧ visited.spro.exec1.opcode = .dma
  · have empty := Request.targets_eq_nil_iff
      ⟨visited.spro.exec1.alu0, visited.spro.exec1.aluout, visited.spro.exec1.alu1⟩
    cases busy : visited.spro.dma.busy with
    | false => simp [State.losesWords, busy]
    | true => simpa [State.losesWords, State.executedDma, busy, reaches] using empty
  · have silent : visited.losesWords = false := by
      simp only [State.losesWords, Bool.and_assoc, Bool.and_eq_false_iff]
      simp only [not_and] at reaches
      by_cases active : visited.spro.exec1.active = true
      · simp [reaches active]
      · simp [active]
    simp [State.executedDma, reaches, silent]

theorem length_started_le
    (run : runFor (next shifts) clocks (afterReset image btb) = some state) :
    (allTargets ((past (next shifts) clocks (afterReset image btb)).filterMap
        (State.startedRequest shifts))).length ≤
      (allTargets ((past (next shifts) clocks (afterReset image btb)).filterMap
        State.executedDma)).length := by
  rw [startedRequests_eq run]
  exact length_allTargets_le (fun visited : State => visited.spro.dma.busy) _ _

/-- Every DMA instruction up to this clock has been served when the engine has finished
and has refused no words. -/
theorem served_iff (run : runFor (next shifts) clocks (afterReset image btb) = some state)
    {state' : State} (step : next shifts state = some state') :
    (past (next shifts) clocks (afterReset image btb)).filterMap State.engineWrote =
        allTargets ((past (next shifts) (clocks + 1) (afterReset image btb)).filterMap
          State.executedDma) ↔
      state.spro.unfinished = false ∧
        ∀ earlier ∈ past (next shifts) (clocks + 1) (afterReset image btb),
          earlier.losesWords = false := by
  have run' := runFor_snoc run step
  rw [← drained_iff run step, ← started_words_iff run']
  constructor
  · intro served
    have begun := written_begins run
    have fewer := length_started_le run'
    rw [← served] at fewer
    have drained := begun.eq_of_length_le fewer
    exact ⟨drained, drained.symm.trans served⟩
  · rintro ⟨drained, all⟩
    exact drained.trans all

/-- The DMP in EXEC1 has left EXEC0, and its branch depends on its operand alone. -/
theorem dmp_taken_iff {state' : State} (step : next shifts state = some state') :
    (state'.spro.exec1.active = true ∧ state'.spro.exec1.opcode = .dmp ↔
      state.spro.leavesExec0 = true ∧ state.spro.exec1Flush = false ∧
        state.spro.exec0.opcode = .dmp) ∧
    (state'.spro.exec1.active = true → state'.spro.exec1.opcode = .dmp →
      (state'.spro.exec1.aluout ≠ 0#32 ↔ state.spro.exec0.alu0 = 0#32)) := by
  obtain ⟨-, -, -, -, rfl⟩ := next_eq_some.mp step
  cases leaves : state.spro.leavesExec0 with
  | false => simp [Registers.nextExec1, leaves]
  | true =>
      constructor
      · simp [Registers.nextExec1, leaves]
      · intro _ dmp
        have opcode : state.spro.exec0.opcode = .dmp := by
          simpa [Registers.nextExec1, leaves] using dmp
        simp [Registers.nextExec1, leaves, Registers.exec0Aluout, opcode]

end Run

/-- As long as no stall drops an instruction, the DMA instructions of the program start one
transfer each, in the order of the program, in the runs in which none of them reaches
EXEC1 while the engine is busy, and in no others. -/
theorem requests_kept_iff (shifts : Shifts) (image : Image) (btb : Btb) (clocks : Nat)
    (state : State)
    (run : runFor (next shifts) clocks (afterReset image btb) = some state)
    (noDrop : ∀ visited ∈ past (next shifts) clocks (afterReset image btb),
      visited.spro.stallDrops = false) :
    let before := past (next shifts) clocks (afterReset image btb)
    (∃ finish, InProgramOrder image before finish) ∧
    ((before.filterMap (State.startedHop shifts) =
        (before.filterMap State.retired).filter (callsDma image) ∧
      before.filterMap (State.startedRequest shifts) = before.filterMap State.executedDma ∧
      (state.spro.dma.busy = false →
        before.filterMap State.engineWrote = allTargets (before.filterMap State.executedDma))) ↔
    ∀ visited ∈ before, visited.DmaFree) := by
  refine ⟨inProgramOrder_of_run run noDrop, ?_⟩
  have hops := startedHops_eq_iff run
  constructor
  · rintro ⟨kept, -⟩
    exact hops.mp kept
  · intro free
    have kept := requests_eq_executed run free
    refine ⟨hops.mpr free, kept, fun drained => ?_⟩
    rw [← kept]
    exact ((ledger_of_run run).free drained).2

/-- 0: DMA of one word; 12: DMA of two words; 24: HLT; additions in between. -/
def twoRequestsImage : Image := fun addr =>
  if addr = 0#16 then 0x14010001#32
  else if addr = 12#16 then 0x14010002#32
  else if addr < 24#16 then 0#32
  else 0x30000000#32

/-- The second DMA instruction finds the engine free again. -/
theorem requests_kept_two :
    (past (next Shifts.x86) 30 (afterReset twoRequestsImage .zero)).filterMap
      (State.startedHop Shifts.x86) = [⟨0#32, 1#32⟩, ⟨12#32, 13#32⟩] := by
  have run : (runFor (next Shifts.x86) 30
      (afterReset twoRequestsImage .zero)).isSome = true := by decide +kernel
  obtain ⟨state, run⟩ := Option.isSome_iff_exists.mp run
  obtain ⟨-, kept⟩ := requests_kept_iff Shifts.x86 twoRequestsImage .zero 30 state run
    (by decide +kernel)
  rw [(kept.mpr (by decide +kernel)).1]
  decide +kernel

/-- In a memory full of DMA instructions the second one finds the engine busy. -/
theorem request_lost :
    (runFor (next Shifts.x86) 8 (afterReset (fun _ => 0x14010001#32) .zero)).isSome = true ∧
    (∀ visited ∈ past (next Shifts.x86) 8 (afterReset (fun _ => 0x14010001#32) .zero),
      visited.spro.stallDrops = false ∧
        (visited.spro.exec1.active = true → visited.spro.exec1.opcode = .dma →
          (0#32).slt visited.spro.exec1.alu1 = true)) ∧
    (past (next Shifts.x86) 8 (afterReset (fun _ => 0x14010001#32) .zero)).filterMap
        (State.startedHop Shifts.x86) ≠
      ((past (next Shifts.x86) 8 (afterReset (fun _ => 0x14010001#32) .zero)).filterMap
        State.retired).filter (callsDma fun _ => 0x14010001#32) := by
  refine ⟨by decide +kernel, by decide +kernel, by decide +kernel⟩

/-- As long as no stall drops an instruction, DMP polls the engine in the runs in which its
operand agrees with the engine, and in no others. -/
theorem polls_engine_iff (shifts : Shifts) (image : Image) (btb : Btb) (clocks : Nat)
    (state : State)
    (run : runFor (next shifts) clocks (afterReset image btb) = some state)
    (noDrop : ∀ visited ∈ past (next shifts) clocks (afterReset image btb),
      visited.spro.stallDrops = false) :
    (∀ index < clocks, ∀ polling ∈ runFor (next shifts) index (afterReset image btb),
      ∀ polled ∈ next shifts polling,
      polled.spro.exec1.active = true → polled.spro.exec1.opcode = .dmp →
      let before := past (next shifts) (index + 1) (afterReset image btb)
      InProgramOrder image before polled.spro.exec1.pc ∧
      (polled.spro.exec1.aluout ≠ 0#32 ↔
        (past (next shifts) index (afterReset image btb)).filterMap State.engineWrote =
          allTargets (before.filterMap State.executedDma))) ↔
    ∀ index < clocks, ∀ polling ∈ runFor (next shifts) index (afterReset image btb),
      polling.DmpAgrees (past (next shifts) (index + 1) (afterReset image btb)) := by
  constructor
  · intro polls index early polling reached leaves noFlush dmp
    obtain ⟨polled, step⟩ := exists_step_of_lt run early reached
    obtain ⟨retires, taken⟩ := dmp_taken_iff step
    obtain ⟨active, opcode⟩ := retires.mpr ⟨leaves, noFlush, dmp⟩
    rw [← taken active opcode, ← served_iff reached step]
    exact (polls index early polling reached polled step active opcode).2
  · intro agrees index early polling reached polled step active opcode
    have reached' := runFor_snoc reached step
    refine ⟨inProgramOrder_of_active reached' (fun visited member => ?_) active, ?_⟩
    · exact noDrop visited (mem_past_of_le run early member)
    · obtain ⟨retires, taken⟩ := dmp_taken_iff step
      obtain ⟨leaves, noFlush, dmp⟩ := retires.mp ⟨active, opcode⟩
      rw [taken active opcode, served_iff reached step]
      exact agrees index early polling reached leaves noFlush dmp

/-- 0: DMA of one word; 1: DMP 5; 12: DMP r0, 32; HLT from 16; additions in between. -/
def pollingImage : Image := fun addr =>
  if addr = 0#16 then 0x14010001#32
  else if addr = 1#16 then 0x16080005#32
  else if addr = 12#16 then 0x16000020#32
  else if addr < 16#16 then 0#32
  else 0x30000000#32

/-- The first DMP finds the transfer starting, the second one finds it done. -/
theorem polls_engine_twice :
    (∃ polled, runFor (next Shifts.x86) 7 (afterReset pollingImage .zero) = some polled ∧
      polled.spro.exec1.opcode = .dmp ∧ polled.spro.exec1.aluout = 0#32 ∧
      (past (next Shifts.x86) 6 (afterReset pollingImage .zero)).filterMap State.engineWrote ≠
        allTargets ((past (next Shifts.x86) 7 (afterReset pollingImage .zero)).filterMap
          State.executedDma)) ∧
    (∃ polled, runFor (next Shifts.x86) 18 (afterReset pollingImage .zero) = some polled ∧
      polled.spro.exec1.opcode = .dmp ∧ polled.spro.exec1.aluout ≠ 0#32 ∧
      (past (next Shifts.x86) 17 (afterReset pollingImage .zero)).filterMap State.engineWrote =
        allTargets ((past (next Shifts.x86) 18 (afterReset pollingImage .zero)).filterMap
          State.executedDma)) := by
  have run : (runFor (next Shifts.x86) 18 (afterReset pollingImage .zero)).isSome = true := by
    decide +kernel
  obtain ⟨state, run⟩ := Option.isSome_iff_exists.mp run
  have polls := (polls_engine_iff Shifts.x86 pollingImage .zero 18 state run
    (by decide +kernel)).mpr (by decide +kernel)
  have served : ∀ index < 18, ∀ polled,
      runFor (next Shifts.x86) (index + 1) (afterReset pollingImage .zero) = some polled →
      polled.spro.exec1.active = true → polled.spro.exec1.opcode = .dmp →
      (polled.spro.exec1.aluout ≠ 0#32 ↔
        (past (next Shifts.x86) index (afterReset pollingImage .zero)).filterMap
            State.engineWrote =
          allTargets ((past (next Shifts.x86) (index + 1)
            (afterReset pollingImage .zero)).filterMap State.executedDma)) := by
    intro index early polled there active dmp
    obtain ⟨polling, before, step⟩ := exists_of_runFor_succ there
    exact (polls index early polling before polled step active dmp).2
  have first : (runFor (next Shifts.x86) 7 (afterReset pollingImage .zero)).map
      (fun polled => (polled.spro.exec1.active, polled.spro.exec1.opcode,
        polled.spro.exec1.aluout)) = some (true, .dmp, 0#32) := by decide +kernel
  have second : (runFor (next Shifts.x86) 18 (afterReset pollingImage .zero)).map
      (fun polled => (polled.spro.exec1.active, polled.spro.exec1.opcode,
        polled.spro.exec1.aluout)) = some (true, .dmp, 1#32) := by decide +kernel
  obtain ⟨polled, there, here⟩ := Option.map_eq_some_iff.mp first
  obtain ⟨polled', there', here'⟩ := Option.map_eq_some_iff.mp second
  simp only [Prod.mk.injEq] at here here'
  obtain ⟨active, dmp, refuses⟩ := here
  obtain ⟨active', dmp', jumps⟩ := here'
  refine ⟨⟨polled, there, dmp, refuses, fun written => ?_⟩, polled', there', dmp', ?_, ?_⟩
  · exact (served 6 (by decide) polled there active dmp).mpr written refuses
  · simp [jumps]
  · exact (served 17 (by decide) polled' there' active' dmp').mp (by simp [jumps])

/-- In a memory full of DMP instructions with the operand 5 none takes its branch, although
the program has no DMA instruction. -/
theorem dmp_ignores_engine :
    ∃ polling polled,
      runFor (next Shifts.x86) 5 (afterReset (fun _ => 0x16080005#32) .zero) = some polling ∧
      next Shifts.x86 polling = some polled ∧
      polled.spro.exec1.active = true ∧ polled.spro.exec1.opcode = .dmp ∧
      ¬ (polled.spro.exec1.aluout ≠ 0#32 ↔
        (past (next Shifts.x86) 5 (afterReset (fun _ => 0x16080005#32) .zero)).filterMap
            State.engineWrote =
          allTargets ((past (next Shifts.x86) (5 + 1)
            (afterReset (fun _ => 0x16080005#32) .zero)).filterMap State.executedDma)) := by
  have reached : (runFor (next Shifts.x86) 6 (afterReset (fun _ => 0x16080005#32) .zero)).map
      (fun state => (state.spro.exec1.active, state.spro.exec1.opcode,
        state.spro.exec1.aluout)) = some (true, .dmp, 0#32) := by decide +kernel
  obtain ⟨polled, run, here⟩ := Option.map_eq_some_iff.mp reached
  simp only [Prod.mk.injEq] at here
  obtain ⟨active, opcode, aluout⟩ := here
  obtain ⟨polling, before, step⟩ := exists_of_runFor_succ run
  refine ⟨polling, polled, before, step, active, opcode, ?_⟩
  intro polls
  exact polls.mpr (by decide +kernel) aluout

end SimpleProcessor.Pipeline
