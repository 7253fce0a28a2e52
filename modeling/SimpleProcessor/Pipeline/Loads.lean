import SimpleProcessor.Pipeline.Throughput

/-!
# Programs with loads

A load reads the data memory in the clock in which it leaves EXEC0, and a store in
EXEC1 holds it back, so the word on the data bus is the one that the load finds in
program order.  What is left are the two ways in which a stall does harm: it drops
an instruction, or it loses a loaded operand.  A run in which no stall does either
refines the instruction-set simulator, loads included.
-/

namespace SimpleProcessor.Pipeline

open Transition

/-- The word of a load in EXEC1 is on the data bus. -/
def State.Supplied (state : State) : Prop :=
  state.spro.exec1.active = true → state.spro.exec1.opcode = .ld →
    state.sramd.dataout = state.sramd.data state.spro.exec1.alu1.address

theorem supplied_next (shifts : Shifts) (state : State) : (state.after shifts).Supplied := by
  intro active load
  rw [state.after_load shifts active load, Memory.after_read_dataout, Memory.after_data,
    Word.and_mask_eq, Word.address_ofAddress]

instance (shifts : Shifts) (image : Image) (iss : Iss.State) :
    Decidable (Placed shifts image iss) :=
  decidable_of_iff
    (iss.fields.Plain ∧ iss.pc.toNat ≤ topTarget ∧
      (Arch.taken shifts iss.fields iss.regs = true →
        iss.fields.immediate.toNat ≤ topTarget) ∧
      (iss.fields.opcode = .st → (iss.fields.operand1 iss.regs).InRange) ∧
      iss.word = image iss.pc)
    ⟨fun ⟨plain, below, target, store, word⟩ => ⟨plain, below, target, store, word⟩,
      fun ⟨plain, below, target, store, word⟩ => ⟨plain, below, target, store, word⟩⟩

instance (fields fields' : Fields) : Decidable (Scheduled fields fields') :=
  decidable_of_iff
    ((fields.opcode = .st → fields'.opcode ≠ .ld) ∧
      (fields.opcode = .ld → fields.dst ≠ fields'.src0 ∧ fields.dst ≠ fields'.src1))
    ⟨fun ⟨store, load⟩ => ⟨store, load⟩, fun ⟨store, load⟩ => ⟨store, load⟩⟩

/-- The pipeline is about to retire what the instruction-set simulator is about to
execute, with the word that a load needs and the same count. -/
structure Follows (shifts : Shifts) (image : Image) (state : State) (iss : Iss.State) : Prop
    extends Matches shifts image state iss where
  supplied : state.Supplied
  count : state.nrSimulatedInstructions = iss.instCount

/-- Both machines have stopped with the same count. -/
structure Ended (image : Image) (state : State) (iss : Iss.State) : Prop
    extends Stopped image state iss where
  count : state.nrSimulatedInstructions = iss.instCount

namespace Follows

variable {shifts : Shifts} {image : Image} {state : State} {iss : Iss.State}

theorem afterReset (shifts : Shifts) (image : Image) {btb : Btb} (bounded : btb.Bounded) :
    Follows shifts image (afterReset image btb) (Iss.init image) where
  sound := .afterReset shifts image bounded
  running := rfl
  goesOn := rfl
  low := ⟨rfl, rfl⟩
  path := rfl
  r := rfl
  data := rfl
  supplied := by intro active; cases active
  count := rfl

theorem loaded (follows : Follows shifts image state iss) (placed : Placed shifts image iss)
    (active : state.spro.exec1.active = true) (load : iss.fields.opcode = .ld) :
    state.sramd.dataout = iss.mem (iss.fields.operand1 iss.regs).address := by
  obtain ⟨-, -, fields, -, alu1⟩ := follows.exec1 placed active
  have onBus := follows.supplied active (by rw [fields, load])
  rw [onBus, follows.data, alu1]

theorem exists_clock (follows : Follows shifts image state iss)
    (placed : Placed shifts image iss) (lossless : state.spro.Lossless)
    {iss' : Iss.State} (step : Iss.next shifts iss = some iss') :
    ∃ state', next shifts state = some state' ∧
      (state.spro.exec1.active = false ∧ state'.spro.rank < state.spro.rank ∧
          Follows shifts image state' iss ∨
        state.spro.exec1.active = true ∧
          (Follows shifts image state' iss' ∨ Ended image state' iss')) := by
  have admits := follows.admits placed
  have supplied := supplied_next shifts state
  refine ⟨state.after shifts,
    follows.sound.next_eq admits follows.running (ofAddress_le placed.below) follows.path, ?_⟩
  cases active : state.spro.exec1.active with
  | false =>
      left
      refine ⟨rfl, rank_next shifts follows.sound.frontEnd active,
        follows.next_of_empty admits lossless active, supplied, ?_⟩
      simp [State.after, active, follows.count]
  | true =>
      right
      refine ⟨rfl, ?_⟩
      obtain ⟨stepped, next, -, count, -⟩ :=
        Iss.next_ordinary follows.goesOn follows.low placed.ordinary
      rw [step] at next
      cases next
      have count' : (state.after shifts).nrSimulatedInstructions = iss'.instCount := by
        simp [State.after, active, follows.count, count]
      rcases follows.next_of_active placed lossless active (follows.loaded placed active) step
        with both | stopped
      · exact Or.inl ⟨both, supplied, count'⟩
      · exact Or.inr ⟨stopped, count'⟩

end Follows

section Run

variable {ε : Type} {shifts : Shifts} {image : Image} {btb : Btb} {k : Nat} {iss : Iss.State}

/-- Until it stops the pipeline follows a halting program. -/
theorem follows_of_reached (bounded : btb.Bounded)
    (run : runFor (Iss.next shifts) k (Iss.init image) = some iss) (halted : iss.halted = true)
    (placed : ∀ visited ∈ past (Iss.next shifts) k (Iss.init image),
      Placed shifts image visited)
    (lossless : ∀ state, ∀ visited ∈ past (Iss.next shifts) k (Iss.init image),
      Follows shifts image state visited → state.spro.Lossless)
    {clocks : Nat} {state : State}
    (reached : runFor (next shifts) clocks (Pipeline.afterReset image btb) = some state)
    (running : state.stopSim = false) :
    ∃ visited ∈ past (Iss.next shifts) k (Iss.init image),
      Follows shifts image state visited := by
  refine runFor_invariant (motive := fun state => state.stopSim = false →
    ∃ visited ∈ past (Iss.next shifts) k (Iss.init image), Follows shifts image state visited)
    ?_ ?_ reached running
  · intro _
    have started : 0 < k := by
      rw [Nat.pos_iff_ne_zero]
      rintro rfl
      cases run
      cases halted
    exact ⟨Iss.init image, (mem_past_iff run).mpr ⟨0, started, rfl⟩,
      .afterReset shifts image bounded⟩
  · intro state state' follows step running'
    obtain ⟨visited, member, follows⟩ := follows (next_eq_some.mp step).1
    obtain ⟨-, visited', -, -, executes⟩ := exists_of_mem_past run member
    obtain ⟨later, clock, outcome⟩ := follows.exists_clock (placed visited member)
      (lossless state visited member follows) executes
    rw [step] at clock
    cases clock
    rcases outcome with ⟨-, -, still⟩ | ⟨-, moved | ended⟩
    · exact ⟨visited, member, still⟩
    · have executed : visited' ∈ past (Iss.next shifts) k (Iss.init image) :=
        next_of_halting run halted (fun _ here => here) member executes moved.goesOn
      exact ⟨visited', executed, moved⟩
    · rw [ended.stopped] at running'
      cases running'

/-- The pipeline retires what a program executes, with any event that a retiring instruction
has in common with the executed one. -/
theorem follows_prefix (event : Iss.State → ε) (event' : State → ε)
    (same : ∀ state, ∀ visited ∈ past (Iss.next shifts) k (Iss.init image),
      Follows shifts image state visited → state.spro.exec1.active = true →
        event' state = event visited)
    (bounded : btb.Bounded)
    (run : runFor (Iss.next shifts) k (Iss.init image) = some iss)
    (placed : ∀ visited ∈ past (Iss.next shifts) k (Iss.init image),
      Placed shifts image visited)
    (lossless : ∀ clocks state visited,
      runFor (next shifts) clocks (Pipeline.afterReset image btb) = some state →
      visited ∈ past (Iss.next shifts) k (Iss.init image) →
      Follows shifts image state visited → state.spro.Lossless) :
    ∃ clocks state, runFor (next shifts) clocks (Pipeline.afterReset image btb) = some state ∧
      (Follows shifts image state iss ∨ Ended image state iss) ∧
      (past (next shifts) clocks (Pipeline.afterReset image btb)).filterMap
          (fun visited => if visited.spro.exec1.active then some (event' visited) else none) =
        (past (Iss.next shifts) k (Iss.init image)).map event := by
  let start := Pipeline.afterReset image btb
  let retired (state : State) : Option ε :=
    if state.spro.exec1.active then some (event' state) else none
  let related (visited : Iss.State) (state : State) : Prop :=
    (∃ clocks, runFor (next shifts) clocks start = some state) ∧
      (Follows shifts image state visited ∨ Ended image state visited)
  have first : related (Iss.init image) start :=
    ⟨⟨0, rfl⟩, Or.inl (.afterReset shifts image bounded)⟩
  have clock (visited visited' : Iss.State) (state : State)
      (member : visited ∈ past (Iss.next shifts) k (Iss.init image))
      (step : Iss.next shifts visited = some visited') (both : related visited state) :
      ∃ state', next shifts state = some state' ∧
        (retired state = none ∧ state'.spro.rank < state.spro.rank ∧ related visited state' ∨
          retired state = some (event visited) ∧ related visited' state') := by
    obtain ⟨⟨clocks, reached⟩, follows | ended⟩ := both
    · obtain ⟨state', clock, outcome⟩ := follows.exists_clock (placed visited member)
        (lossless clocks state visited reached member follows) step
      have reached' := runFor_snoc reached clock
      refine ⟨state', clock, ?_⟩
      rcases outcome with ⟨empty, smaller, still⟩ | ⟨active, moved⟩
      · exact Or.inl ⟨by simp [retired, empty], smaller, ⟨_, reached'⟩, Or.inl still⟩
      · refine Or.inr ⟨?_, ⟨_, reached'⟩, moved⟩
        simp only [retired, active, if_true]
        rw [same state visited member follows active]
    · have goesOn := Iss.running_of_next step
      rw [ended.halted] at goesOn
      cases goesOn
  obtain ⟨clocks, state, reached, ⟨-, outcome⟩, events⟩ :=
    runFor_stuttering related (fun state => state.spro.rank) clock first
      (fun _ member => member) run
  exact ⟨clocks, state, reached, outcome, events⟩

theorem follows_run (event : Iss.State → ε) (event' : State → ε)
    (same : ∀ state, ∀ visited ∈ past (Iss.next shifts) k (Iss.init image),
      Follows shifts image state visited → state.spro.exec1.active = true →
        event' state = event visited)
    (bounded : btb.Bounded)
    (run : runFor (Iss.next shifts) k (Iss.init image) = some iss) (halted : iss.halted = true)
    (placed : ∀ visited ∈ past (Iss.next shifts) k (Iss.init image),
      Placed shifts image visited)
    (lossless : ∀ clocks state visited,
      runFor (next shifts) clocks (Pipeline.afterReset image btb) = some state →
      visited ∈ past (Iss.next shifts) k (Iss.init image) →
      Follows shifts image state visited → state.spro.Lossless) :
    ∃ clocks state, runFor (next shifts) clocks (Pipeline.afterReset image btb) = some state ∧
      clocks ≤ 1 + 6 * k ∧ Ended image state iss ∧
      (past (next shifts) clocks (Pipeline.afterReset image btb)).filterMap
          (fun visited => if visited.spro.exec1.active then some (event' visited) else none) =
        (past (Iss.next shifts) k (Iss.init image)).map event := by
  obtain ⟨clocks, state, reached, outcome, events⟩ :=
    follows_prefix event event' same bounded run placed lossless
  have ended : Ended image state iss := by
    rcases outcome with follows | ended
    · rw [follows.goesOn] at halted
      cases halted
    · exact ended
  refine ⟨clocks, state, reached, ?_, ended, events⟩
  have count : (past (next shifts) clocks (Pipeline.afterReset image btb)).countP
      State.retires = k := by
    have lengths := congrArg List.length events
    rwa [List.length_map, length_past run, length_retired] at lengths
  have bound := clocks_le_of_stopped reached ended.stopped
  rw [count] at bound
  exact bound

end Run

/-- The pipeline stops, having retired what the instruction-set simulator has executed in `k`
steps, in at most six clocks for each of them. -/
structure Refines (shifts : Shifts) (image : Image) (btb : Btb) (k : Nat) (iss : Iss.State)
    (clocks : Nat) (state : State) : Prop where
  run : runFor (next shifts) clocks (Pipeline.afterReset image btb) = some state
  stopped : state.stopSim = true
  retired : (past (next shifts) clocks (Pipeline.afterReset image btb)).filterMap
    State.retiredWord = (past (Iss.next shifts) k (Iss.init image)).map executedWord
  count : state.nrSimulatedInstructions = iss.instCount
  r : state.spro.r = iss.regs
  data : state.sramd.data = iss.mem
  srami : state.srami.data = image
  clocks_le : clocks ≤ 1 + 6 * k

theorem Ended.refines {shifts : Shifts} {image : Image} {btb : Btb} {k clocks : Nat}
    {iss : Iss.State} {state : State} (ended : Ended image state iss)
    (run : runFor (next shifts) clocks (Pipeline.afterReset image btb) = some state)
    (retired : (past (next shifts) clocks (Pipeline.afterReset image btb)).filterMap
      State.retiredWord = (past (Iss.next shifts) k (Iss.init image)).map executedWord)
    (clocks_le : clocks ≤ 1 + 6 * k) : Refines shifts image btb k iss clocks state :=
  ⟨run, ended.stopped, retired, ended.count, ended.r, ended.data, ended.srami, clocks_le⟩

theorem Follows.retired {shifts : Shifts} {image : Image} {state : State} {iss : Iss.State}
    (follows : Follows shifts image state iss) (placed : Placed shifts image iss)
    (active : state.spro.exec1.active = true) :
    (state.spro.exec1.pc, state.spro.exec1.inst) = executedWord iss := by
  obtain ⟨pc, inst, -⟩ := follows.exec1 placed active
  rw [pc, inst, executedWord]

/-- A program with loads runs as on the instruction-set simulator, however often it stalls, if
no stall drops an instruction or loses a loaded operand. -/
theorem lossless_refines_iss (shifts : Shifts) (image : Image) (btb : Btb) (k : Nat)
    (iss : Iss.State) (bounded : btb.Bounded)
    (run : runFor (Iss.next shifts) k (Iss.init image) = some iss) (halted : iss.halted = true)
    (placed : ∀ visited ∈ past (Iss.next shifts) k (Iss.init image),
      Placed shifts image visited)
    (lossless : ∀ clocks state,
      runFor (next shifts) clocks (afterReset image btb) = some state →
      state.stopSim = false → state.spro.Lossless) :
    ∃ clocks state, Refines shifts image btb k iss clocks state := by
  obtain ⟨clocks, state, reached, bound, ended, retired⟩ :=
    follows_run executedWord (fun state => (state.spro.exec1.pc, state.spro.exec1.inst))
      (fun state visited member follows => follows.retired (placed visited member))
      bounded run halted placed
      fun clocks state visited reached _ follows => lossless clocks state reached follows.running
  exact ⟨clocks, state, ended.refines reached retired bound⟩

/-- 0: LD r2, [6]; 1: ADD r3, r2, r2; 2: ST r3, [100]; 3: LD r4, [100]; 4: HLT. -/
def waitingImage : Image := fun addr =>
  if addr = 0#16 then 0x10810006#32
  else if addr = 1#16 then 0x00d20000#32
  else if addr = 2#16 then 0x12190064#32
  else if addr = 3#16 then 0x11010064#32
  else if addr = 4#16 then 0x30000000#32
  else if addr = 6#16 then 21#32
  else 0#32

theorem runFor_waiting :
    ∃ iss, runFor (Iss.next Shifts.x86) 5 (Iss.init waitingImage) = some iss ∧
      iss.halted = true ∧ iss.regs 4#3 = 42#32 := by
  have executed : (runFor (Iss.next Shifts.x86) 5 (Iss.init waitingImage)).map
      (fun iss => (iss.halted, iss.regs 4#3)) = some (true, 42#32) := by decide +kernel
  obtain ⟨iss, run, here⟩ := Option.map_eq_some_iff.mp executed
  obtain ⟨halted, sum⟩ := Prod.mk.inj here
  exact ⟨iss, run, halted, sum⟩

theorem placed_waiting : ∀ visited ∈ past (Iss.next Shifts.x86) 5 (Iss.init waitingImage),
    Placed Shifts.x86 waitingImage visited := by
  decide +kernel

theorem lossless_waiting (clocks : Nat) (state : State)
    (reached : runFor (next Shifts.x86) clocks (afterReset waitingImage .zero) = some state)
    (running : state.stopSim = false) : state.spro.Lossless := by
  have simulated : (runFor (next Shifts.x86) 13 (afterReset waitingImage .zero)).map
      State.stopSim = some true := by decide +kernel
  obtain ⟨final, run, stopped⟩ := Option.map_eq_some_iff.mp simulated
  have lossless : ∀ visited ∈ past (next Shifts.x86) 13 (afterReset waitingImage .zero),
      visited.spro.stallDrops = false ∧ visited.spro.latchLost = false := by decide +kernel
  rcases mem_past_of_stopped run (by simp [next, stopped]) reached with member | rfl
  · exact ⟨(lossless state member).1, (lossless state member).2⟩
  · rw [stopped] at running
    cases running

theorem lossless_refines_iss_waiting :
    ∃ iss clocks state, iss.regs 4#3 = 42#32 ∧
      Refines Shifts.x86 waitingImage .zero 5 iss clocks state := by
  obtain ⟨iss, run, halted, sum⟩ := runFor_waiting
  obtain ⟨clocks, state, refines⟩ :=
    lossless_refines_iss Shifts.x86 waitingImage .zero 5 iss (fun _ taken => absurd rfl taken) run
      halted placed_waiting lossless_waiting
  exact ⟨iss, clocks, state, sum, refines⟩

theorem noStall_of_scheduled {shifts : Shifts} {image : Image} {k : Nat} {iss visited : Iss.State}
    {state : State} (run : runFor (Iss.next shifts) k (Iss.init image) = some iss)
    (halted : iss.halted = true)
    (placed : ∀ visited ∈ past (Iss.next shifts) k (Iss.init image),
      Placed shifts image visited)
    (scheduled : ∀ visited ∈ past (Iss.next shifts) k (Iss.init image),
      Scheduled visited.fields visited.fields ∧
        ∀ visited' ∈ Iss.next shifts visited, Scheduled visited.fields visited'.fields)
    (member : visited ∈ past (Iss.next shifts) k (Iss.init image))
    (follows : Follows shifts image state visited) : state.spro.isPipeStalled = false := by
  obtain ⟨-, visited', -, -, step⟩ := exists_of_mem_past run member
  obtain ⟨own, behind⟩ := scheduled visited member
  exact follows.noStall (placed visited member) own step
    (next_of_halting run halted placed member step) fun _ => behind visited' step

theorem exists_refines_of_scheduled {shifts : Shifts} {image : Image} {btb : Btb} {k : Nat}
    {iss : Iss.State} (bounded : btb.Bounded)
    (run : runFor (Iss.next shifts) k (Iss.init image) = some iss) (halted : iss.halted = true)
    (placed : ∀ visited ∈ past (Iss.next shifts) k (Iss.init image),
      Placed shifts image visited)
    (scheduled : ∀ visited ∈ past (Iss.next shifts) k (Iss.init image),
      Scheduled visited.fields visited.fields ∧
        ∀ visited' ∈ Iss.next shifts visited, Scheduled visited.fields visited'.fields) :
    ∃ clocks state, Refines shifts image btb k iss clocks state ∧
      ∀ visited ∈ past (next shifts) clocks (Pipeline.afterReset image btb),
        visited.spro.isPipeStalled = false := by
  have noStall (state : State) (visited : Iss.State)
      (member : visited ∈ past (Iss.next shifts) k (Iss.init image))
      (follows : Follows shifts image state visited) : state.spro.isPipeStalled = false :=
    noStall_of_scheduled run halted placed scheduled member follows
  -- a stall needs an instruction in EXEC1, so it is part of what retires
  obtain ⟨clocks, state, reached, bound, ended, retired⟩ :=
    follows_run (fun visited => (executedWord visited, false))
      (fun state => ((state.spro.exec1.pc, state.spro.exec1.inst), state.spro.isPipeStalled))
      (fun state visited member follows active =>
        Prod.ext (follows.retired (placed visited member) active)
          (noStall state visited member follows))
      bounded run halted placed
      fun clocks state visited _ member follows =>
        Registers.lossless_of_noStall (noStall state visited member follows)
  refine ⟨clocks, state, ended.refines reached ?_ bound, ?_⟩
  · have words := congrArg (List.map Prod.fst) retired
    rw [List.map_filterMap, List.map_map] at words
    rw [← show executedWord = Prod.fst ∘ fun visited => (executedWord visited, false) from rfl]
      at words
    rw [← words]
    congr 1
    funext visited
    cases active : visited.spro.exec1.active <;> simp [State.retiredWord, active]
  · intro visited member
    rw [← Bool.not_eq_true]
    intro stalled
    have active := (Registers.not_jump_of_stalled stalled).1
    have event : ((visited.spro.exec1.pc, visited.spro.exec1.inst), true) ∈
        (past (Iss.next shifts) k (Iss.init image)).map
          fun visited => (executedWord visited, false) := by
      rw [← retired, List.mem_filterMap]
      exact ⟨visited, member, by simp [active, stalled]⟩
    simp at event

/-- A program in which no load follows a store and no instruction names the destination of the
load before it never stalls, and runs as on the instruction-set simulator. -/
theorem scheduled_refines_iss (shifts : Shifts) (image : Image) (btb : Btb) (k : Nat)
    (iss : Iss.State) (bounded : btb.Bounded)
    (run : runFor (Iss.next shifts) k (Iss.init image) = some iss) (halted : iss.halted = true)
    (placed : ∀ visited ∈ past (Iss.next shifts) k (Iss.init image),
      Placed shifts image visited)
    (scheduled : ∀ visited ∈ past (Iss.next shifts) k (Iss.init image),
      Scheduled visited.fields visited.fields ∧
        ∀ visited' ∈ Iss.next shifts visited, Scheduled visited.fields visited'.fields) :
    ∃ clocks state, Refines shifts image btb k iss clocks state ∧
      ∀ visited ∈ past (next shifts) clocks (afterReset image btb),
        visited.spro.isPipeStalled = false :=
  exists_refines_of_scheduled bounded run halted placed scheduled

/-- 0: LD r2, [6]; 1: ADD r4, r0, 1; 2: ADD r3, r2, r2; 3: HLT. -/
def scheduledImage : Image := fun addr =>
  if addr = 0#16 then 0x10810006#32
  else if addr = 1#16 then 0x01010001#32
  else if addr = 2#16 then 0x00d20000#32
  else if addr = 3#16 then 0x30000000#32
  else if addr = 6#16 then 21#32
  else 0#32

/-- An addition that does not need the loaded word fills the gap. -/
theorem scheduled_refines_iss_filled :
    ∃ iss clocks state, iss.regs 3#3 = 42#32 ∧
      Refines Shifts.x86 scheduledImage .zero 4 iss clocks state := by
  have executed : (runFor (Iss.next Shifts.x86) 4 (Iss.init scheduledImage)).map
      (fun iss => (iss.halted, iss.regs 3#3)) = some (true, 42#32) := by decide +kernel
  obtain ⟨iss, run, here⟩ := Option.map_eq_some_iff.mp executed
  obtain ⟨halted, sum⟩ := Prod.mk.inj here
  obtain ⟨clocks, state, refines, -⟩ :=
    scheduled_refines_iss Shifts.x86 scheduledImage .zero 4 iss (fun _ taken => absurd rfl taken)
      run halted (by decide +kernel) (by decide +kernel)
  exact ⟨iss, clocks, state, sum, refines⟩

end SimpleProcessor.Pipeline
