import SimpleProcessor.Pipeline.Operands

/-!
# What the stages and the load latch hold

A fetched word is on the instruction bus for one clock.  A stall parks it in
FETCH1, and since a stall empties EXEC1 there is no second one that would park
the idle bus instead.  The load latch outlives its load by any number of bubbles,
but only an instruction in EXEC1 changes a register, and the same clock clears or
refills the latch.
-/

namespace SimpleProcessor.Pipeline

open Transition

namespace State

/-- A stage holds the word of the instruction memory at its address. -/
def WordAt (state : State) (pc inst : Word) : Prop :=
  pc.InRange ∧ inst = state.srami.data pc.address

/-- A decoded stage, its word and its fields. -/
def Decoded (state : State) (dec1 : Dec1) : Prop :=
  state.WordAt dec1.pc dec1.inst ∧ dec1.toFields = Fields.ofWord dec1.inst

/-- The words in the stages.  `handed` is the word on its way from FETCH1 to DEC0. -/
structure CarriesWords (state : State) : Prop where
  saved : state.spro.fetch1.useSaved = true → state.spro.fetch1.active = true ∧
    state.WordAt state.spro.fetch1.pc state.spro.fetch1.savedInst
  handed : state.spro.fetch1.active = true →
    state.WordAt state.spro.fetch1.pc (state.spro.fetchedInst state.srami.dataout)
  dec0 : state.spro.dec0.active = true → state.WordAt state.spro.dec0.pc state.spro.dec0.inst
  dec1 : state.spro.dec1.active = true → state.Decoded state.spro.dec1
  exec0 : state.spro.exec0.active = true → state.Decoded state.spro.exec0.toDec1
  exec1 : state.spro.exec1.active = true → state.Decoded state.spro.exec1.toDec1

end State

variable {shifts : Shifts} {image : Image} {btb : Btb} {clocks : Nat} {state state' : State}

theorem stagePcs_of_run (run : runFor (next shifts) clocks (afterReset image btb) = some state) :
    state.spro.StagePcs Word.InRange := by
  refine runFor_invariant (motive := fun state => state.spro.StagePcs Word.InRange) ?_ ?_ run
  · constructor <;> (intro active; cases active)
  · intro state state' stagePcs step
    obtain ⟨-, -, -, inRange, rfl⟩ := next_eq_some.mp step
    apply stagePcs.next
    intro fetches
    exact inRange (.read state.spro.fetch0.pc) (if_pos fetches)

theorem FrontEnd.carriesWords (frontEnd : FrontEnd image state)
    (stagePcs : state.spro.StagePcs Word.InRange) : state.CarriesWords := by
  have handed : state.spro.fetch1.active = true →
      state.WordAt state.spro.fetch1.pc (state.spro.fetchedInst state.srami.dataout) := by
    intro active
    refine ⟨stagePcs.fetch1 active, ?_⟩
    rw [frontEnd.srami]
    exact frontEnd.fetch1 active
  have decoded {dec1 : Dec1} (inRange : dec1.pc.InRange) (holds : dec1.Holds image) :
      state.Decoded dec1 := by
    refine ⟨⟨inRange, ?_⟩, holds.fields⟩
    rw [frontEnd.srami]
    exact holds.inst
  refine ⟨?_, handed, ?_, ?_, ?_, ?_⟩
  · intro useSaved
    have active := (frontEnd.saved useSaved).1
    refine ⟨active, ?_⟩
    simpa [Registers.fetchedInst, useSaved] using handed active
  · intro active
    refine ⟨stagePcs.dec0 active, ?_⟩
    rw [frontEnd.srami]
    exact frontEnd.dec0 active
  · intro active
    exact decoded (stagePcs.dec1 active) (frontEnd.dec1 active)
  · intro active
    exact decoded (stagePcs.exec0 active) (frontEnd.exec0 active)
  · intro active
    exact decoded (stagePcs.exec1 active) (frontEnd.exec1 active)

theorem noStall_after_stall (stalled : state.spro.isPipeStalled = true) :
    (state.after shifts).spro.isPipeStalled = false := by
  have empty : (state.spro.nextExec1 shifts).active = false := by
    simp [Registers.nextExec1, Registers.leavesExec0, stalled]
  simp [Registers.isPipeStalled, empty]

/-- When the instruction memory was idle, FETCH1 is empty or uses its saved word. -/
theorem useSaved_of_idle (frontEnd : FrontEnd image state)
    (idle : state.spro.fetchAccess = none)
    (active : (state.after shifts).spro.fetch1.active = true) :
    (state.after shifts).spro.fetch1.useSaved = true := by
  have noFetch : state.spro.fetches = false := by
    simpa [Registers.fetchAccess] using idle
  have occupied : state.spro.fetch1.active = true := by
    simp only [State.after_fetch1, Registers.nextFetch1, noFetch, Bool.false_eq_true, if_false,
      Bool.and_eq_true] at active
    exact active.1.1
  have stalled : state.spro.isPipeStalled = true := by
    simpa [Registers.fetches, frontEnd.fetching occupied] using noFetch
  simp [Registers.nextFetch1, occupied, stalled]

/-- In every clock the stages hold the words of their addresses; no stall follows a stall,
and the word of an idle instruction memory is not handed on. -/
theorem words_intact (shifts : Shifts) (image : Image) (btb : Btb) (clocks : Nat)
    (state : State)
    (run : runFor (next shifts) clocks (afterReset image btb) = some state) :
    state.CarriesWords ∧
      ∀ state', next shifts state = some state' →
        (state.spro.isPipeStalled = true → state'.spro.isPipeStalled = false) ∧
        (state.spro.fetchAccess = none → state'.spro.fetch1.active = true →
          state'.spro.fetch1.useSaved = true) := by
  have frontEnd := frontEnd_of_run run
  refine ⟨frontEnd.carriesWords (stagePcs_of_run run), ?_⟩
  intro state' step
  obtain ⟨-, -, -, -, rfl⟩ := next_eq_some.mp step
  exact ⟨noStall_after_stall, useSaved_of_idle frontEnd⟩

/-- The addition waits for the load, and FETCH1 has saved the word at address 4. -/
theorem words_intact_stalled :
    ∃ state, runFor (next Shifts.x86) 7 (afterReset loadUseImage .zero) = some state ∧
      state.spro.fetch1.useSaved = true ∧ state.CarriesWords := by
  have reached : (runFor (next Shifts.x86) 7 (afterReset loadUseImage .zero)).map
      (fun state => state.spro.fetch1.useSaved) = some true := by decide +kernel
  obtain ⟨state, run, saved⟩ := Option.map_eq_some_iff.mp reached
  exact ⟨state, run, saved, (words_intact Shifts.x86 loadUseImage .zero 7 state run).1⟩

theorem latch_named_next (named : state.spro.mem.stall = true → 1#3 < state.spro.mem.dst) :
    (state.after shifts).spro.mem.stall = true → 1#3 < (state.after shifts).spro.mem.dst := by
  intro stall
  cases active : state.spro.exec1.active with
  | false =>
      simp only [State.after_mem, Registers.nextMem, active, Bool.false_eq_true, if_false]
        at stall ⊢
      exact named stall
  | true =>
      by_cases load : state.spro.exec1.opcode = .ld ∧ 1#3 < state.spro.exec1.dst
      · simp [Registers.nextMem, active, load]
      · simp [Registers.nextMem, active, load] at stall

/-- A filled load latch agrees with the register file. -/
theorem load_latch_fresh (shifts : Shifts) (image : Image) (btb : Btb) (clocks : Nat)
    (state : State)
    (run : runFor (next shifts) clocks (afterReset image btb) = some state)
    (stall : state.spro.mem.stall = true) :
    1#3 < state.spro.mem.dst ∧ state.spro.r state.spro.mem.dst = state.spro.mem.sramDo := by
  have invariant : (state.spro.mem.stall = true → 1#3 < state.spro.mem.dst) ∧
      state.spro.Latched := by
    refine runFor_invariant
      (motive := fun state => (state.spro.mem.stall = true → 1#3 < state.spro.mem.dst) ∧
        state.spro.Latched) ?_ ?_ run
    · constructor <;> (intro stall; cases stall)
    · intro state state' ⟨named, latched⟩ step
      obtain ⟨-, -, -, -, rfl⟩ := next_eq_some.mp step
      exact ⟨latch_named_next named, latched_next latched⟩
  obtain ⟨named, latched⟩ := invariant
  exact ⟨named stall, (latched stall).symm⟩

/-- After the load of the word at address 0. -/
theorem load_latch_fresh_loadUse :
    ∃ state, runFor (next Shifts.x86) 7 (afterReset loadUseImage .zero) = some state ∧
      state.spro.mem.sramDo = 0x10810000#32 ∧
      1#3 < state.spro.mem.dst ∧ state.spro.r state.spro.mem.dst = state.spro.mem.sramDo := by
  have reached : (runFor (next Shifts.x86) 7 (afterReset loadUseImage .zero)).map
      (fun state => (state.spro.mem.stall, state.spro.mem.sramDo)) =
        some (true, 0x10810000#32) := by decide +kernel
  obtain ⟨state, run, here⟩ := Option.map_eq_some_iff.mp reached
  obtain ⟨stall, word⟩ := Prod.mk.inj here
  exact ⟨state, run, word, load_latch_fresh Shifts.x86 loadUseImage .zero 7 state run stall⟩

end SimpleProcessor.Pipeline
