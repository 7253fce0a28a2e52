import SimpleProcessor.Pipeline.Clock
import SimpleProcessor.Iss.Model

/-!
# Fetching inside the memory

The front end runs ahead of the program.  The addresses it fetches from are the
successors of addresses, or targets of jumps that were taken, remembered or not;
they leave the memory only when the last address is incremented or when a jump
is taken to a negative immediate.
-/

namespace SimpleProcessor.Pipeline

open Transition

/-- The branch target buffer predicts addresses of the memory. -/
def Btb.InRange (btb : Btb) : Prop :=
  ∀ slot, btb.isTaken slot ≠ 0#8 → (btb.target slot).InRange

/-- The address whose successor is fetched next, if the next fetch is a successor. -/
def Registers.steppedFrom (spro : Registers) (btb : Btb) : Option Word :=
  if spro.exec1Flush then
    if spro.exec1.aluout = 0#32 then some spro.exec1.pc else none
  else if spro.dec0Flush then some spro.dec0.pc
  else if spro.fetches && btb.isTaken (btbSlot spro.fetch0.pc) = 0#8 then some spro.fetch0.pc
  else none

namespace State

/-- Every array index of the front end exists, so that it does not stop the clock. -/
structure FetchesInRange (shifts : Shifts) (state : State) : Prop where
  fetch : ∀ made, state.spro.fetchAccess = some made → made.InRange
  fetch0 : state.spro.fetches = true → ∃ addr, btbAddr state.spro.fetch0.pc = .ok addr
  exec1 : state.spro.exec1.active = true → ∃ addr, btbAddr state.spro.exec1.pc = .ok addr
  clock : (∀ made, state.spro.cpuClock.access = some made → made.InRange) →
    ∃ state', llsimRunClock shifts false state = .ok state'

/-- The clock is the last one, or it neither steps past the last address nor jumps to a
negative one. -/
structure StaysInMemory (state : State) : Prop where
  last : state.spro.halts = false → state.spro.steppedFrom state.btb ≠ some 65535#32
  target : state.spro.exec1Jumps = true → state.spro.exec1.aluout ≠ 0#32 →
    state.spro.exec1.immediate.InRange

instance (state : State) : Decidable state.StaysInMemory :=
  decidable_of_iff
    ((state.spro.halts = false → state.spro.steppedFrom state.btb ≠ some 65535#32) ∧
      (state.spro.exec1Jumps = true → state.spro.exec1.aluout ≠ 0#32 →
        state.spro.exec1.immediate.InRange))
    ⟨fun ⟨last, target⟩ => ⟨last, target⟩, fun ⟨last, target⟩ => ⟨last, target⟩⟩

/-- The addresses in the stages and in the branch target buffer. -/
structure Addressed (state : State) : Prop where
  fetch0 : state.spro.fetch0.pc.InRange
  fetch1 : state.spro.fetch1.active = true → state.spro.fetch1.pc.InRange
  dec0 : state.spro.dec0.active = true → state.spro.dec0.pc.InRange
  dec1 : state.spro.dec1.active = true → state.spro.dec1.pc.InRange
  exec0 : state.spro.exec0.active = true → state.spro.exec0.pc.InRange
  exec1 : state.spro.exec1.active = true → state.spro.exec1.pc.InRange
  btb : state.btb.InRange

theorem succ_inRange {pc : Word} (inRange : pc.InRange) (notLast : pc ≠ 65535#32) :
    (pc + 1#32).InRange := by
  have last : pc.toNat ≠ 65535 := by
    intro same
    exact notLast (BitVec.eq_of_toNat_eq same)
  simp only [Word.InRange, BitVec.toNat_add, BitVec.toNat_ofNat] at inRange ⊢
  omega

namespace Addressed

variable {shifts : Shifts} {state : State}

theorem afterReset (image : Image) {btb : Btb} (inRange : btb.InRange) :
    Addressed (afterReset image btb) where
  fetch0 := show Word.InRange 0#32 by decide
  fetch1 := by intro active; cases active
  dec0 := by intro active; cases active
  dec1 := by intro active; cases active
  exec0 := by intro active; cases active
  exec1 := by intro active; cases active
  btb := inRange

theorem outsideBtb_eq {pc : Word} (inRange : pc.InRange) : outsideBtb pc = false := by
  apply outsideBtb_of_lt
  simp only [Word.InRange] at inRange
  omega

theorem fetchesInRange (addressed : state.Addressed) (shifts : Shifts) :
    state.FetchesInRange shifts := by
  have fetch : ∀ made, state.spro.fetchAccess = some made → made.InRange := by
    intro made makes
    simp only [Registers.fetchAccess, Option.ite_none_right_eq_some, Option.some.injEq] at makes
    obtain ⟨-, rfl⟩ := makes
    exact addressed.fetch0
  refine ⟨fetch, ?_, ?_, ?_⟩
  · intro _
    exact ⟨_, by rw [btbAddr_eq, outsideBtb_eq addressed.fetch0]; rfl⟩
  · intro active
    exact ⟨_, by rw [btbAddr_eq, outsideBtb_eq (addressed.exec1 active)]; rfl⟩
  · intro data
    refine ⟨state.after shifts, llsimRunClock_eq_ok.mpr ⟨?_, data, fetch, rfl⟩⟩
    have exec1 : (state.spro.exec1.active && outsideBtb state.spro.exec1.pc) = false := by
      cases active : state.spro.exec1.active with
      | false => rfl
      | true => rw [outsideBtb_eq (addressed.exec1 active), Bool.and_false]
    rw [Registers.leavesBtb, exec1, outsideBtb_eq addressed.fetch0, Bool.and_false, Bool.or_false]

theorem next_fetch0 (addressed : state.Addressed) (stays : state.StaysInMemory)
    (goesOn : state.spro.halts = false) :
    (state.after shifts).spro.fetch0.pc.InRange := by
  have last := stays.last goesOn
  simp only [after_fetch0, Registers.nextFetch0]
  cases flush : state.spro.exec1Flush with
  | true =>
      have jumps : state.spro.exec1Jumps = true := by
        simp only [Registers.exec1Flush, Bool.and_eq_true] at flush
        exact flush.1
      have active : state.spro.exec1.active = true := by
        simp only [Registers.exec1Jumps, Bool.and_eq_true] at jumps
        exact jumps.1
      simp only [Registers.exec1Target, if_true]
      by_cases taken : state.spro.exec1.aluout = 0#32
      · simp only [taken, ne_eq, not_true_eq_false, if_false]
        apply succ_inRange (addressed.exec1 active)
        simpa [Registers.steppedFrom, flush, taken] using last
      · simpa [taken] using stays.target jumps taken
  | false =>
      simp only [Registers.steppedFrom, flush, Bool.false_eq_true, if_false] at last ⊢
      cases dec0Flush : state.spro.dec0Flush with
      | true =>
          have active : state.spro.dec0.active = true := by
            simp only [Registers.dec0Flush, Bool.and_eq_true] at dec0Flush
            exact dec0Flush.1.1
          simp only [dec0Flush, if_true, ne_eq, Option.some.injEq] at last ⊢
          exact succ_inRange (addressed.dec0 active) last
      | false =>
          simp only [dec0Flush, Bool.false_eq_true, if_false] at last ⊢
          cases fetches : state.spro.fetches with
          | false => simpa using addressed.fetch0
          | true =>
              simp only [if_true, Btb.predicted]
              by_cases taken : state.btb.isTaken (btbSlot state.spro.fetch0.pc) = 0#8
              · simp only [taken, ne_eq, not_true_eq_false, if_false]
                apply succ_inRange addressed.fetch0
                simpa [fetches, taken] using last
              · simpa [taken] using addressed.btb _ taken

theorem stagePcs (addressed : state.Addressed) : state.spro.StagePcs Word.InRange where
  fetch1 := addressed.fetch1
  dec0 := addressed.dec0
  dec1 := addressed.dec1
  exec0 := addressed.exec0
  exec1 := addressed.exec1

theorem next_btb (addressed : state.Addressed) (stays : state.StaysInMemory) :
    (state.after shifts).btb.InRange := by
  intro slot taken
  change ((state.spro.nextBtb state.btb).target slot).InRange
  rcases Registers.nextBtb_cases taken with ⟨jumps, taken, written⟩ | ⟨taken, kept⟩
  · rw [written]
    exact stays.target jumps taken
  · rw [kept]
    exact addressed.btb slot taken

theorem next (addressed : state.Addressed) (stays : state.StaysInMemory)
    (goesOn : state.spro.halts = false) : (state.after shifts).Addressed := by
  obtain ⟨fetch1, dec0, dec1, exec0, exec1⟩ :=
    addressed.stagePcs.next shifts fun _ => addressed.fetch0
  exact ⟨addressed.next_fetch0 stays goesOn, fetch1, dec0, dec1, exec0, exec1,
    addressed.next_btb stays⟩

end Addressed

end State

/-- In every run whose clocks neither step past the last address nor jump to a negative
one, every fetch is inside the memory and the branch target buffer. -/
theorem fetches_inRange (shifts : Shifts) (image : Image) (btb : Btb) (clocks : Nat)
    (state : State) (inRange : btb.InRange)
    (run : runFor (next shifts) clocks (afterReset image btb) = some state)
    (stays : ∀ visited ∈ past (next shifts) clocks (afterReset image btb),
      visited.StaysInMemory)
    (goesOn : state.stopSim = false) : state.FetchesInRange shifts := by
  have addressed : state.stopSim = false → state.Addressed := by
    refine runFor_induction_of
      (motive := fun _ state => state.stopSim = false → state.Addressed) ?_ ?_ run stays
    · intro _
      exact .afterReset image inRange
    · intro _ state state' addressed stays step goesOn
      obtain ⟨running, -, -, -, rfl⟩ := next_eq_some.mp step
      have noHalt : state.spro.halts = false := by
        simp only [State.after, Bool.or_eq_false_iff] at goesOn
        exact goesOn.1
      exact (addressed running).next stays noHalt
  exact (addressed goesOn).fetchesInRange shifts

/-- Behind a stall, a store and a jump the HLT is in EXEC1. -/
theorem fetches_inRange_tour :
    ∃ state, runFor (next Shifts.x86) 17 (afterReset tourImage .zero) = some state ∧
      state.spro.halts = true ∧ state.FetchesInRange Shifts.x86 := by
  have reached : (runFor (next Shifts.x86) 17 (afterReset tourImage .zero)).map
      (fun state => (state.spro.halts, state.stopSim)) = some (true, false) := by decide +kernel
  obtain ⟨state, run, here⟩ := Option.map_eq_some_iff.mp reached
  obtain ⟨halts, goesOn⟩ := Prod.mk.inj here
  exact ⟨state, run, halts, fetches_inRange Shifts.x86 _ .zero 17 state
    (fun _ taken => absurd rfl taken) run (by decide +kernel) goesOn⟩

/-- 0: JEQ 0, 0, 0x8000; 0x8000: HLT. -/
def farImage : Image := fun addr =>
  if addr = 0#16 then 0x24008000#32
  else if addr = 0x8000#16 then 0x30000000#32
  else 0#32

/-- The sign of the immediate sends the fetch of the HLT below the memory. -/
theorem fetch_leaves_memory :
    (∃ iss, runFor (Iss.next Shifts.x86) 2 (Iss.init farImage) = some iss ∧
      iss.halted = true) ∧
    ∃ state, runFor (next Shifts.x86) 7 (afterReset farImage .zero) = some state ∧
      state.stopSim = false ∧
      state.spro.fetchAccess = some (.read 0xffff8000#32) ∧
      next Shifts.x86 state = none ∧ ¬ state.FetchesInRange Shifts.x86 := by
  have halts : (runFor (Iss.next Shifts.x86) 2 (Iss.init farImage)).map Iss.State.halted =
      some true := by decide +kernel
  have reached : (runFor (next Shifts.x86) 7 (afterReset farImage .zero)).map
      (fun state => (state.stopSim, state.spro.fetchAccess, (next Shifts.x86 state).isNone)) =
        some (false, some (.read 0xffff8000#32), true) := by decide +kernel
  refine ⟨Option.map_eq_some_iff.mp halts, ?_⟩
  obtain ⟨state, run, here⟩ := Option.map_eq_some_iff.mp reached
  simp only [Prod.mk.injEq] at here
  obtain ⟨goesOn, fetch, aborts⟩ := here
  refine ⟨state, run, goesOn, fetch, Option.isNone_iff_eq_none.mp aborts, ?_⟩
  intro inRange
  have bound : Word.InRange 0xffff8000#32 := inRange.fetch _ fetch
  exact absurd bound (by decide)

end SimpleProcessor.Pipeline
