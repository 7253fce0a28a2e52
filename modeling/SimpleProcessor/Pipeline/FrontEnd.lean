import SimpleProcessor.Pipeline.Clock
import SimpleProcessor.Lib.Path

/-!
# Control flow of the pipeline

The stages hold a path that starts where the retired instructions end and leads
to the next address to fetch.  Up to DEC0 a hop follows the prediction as it
was read; behind DEC0 it follows the prediction of a jump only, because DEC0
steers the front end back when the instruction is not a jump.
-/

namespace SimpleProcessor.Pipeline

open Transition

/-- The address fetched after an instruction whose word is not decoded yet. -/
def Slot.steered (slot : Slot) : Word :=
  if slot.btbIsTaken ≠ 0#32 then slot.btbTarget else slot.pc + 1#32

/-- The address fetched after a decoded instruction. -/
def Dec1.steered (dec1 : Dec1) : Word :=
  if isJumpOpcode dec1.opcode = true ∧ dec1.btbIsTaken ≠ 0#32 then dec1.btbTarget
  else dec1.pc + 1#32

/-- The address of the instruction that comes next in the program. -/
def Exec1.successor (exec1 : Exec1) : Word :=
  if isJumpOpcode exec1.opcode = true ∧ exec1.aluout ≠ 0#32 then exec1.immediate
  else exec1.pc + 1#32

namespace Registers

variable (spro : Registers)

/-- The stages from EXEC0 to FETCH1, oldest first. -/
def younger : List (Hop Word) :=
  hopIf spro.exec0.active spro.exec0.pc spro.exec0.steered ++
    (hopIf spro.dec1.active spro.dec1.pc spro.dec1.steered ++
      (hopIf spro.dec0.active spro.dec0.pc spro.dec0.steered ++
        hopIf spro.fetch1.active spro.fetch1.pc spro.fetch1.steered))

/-- All instructions in the pipeline. -/
def inFlight : List (Hop Word) :=
  hopIf spro.exec1.active spro.exec1.pc spro.exec1.steered ++ spro.younger

/-- A stall drops an instruction whose predecessor stage is empty. -/
def stallDrops : Bool :=
  spro.isPipeStalled &&
    ((spro.dec1.active && !spro.dec0.active) || (spro.exec0.active && !spro.dec1.active))

theorem not_jump_of_stalled {spro : Registers} (stalled : spro.isPipeStalled = true) :
    spro.exec1.active = true ∧ isJumpOpcode spro.exec1.opcode = false := by
  simp only [isPipeStalled, Bool.and_eq_true, Bool.or_eq_true, decide_eq_true_eq] at stalled
  obtain ⟨active, ⟨-, store⟩ | ⟨load, -⟩⟩ := stalled
  · exact ⟨active, by rw [store]; rfl⟩
  · exact ⟨active, by rw [load]; rfl⟩

theorem exec1Flush_of_stalled {spro : Registers} (stalled : spro.isPipeStalled = true) :
    spro.exec1Flush = false := by
  simp [exec1Flush, exec1Jumps, (not_jump_of_stalled stalled).2]

end Registers

/-! ## One clock of the path -/

section Step

variable {shifts : Shifts} {state : State} {expected : Word}

/-- The address that the program reaches with this clock. -/
def Registers.reached (spro : Registers) (expected : Word) : Word :=
  if spro.exec1.active then spro.exec1.successor else expected

theorem steered_of_noFlush (active : state.spro.exec1.active = true)
    (noFlush : state.spro.exec1Flush = false) :
    state.spro.exec1.steered = state.spro.exec1.successor := by
  cases jump : isJumpOpcode state.spro.exec1.opcode with
  | false => simp [Dec1.steered, Exec1.successor, jump]
  | true =>
      simp only [Registers.exec1Flush, Registers.exec1Jumps, active, jump, Bool.and_self,
        Bool.true_and, Bool.or_eq_false_iff, decide_eq_false_iff_not, ne_eq, not_not] at noFlush
      obtain ⟨predicted, target⟩ := noFlush
      by_cases taken : state.spro.exec1.aluout = 0#32
      · simp [Dec1.steered, Exec1.successor, ← predicted, taken]
      · have sameTarget : state.spro.exec1.btbTarget = state.spro.exec1.immediate := by
          simpa [taken] using target
        simp [Dec1.steered, Exec1.successor, jump, ← predicted, taken, sameTarget]

theorem inFlight_of_flush (flush : state.spro.exec1Flush = true) :
    (state.after shifts).spro.inFlight = [] := by
  simp [Registers.inFlight, Registers.younger, Registers.nextExec1, Registers.nextExec0,
    Registers.nextDec1, Registers.nextDec0, Registers.nextFetch1, flush]

theorem path_of_flush (flush : state.spro.exec1Flush = true) :
    Path (state.spro.reached expected) (state.after shifts).spro.inFlight
      (state.after shifts).spro.fetch0.pc := by
  have jumps : state.spro.exec1.active = true ∧ isJumpOpcode state.spro.exec1.opcode = true := by
    simp only [Registers.exec1Flush, Registers.exec1Jumps, Bool.and_eq_true] at flush
    exact flush.1
  rw [inFlight_of_flush flush]
  simp [Registers.nextFetch0, flush, Registers.reached, Registers.exec1Target,
    Exec1.successor, jumps]

@[simp] theorem signExtend_eq_zero (bits : BitVec 8) :
    bits.signExtend 32 = 0#32 ↔ bits = 0#8 := by
  revert bits
  decide

theorem inFlight_of_advance (noFlush : state.spro.exec1Flush = false)
    (noStall : state.spro.isPipeStalled = false)
    (fetching : state.spro.fetch1.active = true → state.spro.fetch0.active = true) :
    (state.after shifts).spro.inFlight =
      hopIf state.spro.exec0.active state.spro.exec0.pc state.spro.exec0.steered ++
        (hopIf state.spro.dec1.active state.spro.dec1.pc state.spro.dec1.steered ++
          (hopIf state.spro.dec0.active state.spro.dec0.pc state.spro.nextDec1.steered ++
            if state.spro.dec0Flush then []
            else hopIf state.spro.fetch1.active state.spro.fetch1.pc state.spro.fetch1.steered ++
              hopIf state.spro.fetch0.active state.spro.fetch0.pc
                (state.btb.predicted state.spro.fetch0.pc))) := by
  have exec1 : hopIf (state.spro.nextExec1 shifts).active (state.spro.nextExec1 shifts).pc
      (state.spro.nextExec1 shifts).steered =
      hopIf state.spro.exec0.active state.spro.exec0.pc state.spro.exec0.steered := by
    cases active : state.spro.exec0.active <;>
      simp [Registers.nextExec1, Registers.leavesExec0, active, noStall, noFlush, Dec1.steered]
  have exec0 : hopIf state.spro.nextExec0.active state.spro.nextExec0.pc
      state.spro.nextExec0.steered =
      hopIf state.spro.dec1.active state.spro.dec1.pc state.spro.dec1.steered := by
    cases active : state.spro.dec1.active <;>
      simp [Registers.nextExec0, active, noStall, noFlush, Dec1.steered]
  have dec1 : hopIf state.spro.nextDec1.active state.spro.nextDec1.pc
      state.spro.nextDec1.steered =
      hopIf state.spro.dec0.active state.spro.dec0.pc state.spro.nextDec1.steered := by
    cases active : state.spro.dec0.active <;>
      simp [Registers.nextDec1, active, noStall, noFlush]
  simp only [Registers.inFlight, Registers.younger, State.after_exec1, State.after_exec0,
    State.after_dec1, State.after_dec0, State.after_fetch1, exec1, exec0, dec1]
  congr 3
  cases flush : state.spro.dec0Flush with
  | true => simp [Registers.nextDec0, Registers.nextFetch1, flush]
  | false =>
      cases fetches : state.spro.fetch0.active with
      | true =>
          cases active : state.spro.fetch1.active <;>
            simp [Registers.nextDec0, Registers.nextFetch1, Registers.fetches, fetches, noStall,
              active, flush, noFlush, Slot.steered, Btb.slot, Btb.predicted]
      | false =>
          have active : state.spro.fetch1.active = false := by
            rw [← Bool.not_eq_true]
            intro active
            simp [fetching active] at fetches
          simp [Registers.nextDec0, Registers.nextFetch1, Registers.fetches, fetches, active,
            noFlush, flush]

theorem path_younger (noFlush : state.spro.exec1Flush = false)
    (path : Path expected state.spro.inFlight state.spro.fetch0.pc) :
    Path (state.spro.reached expected) state.spro.younger state.spro.fetch0.pc := by
  cases active : state.spro.exec1.active with
  | false => simpa [Registers.inFlight, Registers.reached, active] using path
  | true =>
      rw [Registers.inFlight, active, hopIf_true, List.singleton_append, Path.cons_iff] at path
      rw [Registers.reached, if_pos active, ← steered_of_noFlush active noFlush]
      exact path.2

theorem nextDec1_steered (noStall : state.spro.isPipeStalled = false)
    (active : state.spro.dec0.active = true) :
    state.spro.nextDec1.steered =
      if state.spro.dec0Flush then state.spro.dec0.pc + 1#32 else state.spro.dec0.steered := by
  cases jump : isJumpOpcode (Fields.ofWord state.spro.dec0.inst).opcode <;>
    by_cases predicted : state.spro.dec0.btbIsTaken = 0#32 <;>
    simp [Registers.nextDec1, Registers.dec0Flush, Dec1.steered, Slot.steered, noStall, active,
      jump, predicted]

theorem path_of_advance (noFlush : state.spro.exec1Flush = false)
    (noStall : state.spro.isPipeStalled = false)
    (fetching : state.spro.fetch1.active = true → state.spro.fetch0.active = true)
    (path : Path expected state.spro.inFlight state.spro.fetch0.pc) :
    Path (state.spro.reached expected) (state.after shifts).spro.inFlight
      (state.after shifts).spro.fetch0.pc := by
  have younger := path_younger noFlush path
  rw [Registers.younger, Path.append_iff] at younger
  obtain ⟨exec0End, exec0, younger⟩ := younger
  obtain ⟨dec1End, dec1, younger⟩ := Path.append_iff.mp younger
  obtain ⟨dec0End, dec0, fetch1⟩ := Path.append_iff.mp younger
  rw [inFlight_of_advance noFlush noStall fetching]
  apply exec0.append
  apply dec1.append
  cases flush : state.spro.dec0Flush with
  | true =>
      have active : state.spro.dec0.active = true := by
        simp only [Registers.dec0Flush, Bool.and_eq_true] at flush
        exact flush.1.1
      rw [active, hopIf_true, Path.cons_iff] at dec0
      have first : state.spro.dec0.pc = dec1End := dec0.1
      simp [active, first, nextDec1_steered noStall active, flush, Registers.nextFetch0, noFlush]
  | false =>
      have sameSteered : hopIf state.spro.dec0.active state.spro.dec0.pc
          state.spro.nextDec1.steered =
          hopIf state.spro.dec0.active state.spro.dec0.pc state.spro.dec0.steered := by
        cases active : state.spro.dec0.active with
        | false => rfl
        | true => rw [nextDec1_steered noStall active, flush, if_neg Bool.false_ne_true]
      rw [sameSteered, if_neg Bool.false_ne_true]
      apply dec0.append
      apply fetch1.append
      cases fetches : state.spro.fetch0.active <;>
        simp [Registers.nextFetch0, Registers.fetches, fetches, noStall, noFlush, flush]

theorem inFlight_of_stall (stalled : state.spro.isPipeStalled = true)
    (noDrop : state.spro.stallDrops = false)
    (behind : state.spro.dec0.active = true → state.spro.fetch1.active = true) :
    (state.after shifts).spro.inFlight = state.spro.younger := by
  have noFlush := Registers.exec1Flush_of_stalled stalled
  simp only [Registers.stallDrops, stalled, Bool.true_and, Bool.or_eq_false_iff,
    Bool.and_eq_false_iff, Bool.not_eq_eq_eq_not, Bool.not_false] at noDrop
  have noDec0Flush : state.spro.dec0Flush = false := by
    simp [Registers.dec0Flush, stalled]
  have exec0 : (state.spro.dec1.active && state.spro.exec0.active) =
      state.spro.exec0.active := by
    rcases noDrop.2 with empty | full
    · simp [empty]
    · simp [full]
  have dec1 : (state.spro.dec0.active && state.spro.dec1.active) =
      state.spro.dec1.active := by
    rcases noDrop.1 with empty | full
    · simp [empty]
    · simp [full]
  have dec0 : (state.spro.fetch1.active && state.spro.dec0.active) =
      state.spro.dec0.active := by
    cases active : state.spro.dec0.active with
    | false => simp
    | true => simp [behind active]
  simp [Registers.inFlight, Registers.younger, Registers.nextExec1, Registers.leavesExec0,
    Registers.nextExec0, Registers.nextDec1, Registers.nextDec0, Registers.nextFetch1,
    Registers.fetches, stalled, noFlush, noDec0Flush, exec0, dec1, dec0, Dec1.steered,
    Slot.steered]

theorem path_of_stall (stalled : state.spro.isPipeStalled = true)
    (noDrop : state.spro.stallDrops = false)
    (behind : state.spro.dec0.active = true → state.spro.fetch1.active = true)
    (path : Path expected state.spro.inFlight state.spro.fetch0.pc) :
    Path (state.spro.reached expected) (state.after shifts).spro.inFlight
      (state.after shifts).spro.fetch0.pc := by
  have noFlush := Registers.exec1Flush_of_stalled stalled
  have sameFetch : (state.after shifts).spro.fetch0.pc = state.spro.fetch0.pc := by
    simp [Registers.nextFetch0, Registers.fetches, Registers.dec0Flush, stalled, noFlush]
  rw [inFlight_of_stall stalled noDrop behind, sameFetch]
  exact path_younger noFlush path

end Step

/-! ## The words in the stages -/

/-- A decoded stage holds the word at its address. -/
structure Dec1.Holds (image : Image) (dec1 : Dec1) : Prop where
  inst : dec1.inst = image dec1.pc.address
  fields : dec1.toFields = Fields.ofWord dec1.inst

/-- What the stages hold.  The word on the instruction bus is lost after one
clock, so a stall saves it in FETCH1; two stalls never follow each other. -/
structure FrontEnd (image : Image) (state : State) : Prop where
  start : state.start = true
  srami : state.srami.data = image
  fetching : state.spro.fetch1.active = true → state.spro.fetch0.active = true
  behind : state.spro.dec0.active = true → state.spro.fetch1.active = true
  saved : state.spro.fetch1.useSaved = true →
    state.spro.fetch1.active = true ∧ state.spro.exec1.active = false
  fetch1 : state.spro.fetch1.active = true →
    state.spro.fetchedInst state.srami.dataout = image state.spro.fetch1.pc.address
  dec0 : state.spro.dec0.active = true → state.spro.dec0.inst = image state.spro.dec0.pc.address
  dec1 : state.spro.dec1.active = true → state.spro.dec1.Holds image
  exec0 : state.spro.exec0.active = true → state.spro.exec0.Holds image
  exec1 : state.spro.exec1.active = true → state.spro.exec1.Holds image

namespace FrontEnd

variable {shifts : Shifts} {image : Image} {state : State}

theorem afterReset (image : Image) (btb : Btb) : FrontEnd image (afterReset image btb) where
  start := rfl
  srami := rfl
  fetching := by intro active; cases active
  behind := by intro active; cases active
  saved := by intro active; cases active
  fetch1 := by intro active; cases active
  dec0 := by intro active; cases active
  dec1 := by intro active; cases active
  exec0 := by intro active; cases active
  exec1 := by intro active; cases active

theorem notSaved_of_stalled (frontEnd : FrontEnd image state)
    (stalled : state.spro.isPipeStalled = true) : state.spro.fetch1.useSaved = false := by
  rw [← Bool.not_eq_true]
  intro useSaved
  have exec1 := (frontEnd.saved useSaved).2
  simp [(Registers.not_jump_of_stalled stalled).1] at exec1

theorem next_fetch1 (frontEnd : FrontEnd image state)
    (active : (state.after shifts).spro.fetch1.active = true) :
    (state.after shifts).spro.fetchedInst (state.after shifts).srami.dataout =
      image (state.after shifts).spro.fetch1.pc.address := by
  have notSaved (empty : state.spro.fetch1.active = false) :
      state.spro.fetch1.useSaved = false := by
    rw [← Bool.not_eq_true]
    intro useSaved
    simp [(frontEnd.saved useSaved).1] at empty
  cases fetches : state.spro.fetches with
  | true =>
      have noStall : state.spro.isPipeStalled = false := by
        simp only [Registers.fetches, Bool.and_eq_true, Bool.not_eq_true'] at fetches
        exact fetches.2
      cases occupied : state.spro.fetch1.active <;>
        simp [Registers.fetchedInst, Registers.nextFetch1, Registers.fetchAccess, fetches,
          occupied, noStall, notSaved, Btb.slot, frontEnd.srami]
  | false =>
      have occupied : state.spro.fetch1.active = true := by
        simp only [State.after_fetch1, Registers.nextFetch1, fetches, Bool.and_eq_true] at active
        exact active.1.1
      have stalled : state.spro.isPipeStalled = true := by
        simpa [Registers.fetches, frontEnd.fetching occupied] using fetches
      have word := frontEnd.fetch1 occupied
      rw [Registers.fetchedInst, frontEnd.notSaved_of_stalled stalled] at word
      simpa [Registers.fetchedInst, Registers.nextFetch1, fetches, occupied, stalled] using word

theorem next (frontEnd : FrontEnd image state) : FrontEnd image (state.after shifts) where
  start := frontEnd.start
  srami := by
    rw [← frontEnd.srami, State.after_srami, Memory.after_data, Registers.fetchAccess]
    cases state.spro.fetches <;> rfl
  fetching := by
    intro active
    simp [Registers.nextFetch0, frontEnd.start]
  behind := by
    intro active
    obtain ⟨fetch1, noDec0Flush, noFlush, -⟩ := state.spro.dec0_entered active
    cases fetches : state.spro.fetches <;>
      simp [Registers.nextFetch1, fetches, Btb.slot, fetch1, noDec0Flush, noFlush]
  saved := by
    intro useSaved
    cases occupied : state.spro.fetch1.active with
    | false =>
        have saved : state.spro.fetch1.useSaved = true := by
          simpa [Registers.nextFetch1, occupied] using useSaved
        simp [(frontEnd.saved saved).1] at occupied
    | true =>
        have stalled : state.spro.isPipeStalled = true := by
          simpa [Registers.nextFetch1, occupied] using useSaved
        have noFlush := Registers.exec1Flush_of_stalled stalled
        simp [Registers.nextFetch1, Registers.nextExec1, Registers.leavesExec0,
          Registers.fetches, Registers.dec0Flush, occupied, stalled, noFlush]
  fetch1 := frontEnd.next_fetch1
  dec0 := by
    intro active
    rw [State.after_dec0]
    obtain ⟨fetch1, -, -, ⟨-, moved⟩ | ⟨-, dec0, kept⟩⟩ := state.spro.dec0_entered active
    · rw [moved]
      exact frontEnd.fetch1 fetch1
    · rw [kept]
      exact frontEnd.dec0 dec0
  dec1 := by
    intro active
    rw [State.after_dec1]
    obtain ⟨dec0, -, ⟨-, moved⟩ | ⟨-, dec1, kept⟩⟩ := state.spro.dec1_entered active
    · rw [moved]
      exact ⟨frontEnd.dec0 dec0, rfl⟩
    · rw [kept]
      exact frontEnd.dec1 dec1
  exec0 := by
    intro active
    rw [State.after_exec0]
    obtain ⟨dec1, -, ⟨-, moved⟩ | ⟨-, exec0, kept⟩⟩ := state.spro.exec0_entered active
    · rw [moved]
      exact frontEnd.dec1 dec1
    · rw [kept]
      exact frontEnd.exec0 exec0
  exec1 := by
    intro active
    rw [State.after_exec1]
    obtain ⟨exec0, -, -, moved⟩ := state.spro.exec1_entered active
    rw [moved]
    exact frontEnd.exec0 exec0

end FrontEnd

/-- The hop of the instruction that retires in a clock. -/
def State.retired (state : State) : Option (Hop Word) :=
  if state.spro.exec1.active then some ⟨state.spro.exec1.pc, state.spro.exec1.successor⟩
  else none

section Run

variable {shifts : Shifts} {image : Image} {btb : Btb} {clocks : Nat} {state : State}

theorem frontEnd_of_run (run : runFor (next shifts) clocks (afterReset image btb) = some state) :
    FrontEnd image state := by
  refine runFor_invariant (.afterReset image btb) ?_ run
  intro state state' frontEnd step
  obtain ⟨-, -, -, -, rfl⟩ := next_eq_some.mp step
  exact frontEnd.next

theorem exec1_of_run (property : Exec1 → Prop)
    (leaves : ∀ spro : Registers, property
      { spro.exec0 with
        alu0 := spro.exec0Alu0Final
        alu1 := spro.exec0Alu1Final
        aluout := spro.exec0Aluout shifts })
    (run : runFor (next shifts) clocks (afterReset image btb) = some state)
    (active : state.spro.exec1.active = true) : property state.spro.exec1 := by
  refine runFor_invariant
    (motive := fun state => state.spro.exec1.active = true → property state.spro.exec1) ?_ ?_
    run active
  · intro active
    cases active
  · intro state state' _ step active
    obtain ⟨-, -, -, -, rfl⟩ := next_eq_some.mp step
    obtain ⟨-, -, -, moved⟩ := state.spro.exec1_entered active
    rw [State.after_exec1, moved]
    exact leaves state.spro

/-- The path in the stages after a clock starts where the retired instruction leads. -/
theorem inFlight_next (shifts : Shifts) {expected : Word} (frontEnd : FrontEnd image state)
    (noDrop : state.spro.stallDrops = false)
    (path : Path expected state.spro.inFlight state.spro.fetch0.pc) :
    Path (state.spro.reached expected) (state.after shifts).spro.inFlight
      (state.after shifts).spro.fetch0.pc := by
  cases flush : state.spro.exec1Flush with
  | true => exact path_of_flush flush
  | false =>
      cases stalled : state.spro.isPipeStalled with
      | true => exact path_of_stall stalled noDrop frontEnd.behind path
      | false => exact path_of_advance flush stalled frontEnd.fetching path

theorem exec1_pc_of_path {expected : Word} (active : state.spro.exec1.active = true)
    (path : Path expected state.spro.inFlight state.spro.fetch0.pc) :
    state.spro.exec1.pc = expected := by
  rw [Registers.inFlight, active, hopIf_true, List.singleton_append, Path.cons_iff] at path
  exact path.1

/-- One clock extends the path of retired instructions and keeps the path in the
stages. -/
theorem path_next {hops : List (Hop Word)} {expected : Word} (frontEnd : FrontEnd image state)
    (noDrop : state.spro.stallDrops = false)
    (retired : Path 0#32 hops expected)
    (path : Path expected state.spro.inFlight state.spro.fetch0.pc) :
    Path 0#32 (hops ++ state.retired.toList) (state.spro.reached expected) ∧
      Path (state.spro.reached expected) (state.after shifts).spro.inFlight
        (state.after shifts).spro.fetch0.pc := by
  refine ⟨?_, inFlight_next shifts frontEnd noDrop path⟩
  cases active : state.spro.exec1.active with
  | false => simpa [State.retired, Registers.reached, active] using retired
  | true =>
      have first := exec1_pc_of_path active path
      simp only [State.retired, Registers.reached, active, if_true, Option.toList_some, first]
      exact retired.snoc _

/-- As long as no stall drops an instruction, the retired instructions and the
instructions in the stages form one path. -/
theorem path_of_run (run : runFor (next shifts) clocks (afterReset image btb) = some state)
    (noDrop : ∀ visited ∈ past (next shifts) clocks (afterReset image btb),
      visited.spro.stallDrops = false) :
    ∃ expected,
      Path 0#32 ((past (next shifts) clocks (afterReset image btb)).filterMap State.retired)
        expected ∧
      Path expected state.spro.inFlight state.spro.fetch0.pc := by
  have both : FrontEnd image state ∧ ∃ expected,
      Path 0#32 ((past (next shifts) clocks (afterReset image btb)).filterMap State.retired)
        expected ∧
      Path expected state.spro.inFlight state.spro.fetch0.pc := by
    refine runFor_induction_of
      (motive := fun before state => FrontEnd image state ∧ ∃ expected,
        Path 0#32 (before.filterMap State.retired) expected ∧
          Path expected state.spro.inFlight state.spro.fetch0.pc)
      ⟨.afterReset image btb, 0#32, rfl, rfl⟩ ?_ run noDrop
    intro before state state' ⟨frontEnd, expected, retired, path⟩ noDrop step
    obtain ⟨-, -, -, -, rfl⟩ := next_eq_some.mp step
    rw [filterMap_snoc]
    exact ⟨frontEnd.next, _, path_next frontEnd noDrop retired path⟩
  exact both.2

/-- The instructions retired in these states stand one after the other on a path of the
program from address 0, each with the word at its address. -/
structure InProgramOrder (image : Image) (before : List State) (finish : Word) : Prop where
  path : Path 0#32 (before.filterMap State.retired) finish
  words : ∀ visited ∈ before, visited.spro.exec1.active = true → visited.spro.exec1.Holds image

theorem words_of_run (run : runFor (next shifts) clocks (afterReset image btb) = some state) :
    ∀ visited ∈ past (next shifts) clocks (afterReset image btb),
      visited.spro.exec1.active = true → visited.spro.exec1.Holds image := by
  intro visited member active
  obtain ⟨index, -, reached⟩ := (mem_past_iff run).mp member
  exact (frontEnd_of_run reached).exec1 active

theorem inProgramOrder_of_run
    (run : runFor (next shifts) clocks (afterReset image btb) = some state)
    (noDrop : ∀ visited ∈ past (next shifts) clocks (afterReset image btb),
      visited.spro.stallDrops = false) :
    ∃ finish, InProgramOrder image (past (next shifts) clocks (afterReset image btb)) finish := by
  obtain ⟨finish, retired, -⟩ := path_of_run run noDrop
  exact ⟨finish, retired, words_of_run run⟩

/-- The instruction in EXEC1 is the one that the program has come to. -/
theorem inProgramOrder_of_active
    (run : runFor (next shifts) clocks (afterReset image btb) = some state)
    (noDrop : ∀ visited ∈ past (next shifts) clocks (afterReset image btb),
      visited.spro.stallDrops = false)
    (active : state.spro.exec1.active = true) :
    InProgramOrder image (past (next shifts) clocks (afterReset image btb))
      state.spro.exec1.pc := by
  obtain ⟨finish, retired, path⟩ := path_of_run run noDrop
  rw [exec1_pc_of_path active path]
  exact ⟨retired, words_of_run run⟩

end Run

/-- The pipeline retires one path of the program as long as no stall drops an
instruction. -/
theorem retires_path (shifts : Shifts) (image : Image) (btb : Btb) (clocks : Nat) (state : State)
    (run : runFor (next shifts) clocks (afterReset image btb) = some state)
    (noDrop : ∀ visited ∈ past (next shifts) clocks (afterReset image btb),
      visited.spro.stallDrops = false) :
    (∃ finish, Path 0#32
      ((past (next shifts) clocks (afterReset image btb)).filterMap State.retired) finish) ∧
    ∀ visited ∈ past (next shifts) clocks (afterReset image btb),
      visited.spro.exec1.active = true → visited.spro.exec1.Holds image := by
  constructor
  · obtain ⟨finish, retired, -⟩ := path_of_run run noDrop
    exact ⟨finish, retired⟩
  · exact words_of_run run

/-- A run with a stall for a loaded word and a jump that flushes the stages behind it. -/
theorem retires_path_tour :
    let visited := past (next Shifts.x86) 18 (afterReset tourImage .zero)
    (visited.any fun state => state.spro.isPipeStalled) = true ∧
    (visited.any fun state => state.spro.exec1Flush) = true ∧
    visited.filterMap State.retired = [⟨0#32, 1#32⟩, ⟨1#32, 2#32⟩, ⟨2#32, 3#32⟩, ⟨3#32, 5#32⟩,
      ⟨5#32, 6#32⟩, ⟨6#32, 7#32⟩] ∧
    Path 0#32 (visited.filterMap State.retired) 7#32 := by
  have run : (runFor (next Shifts.x86) 18 (afterReset tourImage .zero)).isSome = true := by
    decide +kernel
  have hops : (past (next Shifts.x86) 18 (afterReset tourImage .zero)).filterMap State.retired =
      [⟨0#32, 1#32⟩, ⟨1#32, 2#32⟩, ⟨2#32, 3#32⟩, ⟨3#32, 5#32⟩, ⟨5#32, 6#32⟩, ⟨6#32, 7#32⟩] := by
    decide +kernel
  obtain ⟨state, run⟩ := Option.isSome_iff_exists.mp run
  obtain ⟨finish, path⟩ := (retires_path Shifts.x86 tourImage .zero 18 state run
    (by decide +kernel)).1
  have last : finish = 7#32 := by
    rw [hops] at path
    simpa using path
  exact ⟨by decide +kernel, by decide +kernel, hops, last ▸ path⟩

/-- 0: JEQ 0, 0, 63; 63: LD r2; 64: ADD r3, r2, r2.  Address 64 shares its element of
the branch target buffer with the jump. -/
def aliasImage : Image := fun addr =>
  if addr = 0#16 then 0x2400003f#32
  else if addr = 63#16 then 0x10810000#32
  else if addr = 64#16 then 0x00d20000#32
  else 0#32

/-- DEC0 flushes behind the addition at 64, which then waits for the load with
an empty stage behind it, and is dropped. -/
theorem addition_dropped :
    (runFor (next Shifts.x86) 18 (afterReset aliasImage .zero)).isSome = true ∧
    ¬ ∃ finish, Path 0#32
      ((past (next Shifts.x86) 18 (afterReset aliasImage .zero)).filterMap State.retired)
      finish := by
  have trace : (past (next Shifts.x86) 18 (afterReset aliasImage .zero)).filterMap
      State.retired = [⟨0#32, 63#32⟩, ⟨63#32, 64#32⟩, ⟨65#32, 66#32⟩] := by decide +kernel
  refine ⟨by decide +kernel, ?_⟩
  rw [trace]
  simp

end SimpleProcessor.Pipeline
