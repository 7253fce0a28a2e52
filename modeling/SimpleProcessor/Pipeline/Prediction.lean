import SimpleProcessor.Lib.LastValue
import SimpleProcessor.Pipeline.FrontEnd

/-!
# How often the pipeline predicts wrongly

The branch target buffer remembers for each of its elements what the last retired
instruction of that element did.  A wrong prediction flushes all instructions behind the
jump, and with them the predictions that are as old, so that a jump is predicted wrongly
only as often as what the instructions of its element do changes.
-/

namespace SimpleProcessor.Pipeline

open Transition LastValue

/-- Where the instruction of a stage was predicted to jump. -/
def Slot.guess (slot : Slot) : Option Word :=
  if slot.btbIsTaken ≠ 0#32 then some slot.btbTarget else none

/-- Where an element of the branch target buffer says that its instructions jump. -/
def Btb.guess (btb : Btb) (element : BitVec 6) : Option Word :=
  if btb.isTaken element ≠ 0#8 then some (btb.target element) else none

/-- Where a retiring instruction jumps. -/
def Exec1.outcome (exec1 : Exec1) : Option Word :=
  if isJumpOpcode exec1.opcode = true ∧ exec1.aluout ≠ 0#32 then some exec1.immediate else none

/-- The retiring instruction belongs to an element. -/
def Registers.retiresAt (spro : Registers) (element : BitVec 6) : Bool :=
  spro.exec1.active && btbSlot spro.exec1.pc = element

/-- What the instructions of an element did, in the order in which they retired. -/
def outcomes (element : BitVec 6) (visited : List State) : List (Option Word) :=
  visited.filterMap fun state =>
    if state.spro.retiresAt element then some state.spro.exec1.outcome else none

/-- How often an instruction of an element that was predicted wrongly flushed the pipe in
EXEC1. -/
def mispredictions (element : BitVec 6) (visited : List State) : Nat :=
  visited.countP fun state => state.spro.exec1Flush && state.spro.retiresAt element

/-- The branch target buffer says 0 or 1. -/
def Btb.Binary (btb : Btb) : Prop :=
  ∀ element, btb.isTaken element = 0#8 ∨ btb.isTaken element = 1#8

namespace Registers

variable (spro : Registers)

/-- The instructions in the stages, oldest first, with their predictions. -/
def slots : List Slot :=
  [spro.exec1.toSlot, spro.exec0.toSlot, spro.dec1.toSlot, spro.dec0.toSlot,
    spro.fetch1.toSlot].filter Slot.active

/-- A guess about the instructions of an element is pending. -/
def Pending (element : BitVec 6) (guess : Option Word) : Prop :=
  ∃ slot ∈ spro.slots, btbSlot slot.pc = element ∧ slot.guess = guess

theorem mem_slots {slot : Slot} :
    slot ∈ spro.slots ↔
      (slot = spro.exec1.toSlot ∨ slot = spro.exec0.toSlot ∨ slot = spro.dec1.toSlot ∨
        slot = spro.dec0.toSlot ∨ slot = spro.fetch1.toSlot) ∧ slot.active = true := by
  simp [slots]

end Registers

section Clock

variable {shifts : Shifts} {state : State} {slot : Slot} {element : BitVec 6}

theorem slots_of_flush (flush : state.spro.exec1Flush = true) :
    (state.after shifts).spro.slots = [] := by
  simp [Registers.slots, Registers.nextExec1, Registers.nextExec0, Registers.nextDec1,
    Registers.nextDec0, Registers.nextFetch1, flush]

theorem slots_next (member : slot ∈ (state.after shifts).spro.slots) :
    slot ∈ state.spro.slots ∨ slot = state.btb.slot state.spro.fetch0.pc := by
  rw [Registers.mem_slots] at member ⊢
  obtain ⟨stage, active⟩ := member
  rcases stage with rfl | rfl | rfl | rfl | rfl
  · obtain ⟨occupied, -, -, moved⟩ := state.spro.exec1_entered active
    rw [State.after_exec1, moved]
    exact Or.inl ⟨by simp, occupied⟩
  · obtain ⟨occupied, -, ⟨-, moved⟩ | ⟨-, kept, stays⟩⟩ := state.spro.exec0_entered active
    · rw [State.after_exec0, moved]
      exact Or.inl ⟨by simp, occupied⟩
    · rw [State.after_exec0, stays]
      exact Or.inl ⟨by simp, kept⟩
  · obtain ⟨occupied, -, ⟨-, moved⟩ | ⟨-, kept, stays⟩⟩ := state.spro.dec1_entered active
    · rw [State.after_dec1, moved]
      exact Or.inl ⟨by simp, occupied⟩
    · rw [State.after_dec1, stays]
      exact Or.inl ⟨by simp, kept⟩
  · obtain ⟨occupied, -, -, ⟨-, moved⟩ | ⟨-, kept, stays⟩⟩ := state.spro.dec0_entered active
    · rw [State.after_dec0, moved]
      exact Or.inl ⟨by simp, occupied⟩
    · rw [State.after_dec0, stays]
      exact Or.inl ⟨by simp, kept⟩
  · simp only [State.after_fetch1, Registers.nextFetch1] at active ⊢
    cases fetches : state.spro.fetches with
    | true =>
        right
        simp only [fetches, if_true, Bool.and_eq_true, Bool.not_eq_true'] at active ⊢
        simp [active, Btb.slot]
    | false =>
        left
        simp only [fetches, Bool.false_eq_true, if_false, Bool.and_eq_true,
          Bool.not_eq_true'] at active ⊢
        obtain ⟨⟨occupied, noDec0Flush⟩, noFlush⟩ := active
        rw [noDec0Flush, noFlush, Bool.not_false, Bool.and_true, Bool.and_true]
        exact ⟨by simp, ⟨occupied, rfl⟩, rfl⟩

theorem guess_slot (btb : Btb) (pc : Word) : (btb.slot pc).guess = btb.guess (btbSlot pc) := by
  simp [Slot.guess, Btb.guess, Btb.slot]

/-- What is pending behind a clock was pending before it, or was read from the branch target
buffer. -/
theorem pending_next {guess : Option Word}
    (pending : (state.after shifts).spro.Pending element guess) :
    state.spro.Pending element guess ∨ guess = state.btb.guess element := by
  obtain ⟨slot, member, here, rfl⟩ := pending
  rcases slots_next member with old | rfl
  · exact Or.inl ⟨slot, old, here, rfl⟩
  · right
    rw [guess_slot, ← here]
    rfl

end Clock

theorem intOfBool_cases (condition : Bool) :
    intOfBool condition = 0#32 ∨ intOfBool condition = 1#32 := by
  cases condition <;> decide

/-- The comparisons of the pipeline are between zeros and ones. -/
structure Binary (state : State) : Prop where
  btb : state.btb.Binary
  slots : ∀ slot ∈ state.spro.slots, slot.btbIsTaken = 0#32 ∨ slot.btbIsTaken = 1#32
  aluout : state.spro.exec1Jumps = true →
    state.spro.exec1.aluout = 0#32 ∨ state.spro.exec1.aluout = 1#32

namespace Binary

variable {shifts : Shifts} {state : State} {element : BitVec 6}

/-- A flush in EXEC1 means that the prediction was wrong. -/
theorem guess_ne_outcome (binary : Binary state) (flush : state.spro.exec1Flush = true) :
    state.spro.exec1.toSlot.guess ≠ state.spro.exec1.outcome := by
  have flushes := flush
  simp only [Registers.exec1Flush, Bool.and_eq_true, Bool.or_eq_true, decide_eq_true_eq]
    at flushes
  obtain ⟨jumps, wrong⟩ := flushes
  have jump : state.spro.exec1.active = true ∧ isJumpOpcode state.spro.exec1.opcode = true := by
    simpa only [Registers.exec1Jumps, Bool.and_eq_true] using jumps
  have member : state.spro.exec1.toSlot ∈ state.spro.slots := by
    rw [Registers.mem_slots]
    exact ⟨Or.inl rfl, jump.1⟩
  rcases binary.slots _ member with notTaken | taken <;>
    rcases binary.aluout jumps with goesOn | jumped
  · simp [notTaken, goesOn] at wrong
  · simp [Slot.guess, Exec1.outcome, jump, notTaken, jumped]
  · simp [Slot.guess, Exec1.outcome, jump, taken, goesOn]
  · have target : state.spro.exec1.btbTarget ≠ state.spro.exec1.immediate := by
      simpa [taken, jumped] using wrong
    simpa [Slot.guess, Exec1.outcome, jump, taken, jumped] using target

theorem guess_nextBtb (binary : Binary state) :
    (state.spro.nextBtb state.btb).guess element =
      if state.spro.retiresAt element then state.spro.exec1.outcome
      else state.btb.guess element := by
  cases active : state.spro.exec1.active with
  | false => simp [Registers.nextBtb, Registers.retiresAt, active]
  | true =>
      by_cases here : btbSlot state.spro.exec1.pc = element
      · subst here
        cases jump : isJumpOpcode state.spro.exec1.opcode with
        | false =>
            simp [Registers.nextBtb, Registers.retiresAt, Exec1.outcome, Btb.guess, active, jump]
        | true =>
            rcases binary.aluout (by simp [Registers.exec1Jumps, active, jump]) with
              goesOn | jumped
            · simp [Registers.nextBtb, Registers.retiresAt, Exec1.outcome, Btb.guess, active, jump,
                goesOn]
            · simp [Registers.nextBtb, Registers.retiresAt, Exec1.outcome, Btb.guess, active, jump,
                jumped]
      · have elsewhere : element ≠ btbSlot state.spro.exec1.pc := Ne.symm here
        cases jump : isJumpOpcode state.spro.exec1.opcode <;>
          simp [Registers.nextBtb, Registers.retiresAt, Btb.guess, active, jump, here,
            Function.update_of_ne elsewhere]

theorem next (binary : Binary state) : Binary (state.after shifts) where
  btb := by
    intro element
    change (state.spro.nextBtb state.btb).isTaken element = 0#8 ∨
      (state.spro.nextBtb state.btb).isTaken element = 1#8
    have kept := binary.btb element
    cases active : state.spro.exec1.active with
    | false => simpa [Registers.nextBtb, active] using kept
    | true =>
        by_cases here : element = btbSlot state.spro.exec1.pc
        · subst here
          cases jump : isJumpOpcode state.spro.exec1.opcode with
          | false => simp [Registers.nextBtb, active, jump]
          | true =>
              rcases binary.aluout (by simp [Registers.exec1Jumps, active, jump]) with
                goesOn | jumped
              · exact Or.inl (by simp [Registers.nextBtb, active, jump, goesOn])
              · exact Or.inr (by simp [Registers.nextBtb, active, jump, jumped])
        · cases jump : isJumpOpcode state.spro.exec1.opcode <;>
            simpa [Registers.nextBtb, active, jump, Function.update_of_ne here] using kept
  slots := by
    intro slot member
    rcases slots_next member with old | rfl
    · exact binary.slots slot old
    · rcases binary.btb (btbSlot state.spro.fetch0.pc) with notTaken | taken
      · exact Or.inl (by simp [Btb.slot, notTaken])
      · exact Or.inr (by simp [Btb.slot, taken])
  aluout := by
    intro jumps
    simp only [Registers.exec1Jumps, Bool.and_eq_true] at jumps
    obtain ⟨active, jump⟩ := jumps
    obtain ⟨-, -, -, moved⟩ := state.spro.exec1_entered active
    rw [State.after_exec1, moved] at jump ⊢
    simp only [Registers.exec0Aluout] at jump ⊢
    cases opcode : state.spro.exec0.opcode with
    | dmp | jlt | jle | jeq | jne => exact intOfBool_cases _
    | jin => exact Or.inr rfl
    | _ => simp [opcode, isJumpOpcode] at jump

end Binary

/-- The mistakes about an element are accounted for, and the branch target buffer has what the
last instruction of the element did. -/
structure Predicts (element : BitVec 6) (first : Option Word) (visited : List State)
    (state : State) : Prop where
  accounted : Accounted first (outcomes element visited) (mispredictions element visited)
    (state.spro.Pending element)
  learned : state.btb.guess element = (outcomes element visited).getLastD first

section Run

variable {shifts : Shifts} {image : Image} {btb : Btb} {element : BitVec 6} {first : Option Word}
variable {visited : List State} {state : State}

theorem binary_of_run (binary : btb.Binary) {clocks : Nat} {state : State}
    (run : runFor (next shifts) clocks (afterReset image btb) = some state) : Binary state := by
  refine runFor_invariant (motive := Binary) ?_ ?_ run
  · exact {
      btb := binary
      slots := by simp [Registers.slots, afterReset, spInit, Registers.zero, Dec1.zero, Slot.zero]
      aluout := by
        intro jumps
        cases jumps }
  · intro state state' binary step
    obtain ⟨-, -, -, -, rfl⟩ := next_eq_some.mp step
    exact binary.next

theorem outcomes_snoc :
    outcomes element (visited ++ [state]) =
      outcomes element visited ++
        if state.spro.retiresAt element then [state.spro.exec1.outcome] else [] := by
  rw [outcomes, filterMap_snoc]
  split <;> rfl

theorem mispredictions_snoc :
    mispredictions element (visited ++ [state]) =
      mispredictions element visited +
        if state.spro.exec1Flush && state.spro.retiresAt element then 1 else 0 := by
  rw [mispredictions, List.countP_append, List.countP_singleton, mispredictions]

theorem not_pending_of_flush (flush : state.spro.exec1Flush = true) (guess : Option Word) :
    ¬ (state.after shifts).spro.Pending element guess := by
  rintro ⟨slot, member, -⟩
  rw [slots_of_flush flush] at member
  cases member

theorem pending_of_retiresAt (retires : state.spro.retiresAt element = true) :
    state.spro.Pending element state.spro.exec1.toSlot.guess := by
  simp only [Registers.retiresAt, Bool.and_eq_true, decide_eq_true_eq] at retires
  exact ⟨state.spro.exec1.toSlot, (state.spro.mem_slots).mpr ⟨Or.inl rfl, retires.1⟩, retires.2,
    rfl⟩

theorem Predicts.next (predicts : Predicts element first visited state) (binary : Binary state) :
    Predicts element first (visited ++ [state]) (state.after shifts) := by
  obtain ⟨accounted, learned⟩ := predicts
  have pendings : Accounted first (outcomes element visited) (mispredictions element visited)
      ((state.after shifts).spro.Pending element) := by
    refine accounted.guess fun guess pending => ?_
    rw [← learned]
    exact pending_next pending
  constructor
  · rw [outcomes_snoc, mispredictions_snoc]
    cases retires : state.spro.retiresAt element with
    | false => simpa using pendings
    | true =>
        cases flush : state.spro.exec1Flush with
        | true =>
            exact accounted.mistake (pending_of_retiresAt retires) (binary.guess_ne_outcome flush)
              (not_pending_of_flush flush)
        | false => exact pendings.learn
  · rw [outcomes_snoc]
    change (state.spro.nextBtb state.btb).guess element = _
    rw [binary.guess_nextBtb]
    cases retires : state.spro.retiresAt element with
    | false => simpa using learned
    | true => simp

theorem predicts_of_run (binary : btb.Binary) {clocks : Nat}
    (run : runFor (next shifts) clocks (afterReset image btb) = some state)
    (element : BitVec 6) :
    Predicts element (btb.guess element)
      (past (next shifts) clocks (afterReset image btb)) state := by
  have first : Predicts element (btb.guess element) [] (afterReset image btb) := by
    refine ⟨.start ?_, rfl⟩
    rintro guess ⟨slot, member, -⟩
    simp [Registers.slots, afterReset, spInit, Registers.zero, Dec1.zero, Slot.zero] at member
  have binaries : ∀ visited ∈ past (next shifts) clocks (afterReset image btb),
      Binary visited := by
    intro visited member
    obtain ⟨index, -, -, reached, -⟩ := exists_of_mem_past run member
    exact binary_of_run binary reached
  refine runFor_induction_of first ?_ run binaries
  intro visited state state' predicts binary step
  obtain ⟨-, -, -, -, rfl⟩ := next_eq_some.mp step
  exact predicts.next binary

end Run

/-- The instructions of an element of the branch target buffer flush the pipe in EXEC1 only as
often as what they do changes. -/
theorem mispredictions_le_changes (shifts : Shifts) (image : Image) (btb : Btb) (clocks : Nat)
    (state : State) (binary : btb.Binary)
    (run : runFor (next shifts) clocks (afterReset image btb) = some state)
    (element : BitVec 6) :
    mispredictions element (past (next shifts) clocks (afterReset image btb)) ≤
      changes (btb.guess element)
        (outcomes element (past (next shifts) clocks (afterReset image btb))) :=
  (predicts_of_run binary run element).accounted.mistakes_le

/-- A memory full of JEQ r0, r0, 0: the first prediction is wrong and all others are right. -/
theorem mispredictions_le_changes_spin :
    ∃ state, runFor (next Shifts.x86) 20 (afterReset (fun _ => 0x24000000#32) .zero) =
        some state ∧
      mispredictions 0#6 (past (next Shifts.x86) 20 (afterReset (fun _ => 0x24000000#32) .zero)) ≤
        1 := by
  have run : (runFor (next Shifts.x86) 20
      (afterReset (fun _ => 0x24000000#32) .zero)).isSome = true := by decide +kernel
  obtain ⟨state, run⟩ := Option.isSome_iff_exists.mp run
  have bound := mispredictions_le_changes Shifts.x86 (fun _ => 0x24000000#32) .zero 20 state
    (fun _ => Or.inl rfl) run 0#6
  have changes : changes (Btb.zero.guess 0#6) (outcomes 0#6
      (past (next Shifts.x86) 20 (afterReset (fun _ => 0x24000000#32) .zero))) = 1 := by
    decide +kernel
  exact ⟨state, run, Nat.le_trans bound (Nat.le_of_eq changes)⟩

end SimpleProcessor.Pipeline
