import Mathlib.Algebra.Order.BigOperators.Group.Finset
import SimpleProcessor.Pipeline.Prediction
import SimpleProcessor.Pipeline.Throughput
import SimpleProcessor.Programs

/-!
# How long a program takes

The multi-cycle machine takes six clocks for an instruction.  The pipeline takes one, and up
to five more when it has predicted wrongly.  In a program that is shorter than the branch
target buffer no two instructions share an element of it, so that a run on the
instruction-set simulator tells how many wrong predictions there can be.
-/

namespace SimpleProcessor

open Transition LastValue
open Iss (Loaded)

namespace Iss

/-- Where an instruction jumps. -/
def State.turn (shifts : Shifts) (state : State) : Option Word :=
  if Arch.taken shifts state.fields state.regs then some state.fields.immediate else none

/-- What the instruction at an address did, each time it was executed. -/
def turnsAt (shifts : Shifts) (addr : Nat) (visited : List State) : List (Option Word) :=
  visited.filterMap fun state => if state.pc.toNat = addr then some (state.turn shifts) else none

/-- How often the instructions of a program do not do what they did the last time. -/
def turns (shifts : Shifts) (length : Nat) (visited : List State) : Nat :=
  ∑ addr ∈ Finset.range length, changes none (turnsAt shifts addr visited)

end Iss

namespace Pipeline

/-- A jump at an address that the branch target buffer tells from all others. -/
structure JumpAt (image : Image) (pc : Word) : Prop where
  small : pc.toNat < 64
  jump : isJumpOpcode (Fields.ofWord (image pc.address)).opcode = true

theorem toNat_btbSlot {pc : Word} (small : pc.toNat < 64) : (btbSlot pc).toNat = pc.toNat := by
  have positive : pc.msb = false := by
    rw [BitVec.msb_eq_false_iff_two_mul_lt]
    omega
  have size : btbSize.msb = false := by decide
  have remainder : pc.srem btbSize = pc % btbSize := by
    rw [BitVec.srem_eq, positive, size]
  have bound : btbSize.toNat = 64 := rfl
  rw [btbSlot, remainder, BitVec.toNat_setWidth, BitVec.toNat_umod, bound,
    Nat.mod_eq_of_lt small, Nat.mod_eq_of_lt small]

theorem eq_of_btbSlot {pc pc' : Word} (small : pc.toNat < 64) (small' : pc'.toNat < 64)
    (same : btbSlot pc = btbSlot pc') : pc = pc' := by
  apply BitVec.eq_of_toNat_eq
  rw [← toNat_btbSlot small, ← toNat_btbSlot small', same]

/-- Every prediction is about a jump and leads into the program. -/
structure Unaliased (image : Image) (length : Nat) (state : State) : Prop where
  btb : ∀ element target, state.btb.guess element = some target →
    target.toNat < length ∧ ∃ pc, btbSlot pc = element ∧ JumpAt image pc
  slots : ∀ slot ∈ state.spro.slots, ∀ target, slot.guess = some target → JumpAt image slot.pc
  near : ∀ hop ∈ state.spro.inFlight,
    hop.next.toNat < length ∨ hop.next.toNat ≤ hop.pc.toNat + 1

namespace Unaliased

variable {shifts : Shifts} {image : Image} {program : List Word} {state : State}
variable {visited : Iss.State} {length : Nat}

theorem afterReset (image : Image) (length : Nat) :
    Unaliased image length (afterReset image .zero) where
  btb := by
    intro element target guess
    cases guess
  slots := by
    intro slot member
    simp [Registers.slots, Pipeline.afterReset, spInit, Registers.zero, Dec1.zero,
      Slot.zero] at member
  near := by
    intro hop member
    cases member

theorem fetch0_lt (unaliased : Unaliased image length state) (small : length + 5 ≤ 64)
    {expected : Word} (inside : expected.toNat < length)
    (path : Path expected state.spro.inFlight state.spro.fetch0.pc) :
    state.spro.fetch0.pc.toNat < 64 := by
  have climbs : ∀ hop ∈ state.spro.inFlight,
      hop.next.toNat ≤ length - 1 ∨ hop.next.toNat ≤ hop.pc.toNat + 1 := by
    intro hop member
    exact (unaliased.near hop member).imp_left Nat.le_sub_one_of_lt
  have climbed := path.height_le BitVec.toNat climbs (Nat.le_sub_one_of_lt inside)
  have stages := state.spro.length_inFlight_le
  omega

theorem dec0Flush_eq (unaliased : Unaliased image length state)
    (frontEnd : FrontEnd image state) : state.spro.dec0Flush = false := by
  rw [← Bool.not_eq_true]
  intro flush
  simp only [Registers.dec0Flush, Bool.and_eq_true, Bool.not_eq_true', decide_eq_true_eq]
    at flush
  obtain ⟨⟨active, -⟩, noJump, predicted⟩ := flush
  have member : state.spro.dec0.toSlot ∈ state.spro.slots := by
    rw [Registers.mem_slots]
    exact ⟨by simp, active⟩
  have jump := (unaliased.slots _ member _ (if_pos predicted)).jump
  rw [← frontEnd.dec0 active, noJump] at jump
  cases jump

theorem guess_next (unaliased : Unaliased image program.length state) (binary : Binary state)
    (follows : Follows shifts image state visited) (placed : Placed shifts image visited)
    (inside : visited.Inside program) (closed : Iss.Closed program) (fits : program.length ≤ 64)
    {element : BitVec 6} {target : Word}
    (guess : (state.spro.nextBtb state.btb).guess element = some target) :
    target.toNat < program.length ∧ ∃ pc, btbSlot pc = element ∧ JumpAt image pc := by
  rw [binary.guess_nextBtb] at guess
  split at guess
  next retires =>
    simp only [Registers.retiresAt, Bool.and_eq_true, decide_eq_true_eq] at retires
    obtain ⟨active, here⟩ := retires
    simp only [Exec1.outcome, Option.ite_none_right_eq_some, Option.some.injEq] at guess
    obtain ⟨⟨jump, -⟩, rfl⟩ := guess
    obtain ⟨pc, -, fields, -, -⟩ := follows.exec1 placed active
    have basic := placed.plain.basic
    have address : state.spro.exec1.pc.toNat = visited.pc.toNat := by
      rw [pc]
      simp only [Word.ofAddress, BitVec.toNat_setWidth]
      omega
    rw [fields] at jump ⊢
    have branch : (Iss.fieldsAt program visited.pc.toNat).opcode.isBranch = true := by
      rw [← inside.fields, ← isJumpOpcode_eq basic, jump]
    refine ⟨?_, state.spro.exec1.pc, here, ?_, ?_⟩
    · rw [inside.fields]
      exact closed.target _ inside.pc branch
    · rw [address]
      exact Nat.lt_of_lt_of_le inside.pc fits
    · rw [pc, Word.address_ofAddress, ← placed.word]
      exact jump
  next => exact unaliased.btb element target guess

theorem next (unaliased : Unaliased image program.length state) (binary : Binary state)
    (follows : Follows shifts image state visited) (placed : Placed shifts image visited)
    (lossless : state.spro.Lossless) (inside : visited.Inside program)
    (closed : Iss.Closed program) (small : program.length + 5 ≤ 64) :
    Unaliased image program.length (state.after shifts) := by
  have expected : (Word.ofAddress visited.pc).toNat < program.length := by
    have pc := inside.pc
    simp only [Word.ofAddress, BitVec.toNat_setWidth]
    omega
  have fetch0 := unaliased.fetch0_lt small expected follows.path
  refine ⟨?_, ?_, ?_⟩
  · intro element target guess
    exact unaliased.guess_next binary follows placed inside closed (by omega) guess
  · intro slot member target guess
    rcases slots_next member with old | rfl
    · exact unaliased.slots slot old target guess
    · -- the element that was read belongs to the fetched address alone
      rw [guess_slot] at guess
      obtain ⟨-, pc, same, jumpAt⟩ := unaliased.btb _ target guess
      have here : pc = state.spro.fetch0.pc := eq_of_btbSlot jumpAt.small fetch0 same
      rw [← here]
      exact jumpAt
  · refine forall_inFlight_next follows.sound.frontEnd lossless.noDrop ?_ ?_ unaliased.near
    · intro pc
      right
      rw [BitVec.toNat_add]
      exact Nat.mod_le _ _
    · by_cases taken : state.btb.isTaken (btbSlot state.spro.fetch0.pc) = 0#8
      · right
        simp only [Btb.predicted, taken, ne_eq, not_true_eq_false, if_false, BitVec.toNat_add]
        exact Nat.mod_le _ _
      · left
        rw [Btb.predicted, if_pos taken]
        exact (unaliased.btb _ _ (if_pos taken)).1

end Unaliased

section Run

variable {shifts : Shifts} {image : Image} {program : List Word} {state : State} {k clocks : Nat}
variable {iss visited : Iss.State}

theorem outcome_eq (follows : Follows shifts image state visited)
    (placed : Placed shifts image visited) (active : state.spro.exec1.active = true) :
    state.spro.exec1.outcome = visited.turn shifts := by
  obtain ⟨-, -, fields, -, -⟩ := follows.exec1 placed active
  simp only [Exec1.outcome, Iss.State.turn, fields, follows.jumps_iff placed active]

theorem outcomes_eq {addr : Nat} (small : addr < 64)
    (inside : ∀ visited ∈ past (Iss.next shifts) k (Iss.init image), visited.pc.toNat < 64)
    {stages : List State}
    (retired : stages.filterMap (fun state =>
        if state.spro.exec1.active then some (state.spro.exec1.pc, state.spro.exec1.outcome)
        else none) =
      (past (Iss.next shifts) k (Iss.init image)).map fun visited =>
        (Word.ofAddress visited.pc, visited.turn shifts)) :
    outcomes (.ofNat 6 addr) stages =
      Iss.turnsAt shifts addr (past (Iss.next shifts) k (Iss.init image)) := by
  let select (event : Word × Option Word) : Option (Option Word) :=
    if btbSlot event.1 = .ofNat 6 addr then some event.2 else none
  have selected := congrArg (List.filterMap select) retired
  rw [List.filterMap_filterMap, List.filterMap_map] at selected
  have left : outcomes (.ofNat 6 addr) stages = stages.filterMap fun state =>
      (if state.spro.exec1.active then some (state.spro.exec1.pc, state.spro.exec1.outcome)
        else none).bind select := by
    rw [outcomes]
    congr 1
    funext state
    cases active : state.spro.exec1.active <;> simp [Registers.retiresAt, active, select]
  rw [left, selected, Iss.turnsAt]
  apply List.filterMap_congr
  intro visited member
  have pc : (Word.ofAddress visited.pc).toNat = visited.pc.toNat := by
    simp only [Word.ofAddress, BitVec.toNat_setWidth]
    omega
  have here : btbSlot (Word.ofAddress visited.pc) = .ofNat 6 addr ↔ visited.pc.toNat = addr := by
    rw [← BitVec.toNat_inj, toNat_btbSlot (by rw [pc]; exact inside visited member), pc,
      BitVec.toNat_ofNat, Nat.mod_eq_of_lt small]
  simp only [Function.comp_apply, select, here]

end Run

end Pipeline

section Run

variable {shifts : Shifts} {program : List Word} {image : Image} {k clocks : Nat}
variable {iss : Iss.State} {state : Pipeline.State}
variable (portable : Portable program) (small : program.length + 5 ≤ 64)
  (loaded : Loaded program image)
  (run : runFor (Iss.next shifts) k (Iss.init image) = some iss) (halted : iss.halted = true)
  (stores : ∀ visited ∈ past (Iss.next shifts) k (Iss.init image),
    visited.StoresBehind program.length)

section Follows

include portable loaded run halted stores

theorem Portable.noStall (state : Pipeline.State) (visited : Iss.State)
    (member : visited ∈ past (Iss.next shifts) k (Iss.init image))
    (follows : Pipeline.Follows shifts image state visited) :
    state.spro.isPipeStalled = false :=
  Pipeline.noStall_of_scheduled run halted (portable.placed_run loaded run stores)
    (portable.scheduled_run loaded run stores) member follows

theorem Portable.exists_follows
    (reached : runFor (Pipeline.next shifts) clocks (Pipeline.afterReset image .zero) =
      some state)
    (running : state.stopSim = false) :
    ∃ visited ∈ past (Iss.next shifts) k (Iss.init image),
      Pipeline.Follows shifts image state visited ∧ visited.Inside program := by
  obtain ⟨visited, member, follows⟩ :=
    Pipeline.follows_of_reached (fun _ taken => absurd rfl taken) run halted
      (portable.placed_run loaded run stores)
      (fun state visited member follows => Pipeline.Registers.lossless_of_noStall
        (portable.noStall loaded run halted stores state visited member follows))
      reached running
  obtain ⟨within, goesOn⟩ :=
    (Iss.within_of_run portable.toClosed loaded run stores).2 visited member
  exact ⟨visited, member, follows, within.inside goesOn⟩

include small

theorem Portable.unaliased
    (reached : runFor (Pipeline.next shifts) clocks (Pipeline.afterReset image .zero) =
      some state) :
    Pipeline.Unaliased image program.length state := by
  let good (state : Pipeline.State) : Prop := Pipeline.Binary state ∧
    ∃ visited ∈ past (Iss.next shifts) k (Iss.init image),
      Pipeline.Follows shifts image state visited ∧ visited.Inside program
  refine runFor_induction_of
    (motive := fun _ state => Pipeline.Unaliased image program.length state)
    (.afterReset image program.length) ?_ reached (?_ : ∀ visited ∈ _, good visited)
  · intro _ state state' unaliased ⟨binary, visited, member, follows, inside⟩ step
    obtain ⟨-, -, -, -, rfl⟩ := Pipeline.next_eq_some.mp step
    exact unaliased.next binary follows (portable.placed_run loaded run stores visited member)
      (Pipeline.Registers.lossless_of_noStall
        (portable.noStall loaded run halted stores state visited member follows))
      inside portable.toClosed small
  · intro state member
    obtain ⟨index, _, -, before, step⟩ := exists_of_mem_past reached member
    exact ⟨Pipeline.binary_of_run (fun _ => Or.inl rfl) before,
      portable.exists_follows loaded run halted stores before
        (Pipeline.next_eq_some.mp step).1⟩

/-- What is fetched has an element of the branch target buffer to itself. -/
theorem Portable.fetch0_lt
    (reached : runFor (Pipeline.next shifts) clocks (Pipeline.afterReset image .zero) =
      some state)
    (running : state.stopSim = false) : state.spro.fetch0.pc.toNat < 64 := by
  obtain ⟨visited, -, follows, inside⟩ :=
    portable.exists_follows loaded run halted stores reached running
  have expected : (Word.ofAddress visited.pc).toNat < program.length := by
    have pc := inside.pc
    simp only [Word.ofAddress, BitVec.toNat_setWidth]
    omega
  exact (portable.unaliased small loaded run halted stores reached).fetch0_lt small expected
    follows.path

/-- Every flush in EXEC1 is a wrong prediction about an instruction of the program. -/
theorem Portable.flushes_le
    (reached : runFor (Pipeline.next shifts) clocks (Pipeline.afterReset image .zero) =
      some state) :
    (past (Pipeline.next shifts) clocks (Pipeline.afterReset image .zero)).countP
        (fun visited => visited.spro.exec1Flush) ≤
      ∑ addr ∈ Finset.range program.length, Pipeline.mispredictions (.ofNat 6 addr)
        (past (Pipeline.next shifts) clocks (Pipeline.afterReset image .zero)) := by
  have address (state : Pipeline.State)
      (member : state ∈ past (Pipeline.next shifts) clocks (Pipeline.afterReset image .zero))
      (flush : state.spro.exec1Flush = true) :
      state.spro.exec1.active = true ∧ state.spro.exec1.pc.toNat < program.length := by
    obtain ⟨index, _, -, before, step⟩ := exists_of_mem_past reached member
    obtain ⟨visited, executed, follows, inside⟩ := portable.exists_follows loaded run halted
      stores before (Pipeline.next_eq_some.mp step).1
    have active : state.spro.exec1.active = true := by
      simp only [Pipeline.Registers.exec1Flush, Pipeline.Registers.exec1Jumps, Bool.and_eq_true]
        at flush
      exact flush.1.1
    obtain ⟨pc, -⟩ := follows.exec1 (portable.placed_run loaded run stores visited executed) active
    have below := inside.pc
    refine ⟨active, ?_⟩
    rw [pc]
    simp only [Word.ofAddress, BitVec.toNat_setWidth]
    omega
  rw [countP_eq_sum fun state member flush => (address state member flush).2]
  refine Finset.sum_le_sum fun addr member => List.countP_mono_left fun state visited here => ?_
  simp only [Bool.and_eq_true, decide_eq_true_eq] at here
  obtain ⟨active, below⟩ := address state visited here.1
  have slot : Pipeline.btbSlot state.spro.exec1.pc = .ofNat 6 addr := by
    rw [← BitVec.toNat_inj, Pipeline.toNat_btbSlot (by omega), here.2, BitVec.toNat_ofNat]
    omega
  simp [here.1, Pipeline.Registers.retiresAt, active, slot]

/-- A branch is predicted wrongly only when it does not do what it did the last time. -/
theorem Portable.flushes_le_turns
    (reached : runFor (Pipeline.next shifts) clocks (Pipeline.afterReset image .zero) =
      some state)
    (retired : (past (Pipeline.next shifts) clocks (Pipeline.afterReset image .zero)).filterMap
        (fun state =>
          if state.spro.exec1.active then some (state.spro.exec1.pc, state.spro.exec1.outcome)
          else none) =
      (past (Iss.next shifts) k (Iss.init image)).map fun visited =>
        (Word.ofAddress visited.pc, visited.turn shifts)) :
    (past (Pipeline.next shifts) clocks (Pipeline.afterReset image .zero)).countP
        (fun visited => visited.spro.exec1Flush) ≤
      Iss.turns shifts program.length (past (Iss.next shifts) k (Iss.init image)) := by
  refine Nat.le_trans (portable.flushes_le small loaded run halted stores reached)
    (Finset.sum_le_sum fun addr member => ?_)
  have below : addr < 64 := by
    have inside := Finset.mem_range.mp member
    omega
  have directions := Pipeline.outcomes_eq below (fun visited member => by
    obtain ⟨within, goesOn⟩ :=
      (Iss.within_of_run portable.toClosed loaded run stores).2 visited member
    have inside := (within.inside goesOn).pc
    omega) retired
  rw [← directions]
  exact (Pipeline.predicts_of_run (fun _ => Or.inl rfl) reached _).accounted.mistakes_le

end Follows

end Run

/-- A portable program that is shorter than the branch target buffer takes one clock for each
instruction in the pipeline, five for each time that a branch does not do what it did the last
time, and six to fill the stages.  No two addresses that are fetched share an element of the
buffer, so that DEC0 never flushes. -/
theorem clocks_le_turns (shifts : Shifts) (program : List Word) (image : Image) (k : Nat)
    (iss : Iss.State) (portable : Portable program) (small : program.length + 5 ≤ 64)
    (loaded : Loaded program image)
    (run : runFor (Iss.next shifts) k (Iss.init image) = some iss) (halted : iss.halted = true)
    (stores : ∀ visited ∈ past (Iss.next shifts) k (Iss.init image),
      visited.StoresBehind program.length) :
    ∃ clocks state, Pipeline.Refines shifts image .zero k iss clocks state ∧
      (clocks ≤ 6 + k +
        5 * Iss.turns shifts program.length (past (Iss.next shifts) k (Iss.init image))) ∧
      ∀ visited ∈ past (Pipeline.next shifts) clocks (Pipeline.afterReset image .zero),
        visited.spro.dec0Flush = false ∧
        ∀ visited' ∈ past (Pipeline.next shifts) clocks (Pipeline.afterReset image .zero),
          Pipeline.btbSlot visited.spro.fetch0.pc = Pipeline.btbSlot visited'.spro.fetch0.pc →
            visited.spro.fetch0.pc = visited'.spro.fetch0.pc := by
  have bounded : Pipeline.Btb.zero.Bounded := fun _ taken => absurd rfl taken
  have placed := portable.placed_run loaded run stores
  obtain ⟨clocks, state, refines, noStall⟩ := portable.pipeline loaded bounded run halted stores
  have alone : ∀ visited ∈ past (Pipeline.next shifts) clocks (Pipeline.afterReset image .zero),
      visited.spro.dec0Flush = false ∧ visited.spro.fetch0.pc.toNat < 64 := by
    intro visited member
    obtain ⟨index, _, -, before, step⟩ := exists_of_mem_past refines.run member
    have unaliased := portable.unaliased small loaded run halted stores before
    exact ⟨unaliased.dec0Flush_eq (Pipeline.frontEnd_of_run before),
      portable.fetch0_lt small loaded run halted stores before
        (Pipeline.next_eq_some.mp step).1⟩
  refine ⟨clocks, state, refines, ?_, fun visited member => ⟨(alone visited member).1,
    fun visited' member' => Pipeline.eq_of_btbSlot (alone visited member).2
      (alone visited' member').2⟩⟩
  -- the directions of the branches, in a run that can only be the same
  obtain ⟨clocks', state', reached, -, ended, retired⟩ :=
    Pipeline.follows_run (fun visited => (Word.ofAddress visited.pc, visited.turn shifts))
      (fun state => (state.spro.exec1.pc, state.spro.exec1.outcome))
      (fun state visited member follows active => Prod.ext
        (follows.exec1 (placed visited member) active).1
        (Pipeline.outcome_eq follows (placed visited member) active))
      bounded run halted placed
      fun clocks state visited _ member follows => Pipeline.Registers.lossless_of_noStall
        (portable.noStall loaded run halted stores state visited member follows)
  have same : clocks' = clocks :=
    Nat.le_antisymm (le_of_stopped refines.run (if_pos refines.stopped) reached)
      (le_of_stopped reached (if_pos ended.stopped) refines.run)
  subst same
  let visited := past (Pipeline.next shifts) clocks' (Pipeline.afterReset image .zero)
  have flushes : visited.countP (fun state => state.spro.exec1Flush) ≤
      Iss.turns shifts program.length (past (Iss.next shifts) k (Iss.init image)) :=
    portable.flushes_le_turns small loaded run halted stores reached retired
  have noDec0Flush : visited.countP (fun state => state.spro.dec0Flush) = 0 := by
    rw [List.countP_eq_zero]
    intro state member
    simp [(alone state member).1]
  have noStalls : visited.countP (fun state => state.spro.isPipeStalled) = 0 := by
    rw [List.countP_eq_zero]
    intro state member
    simp [noStall state member]
  have noDrops : visited.countP (fun state => state.spro.stallDrops) = 0 := by
    rw [List.countP_eq_zero]
    intro state member
    simp [Pipeline.Registers.stallDrops, noStall state member]
  have retires : visited.countP Pipeline.State.retires = k := by
    have lengths := congrArg List.length retired
    rwa [List.length_map, length_past run, Pipeline.length_retired] at lengths
  have budget : clocks' ≤ 6 + visited.countP Pipeline.State.retires +
      5 * visited.countP (fun state => state.spro.exec1Flush) +
      2 * visited.countP (fun state => state.spro.dec0Flush) +
      visited.countP (fun state => state.spro.isPipeStalled) +
      2 * visited.countP (fun state => state.spro.stallDrops) :=
    Pipeline.clocks_le_budget reached
  rw [retires, noDec0Flush, noStalls, noDrops] at budget
  omega

/-- 0: LD r2, [40]; 1: ADD r3, r0, r0; 2: SUB r2, r2, 1; 3: JNE r2, r0, 2; 4: HLT. -/
def countdownProgram : List Word :=
  [0x10810028#32, 0x00c00000#32, 0x02910001#32, 0x26100002#32, 0x30000000#32]

/-- The program with the number it counts down from. -/
def countdownImage (count : Word) : Image := fun addr =>
  if addr.toNat < 5 then Iss.wordAt countdownProgram addr.toNat
  else if addr = 40#16 then count
  else 0#32

/-- The branch of a countdown changes its direction twice, however often it is executed. -/
theorem clocks_le_turns_countdown :
    ∃ iss clocks state,
      Pipeline.Refines Shifts.x86 (countdownImage 20#32) .zero 43 iss clocks state ∧
        clocks ≤ 59 := by
  have executed : (runFor (Iss.next Shifts.x86) 43 (Iss.init (countdownImage 20#32))).map
      Iss.State.halted = some true := by decide +kernel
  obtain ⟨iss, run, halted⟩ := Option.map_eq_some_iff.mp executed
  obtain ⟨clocks, state, refines, bound, -⟩ :=
    clocks_le_turns Shifts.x86 countdownProgram (countdownImage 20#32) 43 iss
      (by decide +kernel) (by decide) (fun addr inside => if_pos inside) run halted
      (by decide +kernel)
  have turns : Iss.turns Shifts.x86 countdownProgram.length
      (past (Iss.next Shifts.x86) 43 (Iss.init (countdownImage 20#32))) = 2 := by
    decide +kernel
  rw [turns] at bound
  exact ⟨iss, clocks, state, refines, bound⟩

end SimpleProcessor
