import SimpleProcessor.Pipeline.Operands
import SimpleProcessor.Iss.Execution

/-!
# Speculation leaves no trace

The instruction in EXEC1 is always the next one of the program, and the younger
stages hold a path that leads away from it.  A load-free program never stalls:
only a wrong path may bring a load into the pipeline, and behind a store the
path in EXEC0 is still the right one.  Wrong paths touch neither the registers
nor the data memory, and they stay near the addresses that the branch target
buffer names, so every word they fetch exists.
-/

namespace SimpleProcessor.Pipeline

open Transition

/-- The last address that an immediate can name. -/
def topTarget : Nat := 32767

/-- The branch target buffer predicts addresses that an immediate can name. -/
def Btb.Bounded (btb : Btb) : Prop :=
  ∀ slot, btb.isTaken slot ≠ 0#8 → (btb.target slot).toNat ≤ topTarget

/-- The fetch went to an address that an immediate can name, or went on. -/
def Near (hop : Hop Word) : Prop := hop.next.toNat ≤ topTarget ∨ hop.next = hop.pc + 1#32

theorem near_predicted {btb : Btb} (bounded : btb.Bounded) (pc : Word) :
    Near ⟨pc, btb.predicted pc⟩ := by
  by_cases taken : btb.isTaken (btbSlot pc) = 0#8
  · right
    simp [Btb.predicted, taken]
  · left
    simpa [Btb.predicted, taken] using bounded (btbSlot pc) taken

section Clock

variable {shifts : Shifts} {image : Image} {state : State}

theorem bounded_next (bounded : state.btb.Bounded)
    (target : state.spro.exec1Jumps = true → state.spro.exec1.aluout ≠ 0#32 →
      state.spro.exec1.immediate.toNat ≤ topTarget) :
    (state.spro.nextBtb state.btb).Bounded := by
  intro slot taken
  rcases Registers.nextBtb_cases taken with ⟨jumps, taken, written⟩ | ⟨taken, kept⟩
  · rw [written]
    exact target jumps taken
  · rw [kept]
    exact bounded slot taken

theorem forall_mem_hopIf {active : Bool} {pc next : Word} {condition : Hop Word → Prop} :
    (∀ hop ∈ hopIf active pc next, condition hop) ↔ (active = true → condition ⟨pc, next⟩) := by
  cases active <;> simp

theorem forall_inFlight_next {condition : Hop Word → Prop} (frontEnd : FrontEnd image state)
    (noDrop : state.spro.stallDrops = false)
    (successor : ∀ pc : Word, condition ⟨pc, pc + 1#32⟩)
    (predicted : condition ⟨state.spro.fetch0.pc, state.btb.predicted state.spro.fetch0.pc⟩)
    (holds : ∀ hop ∈ state.spro.inFlight, condition hop) :
    ∀ hop ∈ (state.after shifts).spro.inFlight, condition hop := by
  cases flush : state.spro.exec1Flush with
  | true =>
      rw [inFlight_of_flush flush]
      intro hop member
      cases member
  | false =>
  cases stalled : state.spro.isPipeStalled with
  | true =>
      rw [inFlight_of_stall stalled noDrop frontEnd.behind]
      intro hop member
      exact holds hop (List.mem_append_right _ member)
  | false =>
      simp only [Registers.inFlight, Registers.younger, List.forall_mem_append,
        forall_mem_hopIf] at holds
      obtain ⟨-, exec0, dec1, dec0, fetch1⟩ := holds
      rw [inFlight_of_advance flush stalled frontEnd.fetching]
      simp only [List.forall_mem_append, forall_mem_hopIf]
      refine ⟨exec0, dec1, ?_, ?_⟩
      · intro active
        rw [nextDec1_steered stalled active]
        split
        · exact successor state.spro.dec0.pc
        · exact dec0 active
      · split
        · intro hop member
          cases member
        · simp only [List.forall_mem_append, forall_mem_hopIf]
          exact ⟨fetch1, fun _ => predicted⟩

theorem near_next (frontEnd : FrontEnd image state) (bounded : state.btb.Bounded)
    (noDrop : state.spro.stallDrops = false)
    (near : ∀ hop ∈ state.spro.inFlight, Near hop) :
    ∀ hop ∈ (state.after shifts).spro.inFlight, Near hop :=
  forall_inFlight_next frontEnd noDrop (fun _ => Or.inr rfl)
    (near_predicted bounded state.spro.fetch0.pc) near

theorem aluout_next (active : (state.after shifts).spro.exec1.active = true)
    (computes : (state.after shifts).spro.exec1.opcode.isCompute = true ∨
      (state.after shifts).spro.exec1.opcode.isBranch = true) :
    (state.after shifts).spro.exec1.aluout =
      aluResult shifts (state.after shifts).spro.exec1.opcode
        (state.after shifts).spro.exec1.alu0 (state.after shifts).spro.exec1.alu1 := by
  obtain ⟨-, -, -, moved⟩ := state.spro.exec1_entered active
  rw [State.after_exec1, moved] at computes ⊢
  exact Registers.exec0Aluout_eq shifts computes

/-- An empty EXEC0 behind a full EXEC1 repeats its fields. -/
theorem stale_next (active : (state.after shifts).spro.exec1.active = true)
    (empty : (state.after shifts).spro.exec0.active = false) :
    (state.after shifts).spro.exec0.toFields = (state.after shifts).spro.exec1.toFields := by
  obtain ⟨-, noStall, noFlush, moved⟩ := state.spro.exec1_entered active
  have noDec1 : state.spro.dec1.active = false := by
    rw [← Bool.not_eq_true]
    intro occupied
    simp [Registers.nextExec0, occupied, noStall, noFlush] at empty
  rw [State.after_exec1, moved]
  simp [Registers.nextExec0, noDec1]

end Clock

/-- The invariants of a run in which no stall does harm. -/
structure Sound (shifts : Shifts) (image : Image) (state : State) : Prop where
  frontEnd : FrontEnd image state
  held : OperandsHeld state.spro
  aluout : state.spro.exec1.active = true →
    state.spro.exec1.opcode.isCompute = true ∨ state.spro.exec1.opcode.isBranch = true →
    state.spro.exec1.aluout =
      aluResult shifts state.spro.exec1.opcode state.spro.exec1.alu0 state.spro.exec1.alu1
  stale : state.spro.exec1.active = true → state.spro.exec0.active = false →
    state.spro.exec0.toFields = state.spro.exec1.toFields
  near : ∀ hop ∈ state.spro.inFlight, Near hop
  btb : state.btb.Bounded
  rest : state.spro.dma.AtRest

/-- The conditions on the instruction in EXEC1. -/
structure Registers.Admits (spro : Registers) : Prop where
  plain : spro.exec1.active = true → spro.exec1.toFields.Plain
  target : spro.exec1Jumps = true → spro.exec1.aluout ≠ 0#32 →
    spro.exec1.immediate.toNat ≤ topTarget
  store : spro.exec1.active = true → spro.exec1.opcode = .st → spro.exec1.alu1.InRange

/-- A clock neither drops an instruction nor loses a loaded operand. -/
structure Registers.Lossless (spro : Registers) : Prop where
  noDrop : spro.stallDrops = false
  notLost : spro.latchLost = false

theorem Registers.length_inFlight_le (spro : Registers) : spro.inFlight.length ≤ 5 := by
  have single (active : Bool) (pc next : Word) : (hopIf active pc next).length ≤ 1 := by
    cases active <;> simp
  simp only [inFlight, younger, List.length_append]
  have exec1 := single spro.exec1.active spro.exec1.pc spro.exec1.steered
  have exec0 := single spro.exec0.active spro.exec0.pc spro.exec0.steered
  have dec1 := single spro.dec1.active spro.dec1.pc spro.dec1.steered
  have dec0 := single spro.dec0.active spro.dec0.pc spro.dec0.steered
  have fetch1 := single spro.fetch1.active spro.fetch1.pc spro.fetch1.steered
  omega

theorem Registers.lossless_of_noStall {spro : Registers} (noStall : spro.isPipeStalled = false) :
    spro.Lossless where
  noDrop := by simp [stallDrops, noStall]
  notLost := by simp [latchLost, noStall]

/-! ## What a clock needs to succeed -/

section Succeeds

variable {shifts : Shifts} {state : State} {expected : Word}

theorem fetch0_le_of_near (near : ∀ hop ∈ state.spro.inFlight, Near hop)
    (low : expected.toNat ≤ topTarget)
    (path : Path expected state.spro.inFlight state.spro.fetch0.pc) :
    state.spro.fetch0.pc.toNat ≤ topTarget + 5 := by
  have climbs : ∀ hop ∈ state.spro.inFlight,
      hop.next.toNat ≤ topTarget ∨ hop.next.toNat ≤ hop.pc.toNat + 1 := by
    intro hop member
    rcases near hop member with direct | succ
    · exact Or.inl direct
    · right
      rw [succ, BitVec.toNat_add]
      exact Nat.mod_le _ _
  have stages := state.spro.length_inFlight_le
  have climbed := path.height_le BitVec.toNat climbs low
  omega

/-- A clock succeeds when the fetches stay near and a store in EXEC1 has an address that
exists. -/
theorem next_eq_of_near (near : ∀ hop ∈ state.spro.inFlight, Near hop)
    (store : state.spro.exec1.active = true → state.spro.exec1.opcode = .st →
      state.spro.exec1.alu1.InRange)
    (running : state.stopSim = false) (low : expected.toNat ≤ topTarget)
    (path : Path expected state.spro.inFlight state.spro.fetch0.pc) :
    next shifts state = some (state.after shifts) := by
  have fetch0 := fetch0_le_of_near near low path
  simp only [topTarget] at fetch0 low
  refine next_eq_some.mpr ⟨running, ?_, ?_, ?_, rfl⟩
  · have exec1 : (state.spro.exec1.active && outsideBtb state.spro.exec1.pc) = false := by
      cases active : state.spro.exec1.active with
      | false => rfl
      | true =>
          rw [exec1_pc_of_path active path, Bool.true_and]
          exact outsideBtb_of_lt (by omega)
    rw [Registers.leavesBtb, exec1, outsideBtb_of_lt (by omega), Bool.and_false, Bool.or_false]
  · intro made makes
    simp only [Registers.cpuClock] at makes
    split at makes
    next =>
      simp only [Registers.storeAccess] at makes
      split at makes
      next stores =>
        cases makes
        simp only [Bool.and_eq_true, decide_eq_true_eq] at stores
        exact store stores.1 stores.2
      next => contradiction
    next =>
      simp only [Registers.loadAccess] at makes
      split at makes
      next =>
        cases makes
        rw [Word.and_mask_eq]
        exact Word.ofAddress_inRange _
      next => contradiction
  · intro made makes
    simp only [Registers.fetchAccess] at makes
    split at makes
    next =>
      cases makes
      simp only [Access.InRange, Word.InRange]
      omega
    next => contradiction

theorem sramd_data_of_rest (rest : state.spro.dma.AtRest) :
    (state.after shifts).sramd.data =
      if state.spro.exec1.active = true ∧ state.spro.exec1.opcode = .st then
        Function.update state.sramd.data state.spro.exec1.alu1.address state.spro.exec1.alu0
      else state.sramd.data := by
  have port : state.dataAccess = state.spro.cpuClock.access :=
    rest.portAccess_eq state.spro.cpuClock_wellTimed
  change (state.sramd.after state.dataAccess).data = _
  rw [port, Memory.after_data]
  by_cases store : state.spro.exec1.active = true ∧ state.spro.exec1.opcode = .st
  · simp [Registers.cpuClock, Registers.storeAccess, store]
  · have noStore : state.spro.storeAccess = none := by
      rw [Registers.storeAccess, if_neg]
      simpa using store
    simp only [Registers.cpuClock, noStore, Option.isSome_none, Bool.false_eq_true, if_false,
      Registers.loadAccess, if_neg store]
    split <;> simp_all

end Succeeds

namespace Sound

variable {shifts : Shifts} {image : Image} {state : State} {expected : Word}

theorem afterReset (shifts : Shifts) (image : Image) {btb : Btb} (bounded : btb.Bounded) :
    Sound shifts image (afterReset image btb) where
  frontEnd := .afterReset image btb
  held := .afterReset image btb
  aluout := by intro active; cases active
  stale := by intro active; cases active
  near := by intro hop member; cases member
  btb := bounded
  rest := ⟨rfl, rfl⟩

theorem noRequest (admits : state.spro.Admits) : state.spro.cpuClock.request = none := by
  simp only [Registers.cpuClock, ite_eq_right_iff, Bool.and_eq_true, decide_eq_true_eq]
  rintro ⟨active, dma⟩
  have basic := (admits.plain active).basic
  simp [dma, Opcode.isBasic] at basic

theorem next (sound : Sound shifts image state) (admits : state.spro.Admits)
    (lossless : state.spro.Lossless) : Sound shifts image (state.after shifts) where
  frontEnd := sound.frontEnd.next
  held := sound.held.next admits.plain lossless.notLost
  aluout := aluout_next
  stale := stale_next
  near := near_next sound.frontEnd sound.btb lossless.noDrop sound.near
  btb := bounded_next sound.btb admits.target
  rest := sound.rest.next (noRequest admits) state.sramd.dataout

theorem next_eq (sound : Sound shifts image state) (admits : state.spro.Admits)
    (running : state.stopSim = false) (low : expected.toNat ≤ topTarget)
    (path : Path expected state.spro.inFlight state.spro.fetch0.pc) :
    Pipeline.next shifts state = some (state.after shifts) :=
  next_eq_of_near sound.near admits.store running low path

theorem sramd_data (sound : Sound shifts image state) :
    (state.after shifts).sramd.data =
      if state.spro.exec1.active = true ∧ state.spro.exec1.opcode = .st then
        Function.update state.sramd.data state.spro.exec1.alu1.address state.spro.exec1.alu0
      else state.sramd.data :=
  sramd_data_of_rest sound.rest

end Sound

/-- The number of clocks before an instruction is in EXEC1. -/
def Registers.rank (spro : Registers) : Nat :=
  if spro.exec1.active then 0
  else if spro.exec0.active then 1
  else if spro.dec1.active then 2
  else if spro.dec0.active then 3
  else if spro.fetch1.active then 4
  else if spro.fetch0.active then 5
  else 6

theorem Registers.rank_le (spro : Registers) :
    (spro.exec1.active = true → spro.rank ≤ 0) ∧ (spro.exec0.active = true → spro.rank ≤ 1) ∧
      (spro.dec1.active = true → spro.rank ≤ 2) ∧ (spro.dec0.active = true → spro.rank ≤ 3) ∧
      (spro.fetch1.active = true → spro.rank ≤ 4) ∧
      (spro.fetch0.active = true → spro.rank ≤ 5) := by
  refine ⟨?_, ?_, ?_, ?_, ?_, ?_⟩
  all_goals
    intro active
    simp only [rank, active, if_true]
    repeat' split
    all_goals decide

/-- While EXEC1 is empty the oldest instruction moves on. -/
theorem rank_next (shifts : Shifts) {image : Image} {state : State}
    (frontEnd : FrontEnd image state) (empty : state.spro.exec1.active = false) :
    (state.after shifts).spro.rank < state.spro.rank := by
  have noStall : state.spro.isPipeStalled = false := by
    simp [Registers.isPipeStalled, empty]
  have noFlush : state.spro.exec1Flush = false := by
    simp [Registers.exec1Flush, Registers.exec1Jumps, empty]
  obtain ⟨inExec1, inExec0, inDec1, inDec0, inFetch1, inFetch0⟩ :=
    (state.after shifts).spro.rank_le
  cases exec0 : state.spro.exec0.active with
  | true =>
      have rank : state.spro.rank = 1 := by simp [Registers.rank, empty, exec0]
      have moved := inExec1 (by
        simp [Registers.nextExec1, Registers.leavesExec0, exec0, noStall, noFlush])
      omega
  | false =>
  cases dec1 : state.spro.dec1.active with
  | true =>
      have rank : state.spro.rank = 2 := by simp [Registers.rank, empty, exec0, dec1]
      have moved := inExec0 (by simp [Registers.nextExec0, dec1, noStall, noFlush])
      omega
  | false =>
  cases dec0 : state.spro.dec0.active with
  | true =>
      have rank : state.spro.rank = 3 := by simp [Registers.rank, empty, exec0, dec1, dec0]
      have moved := inDec1 (by simp [Registers.nextDec1, dec0, noStall, noFlush])
      omega
  | false =>
  have noDec0Flush : state.spro.dec0Flush = false := by simp [Registers.dec0Flush, dec0]
  cases fetch1 : state.spro.fetch1.active with
  | true =>
      have rank : state.spro.rank = 4 := by
        simp [Registers.rank, empty, exec0, dec1, dec0, fetch1]
      have moved := inDec0 (by
        simp [Registers.nextDec0, fetch1, noStall, noFlush, noDec0Flush])
      omega
  | false =>
  cases fetch0 : state.spro.fetch0.active with
  | true =>
      have rank : state.spro.rank = 5 := by
        simp [Registers.rank, empty, exec0, dec1, dec0, fetch1, fetch0]
      have moved := inFetch1 (by
        simp [Registers.nextFetch1, Registers.fetches, fetch0, noStall, noFlush, noDec0Flush,
          Btb.slot])
      omega
  | false =>
      have rank : state.spro.rank = 6 := by
        simp [Registers.rank, empty, exec0, dec1, dec0, fetch1, fetch0]
      have moved := inFetch0 (by simp [Registers.nextFetch0, frontEnd.start])
      omega

/-! ## The pipeline and the instruction-set simulator -/

/-- An instruction of a load-free program in the lower half of the memory. -/
structure LoadFree (shifts : Shifts) (iss : Iss.State) : Prop where
  plain : iss.fields.Plain
  noLoad : iss.fields.opcode ≠ .ld
  below : iss.pc.toNat ≤ topTarget
  target : Arch.taken shifts iss.fields iss.regs = true →
    iss.fields.immediate.toNat ≤ topTarget
  store : iss.fields.opcode = .st → (iss.fields.operand1 iss.regs).InRange

/-- A plain instruction in the lower half of the memory, as it was loaded into the
instruction memory. -/
structure Placed (shifts : Shifts) (image : Image) (iss : Iss.State) : Prop where
  plain : iss.fields.Plain
  below : iss.pc.toNat ≤ topTarget
  target : Arch.taken shifts iss.fields iss.regs = true →
    iss.fields.immediate.toNat ≤ topTarget
  store : iss.fields.opcode = .st → (iss.fields.operand1 iss.regs).InRange
  word : iss.word = image iss.pc

theorem Placed.ordinary {shifts : Shifts} {image : Image} {iss : Iss.State}
    (placed : Placed shifts image iss) : iss.Ordinary shifts where
  basic := placed.plain.basic
  below := by
    have below := placed.below
    simp only [topTarget] at below
    omega
  target := placed.target
  store := placed.store

/-- The instruction is the one that was loaded into the instruction memory. -/
structure Original (shifts : Shifts) (image : Image) (iss : Iss.State) : Prop
    extends LoadFree shifts iss where
  word : iss.word = image iss.pc

instance (shifts : Shifts) (iss : Iss.State) : Decidable (LoadFree shifts iss) :=
  decidable_of_iff
    (iss.fields.Plain ∧ iss.fields.opcode ≠ .ld ∧ iss.pc.toNat ≤ topTarget ∧
      (Arch.taken shifts iss.fields iss.regs = true →
        iss.fields.immediate.toNat ≤ topTarget) ∧
      (iss.fields.opcode = .st → (iss.fields.operand1 iss.regs).InRange))
    ⟨fun ⟨plain, noLoad, below, target, store⟩ => ⟨plain, noLoad, below, target, store⟩,
      fun ⟨plain, noLoad, below, target, store⟩ => ⟨plain, noLoad, below, target, store⟩⟩

theorem Original.placed {shifts : Shifts} {image : Image} {iss : Iss.State}
    (original : Original shifts image iss) : Placed shifts image iss :=
  ⟨original.plain, original.below, original.target, original.store, original.word⟩

theorem LoadFree.ordinary {shifts : Shifts} {iss : Iss.State} (loadFree : LoadFree shifts iss) :
    iss.Ordinary shifts where
  basic := loadFree.plain.basic
  below := by
    have below := loadFree.below
    simp only [topTarget] at below
    omega
  target := loadFree.target
  store := loadFree.store

/-- The second instruction does not wait for the first one: no load follows a store, and
what follows a load does not name its destination. -/
structure Scheduled (fields fields' : Fields) : Prop where
  store : fields.opcode = .st → fields'.opcode ≠ .ld
  load : fields.opcode = .ld → fields.dst ≠ fields'.src0 ∧ fields.dst ≠ fields'.src1

/-- The pipeline is about to retire the instruction that the instruction-set
simulator is about to execute. -/
structure Matches (shifts : Shifts) (image : Image) (state : State) (iss : Iss.State) :
    Prop where
  sound : Sound shifts image state
  running : state.stopSim = false
  goesOn : iss.halted = false
  low : iss.regs.LowZero
  path : Path (Word.ofAddress iss.pc) state.spro.inFlight state.spro.fetch0.pc
  r : state.spro.r = iss.regs
  data : state.sramd.data = iss.mem

/-- Both machines have stopped. -/
structure Stopped (image : Image) (state : State) (iss : Iss.State) : Prop where
  stopped : state.stopSim = true
  halted : iss.halted = true
  r : state.spro.r = iss.regs
  data : state.sramd.data = iss.mem
  srami : state.srami.data = image

theorem ofAddress_le {pc : Address} (below : pc.toNat ≤ topTarget) :
    (Word.ofAddress pc).toNat ≤ topTarget := by
  simp only [Word.ofAddress, BitVec.toNat_setWidth, topTarget] at below ⊢
  omega

theorem isJumpOpcode_eq {opcode : Opcode} (basic : opcode.isBasic = true) :
    isJumpOpcode opcode = opcode.isBranch := by
  revert basic
  cases opcode <;> simp [Opcode.isBasic, isJumpOpcode, Opcode.isBranch]

namespace Matches

variable {shifts : Shifts} {image : Image} {state : State} {iss : Iss.State}

theorem exec1 (both : Matches shifts image state iss) (placed : Placed shifts image iss)
    (active : state.spro.exec1.active = true) :
    state.spro.exec1.pc = Word.ofAddress iss.pc ∧ state.spro.exec1.inst = iss.word ∧
      state.spro.exec1.toFields = iss.fields ∧
      state.spro.exec1.alu0 = iss.fields.operand0 iss.regs ∧
      state.spro.exec1.alu1 = iss.fields.operand1 iss.regs := by
  have pc := exec1_pc_of_path active both.path
  obtain ⟨inst, fields⟩ := both.sound.frontEnd.exec1 active
  rw [pc, Word.address_ofAddress, ← placed.word] at inst
  rw [inst] at fields
  have plain : state.spro.exec1.toFields.Plain := by
    rw [fields]
    exact placed.plain
  obtain ⟨alu0, alu1⟩ := both.sound.held.exec1 active plain
  rw [fields, both.r] at alu0 alu1
  exact ⟨pc, inst, fields, alu0, alu1⟩

theorem taken_iff (both : Matches shifts image state iss) (placed : Placed shifts image iss)
    (active : state.spro.exec1.active = true)
    (branch : iss.fields.opcode.isBranch = true) :
    state.spro.exec1.aluout ≠ 0#32 ↔ Arch.taken shifts iss.fields iss.regs = true := by
  obtain ⟨-, -, fields, alu0, alu1⟩ := both.exec1 placed active
  have aluout := both.sound.aluout active
  simp only [fields] at aluout
  rw [aluout (Or.inr branch), alu0, alu1]
  simp [Arch.taken, branch]

theorem exec0_pc (both : Matches shifts image state iss)
    (exec1 : state.spro.exec1.active = true) (exec0 : state.spro.exec0.active = true)
    (noJump : isJumpOpcode state.spro.exec1.opcode = false) :
    state.spro.exec0.pc = Word.ofAddress iss.pc + 1#32 := by
  have path := both.path
  rw [Registers.inFlight, exec1, hopIf_true, List.singleton_append, Path.cons_iff] at path
  obtain ⟨first, path⟩ := path
  rw [Registers.younger, exec0, hopIf_true, List.singleton_append, Path.cons_iff] at path
  have second : state.spro.exec0.pc = state.spro.exec1.steered := path.1
  have pc : state.spro.exec1.pc = Word.ofAddress iss.pc := first
  rw [second, Dec1.steered, if_neg (by simp [noJump]), pc]

theorem exec0_fields (both : Matches shifts image state iss) (placed : Placed shifts image iss)
    {iss' : Iss.State} (step : Iss.next shifts iss = some iss')
    (wordNext : iss'.halted = false → iss'.word = image iss'.pc)
    (exec1 : state.spro.exec1.active = true) (exec0 : state.spro.exec0.active = true)
    (memory : iss.fields.opcode = .ld ∨ iss.fields.opcode = .st) :
    iss'.halted = false ∧ state.spro.exec0.toFields = iss'.fields := by
  obtain ⟨-, -, fields, -, -⟩ := both.exec1 placed exec1
  have noJump : isJumpOpcode state.spro.exec1.opcode = false := by
    rw [fields]
    rcases memory with load | store
    · rw [load]
      rfl
    · rw [store]
      rfl
  obtain ⟨arch, -, halted⟩ := Iss.execute_of_next both.low placed.ordinary step
  have goesOn : iss'.halted = false := by
    rcases memory with load | store
    · simp [halted, load]
    · simp [halted, store]
  have pc : Word.ofAddress iss'.pc = state.spro.exec0.pc := by
    rw [both.exec0_pc exec1 exec0 noJump]
    have pc' := congrArg Arch.pc arch
    rcases memory with load | store
    · simpa [Iss.State.arch, Arch.execute, Arch.taken, load, Opcode.isBranch] using pc'
    · simpa [Iss.State.arch, Arch.execute, Arch.taken, store, Opcode.isBranch] using pc'
  obtain ⟨inst, fields0⟩ := both.sound.frontEnd.exec0 exec0
  rw [← pc, Word.address_ofAddress, ← wordNext goesOn] at inst
  rw [inst] at fields0
  exact ⟨goesOn, fields0⟩

/-- A scheduled instruction does not stall, also with an empty EXEC0, which still names the
fields of the instruction in EXEC1. -/
theorem noStall_of_next (both : Matches shifts image state iss)
    (placed : Placed shifts image iss) (own : Scheduled iss.fields iss.fields)
    {iss' : Iss.State} (step : Iss.next shifts iss = some iss')
    (next : iss'.halted = false → iss'.word = image iss'.pc ∧ iss'.fields.opcode ≠ .lhi ∧
      Scheduled iss.fields iss'.fields) :
    state.spro.isPipeStalled = false := by
  rw [← Bool.not_eq_true]
  intro stalled
  have active := (Registers.not_jump_of_stalled stalled).1
  obtain ⟨-, -, fields, -, -⟩ := both.exec1 placed active
  simp only [Registers.isPipeStalled, active, fields, Bool.true_and, Bool.or_eq_true,
    Bool.and_eq_true, decide_eq_true_eq] at stalled
  have memory : iss.fields.opcode = .ld ∨ iss.fields.opcode = .st := by
    rcases stalled with ⟨-, store⟩ | ⟨load, -⟩
    · exact Or.inr store
    · exact Or.inl load
  obtain ⟨fields', waits, names, notLhi⟩ : ∃ fields' : Fields,
      Scheduled iss.fields fields' ∧ state.spro.exec0.toFields = fields' ∧
        fields'.opcode ≠ .lhi := by
    cases exec0 : state.spro.exec0.active with
    | false =>
        exact ⟨iss.fields, own, (both.sound.stale active exec0).trans fields,
          placed.plain.notLhi⟩
    | true =>
        obtain ⟨goesOn, named⟩ := both.exec0_fields placed step
          (fun goesOn => (next goesOn).1) active exec0 memory
        exact ⟨iss'.fields, (next goesOn).2.2, named, (next goesOn).2.1⟩
  have cmp : state.spro.exec0Alu1Cmp = fields'.src1 := by
    rw [Registers.exec0Alu1Cmp, names, if_neg notLhi]
  rw [names, cmp] at stalled
  rcases stalled with ⟨load, store⟩ | ⟨load, src0 | src1⟩
  · exact waits.store store load
  · exact (waits.load load).1 src0
  · exact (waits.load load).2 src1

theorem noStall (both : Matches shifts image state iss) (placed : Placed shifts image iss)
    (own : Scheduled iss.fields iss.fields)
    {iss' : Iss.State} (step : Iss.next shifts iss = some iss')
    (placedNext : iss'.halted = false → Placed shifts image iss')
    (scheduled : iss'.halted = false → Scheduled iss.fields iss'.fields) :
    state.spro.isPipeStalled = false :=
  both.noStall_of_next placed own step fun goesOn =>
    ⟨(placedNext goesOn).word, (placedNext goesOn).plain.notLhi, scheduled goesOn⟩

theorem admits (both : Matches shifts image state iss) (placed : Placed shifts image iss) :
    state.spro.Admits where
  plain := by
    intro active
    obtain ⟨-, -, fields, -, -⟩ := both.exec1 placed active
    rw [fields]
    exact placed.plain
  target := by
    intro jumps taken
    simp only [Registers.exec1Jumps, Bool.and_eq_true] at jumps
    obtain ⟨active, jump⟩ := jumps
    obtain ⟨-, -, fields, -, -⟩ := both.exec1 placed active
    rw [fields, isJumpOpcode_eq placed.plain.basic] at jump
    rw [fields]
    exact placed.target ((both.taken_iff placed active jump).mp taken)
  store := by
    intro active store
    obtain ⟨-, -, fields, -, alu1⟩ := both.exec1 placed active
    rw [fields] at store
    rw [alu1]
    exact placed.store store

theorem jumps_iff (both : Matches shifts image state iss) (placed : Placed shifts image iss)
    (active : state.spro.exec1.active = true) :
    isJumpOpcode iss.fields.opcode = true ∧ state.spro.exec1.aluout ≠ 0#32 ↔
      Arch.taken shifts iss.fields iss.regs = true := by
  rw [isJumpOpcode_eq placed.plain.basic]
  cases branch : iss.fields.opcode.isBranch with
  | false => simp [Arch.taken, branch]
  | true => simpa using both.taken_iff placed active branch

theorem successor_eq (both : Matches shifts image state iss)
    (placed : Placed shifts image iss) (active : state.spro.exec1.active = true) :
    state.spro.exec1.successor = (iss.arch.execute shifts iss.fields).pc := by
  obtain ⟨pc, -, fields, -, -⟩ := both.exec1 placed active
  have jumps := both.jumps_iff placed active
  by_cases taken : Arch.taken shifts iss.fields iss.regs = true
  · simp [Exec1.successor, fields, jumps.mpr taken, Arch.execute, Iss.State.arch, taken]
  · rw [Exec1.successor, fields, if_neg fun jump => taken (jumps.mp jump), pc]
    simp [Arch.execute, Iss.State.arch, taken]

theorem nextR_eq (both : Matches shifts image state iss) (placed : Placed shifts image iss)
    (active : state.spro.exec1.active = true) {dataout : Word}
    (loaded : iss.fields.opcode = .ld →
      dataout = iss.mem (iss.fields.operand1 iss.regs).address) :
    state.spro.nextR dataout = (iss.arch.execute shifts iss.fields).regs := by
  obtain ⟨pc, -, fields, alu0, alu1⟩ := both.exec1 placed active
  have aluout := both.sound.aluout active
  simp only [fields, alu0, alu1] at aluout
  have basic := placed.plain.basic
  simp only [Registers.nextR, active, if_true, fields, both.r, pc, Arch.execute, Iss.State.arch,
    Arch.writeBack]
  cases opcode : iss.fields.opcode with
  | add | sub | lsf | rsf | and | or | xor =>
      simp only [opcode, Opcode.isCompute, true_or, forall_const] at aluout
      simp [Arch.taken, opcode, Opcode.isCompute, Opcode.isBranch, aluout]
  | jlt | jle | jeq | jne =>
      have branch : iss.fields.opcode.isBranch = true := by simp [opcode, Opcode.isBranch]
      have taken_iff := both.taken_iff placed active branch
      by_cases taken : Arch.taken shifts iss.fields iss.regs = true
      · simp [taken_iff.mpr taken, taken, Opcode.isCompute]
      · rw [if_neg fun nonzero => taken (taken_iff.mp nonzero)]
        simp [taken, Opcode.isCompute]
  | st | hlt => simp [Arch.taken, opcode, Opcode.isCompute, Opcode.isBranch]
  | ld => simp [Arch.taken, opcode, Opcode.isCompute, Opcode.isBranch, loaded opcode]
  | lhi | dma | dmp | jin | u code => simp [opcode, Opcode.isBasic] at basic

theorem sramd_eq (both : Matches shifts image state iss) (placed : Placed shifts image iss)
    (active : state.spro.exec1.active = true) :
    (state.after shifts).sramd.data = (iss.arch.execute shifts iss.fields).mem := by
  obtain ⟨-, -, fields, alu0, alu1⟩ := both.exec1 placed active
  rw [both.sound.sramd_data]
  simp only [active, fields, true_and, alu0, alu1, both.data, Arch.execute, Iss.State.arch]

theorem next_of_empty (both : Matches shifts image state iss) (admits : state.spro.Admits)
    (lossless : state.spro.Lossless) (empty : state.spro.exec1.active = false) :
    Matches shifts image (state.after shifts) iss where
  sound := both.sound.next admits lossless
  running := by simp [State.after, Registers.halts, empty, both.running]
  goesOn := both.goesOn
  low := both.low
  path := by
    have path := inFlight_next shifts both.sound.frontEnd lossless.noDrop both.path
    rwa [Registers.reached, if_neg (by simp [empty])] at path
  r := by simp [Registers.nextR, empty, both.r]
  data := by rw [both.sound.sramd_data, if_neg (by simp [empty]), both.data]

/-- A full EXEC1 retires the instruction that the instruction-set simulator executes. -/
theorem next_of_active (both : Matches shifts image state iss)
    (placed : Placed shifts image iss) (lossless : state.spro.Lossless)
    (active : state.spro.exec1.active = true)
    (loaded : iss.fields.opcode = .ld →
      state.sramd.dataout = iss.mem (iss.fields.operand1 iss.regs).address)
    {iss' : Iss.State} (step : Iss.next shifts iss = some iss') :
    Matches shifts image (state.after shifts) iss' ∨ Stopped image (state.after shifts) iss' := by
  obtain ⟨arch, low, halted⟩ := Iss.execute_of_next both.low placed.ordinary step
  have pc' : Word.ofAddress iss'.pc = state.spro.exec1.successor := by
    rw [both.successor_eq placed active, ← arch]
    rfl
  have r' : (state.after shifts).spro.r = iss'.regs := by
    rw [State.after_r, both.nextR_eq placed active loaded, ← arch]
    rfl
  have data' : (state.after shifts).sramd.data = iss'.mem := by
    rw [both.sramd_eq placed active, ← arch]
    rfl
  obtain ⟨-, -, fields, -, -⟩ := both.exec1 placed active
  have stops : (state.after shifts).stopSim = decide (iss.fields.opcode = .hlt) := by
    simp [State.after, Registers.halts, active, fields, both.running]
  have sound := both.sound.next (both.admits placed) lossless
  by_cases halts : iss.fields.opcode = .hlt
  · right
    exact ⟨by simp [stops, halts], by simp [halted, halts], r', data', sound.frontEnd.srami⟩
  · left
    have path := inFlight_next shifts both.sound.frontEnd lossless.noDrop both.path
    rw [Registers.reached, if_pos active, ← pc'] at path
    exact ⟨sound, by simp [stops, halts], by simp [halted, halts], low, path, r', data'⟩

end Matches

/-! ## Whole runs -/

/-- The address and the word of the instruction that retires in a clock. -/
def State.retiredWord (state : State) : Option (Word × Word) :=
  if state.spro.exec1.active then some (state.spro.exec1.pc, state.spro.exec1.inst) else none

/-- The address and the word of the instruction about to be executed. -/
def executedWord (iss : Iss.State) : Word × Word := (Word.ofAddress iss.pc, iss.word)

section Run

variable {shifts : Shifts} {image : Image} {k : Nat} {iss : Iss.State}

theorem exists_clock {state : State} (both : Matches shifts image state iss)
    (original : Original shifts image iss) {iss' : Iss.State}
    (step : Iss.next shifts iss = some iss')
    (originalNext : iss'.halted = false → Original shifts image iss') :
    ∃ state', next shifts state = some state' ∧
      (state.retiredWord = none ∧ state'.spro.rank < state.spro.rank ∧
          Matches shifts image state' iss ∨
        state.retiredWord = some (executedWord iss) ∧
          (Matches shifts image state' iss' ∨ Stopped image state' iss')) := by
  have admits := both.admits original.placed
  have unhindered {fields' : Fields} (notLoad : fields'.opcode ≠ .ld) :
      Scheduled iss.fields fields' := ⟨fun _ => notLoad, fun load => absurd load original.noLoad⟩
  have lossless := Registers.lossless_of_noStall (both.noStall original.placed
    (unhindered original.noLoad) step (fun goesOn => (originalNext goesOn).placed)
    fun goesOn => unhindered (originalNext goesOn).noLoad)
  refine ⟨state.after shifts,
    both.sound.next_eq admits both.running (ofAddress_le original.below) both.path, ?_⟩
  cases active : state.spro.exec1.active with
  | false =>
      left
      refine ⟨?_, rank_next shifts both.sound.frontEnd active,
        both.next_of_empty admits lossless active⟩
      simp [State.retiredWord, active]
  | true =>
      right
      obtain ⟨pc, inst, -, -, -⟩ := both.exec1 original.placed active
      refine ⟨?_, both.next_of_active original.placed lossless active ?_ step⟩
      · simp [State.retiredWord, executedWord, active, pc, inst]
      · intro load
        exact absurd load original.noLoad

/-- The instructions of a program that does not overwrite what it executes later are
those of the memory image. -/
theorem original_of_run (run : runFor (Iss.next shifts) k (Iss.init image) = some iss)
    (loadFree : ∀ visited ∈ past (Iss.next shifts) k (Iss.init image), LoadFree shifts visited)
    (unmodified : (past (Iss.next shifts) k (Iss.init image)).Pairwise fun earlier later =>
      earlier.fields.opcode = .st →
        (earlier.fields.operand1 earlier.regs).address ≠ later.pc) :
    ∀ visited ∈ past (Iss.next shifts) k (Iss.init image), Original shifts image visited := by
  induction k generalizing iss with
  | zero =>
      intro visited member
      cases member
  | succ k ih =>
      obtain ⟨last, before, step⟩ := exists_of_runFor_succ run
      rw [past_snoc before] at loadFree unmodified ⊢
      rw [List.pairwise_append] at unmodified
      obtain ⟨earlier, -, lastUnmodified⟩ := unmodified
      have beforeFree := fun visited member =>
        loadFree visited (List.mem_append_left _ member)
      intro visited member
      rcases List.mem_append.mp member with member | member
      · exact ih before beforeFree earlier visited member
      · rw [List.mem_singleton] at member
        subst member
        refine ⟨loadFree visited (List.mem_append_right _ (List.mem_singleton_self visited)), ?_⟩
        apply Iss.mem_eq_of_notStored before
        · intro executed member
          exact (beforeFree executed member).ordinary
        · intro executed member
          exact lastUnmodified executed member visited (List.mem_singleton_self visited)

theorem next_of_halting {condition : Iss.State → Prop}
    (run : runFor (Iss.next shifts) k (Iss.init image) = some iss) (halted : iss.halted = true)
    (holds : ∀ visited ∈ past (Iss.next shifts) k (Iss.init image), condition visited)
    {visited visited' : Iss.State}
    (member : visited ∈ past (Iss.next shifts) k (Iss.init image))
    (step : Iss.next shifts visited = some visited') (goesOn : visited'.halted = false) :
    condition visited' := by
  rcases mem_past_or_eq_of_step run member step with later | rfl
  · exact holds visited' later
  · rw [halted] at goesOn
    contradiction

/-- The pipeline retires the instructions that a halting program executes. -/
theorem simulates_run {state : State}
    (both : Matches shifts image state (Iss.init image))
    (run : runFor (Iss.next shifts) k (Iss.init image) = some iss) (halted : iss.halted = true)
    (original : ∀ visited ∈ past (Iss.next shifts) k (Iss.init image),
      Original shifts image visited) :
    ∃ clocks state', runFor (next shifts) clocks state = some state' ∧
      (Matches shifts image state' iss ∨ Stopped image state' iss) ∧
      (past (next shifts) clocks state).filterMap State.retiredWord =
        (past (Iss.next shifts) k (Iss.init image)).map executedWord := by
  let good (visited : Iss.State) : Prop :=
    Original shifts image visited ∧ ∀ visited', Iss.next shifts visited = some visited' →
      visited'.halted = false → Original shifts image visited'
  have conditions : ∀ visited ∈ past (Iss.next shifts) k (Iss.init image), good visited := by
    intro visited member
    exact ⟨original visited member, fun visited' step goesOn =>
      next_of_halting run halted original member step goesOn⟩
  refine runFor_stuttering
    (fun iss state => Matches shifts image state iss ∨ Stopped image state iss)
    (fun state => state.spro.rank) ?_ (Or.inl both) conditions run
  · intro iss iss' state now step related
    rcases related with both | stopped
    · obtain ⟨state', clock, outcome⟩ := exists_clock both now.1 step (now.2 iss' step)
      refine ⟨state', clock, ?_⟩
      rcases outcome with ⟨silent, smaller, still⟩ | moved
      · exact Or.inl ⟨silent, smaller, Or.inl still⟩
      · exact Or.inr moved
    · have goesOn := Iss.running_of_next step
      rw [stopped.halted] at goesOn
      contradiction

end Run

/-- On load-free programs the pipeline does what the instruction-set simulator does,
whatever it has fetched on speculation. -/
theorem speculation_invisible (shifts : Shifts) (image : Image) (btb : Btb) (k : Nat)
    (iss : Iss.State)
    (bounded : ∀ slot, (btb.target slot).toNat ≤ 32767)
    (run : runFor (Iss.next shifts) k (Iss.init image) = some iss)
    (halted : iss.halted = true)
    (loadFree : ∀ visited ∈ past (Iss.next shifts) k (Iss.init image), LoadFree shifts visited)
    (unmodified : (past (Iss.next shifts) k (Iss.init image)).Pairwise fun earlier later =>
      earlier.fields.opcode = .st →
        (earlier.fields.operand1 earlier.regs).address ≠ later.pc) :
    ∃ clocks state, runFor (next shifts) clocks (afterReset image btb) = some state ∧
      state.stopSim = true ∧
      (past (next shifts) clocks (afterReset image btb)).filterMap State.retiredWord =
        (past (Iss.next shifts) k (Iss.init image)).map executedWord ∧
      (∀ index : RegIndex, 2#3 ≤ index → state.spro.r index = iss.regs index) ∧
      state.sramd.data = iss.mem ∧ state.srami.data = image := by
  have start : Matches shifts image (afterReset image btb) (Iss.init image) :=
    { sound := .afterReset shifts image fun slot _ => bounded slot
      running := rfl
      goesOn := rfl
      low := ⟨rfl, rfl⟩
      path := rfl
      r := rfl
      data := rfl }
  obtain ⟨clocks, state, reached, outcome, events⟩ :=
    simulates_run start run halted (original_of_run run loadFree unmodified)
  rcases outcome with both | stopped
  · rw [both.goesOn] at halted
    contradiction
  · refine ⟨clocks, state, reached, stopped.stopped, events, ?_, stopped.data, stopped.srami⟩
    intro index _
    rw [stopped.r]

/-- 0: JEQ 0, 0, 2; 2: HLT; loads everywhere else. -/
def jumpImage : Image := fun addr =>
  if addr = 0#16 then 0x24000002#32
  else if addr = 2#16 then 0x30000000#32
  else 0x10810000#32

/-- A buffer that sends every fetch to a load. -/
def misleadingBtb : Btb := ⟨fun _ => 1#8, fun _ => 7#32⟩

/-- Two wrong predictions are not seen. -/
theorem speculation_invisible_jump :
    ∃ clocks state,
      runFor (next Shifts.x86) clocks (afterReset jumpImage misleadingBtb) = some state ∧
      state.stopSim = true ∧
      (past (next Shifts.x86) clocks (afterReset jumpImage misleadingBtb)).filterMap
        State.retiredWord = [(0#32, 0x24000002#32), (2#32, 0x30000000#32)] ∧
      state.srami.data = jumpImage := by
  have reached : (runFor (Iss.next Shifts.x86) 2 (Iss.init jumpImage)).map Iss.State.halted =
      some true := by decide +kernel
  obtain ⟨iss, run, halted⟩ := Option.map_eq_some_iff.mp reached
  obtain ⟨clocks, state, run', stopped, events, -, -, srami⟩ :=
    speculation_invisible Shifts.x86 jumpImage misleadingBtb 2 iss
      (fun _ => show (7#32).toNat ≤ 32767 by decide) run halted
      (by decide +kernel) (by decide +kernel)
  have executed : (past (Iss.next Shifts.x86) 2 (Iss.init jumpImage)).map executedWord =
      [(0#32, 0x24000002#32), (2#32, 0x30000000#32)] := by decide +kernel
  exact ⟨clocks, state, run', stopped, events.trans executed, srami⟩

end SimpleProcessor.Pipeline
