import SimpleProcessor.MultiCycle.Clock

/-!
# The address space of the multi-cycle simulator

`pc` and the operands are full words.  The program counter leaves the 16-bit
addresses when it is incremented past the last one or loaded with a negative
immediate, and a store, unlike a load, does not mask its address.  These are the
only ways: the condition below is met by exactly the runs that stay inside.
-/

namespace SimpleProcessor.MultiCycle

open Transition Dma

namespace CpuRegisters

/-- The instruction in EXEC1 goes on to the next word. -/
def fallsThrough (busy : Bool) (cpu : CpuRegisters) : Bool :=
  match cpu.opcode with
  | .add | .sub | .lsf | .rsf | .and | .or | .xor | .lhi | .ld | .st => true
  | .dma => !busy
  | .dmp | .jlt | .jle | .jeq | .jne | .jin => cpu.aluout = 0#32
  | .hlt | .u _ => false

/-- The instruction in EXEC1 takes its jump. -/
def jumps (cpu : CpuRegisters) : Bool :=
  match cpu.opcode with
  | .dmp | .jlt | .jle | .jeq | .jne | .jin => cpu.aluout ≠ 0#32
  | _ => false

theorem exec1Pc_eq (busy : Bool) (cpu : CpuRegisters) :
    exec1Pc busy cpu =
      if cpu.fallsThrough busy then cpu.pc + 1#32
      else if cpu.jumps then cpu.immediate
      else cpu.pc := by
  cases opcode : cpu.opcode with
  | dma => cases busy <;> simp [exec1Pc, fallsThrough, jumps, opcode]
  | dmp | jlt | jle | jeq | jne | jin =>
      by_cases zero : cpu.aluout = 0#32 <;> simp [exec1Pc, fallsThrough, jumps, opcode, zero]
  | _ => simp [exec1Pc, fallsThrough, opcode, jumps]

theorem not_jumps_of_fallsThrough {busy : Bool} {cpu : CpuRegisters}
    (falls : cpu.fallsThrough busy = true) : cpu.jumps = false := by
  cases opcode : cpu.opcode with
  | dmp | jlt | jle | jeq | jne | jin => simpa [fallsThrough, jumps, opcode] using falls
  | _ => simp [jumps, opcode]

end CpuRegisters

theorem add_one_eq_iff {pc : Word} (inRange : pc.InRange) :
    pc + 1#32 = Word.ofAddress (pc.address + 1#16) ↔ pc ≠ 65535#32 := by
  simp only [Word.InRange] at inRange
  have last : pc = 65535#32 ↔ pc.toNat = 65535 := by
    rw [← BitVec.toNat_inj]
    rfl
  rw [← BitVec.toNat_inj, ne_eq, last]
  simp only [Word.ofAddress, Word.address, BitVec.toNat_add, BitVec.toNat_setWidth,
    BitVec.toNat_ofNat]
  omega

namespace State

/-- What a clock in a 16-bit address space does: the access is in range, `pc` counts
modulo 65536 and a jump or store with the operand a goes to a modulo 65536. -/
structure InSpace (shifts : Shifts) (state : State) : Prop where
  pc : state.spro.pc.InRange
  accesses : ∀ made, cpuAccess state.spro.toCpuRegisters = some made → made.InRange
  clock : ∃ state', llsimRunClock shifts false state = .ok state' ∧
    (state.spro.ctlState = .exec1 →
      (state.spro.fallsThrough state.spro.dma.busy = true →
        state'.spro.pc = Word.ofAddress (state.spro.pc.address + 1#16)) ∧
      (state.spro.jumps = true →
        state'.spro.pc = Word.ofAddress state.spro.immediate.address) ∧
      (state.spro.opcode = .st →
        state'.sram.data =
          Function.update state.sram.data state.spro.alu1.address state.spro.alu0))

/-- The instruction in EXEC1 is not one that leaves the address space. -/
structure Fits (state : State) : Prop where
  last : state.spro.ctlState = .exec1 → state.spro.fallsThrough state.spro.dma.busy = true →
    state.spro.pc ≠ 65535#32
  target : state.spro.ctlState = .exec1 → state.spro.jumps = true →
    state.spro.immediate.InRange
  store : state.spro.ctlState = .exec1 → state.spro.opcode = .st → state.spro.alu1.InRange

instance (state : State) : Decidable state.Fits :=
  decidable_of_iff
    ((state.spro.ctlState = .exec1 → state.spro.fallsThrough state.spro.dma.busy = true →
        state.spro.pc ≠ 65535#32) ∧
      (state.spro.ctlState = .exec1 → state.spro.jumps = true →
        state.spro.immediate.InRange) ∧
      (state.spro.ctlState = .exec1 → state.spro.opcode = .st → state.spro.alu1.InRange))
    ⟨fun ⟨last, target, store⟩ => ⟨last, target, store⟩,
      fun ⟨last, target, store⟩ => ⟨last, target, store⟩⟩

section Clock

variable {shifts : Shifts} {state : State}

theorem eq_ofAddress_iff (word : Word) : word = Word.ofAddress word.address ↔ word.InRange := by
  constructor
  · intro same
    rw [same]
    exact Word.ofAddress_inRange _
  · intro inRange
    exact (Word.ofAddress_address inRange).symm

theorem InSpace.fits (inSpace : state.InSpace shifts) : state.Fits := by
  obtain ⟨pc, accesses, state', clock, effect⟩ := inSpace
  obtain ⟨-, rfl⟩ := llsimRunClock_eq_ok.mp clock
  constructor
  · intro exec1 falls
    have next := (effect exec1).1 falls
    simp only [after, nextCpu, exec1, CpuRegisters.exec1Pc_eq, falls, if_true] at next
    exact (add_one_eq_iff pc).mp next
  · intro exec1 jumps
    have next := (effect exec1).2.1 jumps
    have noFall : state.spro.fallsThrough state.spro.dma.busy = false := by
      rw [← Bool.not_eq_true]
      intro falls
      rw [CpuRegisters.not_jumps_of_fallsThrough falls] at jumps
      contradiction
    simp only [after, nextCpu, exec1, CpuRegisters.exec1Pc_eq, noFall, jumps,
      Bool.false_eq_true, if_false, if_true] at next
    exact (eq_ofAddress_iff _).mp next
  · intro exec1 store
    exact accesses (.write state.spro.alu1 state.spro.alu0) (by simp [cpuAccess, exec1, store])

theorem Fits.accesses (fits : state.Fits) (pc : state.spro.pc.InRange) :
    ∀ made, cpuAccess state.spro.toCpuRegisters = some made → made.InRange := by
  intro made makes
  cases ctlState : state.spro.ctlState with
  | fetch0 =>
      simp only [cpuAccess, ctlState, Option.some.injEq] at makes
      subst makes
      exact pc
  | exec0 =>
      simp only [cpuAccess, ctlState, Word.and_mask_eq, Option.ite_none_right_eq_some,
        Option.some.injEq] at makes
      obtain ⟨-, rfl⟩ := makes
      exact Word.ofAddress_inRange _
  | exec1 =>
      simp only [cpuAccess, ctlState, Option.ite_none_right_eq_some, Option.some.injEq] at makes
      obtain ⟨store, rfl⟩ := makes
      exact fits.store ctlState store
  | idle | fetch1 | dec0 | dec1 => simp [cpuAccess, ctlState] at makes

theorem Fits.pc_next (fits : state.Fits) (pc : state.spro.pc.InRange) :
    (state.after shifts).spro.pc.InRange := by
  cases ctlState : state.spro.ctlState with
  | idle => simp [after, nextCpu, ctlState, Word.InRange]
  | fetch0 | fetch1 | dec0 | dec1 | exec0 => simpa [after, nextCpu, ctlState] using pc
  | exec1 =>
      simp only [after, nextCpu, ctlState, CpuRegisters.exec1Pc_eq]
      split
      next falls =>
        rw [(add_one_eq_iff pc).mpr (fits.last ctlState falls)]
        exact Word.ofAddress_inRange _
      next =>
        split
        next jumps => exact fits.target ctlState jumps
        next => exact pc

theorem Fits.inSpace (fits : state.Fits) (pc : state.spro.pc.InRange) : state.InSpace shifts := by
  have accesses := fits.accesses pc
  refine ⟨pc, accesses, state.after shifts, llsimRunClock_eq_ok.mpr ⟨accesses, rfl⟩, ?_⟩
  intro exec1
  refine ⟨?_, ?_, ?_⟩
  · intro falls
    simp only [after, nextCpu, exec1, CpuRegisters.exec1Pc_eq, falls, if_true]
    exact (add_one_eq_iff pc).mpr (fits.last exec1 falls)
  · intro jumps
    have noFall : state.spro.fallsThrough state.spro.dma.busy = false := by
      rw [← Bool.not_eq_true]
      intro falls
      rw [CpuRegisters.not_jumps_of_fallsThrough falls] at jumps
      contradiction
    simp only [after, nextCpu, exec1, CpuRegisters.exec1Pc_eq, noFall, jumps,
      Bool.false_eq_true, if_false, if_true]
    exact (eq_ofAddress_iff _).mpr (fits.target exec1 jumps)
  · intro store
    have port : state.portAccess = some (.write state.spro.alu1 state.spro.alu0) := by
      simp [portAccess, Dma.portAccess, cpuClock, dmaHazard, cpuAccess, exec1, store]
    simp only [after, port, Memory.after_data]

end Clock

end State

section Run

variable {shifts : Shifts} {image : Image} {clocks : Nat} {state : State}

/-- `pc` in every run whose clocks meet the condition. -/
theorem pc_inRange_of_run (run : runFor (next shifts) clocks (afterReset image) = some state)
    (fits : ∀ visited ∈ past (next shifts) clocks (afterReset image), visited.Fits) :
    state.spro.pc.InRange := by
  refine runFor_induction_of (motive := fun _ state => state.spro.pc.InRange) ?_ ?_ run fits
  · simp [afterReset, spInit, Registers.zero, Word.InRange]
  · intro _ state state' pc fits step
    obtain ⟨-, -, rfl⟩ := next_eq_some.mp step
    exact fits.pc_next pc

end Run

/-- A run stays inside the 16-bit address space exactly when no instruction in EXEC1
falls through at the last address, takes a jump to a negative immediate or stores to an
operand that is not an address. -/
theorem address_space_iff (shifts : Shifts) (image : Image) (clocks : Nat) (state : State)
    (run : runFor (next shifts) clocks (afterReset image) = some state) :
    (∀ visited ∈ past (next shifts) clocks (afterReset image) ++ [state],
      visited.InSpace shifts) ↔
    ∀ visited ∈ past (next shifts) clocks (afterReset image) ++ [state], visited.Fits := by
  constructor
  · intro inSpace visited member
    exact (inSpace visited member).fits
  · intro fits visited member
    rw [← past_snoc run] at member fits
    apply (fits visited member).inSpace
    rw [past_snoc run, List.forall_mem_append] at fits
    rw [past_snoc run, List.mem_append, List.mem_singleton] at member
    rcases member with member | rfl
    · obtain ⟨index, before, reached⟩ := (mem_past_iff run).mp member
      apply pc_inRange_of_run reached
      intro earlier visitedEarlier
      obtain ⟨index', before', reached'⟩ := (mem_past_iff reached).mp visitedEarlier
      exact fits.1 earlier ((mem_past_iff run).mpr ⟨index', by omega, reached'⟩)
    · exact pc_inRange_of_run run fits.1

/-- A run with a load, a store and a jump. -/
theorem address_space_tour :
    ∃ state, runFor (next Shifts.x86) 37 (afterReset tourImage) = some state ∧
      ∀ visited ∈ past (next Shifts.x86) 37 (afterReset tourImage) ++ [state],
        visited.InSpace Shifts.x86 := by
  have reached : (runFor (next Shifts.x86) 37 (afterReset tourImage)).isSome = true := by
    decide +kernel
  obtain ⟨state, run⟩ := Option.isSome_iff_exists.mp reached
  refine ⟨state, run, (address_space_iff Shifts.x86 _ 37 state run).mpr ?_⟩
  rw [← past_snoc run]
  decide +kernel

/-- 0: ST 0, [-1].  The simulator does not complete the clock of the store. -/
theorem store_leaves_memory :
    ∃ state, runFor (next Shifts.x86) 6 (afterReset fun _ => 0x1201ffff#32) = some state ∧
      state.spro.pc = 0#32 ∧ state.spro.ctlState = .exec1 ∧
      llsimRunClock Shifts.x86 false state = .error .outOfBounds ∧
      ¬ state.InSpace Shifts.x86 := by
  refine ⟨_, rfl, rfl, rfl, rfl, ?_⟩
  intro inSpace
  exact absurd (inSpace.fits.store rfl rfl) (by decide)

end SimpleProcessor.MultiCycle
