import SimpleProcessor.Iss.Execution

/-!
# Links and reports

The program counter is an `unsigned short` that has already been incremented when
an instruction executes.  `*pc - 1` is computed as an `int`: behind the last
address the counter has wrapped to 0 and the difference is -1.
-/

namespace SimpleProcessor.Iss

open Transition

/-- `*pc - 1`, which `execute` and `main` print as the address of the HLT. -/
def State.reportedPc (state : State) : Word := Word.ofAddress state.pc - 1#32

/-- A jump instruction is about to be executed. -/
def State.isJump (state : State) : Bool :=
  state.fields.opcode.isBranch || state.fields.opcode = .jin

/-- The jump will be taken. -/
def State.jumps (shifts : Shifts) (state : State) : Bool :=
  Arch.taken shifts state.fields state.regs || state.fields.opcode = .jin

/-- The target of a jump. -/
def State.target (state : State) : Word :=
  if state.fields.opcode = .jin then state.fields.operand0 state.regs
  else state.fields.immediate

/-- A taken jump links its own address and a HLT reports it; `pc` counts modulo 65536. -/
structure LinksAndWraps (shifts : Shifts) (state state' : State) : Prop where
  taken : state.jumps shifts = true →
    state'.regs 7#3 = Word.ofAddress state.pc ∧ state'.pc = state.target.address
  notTaken : state.isJump = true → state.jumps shifts = false →
    state'.regs 7#3 = state.regs 7#3 ∧ state'.pc = state.pc + 1#16
  halt : state.fields.opcode = .hlt → state'.reportedPc = Word.ofAddress state.pc

section Step

variable {shifts : Shifts} {state state' : State}

/-- The difference is the address itself below the last one only. -/
theorem link_eq_iff (pc : Address) :
    Word.ofAddress (pc + 1#16) - 1#32 = Word.ofAddress pc ↔ pc ≠ 65535#16 := by
  constructor
  · rintro link rfl
    exact absurd link (by decide)
  · intro notLast
    have below : pc.toNat < 65535 := by
      have other : pc.toNat ≠ 65535 := by
        intro same
        exact notLast (BitVec.eq_of_toNat_eq same)
      omega
    rw [ofAddress_succ below, BitVec.add_sub_cancel]

theorem isJump_of_jumps (jumps : state.jumps shifts = true) : state.isJump = true := by
  simp only [State.jumps, Arch.taken, Bool.or_eq_true, Bool.and_eq_true] at jumps
  rcases jumps with ⟨branch, -⟩ | jin
  · simp [State.isJump, branch]
  · simp [State.isJump, jin]

theorem next_jump (jump : state.isJump = true) (step : next shifts state = some state') :
    state'.pc = (if state.jumps shifts then state.target.address else state.pc + 1#16) ∧
      state'.regs 7#3 =
        if state.jumps shifts then Word.ofAddress (state.pc + 1#16) - 1#32
        else state.regs 7#3 := by
  obtain ⟨pc, regs⟩ := executed_of_next step
  have link (regs : RegFile) : regs.clearLow 7#3 = regs 7#3 := by
    simp [RegFile.clearLow]
  rw [pc, regs, execute]
  simp only [link]
  cases branch : state.fields.opcode.isBranch with
  | true =>
      have notJin : state.fields.opcode ≠ .jin := by
        intro jin
        simp [jin, Opcode.isBranch] at branch
      rw [executeOpcode_branch branch]
      cases taken : Arch.taken shifts state.fields state.regs <;>
        simp [State.jumps, State.target, Iss.jump, taken, notJin]
  | false =>
      have jin : state.fields.opcode = .jin := by simpa [State.isJump, branch] using jump
      have fields : state.instruction.toFields = state.fields := fetch_toFields state.word
      have fetched : (fetch state.word).toFields = state.fields := fetch_toFields state.word
      have target : state.instruction.val0 = state.fields.operand0 state.regs := by
        simp only [State.instruction, decode, fetched, jin, Fields.operand0, reduceCtorEq,
          or_false]
      simp [executeOpcode, fields, jin, Iss.jump, State.jumps, State.target, target]

theorem pc_next_hlt (hlt : state.fields.opcode = .hlt) (step : next shifts state = some state') :
    state'.pc = state.pc + 1#16 := by
  have fields : state.instruction.toFields = state.fields := fetch_toFields state.word
  rw [(executed_of_next step).1]
  simp [execute, executeOpcode, fields, hlt]

end Step

/-- Links and reports are right exactly for the instructions that are not in the last word. -/
theorem links_and_wraps_iff (shifts : Shifts) (state state' : State)
    (step : next shifts state = some state') :
    LinksAndWraps shifts state state' ↔
      (state.jumps shifts = true ∨ state.fields.opcode = .hlt → state.pc ≠ 65535#16) := by
  constructor
  · rintro ⟨taken, -, halt⟩ (jumps | hlt)
    · have link := (next_jump (isJump_of_jumps jumps) step).2
      rw [if_pos jumps, (taken jumps).1] at link
      exact (link_eq_iff state.pc).mp link.symm
    · have reported := halt hlt
      rw [State.reportedPc, pc_next_hlt hlt step] at reported
      exact (link_eq_iff state.pc).mp reported
  · intro notLast
    refine ⟨?_, ?_, ?_⟩
    · intro jumps
      obtain ⟨pc, link⟩ := next_jump (isJump_of_jumps jumps) step
      rw [if_pos jumps] at pc link
      exact ⟨link.trans ((link_eq_iff state.pc).mpr (notLast (Or.inl jumps))), pc⟩
    · intro jump notTaken
      obtain ⟨pc, link⟩ := next_jump jump step
      rw [notTaken] at pc link
      exact ⟨link, pc⟩
    · intro hlt
      rw [State.reportedPc, pc_next_hlt hlt step]
      exact (link_eq_iff state.pc).mpr (notLast (Or.inr hlt))

/-- 0: JEQ 0, 0, 65535; 65535: JEQ 0, 0, 0. -/
def lastJumpImage : Image := fun addr =>
  if addr = 0#16 then 0x2400ffff#32
  else if addr = 65535#16 then 0x24000000#32
  else 0#32

/-- The first jump of the program. -/
theorem links_and_wraps_first :
    ∃ state', next Shifts.x86 (init lastJumpImage) = some state' ∧
      LinksAndWraps Shifts.x86 (init lastJumpImage) state' :=
  ⟨_, rfl, (links_and_wraps_iff Shifts.x86 _ _ rfl).mpr (by decide)⟩

/-- 0: JEQ 0, 0, 65535; 65535: HLT. -/
def lastHltImage : Image := fun addr =>
  if addr = 0#16 then 0x2400ffff#32
  else if addr = 65535#16 then 0x30000000#32
  else 0#32

/-- In the last word the link is -1, and so is the address that a HLT reports. -/
theorem last_word_links_minus_one :
    (∃ state state', runFor (next Shifts.x86) 1 (init lastJumpImage) = some state ∧
      next Shifts.x86 state = some state' ∧ state.pc = 65535#16 ∧
      state.jumps Shifts.x86 = true ∧ state'.regs 7#3 = 0xffffffff#32 ∧
      ¬ LinksAndWraps Shifts.x86 state state') ∧
    ∃ state state', runFor (next Shifts.x86) 1 (init lastHltImage) = some state ∧
      next Shifts.x86 state = some state' ∧ state.pc = 65535#16 ∧
      state'.halted = true ∧ state'.reportedPc = 0xffffffff#32 ∧
      ¬ LinksAndWraps Shifts.x86 state state' := by
  constructor
  · refine ⟨_, _, rfl, rfl, by decide, by decide, by decide, ?_⟩
    intro links
    exact absurd (links.taken (by decide)).1 (by decide)
  · refine ⟨_, _, rfl, rfl, by decide, by decide, by decide, ?_⟩
    intro links
    exact absurd (links.halt (by decide)) (by decide)

end SimpleProcessor.Iss
