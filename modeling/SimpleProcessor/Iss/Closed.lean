import SimpleProcessor.Iss.Execution

/-!
# Programs that stay inside their words

A check of the words of a program alone, opcode by opcode and jump by jump, says what
every run of it executes, whatever the data are: the words that were loaded.  Only the
stores have addresses that the words do not show.
-/

namespace SimpleProcessor.Iss

open Transition

/-- A word of a program. -/
def wordAt (program : List Word) (index : Nat) : Word := program.getD index 0#32

/-- Its fields. -/
def fieldsAt (program : List Word) (index : Nat) : Fields := .ofWord (wordAt program index)

/-- Every instruction is basic and leads to another word of the program. -/
structure Closed (program : List Word) : Prop where
  nonempty : 0 < program.length
  short : program.length ≤ 32768
  basic : ∀ index < program.length, (fieldsAt program index).opcode.isBasic = true
  target : ∀ index < program.length, (fieldsAt program index).opcode.isBranch = true →
    (fieldsAt program index).immediate.toNat < program.length
  fallsThrough : ∀ index < program.length, (fieldsAt program index).opcode ≠ .hlt →
    index + 1 < program.length

instance (program : List Word) : Decidable (Closed program) :=
  decidable_of_iff
    (0 < program.length ∧ program.length ≤ 32768 ∧
      (∀ index < program.length, (fieldsAt program index).opcode.isBasic = true) ∧
      (∀ index < program.length, (fieldsAt program index).opcode.isBranch = true →
        (fieldsAt program index).immediate.toNat < program.length) ∧
      ∀ index < program.length, (fieldsAt program index).opcode ≠ .hlt →
        index + 1 < program.length)
    ⟨fun ⟨nonempty, short, basic, target, fallsThrough⟩ =>
        ⟨nonempty, short, basic, target, fallsThrough⟩,
      fun ⟨nonempty, short, basic, target, fallsThrough⟩ =>
        ⟨nonempty, short, basic, target, fallsThrough⟩⟩

/-- The program is at the start of the memory. -/
def Loaded (program : List Word) (mem : Image) : Prop :=
  ∀ addr : Address, addr.toNat < program.length → mem addr = wordAt program addr.toNat

theorem Loaded.update {program : List Word} {mem : Image} (loaded : Loaded program mem)
    {addr : Address} (behind : program.length ≤ addr.toNat) (value : Word) :
    Loaded program (Function.update mem addr value) := by
  intro other inside
  have elsewhere : other ≠ addr := by
    rintro rfl
    omega
  rw [Function.update_of_ne elsewhere, loaded other inside]

/-- A store goes to a word behind the program. -/
def State.StoresBehind (length : Nat) (state : State) : Prop :=
  state.fields.opcode = .st → (state.fields.operand1 state.regs).InRange ∧
    length ≤ (state.fields.operand1 state.regs).toNat

instance (length : Nat) (state : State) : Decidable (state.StoresBehind length) :=
  inferInstanceAs (Decidable (_ → _))

/-- The next instruction is one of the loaded ones. -/
structure State.Inside (program : List Word) (state : State) : Prop where
  pc : state.pc.toNat < program.length
  word : state.word = wordAt program state.pc.toNat

section Step

variable {shifts : Shifts} {program : List Word} {state state' : State}

theorem State.Inside.fields (inside : state.Inside program) :
    state.fields = fieldsAt program state.pc.toNat := by
  rw [State.fields, inside.word, fieldsAt]

theorem State.Inside.ordinary (inside : state.Inside program) (closed : Closed program)
    (stores : state.StoresBehind program.length) : state.Ordinary shifts where
  basic := by
    rw [inside.fields]
    exact closed.basic state.pc.toNat inside.pc
  below := by
    have short := closed.short
    have pc := inside.pc
    omega
  target := by
    intro taken
    have branch : (fieldsAt program state.pc.toNat).opcode.isBranch = true := by
      rw [← inside.fields]
      simp only [Arch.taken, Bool.and_eq_true] at taken
      exact taken.1
    have target := closed.target state.pc.toNat inside.pc branch
    have short := closed.short
    rw [inside.fields]
    omega
  store := fun store => (stores store).1

/-- Every store of the program names its address. -/
def Direct (program : List Word) : Prop :=
  ∀ index < program.length, (fieldsAt program index).opcode = .st →
    (fieldsAt program index).src1 = 1#3 ∧ (fieldsAt program index).immediate.InRange ∧
      program.length ≤ (fieldsAt program index).immediate.toNat

theorem State.Inside.storesBehind (inside : state.Inside program) (direct : Direct program) :
    state.StoresBehind program.length := by
  intro store
  rw [inside.fields] at store ⊢
  obtain ⟨src1, inRange, behind⟩ := direct state.pc.toNat inside.pc store
  rw [Fields.operand1, if_pos src1]
  exact ⟨inRange, behind⟩

/-- What holds between the instructions of such a program. -/
structure State.Within (program : List Word) (state : State) : Prop where
  low : state.regs.LowZero
  pc : state.halted = false → state.pc.toNat < program.length
  loaded : Loaded program state.mem

theorem State.Within.inside (within : state.Within program) (running : state.halted = false) :
    state.Inside program where
  pc := within.pc running
  word := within.loaded state.pc (within.pc running)

theorem State.Within.next (within : state.Within program) (closed : Closed program)
    (stores : state.StoresBehind program.length) (step : Iss.next shifts state = some state') :
    state'.Within program := by
  have inside := within.inside (running_of_next step)
  obtain ⟨arch, low, halted⟩ :=
    execute_of_next within.low (inside.ordinary closed stores) step
  have short := closed.short
  have here := inside.pc
  refine ⟨low, ?_, ?_⟩
  · intro goesOn
    have notHlt : state.fields.opcode ≠ .hlt := by simpa [halted] using goesOn
    have pc' : (Word.ofAddress state'.pc).toNat =
        (if Arch.taken shifts state.fields state.regs then state.fields.immediate
          else Word.ofAddress state.pc + 1#32).toNat :=
      congrArg (fun arch : Arch => arch.pc.toNat) arch
    have same (addr : Address) : (Word.ofAddress addr).toNat = addr.toNat := by
      simp only [Word.ofAddress, BitVec.toNat_setWidth]
      omega
    rw [same] at pc'
    rw [pc']
    by_cases taken : Arch.taken shifts state.fields state.regs = true
    · rw [if_pos taken, inside.fields]
      apply closed.target state.pc.toNat here
      rw [← inside.fields]
      simp only [Arch.taken, Bool.and_eq_true] at taken
      exact taken.1
    · have next : (Word.ofAddress state.pc + 1#32).toNat = state.pc.toNat + 1 := by
        rw [BitVec.toNat_add, same, BitVec.toNat_ofNat]
        omega
      rw [if_neg taken, next]
      apply closed.fallsThrough state.pc.toNat here
      rwa [← inside.fields]
  · have mem : state'.mem = _ := congrArg Arch.mem arch
    rw [mem]
    simp only [State.arch, Arch.execute]
    split
    next store =>
      obtain ⟨inRange, behind⟩ := stores store
      apply within.loaded.update
      simp only [Word.address, BitVec.toNat_setWidth]
      simp only [Word.InRange] at inRange
      omega
    next => exact within.loaded

end Step

section Run

variable {shifts : Shifts} {program : List Word} {image : Image} {steps : Nat} {state : State}

theorem within_of_run (closed : Closed program) (loaded : Loaded program image)
    (run : runFor (next shifts) steps (init image) = some state)
    (stores : ∀ visited ∈ past (next shifts) steps (init image),
      visited.StoresBehind program.length) :
    state.Within program ∧ ∀ visited ∈ past (next shifts) steps (init image),
      visited.Within program ∧ visited.halted = false := by
  refine runFor_induction_of
    (motive := fun before state => state.Within program ∧
      ∀ visited ∈ before, visited.Within program ∧ visited.halted = false) ?_ ?_ run stores
  · exact ⟨⟨⟨rfl, rfl⟩, fun _ => closed.nonempty, loaded⟩, by simp⟩
  · intro before state state' ⟨within, earlier⟩ stores step
    refine ⟨within.next closed stores step, ?_⟩
    rw [List.forall_mem_append, List.forall_mem_singleton]
    exact ⟨earlier, within, running_of_next step⟩

theorem storesBehind_of_direct (closed : Closed program) (direct : Direct program)
    (loaded : Loaded program image)
    (run : runFor (next shifts) steps (init image) = some state) :
    ∀ visited ∈ past (next shifts) steps (init image), visited.StoresBehind program.length := by
  have behind : state.Within program ∧ ∀ visited ∈ past (next shifts) steps (init image),
      visited.StoresBehind program.length := by
    refine runFor_induction
      (motive := fun before state => state.Within program ∧
        ∀ visited ∈ before, visited.StoresBehind program.length) ?_ ?_ run
    · exact ⟨⟨⟨rfl, rfl⟩, fun _ => closed.nonempty, loaded⟩, by simp⟩
    · intro before state state' ⟨within, earlier⟩ step
      have stores := (within.inside (running_of_next step)).storesBehind direct
      refine ⟨within.next closed stores step, ?_⟩
      rw [List.forall_mem_append, List.forall_mem_singleton]
      exact ⟨earlier, stores⟩
  exact behind.2

end Run

end SimpleProcessor.Iss
