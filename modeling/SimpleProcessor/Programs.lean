import SimpleProcessor.Iss.Closed
import SimpleProcessor.Iss.Multiplication
import SimpleProcessor.Iss.MultiplicationTable
import SimpleProcessor.MultiCycle.Refinement
import SimpleProcessor.Pipeline.Loads

/-!
# Programs on the two processors

A check of the words of a program is enough for both processors to do what the
instruction-set simulator does with it, so that what was proved about a program there
holds of the hardware.
-/

namespace SimpleProcessor

open Transition
open Iss (Closed Loaded Tabulates fieldsAt tableFields tableImage tableProgram wordAt)

/-- A closed program that all three simulators run alike: it has no use for the link register,
names no destination that an instruction does not have, and never waits for a load. -/
structure Portable (program : List Word) : Prop extends Closed program where
  plain : ∀ index < program.length, (fieldsAt program index).Plain
  notIdle : ∀ index < program.length, wordAt program index ≠ MultiCycle.HLT
  own : ∀ index < program.length,
    Pipeline.Scheduled (fieldsAt program index) (fieldsAt program index)
  scheduled : ∀ index < program.length, index + 1 < program.length →
    Pipeline.Scheduled (fieldsAt program index) (fieldsAt program (index + 1))

instance (program : List Word) : Decidable (Portable program) :=
  decidable_of_iff
    (Closed program ∧ (∀ index < program.length, (fieldsAt program index).Plain) ∧
      (∀ index < program.length, wordAt program index ≠ MultiCycle.HLT) ∧
      (∀ index < program.length,
        Pipeline.Scheduled (fieldsAt program index) (fieldsAt program index)) ∧
      ∀ index < program.length, index + 1 < program.length →
        Pipeline.Scheduled (fieldsAt program index) (fieldsAt program (index + 1)))
    ⟨fun ⟨closed, plain, notIdle, own, scheduled⟩ => ⟨closed, plain, notIdle, own, scheduled⟩,
      fun ⟨closed, plain, notIdle, own, scheduled⟩ => ⟨closed, plain, notIdle, own, scheduled⟩⟩

section Portable

variable {shifts : Shifts} {program : List Word} {image : Image} {visited visited' : Iss.State}

theorem Portable.placed (portable : Portable program) (loaded : Loaded program image)
    (inside : visited.Inside program) (stores : visited.StoresBehind program.length) :
    Pipeline.Placed shifts image visited := by
  have ordinary : visited.Ordinary shifts := inside.ordinary portable.toClosed stores
  have short := portable.short
  have pc := inside.pc
  exact {
    plain := by
      rw [inside.fields]
      exact portable.plain visited.pc.toNat inside.pc
    below := by
      rw [Pipeline.topTarget]
      omega
    target := ordinary.target
    store := ordinary.store
    word := by rw [inside.word, loaded visited.pc inside.pc] }

theorem Portable.scheduled_next (portable : Portable program) (within : visited.Within program)
    (running : visited.halted = false) (stores : visited.StoresBehind program.length)
    (step : Iss.next shifts visited = some visited') :
    Pipeline.Scheduled visited.fields visited'.fields := by
  have inside := within.inside running
  have short := portable.short
  have here := inside.pc
  obtain ⟨arch, -, halted⟩ :=
    Iss.execute_of_next within.low (inside.ordinary portable.toClosed stores) step
  by_cases memory : visited.fields.opcode = .ld ∨ visited.fields.opcode = .st
  · have next : Word.ofAddress visited'.pc = Word.ofAddress (visited.pc + 1#16) := by
      have pc := congrArg Arch.pc arch
      rw [Iss.ofAddress_succ (by omega)]
      rcases memory with load | store
      · simpa [Iss.State.arch, Arch.execute, Arch.taken, load, Opcode.isBranch] using pc
      · simpa [Iss.State.arch, Arch.execute, Arch.taken, store, Opcode.isBranch] using pc
    have same := congrArg (fun word => (Word.address word).toNat) next
    simp only [Word.address_ofAddress] at same
    have index : visited'.pc.toNat = visited.pc.toNat + 1 := by
      rw [same, BitVec.toNat_add, BitVec.toNat_ofNat]
      omega
    have goesOn : visited'.halted = false := by
      rcases memory with load | store
      · simp [halted, load]
      · simp [halted, store]
    have inside' := (within.next portable.toClosed stores step).inside goesOn
    have there := inside'.pc
    rw [inside.fields, inside'.fields, index]
    exact portable.scheduled visited.pc.toNat here (index ▸ there)
  · rw [not_or] at memory
    exact ⟨fun store => absurd store memory.2, fun load => absurd load memory.1⟩

end Portable

section Run

variable {shifts : Shifts} {program : List Word} {image : Image} {k : Nat} {iss : Iss.State}

theorem Portable.ordinary_run (portable : Portable program) (loaded : Loaded program image)
    (run : runFor (Iss.next shifts) k (Iss.init image) = some iss)
    (stores : ∀ visited ∈ past (Iss.next shifts) k (Iss.init image),
      visited.StoresBehind program.length) :
    ∀ visited ∈ past (Iss.next shifts) k (Iss.init image),
      visited.Ordinary shifts ∧ visited.word ≠ MultiCycle.HLT := by
  intro visited member
  obtain ⟨within, running⟩ :=
    (Iss.within_of_run portable.toClosed loaded run stores).2 visited member
  have inside := within.inside running
  refine ⟨inside.ordinary portable.toClosed (stores visited member), ?_⟩
  rw [inside.word]
  exact portable.notIdle visited.pc.toNat inside.pc

/-- The multi-cycle machine runs a portable program like the instruction-set simulator. -/
theorem Portable.multi_cycle (portable : Portable program) (loaded : Loaded program image)
    (run : runFor (Iss.next shifts) k (Iss.init image) = some iss)
    (stores : ∀ visited ∈ past (Iss.next shifts) k (Iss.init image),
      visited.StoresBehind program.length) :
    ∃ state,
      runFor (MultiCycle.next shifts) (1 + 6 * k) (MultiCycle.afterReset image) = some state ∧
        (MultiCycle.Matches state iss ∨ MultiCycle.Stopped state iss) :=
  MultiCycle.simulates_run run (portable.ordinary_run loaded run stores)

theorem Portable.multi_cycle_stops (portable : Portable program) (loaded : Loaded program image)
    (run : runFor (Iss.next shifts) k (Iss.init image) = some iss) (halted : iss.halted = true)
    (stores : ∀ visited ∈ past (Iss.next shifts) k (Iss.init image),
      visited.StoresBehind program.length) :
    ∃ state,
      runFor (MultiCycle.next shifts) (1 + 6 * k) (MultiCycle.afterReset image) = some state ∧
        MultiCycle.Stopped state iss := by
  obtain ⟨state, reached, both | stopped⟩ := portable.multi_cycle loaded run stores
  · rw [both.goesOn] at halted
    cases halted
  · exact ⟨state, reached, stopped⟩

/-- The pipeline finds nothing in a portable program that it cannot do. -/
theorem Portable.placed_run (portable : Portable program) (loaded : Loaded program image)
    (run : runFor (Iss.next shifts) k (Iss.init image) = some iss)
    (stores : ∀ visited ∈ past (Iss.next shifts) k (Iss.init image),
      visited.StoresBehind program.length) :
    ∀ visited ∈ past (Iss.next shifts) k (Iss.init image),
      Pipeline.Placed shifts image visited := by
  intro visited member
  obtain ⟨within, running⟩ :=
    (Iss.within_of_run portable.toClosed loaded run stores).2 visited member
  exact portable.placed loaded (within.inside running) (stores visited member)

theorem Portable.scheduled_run (portable : Portable program) (loaded : Loaded program image)
    (run : runFor (Iss.next shifts) k (Iss.init image) = some iss)
    (stores : ∀ visited ∈ past (Iss.next shifts) k (Iss.init image),
      visited.StoresBehind program.length) :
    ∀ visited ∈ past (Iss.next shifts) k (Iss.init image),
      Pipeline.Scheduled visited.fields visited.fields ∧
        ∀ visited' ∈ Iss.next shifts visited,
          Pipeline.Scheduled visited.fields visited'.fields := by
  intro visited member
  obtain ⟨within, running⟩ :=
    (Iss.within_of_run portable.toClosed loaded run stores).2 visited member
  have inside := within.inside running
  refine ⟨?_, fun visited' step =>
    portable.scheduled_next within running (stores visited member) step⟩
  rw [inside.fields]
  exact portable.own visited.pc.toNat inside.pc

/-- The pipeline runs a portable program like the instruction-set simulator, and never
stalls. -/
theorem Portable.pipeline (portable : Portable program) (loaded : Loaded program image)
    {btb : Pipeline.Btb} (bounded : btb.Bounded)
    (run : runFor (Iss.next shifts) k (Iss.init image) = some iss) (halted : iss.halted = true)
    (stores : ∀ visited ∈ past (Iss.next shifts) k (Iss.init image),
      visited.StoresBehind program.length) :
    ∃ clocks state, Pipeline.Refines shifts image btb k iss clocks state ∧
      ∀ visited ∈ past (Pipeline.next shifts) clocks (Pipeline.afterReset image btb),
        visited.spro.isPipeStalled = false :=
  Pipeline.exists_refines_of_scheduled bounded run halted
    (portable.placed_run loaded run stores) (portable.scheduled_run loaded run stores)

end Run

/-- A check of the words of a program, and of where its stores go, is enough for all three
simulators to agree on it: the multi-cycle machine stops after six clocks for each of its
instructions, and the pipeline never stalls, whatever it predicts. -/
theorem portable_runs_alike (shifts : Shifts) (program : List Word) (image : Image)
    (btb : Pipeline.Btb) (k : Nat) (iss : Iss.State) (portable : Portable program)
    (loaded : Loaded program image) (bounded : btb.Bounded)
    (run : runFor (Iss.next shifts) k (Iss.init image) = some iss) (halted : iss.halted = true)
    (stores : ∀ visited ∈ past (Iss.next shifts) k (Iss.init image),
      visited.StoresBehind program.length) :
    (∃ state,
      runFor (MultiCycle.next shifts) (1 + 6 * k) (MultiCycle.afterReset image) = some state ∧
        MultiCycle.Stopped state iss) ∧
    ∃ clocks state, Pipeline.Refines shifts image btb k iss clocks state ∧
      ∀ visited ∈ past (Pipeline.next shifts) clocks (Pipeline.afterReset image btb),
        visited.spro.isPipeStalled = false :=
  ⟨portable.multi_cycle_stops loaded run halted stores,
    portable.pipeline loaded bounded run halted stores⟩

/-- 0: LD r2, [6]; 1: ADD r4, r0, 1; 2: ADD r3, r2, r2; 3: ST r3, [7]; 4: HLT. -/
def doubleProgram : List Word :=
  [0x10810006#32, 0x01010001#32, 0x00d20000#32, 0x12190007#32, 0x30000000#32]

/-- The program with the word that it doubles. -/
def doubleImage (word : Word) : Image := fun addr =>
  if addr.toNat < 5 then Iss.wordAt doubleProgram addr.toNat else if addr = 6#16 then word else 0#32

theorem portable_runs_alike_double :
    ∃ iss clocks state, iss.mem 7#16 = 42#32 ∧
      Pipeline.Refines Shifts.x86 (doubleImage 21#32) .zero 5 iss clocks state := by
  have executed : (runFor (Iss.next Shifts.x86) 5 (Iss.init (doubleImage 21#32))).map
      (fun iss => (iss.halted, iss.mem 7#16)) = some (true, 42#32) := by decide +kernel
  obtain ⟨iss, run, here⟩ := Option.map_eq_some_iff.mp executed
  obtain ⟨halted, doubled⟩ := Prod.mk.inj here
  obtain ⟨-, clocks, state, refines, -⟩ :=
    portable_runs_alike Shifts.x86 doubleProgram (doubleImage 21#32) .zero 5 iss
      (by decide +kernel) (fun addr bound => if_pos bound) (fun _ taken => absurd rfl taken) run
      halted (by decide +kernel)
  exact ⟨iss, clocks, state, doubled, refines⟩

/-! ## The multiplication program -/

section Multiplication

variable {shifts : Shifts} {data : Image} {x y : Word} {k : Nat} {iss : Iss.State}

theorem portable_multiplication : Portable Iss.multiplicationProgram := by
  decide +kernel

theorem loaded_multiplication (data : Image) (x y : Word) :
    Loaded Iss.multiplicationProgram (Iss.multiplicationImage data x y) :=
  fun _ bound => if_pos bound

theorem direct_multiplication : Iss.Direct Iss.multiplicationProgram := by
  unfold Iss.Direct
  decide +kernel

theorem storesBehind_multiplication
    (run : runFor (Iss.next shifts) k (Iss.init (Iss.multiplicationImage data x y)) = some iss) :
    ∀ visited ∈ past (Iss.next shifts) k (Iss.init (Iss.multiplicationImage data x y)),
      visited.StoresBehind Iss.multiplicationProgram.length :=
  Iss.storesBehind_of_direct portable_multiplication.toClosed direct_multiplication
    (loaded_multiplication data x y) run

theorem pc_of_multiplied (multiplied : Iss.Multiplied data x y iss) :
    Word.ofAddress (iss.pc - 1#16) = 17#32 := by
  have reported : Word.ofAddress iss.pc - 1#32 = 17#32 := multiplied.2.1
  have pc : Word.ofAddress iss.pc = 18#32 := by
    rw [← BitVec.sub_add_cancel (Word.ofAddress iss.pc) 1#32, reported]
    rfl
  have address : iss.pc = 18#16 := by
    rw [← Word.address_ofAddress iss.pc, pc]
    rfl
  rw [address]
  rfl

/-- The multi-cycle machine has stopped at the HLT with the product in address 1002. -/
def MultiCycle.Multiplied (data : Image) (x y : Word) (final : MultiCycle.State) : Prop :=
  final.stopSim = true ∧ final.spro.pc = 17#32 ∧
    final.sram.data = Function.update (Iss.multiplicationImage data x y) 1002#16 (x * y)

theorem multi_cycle_multiplies (ordinary : y ≠ 0x80000000#32) :
    Reaches (MultiCycle.next shifts) (MultiCycle.Multiplied data x y)
      (MultiCycle.afterReset (Iss.multiplicationImage data x y)) := by
  obtain ⟨k, iss, run, multiplied⟩ := Iss.reaches_multiplied ordinary
  obtain ⟨state, reached, stopped⟩ := portable_multiplication.multi_cycle_stops
    (loaded_multiplication data x y) run multiplied.1 (storesBehind_multiplication run)
  refine ⟨_, state, reached, stopped.stopped, ?_, stopped.data.trans multiplied.2.2⟩
  rw [stopped.pc]
  exact pc_of_multiplied multiplied

/-- A multiplier that is its own negation keeps the multi-cycle machine running. -/
theorem multi_cycle_of_negative (shifts : Shifts) (clocks : Nat) :
    ∃ state, runFor (MultiCycle.next shifts) clocks
      (MultiCycle.afterReset (Iss.multiplicationImage data x 0x80000000#32)) = some state := by
  obtain ⟨iss, run⟩ :=
    Iss.reaches_negative.exists_runFor (runFor_of_return Iss.negative_returns clocks)
  obtain ⟨state, reached, -⟩ := portable_multiplication.multi_cycle
    (loaded_multiplication data x 0x80000000#32) run (storesBehind_multiplication run)
  have earlier : clocks ≤ 1 + 6 * clocks := by omega
  obtain ⟨middle, before, -⟩ := exists_of_le reached earlier
  exact ⟨middle, before⟩

theorem multi_cycle_next_of_stopped {state : MultiCycle.State} (stopped : state.stopSim = true) :
    MultiCycle.next shifts state = none := by
  rw [MultiCycle.next, if_pos stopped]

end Multiplication

/-- The multiplication program multiplies on the multi-cycle machine and in the pipeline, for
any arguments and any other data, and whatever the pipeline predicts.  With a multiplier that is
its own negation the multi-cycle machine runs on forever. -/
theorem multiplies_on_processors (shifts : Shifts) (data : Image) (x y : Word)
    (btb : Pipeline.Btb) (bounded : btb.Bounded) :
    let image := Iss.multiplicationImage data x y
    let product := Function.update image 1002#16 (x * y)
    ((∃ clocks state,
        runFor (MultiCycle.next shifts) clocks (MultiCycle.afterReset image) = some state ∧
          state.stopSim = true) ↔ y ≠ 0x80000000#32) ∧
      (∀ clocks state,
        runFor (MultiCycle.next shifts) clocks (MultiCycle.afterReset image) = some state →
        state.stopSim = true → state.spro.pc = 17#32 ∧ state.sram.data = product) ∧
      (y = 0x80000000#32 → ∀ clocks, ∃ state,
        runFor (MultiCycle.next shifts) clocks (MultiCycle.afterReset image) = some state) ∧
      (y ≠ 0x80000000#32 → ∃ clocks state,
        runFor (Pipeline.next shifts) clocks (Pipeline.afterReset image btb) = some state ∧
          state.stopSim = true ∧ state.sramd.data = product ∧ state.srami.data = image) := by
  intro image product
  have stops {clocks : Nat} {state : MultiCycle.State}
      (run : runFor (MultiCycle.next shifts) clocks (MultiCycle.afterReset image) = some state)
      (stopped : state.stopSim = true) : y ≠ 0x80000000#32 := by
    rintro rfl
    obtain ⟨beyond, further⟩ := multi_cycle_of_negative shifts (clocks + 1)
    obtain ⟨last, reached, step⟩ := exists_of_runFor_succ further
    rw [run] at reached
    cases reached
    rw [multi_cycle_next_of_stopped stopped] at step
    cases step
  refine ⟨⟨?_, ?_⟩, ?_, ?_, ?_⟩
  · rintro ⟨clocks, state, run, stopped⟩
    exact stops run stopped
  · intro ordinary
    obtain ⟨clocks, state, run, stopped, -⟩ := multi_cycle_multiplies ordinary
    exact ⟨clocks, state, run, stopped⟩
  · intro clocks state run stopped
    exact ((multi_cycle_multiplies (stops run stopped)).of_end
      (fun last multiplied => multi_cycle_next_of_stopped multiplied.1) run
      (multi_cycle_next_of_stopped stopped)).2
  · rintro rfl
    exact multi_cycle_of_negative shifts
  · intro ordinary
    obtain ⟨k, iss, run, halted, -, mem⟩ := Iss.reaches_multiplied ordinary
    obtain ⟨clocks, state, refines, -⟩ := portable_multiplication.pipeline
      (loaded_multiplication data x y) bounded run halted (storesBehind_multiplication run)
    exact ⟨clocks, state, refines.run, refines.stopped, refines.data.trans mem, refines.srami⟩

/-- The arguments of `minus_3_times_minus_5.bin`. -/
theorem multiplies_on_processors_minus_three :
    ∃ clocks state, runFor (Pipeline.next Shifts.x86) clocks (Pipeline.afterReset
        (Iss.multiplicationImage (fun _ => 0#32) 0xfffffffd#32 0xfffffffb#32) .zero) =
          some state ∧
      state.stopSim = true ∧ state.sramd.data 1002#16 = 15#32 := by
  obtain ⟨-, -, -, pipeline⟩ := multiplies_on_processors Shifts.x86 (fun _ => 0#32)
    0xfffffffd#32 0xfffffffb#32 .zero (fun _ taken => absurd rfl taken)
  obtain ⟨clocks, state, run, stopped, data, -⟩ := pipeline (by decide)
  refine ⟨clocks, state, run, stopped, ?_⟩
  rw [data, Function.update_self]
  rfl

/-! ## The multiplication table -/

section Table

variable {size last : Nat}

theorem portable_table (small : size ≤ 32767) (bounded : last ≤ 32767) :
    Portable (tableProgram size last) := by
  have fields (condition : Nat → Fields → Prop)
      (checked : ∀ index < 19,
        condition index ((tableFields size last).getD index (.ofWord 0#32))) :
      ∀ index < 19, condition index (fieldsAt (tableProgram size last) index) := by
    intro index inside
    rw [Iss.fieldsAt_tableProgram small bounded]
    exact checked index inside
  exact {
    nonempty := of_decide_eq_true rfl
    short := of_decide_eq_true rfl
    basic := fields (fun _ fields => fields.opcode.isBasic = true) (of_decide_eq_true rfl)
    target := fields (fun _ fields => fields.opcode.isBranch = true → fields.immediate.toNat < 19)
      (of_decide_eq_true rfl)
    fallsThrough := fields (fun index fields => fields.opcode ≠ .hlt → index + 1 < 19)
      (of_decide_eq_true rfl)
    plain := fields (fun _ fields => fields.Plain) (of_decide_eq_true rfl)
    notIdle := by
      intro index inside idle
      have named := fields (fun _ fields => fields.opcode = .add → fields.dst ≠ 0#3)
        (of_decide_eq_true rfl) index inside
      rw [fieldsAt, idle] at named
      exact named rfl rfl
    own := fields (fun _ fields => Pipeline.Scheduled fields fields) (of_decide_eq_true rfl)
    scheduled := by
      intro index inside _
      rw [Iss.fieldsAt_tableProgram small bounded, Iss.fieldsAt_tableProgram small bounded]
      have checked : ∀ index < 19, Pipeline.Scheduled
        ((tableFields size last).getD index (.ofWord 0#32))
        ((tableFields size last).getD (index + 1) (.ofWord 0#32)) := of_decide_eq_true rfl
      exact checked index inside }

end Table

/-- The program that `assemble_program` writes fills its table of products on all three
simulators, for any size that leaves room for the program, any other data, and whatever the
pipeline predicts. -/
theorem tabulates_on_processors (shifts : Shifts) (size last : Nat) (data : Image)
    (btb : Pipeline.Btb) (positive : 0 < size) (bounded : last ≤ 32767)
    (room : 19 + size * size ≤ last + 1) (predictions : btb.Bounded) :
    let image := tableImage size last data
    (∃ steps final, runFor (Iss.next shifts) steps (Iss.init image) = some final ∧
      final.halted = true ∧ Tabulates size last image final.mem) ∧
    (∃ clocks state,
      runFor (MultiCycle.next shifts) clocks (MultiCycle.afterReset image) = some state ∧
        state.stopSim = true ∧ Tabulates size last image state.sram.data) ∧
    ∃ clocks state,
      runFor (Pipeline.next shifts) clocks (Pipeline.afterReset image btb) = some state ∧
        state.stopSim = true ∧ Tabulates size last image state.sramd.data ∧
        state.srami.data = image := by
  intro image
  have small : size ≤ 32767 := by
    have square := Nat.le_mul_of_pos_right size positive
    omega
  have portable := portable_table small bounded
  have loaded := Iss.loaded_tableImage size last data
  obtain ⟨steps, final, run, ⟨halted, table⟩, stores⟩ :=
    Iss.reaches_table shifts data positive small bounded room
  obtain ⟨stopping, slow, stopped⟩ := portable.multi_cycle_stops loaded run halted stores
  obtain ⟨clocks, state, refines, -⟩ := portable.pipeline loaded predictions run halted stores
  refine ⟨⟨steps, final, run, halted, table⟩, ⟨_, stopping, slow, stopped.stopped, ?_⟩,
    clocks, state, refines.run, refines.stopped, ?_, refines.srami⟩
  · rw [stopped.data]
    exact table
  · rw [refines.data]
    exact table

/-- The program as it is assembled ends with ten times ten in the pipeline. -/
theorem tabulates_on_processors_ten :
    ∃ clocks state, runFor (Pipeline.next Shifts.x86) clocks
        (Pipeline.afterReset (tableImage 10 2099 (fun _ => 0#32)) .zero) = some state ∧
      state.stopSim = true ∧ state.sramd.data 2099#16 = 100#32 := by
  obtain ⟨-, -, clocks, state, run, stopped, table, -⟩ := tabulates_on_processors Shifts.x86 10
    2099 (fun _ => 0#32) .zero (by decide) (by decide) (by decide)
    (fun _ taken => absurd rfl taken)
  exact ⟨clocks, state, run, stopped, table.product 9 (by decide) 9 (by decide)⟩

end SimpleProcessor
