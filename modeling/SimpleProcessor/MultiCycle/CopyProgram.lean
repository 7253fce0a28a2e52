import SimpleProcessor.Asm.Instruction
import SimpleProcessor.Dma.Rules
import SimpleProcessor.MultiCycle.AtomicTransfers

/-!
# The copy program

The program of `lab2/asm.c` has the engine copy 100 words, copies ten of them itself in
the meantime, and polls until the engine is done.  The engine reads the words that
the loop reads, and neither writes a word that the other one touches.
-/

namespace SimpleProcessor.MultiCycle

open Transition Choice Dma Atomic

/-- The first words of `dma.bin`. -/
def copyProgram : List Word :=
  [0x00880065#32, 0x00c800c9#32, 0x0108012d#32, 0x0188000a#32, 0x14d10064#32, 0x11420000#32,
    0x122c0000#32, 0x00910001#32, 0x01210001#32, 0x03b10001#32, 0x20060005#32, 0x1600000d#32,
    0x2800000b#32, 0x30000000#32]

/-- The program with any data. -/
def copyImage (data : Image) : Image := fun addr =>
  if addr.toNat < 14 then copyProgram.getD addr.toNat 0#32 else data addr

/-- The listing that the assembler has for the program. -/
example : copyProgram =
    let asm := Asm.word
    [asm .add 2 1 0 101, asm .add 3 1 0 201, asm .add 4 1 0 301, asm .add 6 1 0 10,
      asm .dma 3 2 1 100,
      -- the loop of the CPU
      asm .ld 5 0 2 0, asm .st 0 5 4 0, asm .add 2 2 1 1, asm .add 4 4 1 1, asm .sub 6 6 1 1,
      asm .jlt 0 0 6 5,
      -- wait for the engine
      asm .dmp 0 0 0 13, asm .jin 0 0 0 11, asm .hlt 0 0 0 0] := by
  decide

/-- The request of the program. -/
def copyRequest : Request := ⟨101#32, 201#32, 100#32⟩

/-- The memory behind the transfer and the given number of stores. -/
def copyMemory (data : Image) (stored : Nat) : Image := fun addr =>
  if 201 ≤ addr.toNat ∧ addr.toNat < 301 then data (addr - 100#16)
  else if 301 ≤ addr.toNat ∧ addr.toNat < 301 + stored then data (addr - 200#16)
  else copyImage data addr

/-- The instruction at an address of the program. -/
def copyFields (pc : Word) : Fields := .ofWord (copyProgram.getD pc.toNat 0#32)

/-- The registers in front of a round of the loop. -/
structure Copying (regs : RegFile) (stored : Nat) : Prop where
  zero : regs 0#3 = 0#32
  source : regs 2#3 = BitVec.ofNat 32 (101 + stored)
  target : regs 4#3 = BitVec.ofNat 32 (301 + stored)
  left : regs 6#3 = BitVec.ofNat 32 (10 - stored)

section Memory

variable {data mem : Image}

theorem toNat_sub_offset {addr : Address} {offset : Nat} (low : offset ≤ addr.toNat) :
    (addr - BitVec.ofNat 16 offset).toNat = addr.toNat - offset := by
  have bound := addr.isLt
  rw [BitVec.toNat_sub, BitVec.toNat_ofNat]
  omega

theorem copyRequest_writes (addr : Address) :
    copyRequest.Writes addr ↔ 201 ≤ addr.toNat ∧ addr.toNat < 301 := by
  have bound := addr.isLt
  have count : copyRequest.count = 100 := by decide
  have base : copyRequest.dst.address.toNat = 201 := by decide
  rw [Request.Writes, count, BitVec.toNat_sub, base]
  omega

theorem copyRequest_reads (addr : Address) :
    copyRequest.Reads addr ↔ 101 ≤ addr.toNat ∧ addr.toNat < 201 := by
  have bound := addr.isLt
  have count : copyRequest.count = 100 := by decide
  have base : copyRequest.src.address.toNat = 101 := by decide
  rw [Request.Reads, count, BitVec.toNat_sub, base]
  omega

theorem copied_copyImage (data : Image) :
    copyRequest.copied (copyImage data) (copyImage data) = copyMemory data 0 := by
  funext addr
  by_cases writes : 201 ≤ addr.toNat ∧ addr.toNat < 301
  · rw [Request.copied, if_pos ((copyRequest_writes addr).mpr writes), copyMemory, if_pos writes]
    have source : copyRequest.src.address + (addr - copyRequest.dst.address) = addr - 100#16 := by
      have src : copyRequest.src.address = 101#16 := by decide
      have dst : copyRequest.dst.address = 201#16 := by decide
      rw [src, dst]
      grind
    have outside : ¬ (addr - 100#16).toNat < 14 := by
      rw [toNat_sub_offset (by omega)]
      omega
    rw [source, copyImage, if_neg outside]
  · have notStored : ¬ (301 ≤ addr.toNat ∧ addr.toNat < 301 + 0) := by omega
    rw [Request.copied_of_not_writes (mt (copyRequest_writes addr).mp writes), copyMemory,
      if_neg writes, if_neg notStored]

theorem update_copyMemory (data : Image) (stored : Nat) (round : stored < 10) :
    Function.update (copyMemory data stored) (BitVec.ofNat 16 (301 + stored))
      (data (BitVec.ofNat 16 (101 + stored))) = copyMemory data (stored + 1) := by
  funext addr
  have target : (BitVec.ofNat 16 (301 + stored)).toNat = 301 + stored := by
    rw [BitVec.toNat_ofNat]
    omega
  by_cases here : addr = BitVec.ofNat 16 (301 + stored)
  · subst here
    have source : BitVec.ofNat 16 (301 + stored) - 200#16 = BitVec.ofNat 16 (101 + stored) := by
      apply BitVec.eq_of_toNat_eq
      rw [toNat_sub_offset (by omega : 200 ≤ _), target, BitVec.toNat_ofNat]
      omega
    rw [Function.update_self, copyMemory, target, if_neg (by omega), if_pos (by omega), source]
  · have elsewhere : addr.toNat ≠ 301 + stored := by
      rw [← target]
      exact fun same => here (BitVec.eq_of_toNat_eq same)
    rw [Function.update_of_ne here]
    simp only [copyMemory]
    have same : (301 ≤ addr.toNat ∧ addr.toNat < 301 + stored) ↔
        (301 ≤ addr.toNat ∧ addr.toNat < 301 + (stored + 1)) := by omega
    simp only [same]

theorem copyMemory_source (data : Image) (stored : Nat) {round : Nat} (inside : round < 10) :
    copyMemory data stored (BitVec.ofNat 16 (101 + round)) =
      data (BitVec.ofNat 16 (101 + round)) := by
  have source : (BitVec.ofNat 16 (101 + round)).toNat = 101 + round := by
    rw [BitVec.toNat_ofNat]
    omega
  rw [copyMemory, source, if_neg (by omega), if_neg (by omega), copyImage, source,
    if_neg (by omega)]

theorem copyMemory_program (data : Image) (stored : Nat) {addr : Address}
    (inside : addr.toNat < 14) : copyMemory data stored addr = copyImage data addr := by
  rw [copyMemory, if_neg (by omega), if_neg (by omega)]

theorem fetches_copy
    (program : ∀ addr : Address, addr.toNat < 14 → mem addr = copyImage data addr)
    {pc : Word} (inside : pc.toNat < 14) : Fetches copyRequest mem pc (copyFields pc) := by
  have address : pc.address.toNat = pc.toNat := by
    simp only [Word.address, BitVec.toNat_setWidth]
    omega
  have word : mem pc.address = copyProgram.getD pc.toNat 0#32 := by
    rw [program pc.address (by omega), copyImage, if_pos (by omega), address]
  have ordinary : ∀ index < 14, copyProgram.getD index 0#32 ≠ 24#32 := by decide
  exact {
    fetched := by rw [word, copyFields]
    notIdle := by
      rw [word]
      exact ordinary pc.toNat inside
    inRange := by
      simp only [Word.InRange]
      omega
    outside := by
      rw [copyRequest_writes]
      omega }

end Memory

theorem ofNat_succ (value : Nat) :
    BitVec.ofNat 32 value + 1#32 = BitVec.ofNat 32 (value + 1) :=
  (BitVec.ofNat_add value 1).symm

theorem left_succ : ∀ stored < 10,
    BitVec.ofNat 32 (10 - stored) - 1#32 = BitVec.ofNat 32 (10 - (stored + 1)) ∧
      (0#32).slt (BitVec.ofNat 32 (10 - (stored + 1))) = decide (stored + 1 < 10) := by
  decide

section Blocks

variable {shifts : Shifts} {goal : Atomic.State → Prop} {data : Image} {regs : RegFile}
variable {stored : Nat}

/-- 0 to 4: the request is set up and made. -/
theorem runs_request
    (rest : ∀ regs, Copying regs 0 → Runs shifts copyRequest goal 5#32 regs (copyMemory data 0)) :
    Runs shifts copyRequest goal 0#32 (fun _ => 0#32) (copyImage data) := by
  have fetches {pc : Word} (inside : pc.toNat < 14) :
      Fetches copyRequest (copyImage data) pc (copyFields pc) :=
    fetches_copy (fun _ _ => rfl) inside
  refine runs_compute (fetches (by decide)) (by decide) (by decide) ?_
  refine runs_compute (fetches (by decide)) (by decide) (by decide) ?_
  refine runs_compute (fetches (by decide)) (by decide) (by decide) ?_
  refine runs_compute (fetches (by decide)) (by decide) (by decide) ?_
  refine runs_start (fetches (by decide)) (by decide) rfl (by decide) ?_
  rw [copied_copyImage]
  exact rest _ ⟨rfl, rfl, rfl, rfl⟩

/-- 5 to 10: one round of the loop. -/
theorem runs_copy_round (copying : Copying regs stored) (round : stored < 10)
    (rest : ∀ regs, Copying regs (stored + 1) →
      Runs shifts copyRequest goal (if stored + 1 < 10 then 5#32 else 11#32) regs
        (copyMemory data (stored + 1))) :
    Runs shifts copyRequest goal 5#32 regs (copyMemory data stored) := by
  have fetches {pc : Word} (stored : Nat) (inside : pc.toNat < 14) :
      Fetches copyRequest (copyMemory data stored) pc (copyFields pc) :=
    fetches_copy (fun _ => copyMemory_program data stored) inside
  obtain ⟨zero, source, target, left⟩ := copying
  have source' : ((copyFields 5#32).operand1 regs).address = BitVec.ofNat 16 (101 + stored) :=
    (congrArg Word.address source).trans (Word.address_ofNat _)
  have target' : (regs 4#3).address = BitVec.ofNat 16 (301 + stored) :=
    (congrArg Word.address target).trans (Word.address_ofNat _)
  have inTarget : (regs 4#3).address.toNat = 301 + stored := by
    rw [target', BitVec.toNat_ofNat]
    omega
  refine runs_load (fetches stored (by decide)) (by decide) (by decide) ?_ ?_
  · rw [source', copyRequest_writes, BitVec.toNat_ofNat]
    omega
  rw [source', copyMemory_source data stored round]
  refine runs_store (fetches stored (by decide)) (by decide) ?_ ?_ ?_ ?_
  · change Word.InRange (regs 4#3)
    rw [target, Word.InRange, BitVec.toNat_ofNat]
    omega
  · change ¬ copyRequest.Writes (regs 4#3).address
    rw [copyRequest_writes, inTarget]
    omega
  · change ¬ copyRequest.Reads (regs 4#3).address
    rw [copyRequest_reads, inTarget]
    omega
  have stores : Function.update (copyMemory data stored) (regs 4#3).address
      (data (BitVec.ofNat 16 (101 + stored))) = copyMemory data (stored + 1) := by
    rw [target']
    exact update_copyMemory data stored round
  change Runs shifts copyRequest goal _ _ (Function.update (copyMemory data stored)
    (regs 4#3).address (data (BitVec.ofNat 16 (101 + stored))))
  rw [stores]
  refine runs_compute (fetches _ (by decide)) (by decide) (by decide) ?_
  refine runs_compute (fetches _ (by decide)) (by decide) (by decide) ?_
  refine runs_compute (fetches _ (by decide)) (by decide) (by decide) ?_
  refine runs_branch (fetches _ (by decide)) (by decide) ?_
  obtain ⟨counter, again⟩ := left_succ stored round
  generalize regsEq : (Function.update (Function.update _ _ _) _ _ : RegFile) = regs'
  have zero' : regs' 0#3 = 0#32 := by
    rw [← regsEq]
    exact zero
  have source' : regs' 2#3 = BitVec.ofNat 32 (101 + (stored + 1)) := by
    rw [← regsEq]
    exact (congrArg (· + 1#32) source).trans (ofNat_succ _)
  have target' : regs' 4#3 = BitVec.ofNat 32 (301 + (stored + 1)) := by
    rw [← regsEq]
    exact (congrArg (· + 1#32) target).trans (ofNat_succ _)
  have left' : regs' 6#3 = BitVec.ofNat 32 (10 - (stored + 1)) := by
    rw [← regsEq]
    exact (congrArg (· - 1#32) left).trans counter
  have taken : Arch.taken shifts (copyFields 10#32) regs' = decide (stored + 1 < 10) := by
    rw [← again, ← zero', ← left']
    exact Arch.taken_jlt (by decide)
  have here : 5#32 + 1#32 + 1#32 + 1#32 + 1#32 + 1#32 = 10#32 := by decide
  rw [here, taken]
  by_cases last : stored + 1 < 10
  · rw [if_pos last] at rest
    simp only [last, decide_true, if_true]
    exact rest _ ⟨zero', source', target', left'⟩
  · rw [if_neg last] at rest
    simp only [last, decide_false, Bool.false_eq_true, if_false]
    exact rest _ ⟨zero', source', target', left'⟩

/-- 5 to 10: the loop copies ten words. -/
theorem runs_copy_loop (copying : Copying regs stored) (round : stored < 10)
    (rest : ∀ regs, Runs shifts copyRequest goal 11#32 regs (copyMemory data 10)) :
    Runs shifts copyRequest goal 5#32 regs (copyMemory data stored) := by
  -- on the rounds that are left
  induction left : 10 - stored generalizing stored regs with
  | zero => omega
  | succ left ih =>
      refine runs_copy_round copying round fun regs' copying' => ?_
      by_cases last : stored + 1 < 10
      · rw [if_pos last]
        exact ih copying' last (by omega)
      · have ten : stored + 1 = 10 := by omega
        rw [if_neg last, ten]
        exact rest regs'

/-- 11 to 13: the program polls until the engine is done. -/
theorem runs_copy_done
    (rest : ∀ regs, goal ⟨⟨13#32, regs, copyMemory data 10⟩, none, true⟩) :
    Runs shifts copyRequest goal 11#32 regs (copyMemory data 10) := by
  have fetches {pc : Word} (inside : pc.toNat < 14) :
      Fetches copyRequest (copyMemory data 10) pc (copyFields pc) :=
    fetches_copy (fun _ => copyMemory_program data 10) inside
  refine runs_polling (fetches (by decide)) (by decide) (fetches (by decide)) (by decide)
    (by decide) (by decide : (copyFields 11#32).immediate = 13#32) ?_
  exact inevitable_hlt (fetches (by decide)) (by decide) (by simp) (rest _)

end Blocks

/-- The copy program ends with both copies made, for any data, and with nothing left to the
engine. -/
theorem copies (shifts : Shifts) (data : Image) :
    ∃ count state,
      runFor (next shifts) (1 + 6 * count) (afterReset (copyImage data)) = some state ∧
      state.stopSim = true ∧ state.spro.pc = 13#32 ∧
      state.sram.data = copyMemory data 10 := by
  have inevitable : Runs shifts copyRequest
      (fun spec => ∃ regs, spec = ⟨⟨13#32, regs, copyMemory data 10⟩, none, true⟩)
      0#32 (fun _ => 0#32) (copyImage data) := by
    refine runs_request fun regs copying => ?_
    refine runs_copy_loop copying (by decide) fun regs => ?_
    exact runs_copy_done fun regs => ⟨regs, rfl⟩
  have started : Inevitable (Step shifts) Atomic.State.Defined
      (fun spec => ∃ regs, spec = ⟨⟨13#32, regs, copyMemory data 10⟩, none, true⟩)
      (Atomic.init (copyImage data)) := inevitable none (by simp)
  obtain ⟨count, state, spec, run, shows, regs, rfl⟩ := reaches_inevitable started
  refine ⟨count, state, run, shows.stopSim, shows.pc, ?_⟩
  funext addr
  exact shows.data addr (by simp [Atomic.State.Readable])

end SimpleProcessor.MultiCycle
