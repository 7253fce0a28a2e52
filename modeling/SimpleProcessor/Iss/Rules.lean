import SimpleProcessor.Iss.Execution
import SimpleProcessor.Lib.Reaches

/-!
# Reasoning about a program instruction by instruction

`Runs shifts goal pc regs mem` says that the simulator, about to execute the word at
`pc`, gets to its goal.  Each rule reduces it to the same statement behind one
instruction, so that a proof about a program follows its listing.  `RunsThrough` says
in addition that all instructions on the way are good ones.
-/

namespace SimpleProcessor.Iss

open Transition

/-- The simulator in its loop. -/
def running (pc : Address) (regs : RegFile) (mem : Image) (count : Word) : State where
  pc := pc
  mem := mem
  regs := regs
  instCount := count
  halted := false

/-- The simulator behind a HLT. -/
def ended (pc : Address) (regs : RegFile) (mem : Image) (count : Word) : State where
  pc := pc + 1#16
  mem := mem
  regs := regs
  instCount := count
  halted := true

theorem next_of_halted {shifts : Shifts} {state : State} (halted : state.halted = true) :
    next shifts state = none := by
  rw [next, if_pos halted]

/-- The program gets to its goal from `pc` on, whatever was executed before. -/
def Runs (shifts : Shifts) (goal : State → Prop) (pc : Address) (regs : RegFile)
    (mem : Image) : Prop :=
  regs.LowZero → ∀ count, Reaches (next shifts) goal (running pc regs mem count)

variable {shifts : Shifts} {good goal : State → Prop} {pc : Address} {regs : RegFile}
variable {mem : Image} {fields : Fields}

/-- The same, with a good instruction in every step. -/
def RunsThrough (shifts : Shifts) (good goal : State → Prop) (pc : Address) (regs : RegFile)
    (mem : Image) : Prop :=
  regs.LowZero → ∀ count, ReachesThrough (next shifts) good goal (running pc regs mem count)

theorem runs_iff_through :
    Runs shifts goal pc regs mem ↔ RunsThrough shifts (fun _ => True) goal pc regs mem := by
  constructor
  · intro runs low count
    obtain ⟨steps, last, run, holds⟩ := runs low count
    exact ⟨steps, last, run, holds, fun _ _ => trivial⟩
  · intro through low count
    exact (through low count).reaches

theorem through_of_low (rest : regs.LowZero → RunsThrough shifts good goal pc regs mem) :
    RunsThrough shifts good goal pc regs mem :=
  fun low => rest low low

theorem runs_of_low (rest : regs.LowZero → Runs shifts goal pc regs mem) :
    Runs shifts goal pc regs mem :=
  fun low => rest low low

theorem address_succ (below : pc.toNat < 65535) :
    (Word.ofAddress pc + 1#32).address = pc + 1#16 := by
  rw [← ofAddress_succ below, Word.address_ofAddress]

section Step

variable (fetched : Fields.ofWord (mem pc) = fields) (below : pc.toNat < 65535)
include fetched below

theorem next_running (low : regs.LowZero) (basic : fields.opcode.isBasic = true)
    (target : Arch.taken shifts fields regs = true → fields.immediate.toNat ≤ 32767)
    (store : fields.opcode = .st → (fields.operand1 regs).InRange) (count : Word) :
    let arch := Arch.execute shifts fields ⟨Word.ofAddress pc, regs, mem⟩
    next shifts (running pc regs mem count) = some {
      pc := arch.pc.address
      mem := arch.mem
      regs := arch.regs
      instCount := count + 1#32
      halted := fields.opcode = .hlt } := by
  subst fetched
  have ordinary : (running pc regs mem count).Ordinary shifts := ⟨basic, below, target, store⟩
  obtain ⟨state', step, arch, instCount, halted⟩ := next_ordinary rfl low ordinary
  have pc' := congrArg (Word.address ∘ Arch.pc) arch
  have regs' := congrArg Arch.regs arch
  have mem' := congrArg Arch.mem arch
  simp only [Function.comp_apply, State.arch, Word.address_ofAddress] at pc' regs' mem'
  rw [step]
  exact congrArg some (State.ext pc' mem' regs' instCount halted)

/-- The rule for every instruction other than HLT. -/
theorem through_of_execute (isGood : ∀ count, good (running pc regs mem count))
    (basic : fields.opcode.isBasic = true) (notHlt : fields.opcode ≠ .hlt)
    (target : Arch.taken shifts fields regs = true → fields.immediate.toNat ≤ 32767)
    (store : fields.opcode = .st → (fields.operand1 regs).InRange)
    (rest : let arch := Arch.execute shifts fields ⟨Word.ofAddress pc, regs, mem⟩
      RunsThrough shifts good goal arch.pc.address arch.regs arch.mem) :
    RunsThrough shifts good goal pc regs mem := by
  intro low count
  have step := next_running fetched below low basic target store count
  rw [decide_eq_false notHlt] at step
  exact ReachesThrough.step (isGood count) step
    (rest (Arch.lowZero_writeBack low) (count + 1#32))

section Through

variable (isGood : ∀ count, good (running pc regs mem count))
include isGood

theorem through_compute (compute : fields.opcode.isCompute = true) (named : 1#3 < fields.dst)
    (rest : RunsThrough shifts good goal (pc + 1#16)
      (Function.update regs fields.dst
        (aluResult shifts fields.opcode (fields.operand0 regs) (fields.operand1 regs))) mem) :
    RunsThrough shifts good goal pc regs mem := by
  obtain ⟨basic, notHlt, notStore, noBranch⟩ := Opcode.kind_of_isCompute compute
  refine through_of_execute fetched below isGood basic notHlt (by simp [Arch.taken, noBranch])
    (absurd · notStore) ?_
  simpa [Arch.execute_compute compute named, address_succ below] using rest

theorem through_load (load : fields.opcode = .ld) (named : 1#3 < fields.dst)
    (rest : RunsThrough shifts good goal (pc + 1#16)
      (Function.update regs fields.dst (mem (fields.operand1 regs).address)) mem) :
    RunsThrough shifts good goal pc regs mem := by
  refine through_of_execute fetched below isGood (by simp [load, Opcode.isBasic])
    (by simp [load]) (by simp [Arch.taken, load, Opcode.isBranch]) (by simp [load]) ?_
  simpa [Arch.execute_load load named, address_succ below] using rest

theorem through_store (store : fields.opcode = .st)
    (inRange : (fields.operand1 regs).InRange)
    (rest : RunsThrough shifts good goal (pc + 1#16) regs
      (Function.update mem (fields.operand1 regs).address (fields.operand0 regs))) :
    RunsThrough shifts good goal pc regs mem := by
  refine through_of_execute fetched below isGood (by simp [store, Opcode.isBasic])
    (by simp [store]) (by simp [Arch.taken, store, Opcode.isBranch]) (fun _ => inRange) ?_
  simpa [Arch.execute_store store, address_succ below] using rest

theorem through_taken (branch : fields.opcode.isBranch = true)
    (taken : Arch.taken shifts fields regs = true) (bound : fields.immediate.toNat ≤ 32767)
    (rest : RunsThrough shifts good goal fields.immediate.address
      (Function.update regs 7#3 (Word.ofAddress pc)) mem) :
    RunsThrough shifts good goal pc regs mem := by
  obtain ⟨basic, notHlt, notStore, -, -⟩ := Opcode.kind_of_isBranch branch
  refine through_of_execute fetched below isGood basic notHlt (fun _ => bound)
    (absurd · notStore) ?_
  simpa [Arch.execute_branch branch, taken] using rest

theorem through_notTaken (branch : fields.opcode.isBranch = true)
    (notTaken : Arch.taken shifts fields regs = false)
    (rest : RunsThrough shifts good goal (pc + 1#16) regs mem) :
    RunsThrough shifts good goal pc regs mem := by
  obtain ⟨basic, notHlt, notStore, -, -⟩ := Opcode.kind_of_isBranch branch
  refine through_of_execute fetched below isGood basic notHlt (by simp [notTaken])
    (absurd · notStore) ?_
  simpa [Arch.execute_branch branch, notTaken, address_succ below] using rest

theorem through_hlt (hlt : fields.opcode = .hlt)
    (rest : ∀ count, goal (ended pc regs mem count)) :
    RunsThrough shifts good goal pc regs mem := by
  intro low count
  have step := next_running fetched below low (by simp [hlt, Opcode.isBasic])
    (by simp [Arch.taken, hlt, Opcode.isBranch] : Arch.taken shifts fields regs = true → _)
    (by simp [hlt]) count
  refine ReachesThrough.step (isGood count) step (ReachesThrough.here ?_)
  simpa [Arch.execute, Arch.writeBack, Arch.taken, Opcode.isCompute, Opcode.isBranch, hlt,
    address_succ below, ended] using rest (count + 1#32)

end Through

theorem runs_compute (compute : fields.opcode.isCompute = true) (named : 1#3 < fields.dst)
    (rest : Runs shifts goal (pc + 1#16)
      (Function.update regs fields.dst
        (aluResult shifts fields.opcode (fields.operand0 regs) (fields.operand1 regs))) mem) :
    Runs shifts goal pc regs mem :=
  runs_iff_through.mpr (through_compute fetched below (fun _ => trivial) compute named
    (runs_iff_through.mp rest))

theorem runs_load (load : fields.opcode = .ld) (named : 1#3 < fields.dst)
    (rest : Runs shifts goal (pc + 1#16)
      (Function.update regs fields.dst (mem (fields.operand1 regs).address)) mem) :
    Runs shifts goal pc regs mem :=
  runs_iff_through.mpr (through_load fetched below (fun _ => trivial) load named
    (runs_iff_through.mp rest))

theorem runs_store (store : fields.opcode = .st)
    (inRange : (fields.operand1 regs).InRange)
    (rest : Runs shifts goal (pc + 1#16) regs
      (Function.update mem (fields.operand1 regs).address (fields.operand0 regs))) :
    Runs shifts goal pc regs mem :=
  runs_iff_through.mpr (through_store fetched below (fun _ => trivial) store inRange
    (runs_iff_through.mp rest))

section Branch

variable (branch : fields.opcode.isBranch = true)
include branch

theorem runs_taken (taken : Arch.taken shifts fields regs = true)
    (bound : fields.immediate.toNat ≤ 32767)
    (rest : Runs shifts goal fields.immediate.address
      (Function.update regs 7#3 (Word.ofAddress pc)) mem) :
    Runs shifts goal pc regs mem :=
  runs_iff_through.mpr (through_taken fetched below (fun _ => trivial) branch taken bound
    (runs_iff_through.mp rest))

theorem next_notTaken (low : regs.LowZero) (notTaken : Arch.taken shifts fields regs = false)
    (count : Word) :
    next shifts (running pc regs mem count) =
      some (running (pc + 1#16) regs mem (count + 1#32)) := by
  obtain ⟨basic, notHlt, notStore, -, -⟩ := Opcode.kind_of_isBranch branch
  rw [next_running fetched below low basic (by simp [notTaken]) (absurd · notStore) count]
  simp [Arch.execute_branch branch, notTaken, notHlt, address_succ below, running]

theorem runs_notTaken (notTaken : Arch.taken shifts fields regs = false)
    (rest : Runs shifts goal (pc + 1#16) regs mem) : Runs shifts goal pc regs mem :=
  runs_iff_through.mpr (through_notTaken fetched below (fun _ => trivial) branch notTaken
    (runs_iff_through.mp rest))

end Branch

theorem runs_hlt (hlt : fields.opcode = .hlt)
    (rest : ∀ count, goal (ended pc regs mem count)) : Runs shifts goal pc regs mem :=
  runs_iff_through.mpr (through_hlt fetched below (fun _ => trivial) hlt rest)

end Step

end SimpleProcessor.Iss
