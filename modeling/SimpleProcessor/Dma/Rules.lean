import SimpleProcessor.Dma.Atomic

/-!
# Reasoning about a program with a transfer

`Runs shifts request goal pc regs mem` says that a program, about to execute the word
at `pc`, gets to its goal while the request may still be under way.  Each rule reduces
it to the same statement behind one instruction, so that a proof about a program
follows its listing.
-/

namespace SimpleProcessor.Atomic

open Dma (Request)

/-- The program gets to its goal from `pc` on, whatever is left of the given request and
whatever its DMP and DMA instructions find. -/
def Runs (shifts : Shifts) (request : Request) (goal : State → Prop) (pc : Word)
    (regs : RegFile) (mem : Image) : Prop :=
  ∀ pending : Option Pending, (∀ one ∈ pending, one.request = request) →
    Choice.Inevitable (Step shifts) State.Defined goal ⟨⟨pc, regs, mem⟩, pending, false⟩

/-- The instruction at `pc`, which the request does not write. -/
structure Fetches (request : Request) (mem : Image) (pc : Word) (fields : Fields) : Prop where
  fetched : Fields.ofWord (mem pc.address) = fields
  notIdle : mem pc.address ≠ 24#32
  inRange : pc.InRange
  outside : ¬ request.Writes pc.address

section Rules

variable {shifts : Shifts} {request : Request} {goal : State → Prop} {pc : Word}
variable {regs : RegFile} {mem : Image} {fields : Fields}

theorem request_next {pending : Option Pending} (same : ∀ one ∈ pending, one.request = request) :
    ∀ one ∈ pending.bind Pending.next, one.request = request := by
  intro one member
  obtain ⟨before, some, next⟩ := Option.bind_eq_some_iff.mp member
  rw [← same before some]
  rw [Pending.next] at next
  split at next
  · cases next
  · cases next
    rfl

theorem Fetches.defined (fetches : Fetches request mem pc fields) {pending : Option Pending}
    (same : ∀ one ∈ pending, one.request = request)
    (known : fields.opcode.isBasic = true ∨ fields.opcode = .dma ∨ fields.opcode = .dmp ∨
      fields.opcode = .jin)
    (load : fields.opcode = .ld → ¬ request.Writes (fields.operand1 regs).address)
    (store : fields.opcode = .st → (fields.operand1 regs).InRange ∧
      ¬ request.Writes (fields.operand1 regs).address ∧
      ¬ request.Reads (fields.operand1 regs).address)
    (proper : fields.opcode = .dma →
      (Request.mk (fields.operand0 regs) (regs fields.dst) (fields.operand1 regs)).Proper) :
    State.Defined ⟨⟨pc, regs, mem⟩, pending, false⟩ := by
  obtain ⟨rfl, notIdle, inRange, outside⟩ := fetches
  exact {
    running := rfl
    inRange := inRange
    fetch := fun one member => by rw [same one member]; exact outside
    notIdle := notIdle
    known := known
    load := fun opcode one member => by rw [same one member]; exact load opcode
    store := fun opcode => ⟨(store opcode).1, fun one member => by
      rw [same one member]
      exact (store opcode).2⟩
    request := proper }

theorem runs_execute (fetches : Fetches request mem pc fields)
    (basic : fields.opcode.isBasic = true) (notHlt : fields.opcode ≠ .hlt)
    (load : fields.opcode = .ld → ¬ request.Writes (fields.operand1 regs).address)
    (store : fields.opcode = .st → (fields.operand1 regs).InRange ∧
      ¬ request.Writes (fields.operand1 regs).address ∧
      ¬ request.Reads (fields.operand1 regs).address)
    (rest : let arch := Arch.execute shifts fields ⟨pc, regs, mem⟩
      Runs shifts request goal arch.pc arch.regs arch.mem) :
    Runs shifts request goal pc regs mem := by
  intro pending same
  have notDma : fields.opcode ≠ .dma := by
    intro dma
    simp [dma, Opcode.isBasic] at basic
  refine .step (fetches.defined same (Or.inl basic) load store (absurd · notDma)) ?_
  obtain ⟨rfl, -, -, -⟩ := fetches
  intro spec' step
  cases step with
  | execute => exact rest _ (request_next same)
  | halt hlt => exact absurd hlt notHlt
  | jin opcode | start opcode _ | wait opcode _ | branch opcode | poll opcode _ =>
      simp only [State.fields, State.word] at opcode
      simp [opcode, Opcode.isBasic] at basic

theorem runs_compute (fetches : Fetches request mem pc fields)
    (compute : fields.opcode.isCompute = true) (named : 1#3 < fields.dst)
    (rest : Runs shifts request goal (pc + 1#32)
      (Function.update regs fields.dst
        (aluResult shifts fields.opcode (fields.operand0 regs) (fields.operand1 regs))) mem) :
    Runs shifts request goal pc regs mem := by
  obtain ⟨basic, notHlt, notStore, -⟩ := Opcode.kind_of_isCompute compute
  have notLoad : fields.opcode ≠ .ld := by
    intro load
    simp [load, Opcode.isCompute] at compute
  refine runs_execute fetches basic notHlt (absurd · notLoad) (absurd · notStore) ?_
  rw [Arch.execute_compute compute named]
  exact rest

theorem runs_load (fetches : Fetches request mem pc fields) (load : fields.opcode = .ld)
    (named : 1#3 < fields.dst) (outside : ¬ request.Writes (fields.operand1 regs).address)
    (rest : Runs shifts request goal (pc + 1#32)
      (Function.update regs fields.dst (mem (fields.operand1 regs).address)) mem) :
    Runs shifts request goal pc regs mem := by
  refine runs_execute fetches (by simp [load, Opcode.isBasic]) (by simp [load])
    (fun _ => outside) (by simp [load]) ?_
  rw [Arch.execute_load load named]
  exact rest

theorem runs_store (fetches : Fetches request mem pc fields) (store : fields.opcode = .st)
    (inRange : (fields.operand1 regs).InRange)
    (notWritten : ¬ request.Writes (fields.operand1 regs).address)
    (notRead : ¬ request.Reads (fields.operand1 regs).address)
    (rest : Runs shifts request goal (pc + 1#32) regs
      (Function.update mem (fields.operand1 regs).address (fields.operand0 regs))) :
    Runs shifts request goal pc regs mem := by
  refine runs_execute fetches (by simp [store, Opcode.isBasic]) (by simp [store])
    (by simp [store]) (fun _ => ⟨inRange, notWritten, notRead⟩) ?_
  rw [Arch.execute_store store]
  exact rest

theorem runs_branch (fetches : Fetches request mem pc fields)
    (isBranch : fields.opcode.isBranch = true)
    (rest : Runs shifts request goal
      (if Arch.taken shifts fields regs then fields.immediate else pc + 1#32)
      (if Arch.taken shifts fields regs then Function.update regs 7#3 pc else regs) mem) :
    Runs shifts request goal pc regs mem := by
  obtain ⟨basic, notHlt, notStore, notLoad, -⟩ := Opcode.kind_of_isBranch isBranch
  refine runs_execute fetches basic notHlt (absurd · notLoad) (absurd · notStore) ?_
  rw [Arch.execute_branch isBranch]
  exact rest

theorem runs_start (fetches : Fetches request mem pc fields) (dma : fields.opcode = .dma)
    (operands : Request.mk (fields.operand0 regs) (regs fields.dst) (fields.operand1 regs) =
      request)
    (proper : request.Proper)
    (rest : Runs shifts request goal (pc + 1#32) regs (request.copied mem mem)) :
    Runs shifts request goal pc regs mem := by
  have known (pending : Option Pending) (same : ∀ one ∈ pending, one.request = request) :
      State.Defined ⟨⟨pc, regs, mem⟩, pending, false⟩ :=
    fetches.defined same (Or.inr (Or.inl dma)) (by simp [dma]) (by simp [dma])
      (fun _ => operands ▸ proper)
  obtain ⟨rfl, -, -, -⟩ := fetches
  have offers (pending : Option Pending) (same : ∀ one ∈ pending, one.request = request)
      (again : pending.isSome = true → Choice.Inevitable (Step shifts) State.Defined goal
        ⟨⟨pc, regs, mem⟩, pending.bind Pending.next, false⟩) :
      Choice.Inevitable (Step shifts) State.Defined goal ⟨⟨pc, regs, mem⟩, pending, false⟩ := by
    refine .step (known pending same) ?_
    intro spec' step
    cases step with
    | start _ made =>
        have copied : Runs shifts request goal (pc + 1#32) regs
            (State.request ⟨⟨pc, regs, mem⟩, pending, false⟩ |>.copied mem mem) := by
          rw [← operands] at rest ⊢
          exact rest
        refine copied _ ?_
        rintro one ⟨⟩
        exact operands
    | wait _ busy => exact again busy
    | execute basic _ =>
        simp only [State.fields, State.word] at basic
        simp [dma, Opcode.isBasic] at basic
    | halt opcode | jin opcode | branch opcode | poll opcode _ =>
        simp only [State.fields, State.word] at opcode
        rw [opcode] at dma
        cases dma
  intro pending same
  cases pending with
  | none => exact offers none same (by simp)
  | some pending =>
      obtain ⟨active, isProper, left⟩ := pending
      -- on the instructions that may still find the earlier transfer under way
      induction left with
      | zero =>
          refine offers _ same fun _ => ?_
          exact offers none (by simp) (by simp)
      | succ left ih =>
          refine offers _ same fun _ => ih ?_
          rintro one ⟨⟩
          exact same ⟨active, isProper, left + 1⟩ rfl

theorem inevitable_hlt (fetches : Fetches request mem pc fields) (hlt : fields.opcode = .hlt)
    {pending : Option Pending} (same : ∀ one ∈ pending, one.request = request)
    (rest : goal ⟨⟨pc, regs, mem⟩, pending.bind Pending.next, true⟩) :
    Choice.Inevitable (Step shifts) State.Defined goal ⟨⟨pc, regs, mem⟩, pending, false⟩ := by
  refine .step (fetches.defined same (Or.inl (by simp [hlt, Opcode.isBasic])) (by simp [hlt])
    (by simp [hlt]) (by simp [hlt])) ?_
  obtain ⟨rfl, -, -, -⟩ := fetches
  intro spec' step
  cases step with
  | halt => exact .here rest
  | execute _ notHlt => exact absurd hlt notHlt
  | jin opcode | start opcode _ | wait opcode _ | branch opcode | poll opcode _ =>
      simp only [State.fields, State.word] at opcode
      rw [opcode] at hlt
      cases hlt

theorem inevitable_jin (fetches : Fetches request mem pc fields) (jin : fields.opcode = .jin)
    {pending : Option Pending} (same : ∀ one ∈ pending, one.request = request)
    (rest : Choice.Inevitable (Step shifts) State.Defined goal
      ⟨⟨fields.immediate, Function.update regs 7#3 pc, mem⟩, pending.bind Pending.next,
        false⟩) :
    Choice.Inevitable (Step shifts) State.Defined goal ⟨⟨pc, regs, mem⟩, pending, false⟩ := by
  refine .step (fetches.defined same (Or.inr (Or.inr (Or.inr jin))) (by simp [jin])
    (by simp [jin]) (by simp [jin])) ?_
  obtain ⟨rfl, -, -, -⟩ := fetches
  intro spec' step
  cases step with
  | jin => exact rest
  | execute basic _ =>
      simp only [State.fields, State.word] at basic
      simp [jin, Opcode.isBasic] at basic
  | halt opcode | start opcode _ | wait opcode _ | branch opcode | poll opcode _ =>
      simp only [State.fields, State.word] at opcode
      rw [opcode] at jin
      cases jin

theorem inevitable_dmp (fetches : Fetches request mem pc fields) (dmp : fields.opcode = .dmp)
    {pending : Option Pending} (same : ∀ one ∈ pending, one.request = request)
    (jumps : Choice.Inevitable (Step shifts) State.Defined goal
      ⟨⟨fields.immediate, Function.update regs 7#3 pc, mem⟩, none, false⟩)
    (goesOn : pending.isSome = true → Choice.Inevitable (Step shifts) State.Defined goal
      ⟨⟨pc + 1#32, regs, mem⟩, pending.bind Pending.next, false⟩) :
    Choice.Inevitable (Step shifts) State.Defined goal ⟨⟨pc, regs, mem⟩, pending, false⟩ := by
  refine .step (fetches.defined same (Or.inr (Or.inr (Or.inl dmp))) (by simp [dmp])
    (by simp [dmp]) (by simp [dmp])) ?_
  obtain ⟨rfl, -, -, -⟩ := fetches
  intro spec' step
  cases step with
  | branch => exact jumps
  | poll _ busy => exact goesOn busy
  | execute basic _ =>
      simp only [State.fields, State.word] at basic
      simp [dmp, Opcode.isBasic] at basic
  | halt opcode | jin opcode | start opcode _ | wait opcode _ =>
      simp only [State.fields, State.word] at opcode
      rw [opcode] at dmp
      cases dmp

/-- The number of instructions that may still find a transfer under way. -/
def remaining (pending : Option Pending) : Nat := pending.elim 0 fun one => one.left + 1

theorem remaining_next (pending : Option Pending) :
    remaining (pending.bind Pending.next) = remaining pending - 1 := by
  cases pending with
  | none => rfl
  | some pending =>
      obtain ⟨request, proper, left⟩ := pending
      cases left <;> rfl

/-- A DMP and a jump back to it wait for the end of the transfer. -/
theorem runs_polling {pc' : Word} {jump : Fields} (polls : Fetches request mem pc fields)
    (dmp : fields.opcode = .dmp) (again : Fetches request mem (pc + 1#32) jump)
    (jin : jump.opcode = .jin) (back : jump.immediate = pc) (done : fields.immediate = pc')
    (rest : Choice.Inevitable (Step shifts) State.Defined goal
      ⟨⟨pc', Function.update regs 7#3 pc, mem⟩, none, false⟩) :
    Runs shifts request goal pc regs mem := by
  subst done
  intro pending same
  -- on the instructions that may find the transfer under way; a round is two of them
  induction bound : remaining pending using Nat.strongRecOn generalizing pending regs with
  | ind size ih =>
      refine inevitable_dmp polls dmp same rest fun busy => ?_
      have some : 0 < remaining pending := by
        obtain ⟨one, rfl⟩ := Option.isSome_iff_exists.mp busy
        exact Nat.succ_pos _
      refine inevitable_jin again jin (request_next same) ?_
      rw [back]
      refine ih (remaining ((pending.bind Pending.next).bind Pending.next)) ?_ ?_ _
        (request_next (request_next same)) rfl
      · rw [remaining_next, remaining_next]
        omega
      · rw [Function.update_idem]
        exact rest

end Rules

end SimpleProcessor.Atomic
