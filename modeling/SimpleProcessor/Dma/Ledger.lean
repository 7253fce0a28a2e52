import SimpleProcessor.Dma.Clock

/-!
# Accepted requests and written words

`InFlight` describes the engine's registers in the middle of a transfer by the
request and the number of words written.  `Ledger` relates the requests accepted
so far to the words written so far: earlier requests are complete and in order,
and only the last one may be unfinished.
-/

namespace SimpleProcessor.Dma

namespace Request

/-- Number of words to copy; a length that is not positive copies nothing. -/
def count (request : Request) : Nat := request.len.toInt.toNat

/-- The addresses a request writes, in order. -/
def targets (request : Request) : List Address :=
  (List.range request.count).map fun i => request.dst.address + BitVec.ofNat 16 i

@[simp] theorem length_targets (request : Request) :
    request.targets.length = request.count := by
  simp [targets]

theorem targets_getElem? (request : Request) {i : Nat} (bound : i < request.count) :
    request.targets[i]? = some (request.dst.address + BitVec.ofNat 16 i) := by
  simp [targets, bound]

theorem take_targets_succ (request : Request) {i : Nat} (bound : i < request.count) :
    request.targets.take (i + 1) =
      request.targets.take i ++ [request.dst.address + BitVec.ofNat 16 i] := by
  rw [List.take_add_one, targets_getElem? request bound]
  rfl

end Request

theorem slt_zero_iff (len : Word) : (0#32).slt len = true ↔ 0 < len.toInt.toNat := by
  rw [BitVec.slt_eq_decide, decide_eq_true_eq, BitVec.toInt_zero]
  omega

theorem Request.targets_eq_nil_iff (request : Request) :
    request.targets = [] ↔ (0#32).slt request.len = false := by
  rw [← List.length_eq_zero_iff, request.length_targets, Request.count, ← Bool.not_eq_true,
    slt_zero_iff, Nat.not_lt, Nat.le_zero]

theorem toInt_toNat_eq {len : Word} (positive : 0 < len.toInt.toNat) :
    len.toInt.toNat = len.toNat := by
  rw [BitVec.toInt_eq_toNat_cond] at positive ⊢
  split at positive <;> omega

theorem address_add_ofNat (base : Word) (i : Nat) :
    (base + BitVec.ofNat 32 i).address = base.address + BitVec.ofNat 16 i := by
  apply BitVec.eq_of_toNat_eq
  simp only [Word.address, BitVec.toNat_setWidth, BitVec.toNat_add, BitVec.toNat_ofNat]
  omega

/-- The address an access writes, if it is a write. -/
def writeTarget : Option Access → Option Address
  | some (.write addr _) => some addr.address
  | _ => none

/-- The address that `dma_ctl` writes in a clock, read off its memory port. -/
def engineWrote (isDmaHazard : Bool) (regs : DmaRegisters) (sram : Memory) : Option Address :=
  match dmaCtl isDmaHazard ⟨regs, regs, sram.clearPort⟩ with
  | .ok unit => if unit.sram.write then some unit.sram.writeAddr.address else none
  | .error _ => none

@[simp] theorem engineWrote_eq (isDmaHazard : Bool) (regs : DmaRegisters) (sram : Memory) :
    engineWrote isDmaHazard regs sram = writeTarget (access isDmaHazard regs) := by
  rw [engineWrote, dmaCtl_eq]
  rcases access isDmaHazard regs with - | access
  · rfl
  · cases access <;> rfl

namespace DmaState

/-- Words read and not yet written, in each state. -/
def queued : DmaState → Nat
  | .idle | .readFirst => 0
  | .doRead | .writeLast | .stateDo => 1
  | .doWrite | .writeStalled => 2

end DmaState

/-- What each state of a transfer says about the remaining length. -/
def DmaRegisters.Shape (regs : DmaRegisters) (written : Nat) : Prop :=
  match regs.state with
  | .idle | .readFirst => written = 0
  | .doRead => 2 ≤ regs.len.toNat
  | .doWrite => 2 ≤ regs.len.toNat ∧ regs.doDirty = true
  | .writeStalled => 2 ≤ regs.len.toNat ∧ regs.doDirty = false
  | .writeLast => regs.len.toNat = 1
  | .stateDo => regs.len.toNat = 1 ∧ written = 0

/-- The registers of a transfer with the given number of words written. -/
structure InFlight (request : Request) (written : Nat) (regs : DmaRegisters) : Prop where
  busy : regs.busy = true
  src : regs.src = request.src + BitVec.ofNat 32 (written + regs.state.queued)
  dst : regs.dst = request.dst + BitVec.ofNat 32 written
  remaining : regs.len.toNat + written = request.count
  unfinished : 0 < regs.len.toNat
  shape : regs.Shape written

namespace InFlight

variable {request : Request} {written : Nat} {regs : DmaRegisters}

theorem written_lt (inFlight : InFlight request written regs) : written < request.count := by
  have := inFlight.remaining
  have := inFlight.unfinished
  omega

theorem count_eq (inFlight : InFlight request written regs) :
    request.count = request.len.toNat :=
  toInt_toNat_eq (Nat.lt_of_le_of_lt (Nat.zero_le _) inFlight.written_lt)

theorem requested (inFlight : InFlight request written regs) (idle : regs.state = .idle) :
    regs.requested = true := by
  have none : written = 0 := by simpa [DmaRegisters.Shape, idle] using inFlight.shape
  have same : regs.len.toNat = request.len.toNat := by
    rw [← inFlight.count_eq, ← inFlight.remaining, none, Nat.add_zero]
  have equal : regs.len = request.len := BitVec.eq_of_toNat_eq same
  rw [DmaRegisters.requested, inFlight.busy, Bool.true_and, equal, slt_zero_iff]
  exact Nat.lt_of_le_of_lt (Nat.zero_le _) inFlight.written_lt

theorem of_loaded (regs : DmaRegisters) (busy : regs.busy = true)
    (idle : regs.state = .idle) (positive : 0 < (Request.mk regs.src regs.dst regs.len).count) :
    InFlight ⟨regs.src, regs.dst, regs.len⟩ 0 regs := by
  have same := toInt_toNat_eq positive
  refine ⟨busy, ?_, ?_, ?_, ?_, ?_⟩
  · simp [idle, DmaState.queued]
  · simp
  · rw [Nat.add_zero]
    exact same.symm
  · rw [← same]
    exact positive
  · simp [DmaRegisters.Shape, idle]

theorem add_ofNat_one (base : Word) (i : Nat) :
    base + BitVec.ofNat 32 i + 1#32 = base + BitVec.ofNat 32 (i + 1) := by
  rw [BitVec.ofNat_add, BitVec.add_assoc]

theorem toNat_sub_one {len : Word} (positive : 0 < len.toNat) :
    (len - 1#32).toNat = len.toNat - 1 := by
  have bound := len.isLt
  rw [BitVec.toNat_sub, BitVec.toNat_ofNat]
  omega

theorem eq_ofNat_iff (len : Word) (value : Nat) (bound : value < 2 ^ 32) :
    len = BitVec.ofNat 32 value ↔ len.toNat = value := by
  rw [← BitVec.toNat_inj, BitVec.toNat_ofNat, Nat.mod_eq_of_lt bound]

theorem next_quiet (inFlight : InFlight request written regs) {isDmaHazard : Bool}
    (dataout : Word) (quiet : writeTarget (access isDmaHazard regs) = none) :
    InFlight request written (nextRegs isDmaHazard regs dataout regs) := by
  have requested := inFlight.requested
  obtain ⟨busy, src, dst, remaining, unfinished, shape⟩ := inFlight
  obtain ⟨regsBusy, regsSrc, regsDst, len, reg, reg2, doDirty, state⟩ := regs
  simp only at busy src dst remaining unfinished
  have one := eq_ofNat_iff len 1 (by omega)
  cases state with
  | idle =>
      simp only [nextRegs, requested rfl, if_true]
      exact ⟨busy, src, dst, remaining, unfinished, shape⟩
  | readFirst =>
      cases isDmaHazard with
      | true => exact ⟨busy, src, dst, remaining, unfinished, shape⟩
      | false =>
          subst src
          by_cases single : len = 1#32
          · refine ⟨busy, ?_, dst, remaining, unfinished, ?_⟩
            · simp [nextRegs, single, add_ofNat_one, DmaState.queued]
            · simpa [nextRegs, single, DmaRegisters.Shape] using shape
          · have long : 2 ≤ len.toNat := by
              rw [one] at single
              omega
            refine ⟨busy, ?_, dst, remaining, unfinished, ?_⟩
            · simp [nextRegs, single, add_ofNat_one, DmaState.queued]
            · simpa [nextRegs, single, DmaRegisters.Shape] using long
  | doRead =>
      cases isDmaHazard with
      | true => exact ⟨busy, src, dst, remaining, unfinished, shape⟩
      | false =>
          subst src
          refine ⟨busy, ?_, dst, remaining, unfinished, ?_⟩
          · simp [nextRegs, add_ofNat_one, DmaState.queued, Nat.add_assoc]
          · exact ⟨shape, rfl⟩
  | doWrite =>
      cases isDmaHazard with
      | true => exact ⟨busy, src, dst, remaining, unfinished, shape.1, rfl⟩
      | false => simp [access, writeTarget] at quiet
  | writeStalled | writeLast =>
      cases isDmaHazard with
      | true => exact ⟨busy, src, dst, remaining, unfinished, shape⟩
      | false => simp [access, writeTarget] at quiet
  | stateDo =>
      exact ⟨busy, src, dst, remaining, unfinished, shape.1⟩

/-- A write goes to the next target of the request; the last one ends the
transfer. -/
theorem next_write (inFlight : InFlight request written regs) {isDmaHazard : Bool}
    (dataout : Word) {target : Address}
    (write : writeTarget (access isDmaHazard regs) = some target) :
    target = request.dst.address + BitVec.ofNat 16 written ∧
    (InFlight request (written + 1) (nextRegs isDmaHazard regs dataout regs) ∨
      (written + 1 = request.count ∧
        (nextRegs isDmaHazard regs dataout regs).busy = false ∧
        (nextRegs isDmaHazard regs dataout regs).state = .idle)) := by
  obtain ⟨busy, src, dst, remaining, unfinished, shape⟩ := inFlight
  obtain ⟨regsBusy, regsSrc, regsDst, len, reg, reg2, doDirty, state⟩ := regs
  simp only at busy src dst remaining unfinished
  cases isDmaHazard with
  | true => simp [writeTarget] at write
  | false =>
      have two := eq_ofNat_iff len 2 (by omega)
      have fewer := toNat_sub_one unfinished
      cases state with
      | idle | readFirst | doRead | stateDo => simp [access, writeTarget] at write
      | doWrite | writeStalled =>
          have long : 2 ≤ len.toNat := shape.1
          subst dst
          have goal : target = request.dst.address + BitVec.ofNat 16 written := by
            rw [← address_add_ofNat]
            simpa [access, writeTarget] using write.symm
          refine ⟨goal, Or.inl ?_⟩
          by_cases last : len = 2#32
          · refine ⟨busy, ?_, ?_, ?_, ?_, ?_⟩
            · simp [nextRegs, last, src, DmaState.queued, Nat.add_assoc]
            · simp [nextRegs, add_ofNat_one]
            · simp only [nextRegs, fewer]
              omega
            · simp only [nextRegs, fewer]
              omega
            · rw [two] at last
              simp only [nextRegs, DmaRegisters.Shape, two, last, if_true, fewer]
          · refine ⟨busy, ?_, ?_, ?_, ?_, ?_⟩
            · simp [nextRegs, last, src, DmaState.queued, Nat.add_assoc]
            · simp [nextRegs, add_ofNat_one]
            · simp only [nextRegs, fewer]
              omega
            · simp only [nextRegs, fewer]
              omega
            · rw [two] at last
              simp only [nextRegs, DmaRegisters.Shape, two, last, if_false, fewer]
              omega
      | writeLast =>
          subst dst
          have goal : target = request.dst.address + BitVec.ofNat 16 written := by
            rw [← address_add_ofNat]
            simpa [access, writeTarget] using write.symm
          have single : len.toNat = 1 := shape
          exact ⟨goal, Or.inr ⟨by omega, rfl, rfl⟩⟩

end InFlight

/-! ## The ledger -/

/-- The request that a clock has started: `dma_busy` rises. -/
def started (regs regs' : DmaRegisters) : Option Request :=
  if !regs.busy && regs'.busy then some ⟨regs'.src, regs'.dst, regs'.len⟩ else none

theorem started_next {regs : DmaRegisters} (idle : regs.busy = false → regs.state = .idle)
    (cpu : CpuClock) (dataout : Word) :
    started regs (nextRegs cpu.hazard regs dataout (cpu.load regs)) = cpu.accepted regs := by
  cases busy : regs.busy with
  | true => simp [started, busy]
  | false =>
      have still : ∀ loaded, nextRegs cpu.hazard regs dataout loaded = loaded := by
        simp [nextRegs, idle busy, DmaRegisters.requested, busy]
      rw [still]
      cases offered : cpu.request <;>
        simp [started, CpuClock.load, CpuClock.accepted, busy, offered]

/-- All words that a sequence of requests writes, in order. -/
def allTargets (requests : List Request) : List Address :=
  requests.flatMap Request.targets

@[simp] theorem allTargets_append (left right : List Request) :
    allTargets (left ++ right) = allTargets left ++ allTargets right := by
  simp [allTargets]

@[simp] theorem allTargets_singleton (request : Request) :
    allTargets [request] = request.targets := by
  simp [allTargets]

section Refused

variable {σ : Type u} (refuses : σ → Bool) (offered : σ → Option Request)

theorem length_allTargets_le (visited : List σ) :
    (allTargets (visited.filterMap fun state =>
        if refuses state then none else offered state)).length ≤
      (allTargets (visited.filterMap offered)).length := by
  induction visited with
  | nil => simp
  | cons first rest ih =>
      cases request : offered first with
      | none => simpa [request] using ih
      | some made =>
          cases refused : refuses first with
          | false => simpa [request, refused, allTargets] using ih
          | true =>
              simp only [allTargets, List.filterMap_cons, request, refused, if_true,
                List.flatMap_cons, List.length_append] at ih ⊢
              omega

/-- The words stay the same when only empty requests are refused. -/
theorem allTargets_eq_iff (visited : List σ) :
    allTargets (visited.filterMap fun state => if refuses state then none else offered state) =
        allTargets (visited.filterMap offered) ↔
      ∀ state ∈ visited, refuses state = true → ∀ request ∈ offered state,
        request.targets = [] := by
  induction visited with
  | nil => simp
  | cons first rest ih =>
      rw [List.forall_mem_cons, ← ih]
      cases request : offered first with
      | none => simp [request]
      | some made =>
          cases refused : refuses first with
          | false => simp [request, refused, allTargets]
          | true =>
              simp only [List.filterMap_cons, request, refused, if_true, Option.mem_def,
                Option.some.injEq, forall_eq', forall_const]
              rw [← List.singleton_append, allTargets_append, allTargets_singleton]
              constructor
              · intro same
                -- the refused words would make the second list longer
                have shorter := length_allTargets_le refuses offered rest
                have lengths := congrArg List.length same
                rw [List.length_append] at lengths
                have empty : made.targets = [] := by
                  rw [← List.length_eq_zero_iff]
                  omega
                exact ⟨empty, by simpa [empty] using same⟩
              · rintro ⟨empty, same⟩
                rw [same, empty, List.nil_append]

end Refused

/-- The requests accepted and the words written so far, against the registers:
the engine is at rest, or its last request is under way, or its last request is
empty and was never started. -/
inductive Ledger : List Request → List Address → DmaRegisters → Prop where
  | rest {accepted : List Request} {regs : DmaRegisters}
      (free : regs.busy = false) (idle : regs.state = .idle) :
      Ledger accepted (allTargets accepted) regs
  | active {done : List Request} {request : Request} {written : Nat}
      {regs : DmaRegisters} (inFlight : InFlight request written regs) :
      Ledger (done ++ [request])
        (allTargets done ++ request.targets.take written) regs
  | empty {done : List Request} {request : Request} {regs : DmaRegisters}
      (busy : regs.busy = true) (idle : regs.state = .idle)
      (len : regs.len = request.len) (nothing : request.count = 0) :
      Ledger (done ++ [request]) (allTargets done) regs

namespace Ledger

variable {accepted : List Request} {writes : List Address} {regs : DmaRegisters}

/-- A free engine has written every word of every accepted request. -/
theorem free (ledger : Ledger accepted writes regs) (free : regs.busy = false) :
    regs.state = .idle ∧ writes = allTargets accepted := by
  cases ledger with
  | rest _ idle => exact ⟨idle, rfl⟩
  | active inFlight => simp [inFlight.busy] at free
  | empty busy => simp [busy] at free

theorem writes_begin (ledger : Ledger accepted writes regs) :
    writes <+: allTargets accepted := by
  cases ledger with
  | rest => exact List.prefix_rfl
  | active =>
      rw [allTargets_append, allTargets_singleton]
      exact (List.prefix_append_right_inj _).mpr (List.take_prefix _ _)
  | empty =>
      rw [allTargets_append]
      exact List.prefix_append _ _

theorem unfinished_iff (ledger : Ledger accepted writes regs) :
    writes ≠ allTargets accepted ↔ regs.busy = true ∧ (0#32).slt regs.len = true := by
  cases ledger with
  | rest free idle => simp [free]
  | @active done request written regs inFlight =>
      have short := inFlight.written_lt
      have positive : (0#32).slt regs.len = true := by
        rw [slt_zero_iff]
        have whole := inFlight.count_eq
        have signed : request.count < 2 ^ 31 := by
          have := request.len.toInt_lt
          simp only [Request.count]
          omega
        have remaining := inFlight.remaining
        have unfinished := inFlight.unfinished
        rw [BitVec.toInt_eq_toNat_cond]
        split <;> omega
      simp only [inFlight.busy, positive, and_self, iff_true, allTargets_append,
        allTargets_singleton]
      intro same
      have lengths := congrArg List.length same
      simp only [List.length_append, List.length_take, Request.length_targets] at lengths
      omega
  | @empty done request regs busy idle len nothing =>
      have none : (0#32).slt regs.len = false := by
        rw [← Bool.not_eq_true, slt_zero_iff, len]
        exact Nat.not_lt_of_le (Nat.le_of_eq nothing)
      simp [none, Request.targets, nothing]

/-- What one clock adds to the ledger. -/
theorem next (ledger : Ledger accepted writes regs) (cpu : CpuClock) (dataout : Word) :
    Ledger (accepted ++ (cpu.accepted regs).toList)
      (writes ++ (writeTarget (access cpu.hazard regs)).toList)
      (nextRegs cpu.hazard regs dataout (cpu.load regs)) := by
  cases ledger with
  | rest free idle =>
      have quiet : access cpu.hazard regs = none := by simp [access, idle]
      have still : ∀ loaded, nextRegs cpu.hazard regs dataout loaded = loaded := by
        simp [nextRegs, idle, DmaRegisters.requested, free]
      rw [quiet, still]
      cases offered : cpu.request with
      | none =>
          simp only [CpuClock.load, CpuClock.accepted, free, offered, Bool.false_eq_true,
            if_false, Option.toList_none, List.append_nil, writeTarget]
          exact .rest free idle
      | some request =>
          have load : cpu.load regs = { regs with
              busy := true, src := request.src, dst := request.dst, len := request.len } := by
            simp [CpuClock.load, CpuClock.accepted, free, offered]
          have accepts : cpu.accepted regs = some request := by
            simp [CpuClock.accepted, free, offered]
          rw [load, accepts]
          simp only [Option.toList_some, writeTarget, Option.toList_none, List.append_nil]
          by_cases positive : 0 < request.count
          · have inFlight := InFlight.of_loaded { regs with
              busy := true, src := request.src, dst := request.dst, len := request.len }
              rfl idle positive
            have started : Ledger (accepted ++ [request])
                (allTargets accepted ++ request.targets.take 0) _ := .active inFlight
            simpa using started
          · exact .empty rfl idle rfl (Nat.eq_zero_of_not_pos positive)
  | @active done request written regs inFlight =>
      rw [CpuClock.accepted_of_busy cpu inFlight.busy, CpuClock.load_of_busy cpu inFlight.busy]
      simp only [Option.toList_none, List.append_nil]
      cases write : writeTarget (access cpu.hazard regs) with
      | none =>
          simp only [Option.toList_none, List.append_nil]
          exact .active (inFlight.next_quiet dataout write)
      | some target =>
          obtain ⟨rfl, outcome⟩ := inFlight.next_write dataout write
          simp only [Option.toList_some, List.append_assoc,
            ← request.take_targets_succ inFlight.written_lt]
          rcases outcome with continues | ⟨last, free, idle⟩
          · exact .active continues
          · have whole : request.targets.take (written + 1) = request.targets := by
              rw [last, ← request.length_targets, List.take_length]
            rw [whole, ← allTargets_singleton, ← allTargets_append]
            exact .rest free idle
  | @empty done request regs busy idle len nothing =>
      have waits : regs.requested = false := by
        rw [DmaRegisters.requested, busy, Bool.true_and, ← Bool.not_eq_true, slt_zero_iff, len]
        exact Nat.not_lt_of_le (Nat.le_of_eq nothing)
      rw [CpuClock.accepted_of_busy cpu busy, CpuClock.load_of_busy cpu busy]
      simp only [access, idle, nextRegs, waits, writeTarget, ite_self, Bool.false_eq_true,
        if_false, Option.toList_none, List.append_nil]
      exact .empty busy idle len nothing

end Ledger

end SimpleProcessor.Dma
