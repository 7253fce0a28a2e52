import SimpleProcessor.Dma.Copying
import SimpleProcessor.Isa.Semantics
import SimpleProcessor.Lib.Choice

/-!
# Transfers that happen at once

What a program may rely on when it keeps away from the words of a transfer: the
DMA instruction has copied its whole range, and a DMP that jumps says that the
engine is done with it.  How long the engine takes is left open, up to a bound, and
so is whether a DMP jumps in the meantime.
-/

namespace SimpleProcessor

namespace Dma.Request

variable (request : Request)

/-- The request writes the word. -/
def Writes (addr : Address) : Prop := (addr - request.dst.address).toNat < request.count

/-- The request reads the word. -/
def Reads (addr : Address) : Prop := (addr - request.src.address).toNat < request.count

instance (addr : Address) : Decidable (request.Writes addr) :=
  inferInstanceAs (Decidable (_ < _))

instance (addr : Address) : Decidable (request.Reads addr) :=
  inferInstanceAs (Decidable (_ < _))

/-- The request can be carried out as one copy: it has words, and its destination starts at
its source, one word behind it, or outside it. -/
structure Proper : Prop where
  positive : 0 < request.count
  bounded : request.count ≤ 65536
  distance : (request.dst.address - request.src.address).toNat = 0 ∨
    (request.dst.address - request.src.address).toNat = 1 ∨
    request.count ≤ (request.dst.address - request.src.address).toNat

instance : Decidable request.Proper :=
  decidable_of_iff
    (0 < request.count ∧ request.count ≤ 65536 ∧
      ((request.dst.address - request.src.address).toNat = 0 ∨
        (request.dst.address - request.src.address).toNat = 1 ∨
        request.count ≤ (request.dst.address - request.src.address).toNat))
    ⟨fun ⟨positive, bounded, distance⟩ => ⟨positive, bounded, distance⟩,
      fun ⟨positive, bounded, distance⟩ => ⟨positive, bounded, distance⟩⟩

/-- The words of `others`, with the copy that the request makes of the words of `original`. -/
def copied (original others : Image) : Image := fun addr =>
  if request.Writes addr then original (request.src.address + (addr - request.dst.address))
  else others addr

variable {request}

private theorem ofNat_offset (base addr : Address) :
    BitVec.ofNat 16 (addr - base).toNat = addr - base := by
  rw [BitVec.ofNat_toNat, BitVec.setWidth_eq]

private theorem base_add_offset (base addr : Address) :
    base + BitVec.ofNat 16 (addr - base).toNat = addr := by
  rw [ofNat_offset]
  grind

theorem exists_target {addr : Address} (writes : request.Writes addr) :
    ∃ i < request.count, addr = request.target i ∧
      request.src.address + (addr - request.dst.address) = request.source i := by
  refine ⟨(addr - request.dst.address).toNat, writes, ?_, ?_⟩
  · exact (base_add_offset request.dst.address addr).symm
  · rw [source, ofNat_offset]

private theorem offset_lt {base : Address} {i count : Nat} (bound : i < count) :
    (base + BitVec.ofNat 16 i - base).toNat < count := by
  rw [BitVec.add_comm, BitVec.add_sub_cancel, BitVec.toNat_ofNat]
  exact Nat.lt_of_le_of_lt (Nat.mod_le _ _) bound

theorem writes_target {i : Nat} (bound : i < request.count) :
    request.Writes (request.target i) := offset_lt bound

theorem reads_source {i : Nat} (bound : i < request.count) :
    request.Reads (request.source i) := offset_lt bound

theorem copied_of_not_writes {original others : Image} {addr : Address}
    (outside : ¬ request.Writes addr) : request.copied original others addr = others addr :=
  if_neg outside

theorem copied_update {original others : Image} {addr : Address} (value : Word)
    (outside : ¬ request.Writes addr) :
    Function.update (request.copied original others) addr value =
      request.copied original (Function.update others addr value) := by
  funext other
  by_cases writes : request.Writes other
  · have different : other ≠ addr := by
      rintro rfl
      exact outside writes
    rw [Function.update_of_ne different, copied, copied, if_pos writes, if_pos writes]
  · rw [copied_of_not_writes writes]
    by_cases same : other = addr
    · subst same
      rw [Function.update_self, Function.update_self]
    · rw [Function.update_of_ne same, Function.update_of_ne same, copied_of_not_writes writes]

theorem copied_of_correct {original others : Image} {copy : ReadAhead.Copy Address Word}
    (correct : request.Copied original others copy) (finished : copy.written = request.count) :
    copy.mem = request.copied original others := by
  funext addr
  by_cases writes : request.Writes addr
  · obtain ⟨i, bound, target, source⟩ := exists_target writes
    rw [copied, if_pos writes, source, target]
    exact correct.copied i (finished ▸ bound)
  · rw [copied_of_not_writes writes]
    apply correct.frame
    rintro i bound rfl
    exact writes (writes_target (finished ▸ bound))

theorem copied_outside {original others : Image} {copy : ReadAhead.Copy Address Word}
    (correct : request.Copied original others copy) {addr : Address}
    (outside : ¬ request.Writes addr) :
    copy.mem addr = request.copied original others addr := by
  rw [copied_of_not_writes outside]
  apply correct.frame
  rintro i bound rfl
  have bounded := correct.bounded
  simp only [ReadAhead.Copy.fetched] at bounded
  exact outside (writes_target (by omega))

theorem Proper.ranges (proper : request.Proper) :
    ReadAhead.Ranges request.source request.target request.count :=
  ranges_of_distance proper.bounded proper.distance

end Dma.Request

namespace Atomic

open Dma (Request)

/-- A transfer that may still be under way, and how many of the instructions behind the next
one may find it so. -/
structure Pending where
  request : Request
  proper : request.Proper
  left : Nat

/-- One instruction later. -/
def Pending.next (pending : Pending) : Option Pending :=
  match pending.left with
  | 0 => none
  | left + 1 => some { pending with left }

/-- The processor as its programs may see it. -/
structure State extends Arch where
  pending : Option Pending
  halted : Bool

/-- The start of a program. -/
def init (image : Image) : State where
  pc := 0#32
  regs := fun _ => 0#32
  mem := image
  pending := none
  halted := false

namespace State

variable (state : State)

/-- The word about to be executed. -/
def word : Word := state.mem state.pc.address

/-- Its fields. -/
def fields : Fields := Fields.ofWord state.word

/-- The operands of a DMA instruction. -/
def request : Request where
  src := state.fields.operand0 state.regs
  dst := state.regs state.fields.dst
  len := state.fields.operand1 state.regs

/-- No transfer that may be under way writes the word. -/
def Readable (addr : Address) : Prop :=
  ∀ pending ∈ state.pending, ¬ pending.request.Writes addr

/-- No transfer that may be under way reads or writes the word. -/
def Writable (addr : Address) : Prop :=
  ∀ pending ∈ state.pending, ¬ pending.request.Writes addr ∧ ¬ pending.request.Reads addr

instance (addr : Address) : Decidable (state.Readable addr) :=
  inferInstanceAs (Decidable (∀ _ ∈ _, _))

instance (addr : Address) : Decidable (state.Writable addr) :=
  inferInstanceAs (Decidable (∀ _ ∈ _, _))

/-- The pending transfer after one more instruction. -/
def pendingNext : Option Pending := state.pending.bind Pending.next

/-- The jumps that do not compare go to their immediate. -/
def jump (pending : Option Pending) : State where
  pc := state.fields.immediate
  regs := Function.update state.regs 7#3 state.pc
  mem := state.mem
  pending
  halted := false

/-- The program keeps to the rules: the next instruction is an ordinary one and touches no
word of a transfer that may be under way. -/
structure Defined : Prop where
  running : state.halted = false
  inRange : state.pc.InRange
  fetch : state.Readable state.pc.address
  notIdle : state.word ≠ 24#32
  known : state.fields.opcode.isBasic = true ∨ state.fields.opcode = .dma ∨
    state.fields.opcode = .dmp ∨ state.fields.opcode = .jin
  load : state.fields.opcode = .ld →
    state.Readable (state.fields.operand1 state.regs).address
  store : state.fields.opcode = .st →
    (state.fields.operand1 state.regs).InRange ∧
      state.Writable (state.fields.operand1 state.regs).address
  request : state.fields.opcode = .dma → state.request.Proper

instance : Decidable state.Defined :=
  decidable_of_iff
    (state.halted = false ∧ state.pc.InRange ∧ state.Readable state.pc.address ∧
      state.word ≠ 24#32 ∧
      (state.fields.opcode.isBasic = true ∨ state.fields.opcode = .dma ∨
        state.fields.opcode = .dmp ∨ state.fields.opcode = .jin) ∧
      (state.fields.opcode = .ld → state.Readable (state.fields.operand1 state.regs).address) ∧
      (state.fields.opcode = .st → (state.fields.operand1 state.regs).InRange ∧
        state.Writable (state.fields.operand1 state.regs).address) ∧
      (state.fields.opcode = .dma → state.request.Proper))
    ⟨fun ⟨running, inRange, fetch, notIdle, known, load, store, request⟩ =>
        ⟨running, inRange, fetch, notIdle, known, load, store, request⟩,
      fun ⟨running, inRange, fetch, notIdle, known, load, store, request⟩ =>
        ⟨running, inRange, fetch, notIdle, known, load, store, request⟩⟩

end State

/-- One instruction.  A DMA instruction copies its range, or it waits for the transfer before
it; a DMP jumps, and then nothing is pending, or it goes on. -/
inductive Step (shifts : Shifts) (state : State) : State → Prop where
  | execute (basic : state.fields.opcode.isBasic = true)
      (notHlt : state.fields.opcode ≠ .hlt) :
      Step shifts state
        { state.toArch.execute shifts state.fields with
          pending := state.pendingNext, halted := false }
  | halt (hlt : state.fields.opcode = .hlt) :
      Step shifts state { state with pending := state.pendingNext, halted := true }
  | jin (jin : state.fields.opcode = .jin) : Step shifts state (state.jump state.pendingNext)
  | start (dma : state.fields.opcode = .dma) (proper : state.request.Proper) :
      Step shifts state
        { pc := state.pc + 1#32
          regs := state.regs
          mem := state.request.copied state.mem state.mem
          pending := some ⟨state.request, proper, state.request.count⟩
          halted := false }
  | wait (dma : state.fields.opcode = .dma) (busy : state.pending.isSome = true) :
      Step shifts state { state with pending := state.pendingNext }
  | branch (dmp : state.fields.opcode = .dmp) : Step shifts state (state.jump none)
  | poll (dmp : state.fields.opcode = .dmp) (busy : state.pending.isSome = true) :
      Step shifts state
        { state with pc := state.pc + 1#32, pending := state.pendingNext }

/-- The steps from a state. -/
def State.offers (shifts : Shifts) (state : State) : List State :=
  match state.fields.opcode with
  | .hlt => [{ state with pending := state.pendingNext, halted := true }]
  | .jin => [state.jump state.pendingNext]
  | .dma =>
      (if proper : state.request.Proper then
        [{ pc := state.pc + 1#32
           regs := state.regs
           mem := state.request.copied state.mem state.mem
           pending := some ⟨state.request, proper, state.request.count⟩
           halted := false }]
      else []) ++
        if state.pending.isSome then [{ state with pending := state.pendingNext }] else []
  | .dmp =>
      state.jump none ::
        if state.pending.isSome then
          [{ state with pc := state.pc + 1#32, pending := state.pendingNext }]
        else []
  | _ =>
      [{ state.toArch.execute shifts state.fields with
          pending := state.pendingNext, halted := false }]

theorem mem_offers {shifts : Shifts} (state state' : State) (step : Step shifts state state') :
    state' ∈ state.offers shifts := by
  cases step with
  | execute basic notHlt =>
      cases opcode : state.fields.opcode <;> simp_all [State.offers, Opcode.isBasic]
  | halt hlt => simp [State.offers, hlt]
  | jin jin => simp [State.offers, jin]
  | start dma proper => simp [State.offers, dma, proper]
  | wait dma busy => simp [State.offers, dma, busy]
  | branch dmp => simp [State.offers, dmp]
  | poll dmp busy => simp [State.offers, dmp, busy]

end Atomic

end SimpleProcessor
