import SimpleProcessor.Isa.Word

/-!
# The memory port of the low-level simulator

A simulated unit announces at most one read and one write per clock.  The
simulator serves them at the end of the clock; read data is valid for the
following clock only and is overwritten with `0xBAADBAAD` by an idle clock.
-/

namespace SimpleProcessor

/-- Why a clock of a simulation is not completed: a failed `llsim_assert`, or
an array access outside the array, which C leaves undefined. -/
inductive Fault where
  | multipleWrites
  | multipleReads
  | readOutOfRange
  | writeOutOfRange
  | simultaneousAccess
  | unsupportedBits
  | outOfBounds
  deriving DecidableEq, Repr

/-- A computation of the simulator that an assertion may abort. -/
abbrev Checked (α : Type) := Except Fault α

namespace Checked

variable {α β : Type}

@[simp] theorem ok_bind (value : α) (rest : α → Checked β) :
    ((Except.ok value : Checked α) >>= rest) = rest value := rfl

@[simp] theorem error_bind (fault : Fault) (rest : α → Checked β) :
    ((Except.error fault : Checked α) >>= rest) = .error fault := rfl

theorem bind_eq_ok {first : Checked α} {rest : α → Checked β} {result : β} :
    (first >>= rest) = .ok result ↔
      ∃ value, first = .ok value ∧ rest value = .ok result := by
  cases first with
  | error fault => simp
  | ok value => simp

theorem bind_eq_error {first : Checked α} {rest : α → Checked β} {fault : Fault} :
    (first >>= rest) = .error fault ↔
      first = .error fault ∨ ∃ value, first = .ok value ∧ rest value = .error fault := by
  cases first with
  | error other => simp
  | ok value => simp

theorem bind_ok_eq_map (first : Checked α) (image : α → β) :
    (first >>= fun value => .ok (image value)) = first.map image := by
  cases first <;> rfl

theorem toOption_eq_some {result : Checked α} {value : α} :
    result.toOption = some value ↔ result = .ok value := by
  cases result <;> simp [Except.toOption]

end Checked

/-- `bitmask0` -/
def bitmask0 (bits : Nat) : Word :=
  if bits = 32 then -1#32 else (1#32 <<< bits) - 1#32

/-- `bitmask` -/
def bitmask (msb lsb : Nat) : Word := bitmask0 (msb - lsb + 1) <<< lsb

/-- `sbs`, the field `msb..lsb` of a word. -/
def sbs (val : Word) (msb lsb : Nat) : Word :=
  if msb = 31 ∧ lsb = 0 then val
  else val.sshiftRight lsb &&& bitmask0 (msb - lsb + 1)

/-- `rbs`, a word with its field `msb..lsb` replaced. -/
def rbs (val data : Word) (msb lsb : Nat) : Word :=
  (val &&& ~~~bitmask msb lsb) ||| ((data <<< lsb) &&& bitmask msb lsb)

@[simp] theorem sbs_full (val : Word) : sbs val 31 0 = val := rfl

@[simp] theorem rbs_full (val data : Word) : rbs val data 31 0 = data := by
  have full : bitmask 31 0 = BitVec.allOnes 32 := by decide
  rw [rbs, full, BitVec.not_allOnes, BitVec.and_zero, BitVec.and_allOnes, BitVec.zero_or]
  exact BitVec.shiftLeft_zero data

/-- `llsim_memory_t` for a 32-bit memory of `64 * 1024` words. -/
@[ext] structure Memory where
  data : Image
  read : Bool
  readAddr : Word
  write : Bool
  writeAddr : Word
  datain : Word
  dataout : Word

/-- `SP_SRAM_HEIGHT` -/
def spSramHeight : Word := 64#32 * 1024#32

/-- `llsim_allocate_memory`, and the loader's image in its words. -/
def llsimAllocateMemory (image : Image) : Memory where
  data := image
  read := false
  readAddr := 0#32
  write := false
  writeAddr := 0#32
  datain := 0#32
  dataout := 0#32

/-- `llsim_mem_write` -/
def llsimMemWrite (memory : Memory) (addr : Word) : Checked Memory :=
  if memory.write then .error .multipleWrites
  else .ok { memory with write := true, writeAddr := addr }

/-- `llsim_mem_read` -/
def llsimMemRead (memory : Memory) (addr : Word) : Checked Memory :=
  if memory.read then .error .multipleReads
  else .ok { memory with read := true, readAddr := addr }

/-- `llsim_mem_set_datain` -/
def llsimMemSetDatain (memory : Memory) (val : Word) (msb lsb : Nat) : Checked Memory :=
  if msb ≤ 31 ∧ lsb ≤ 31 then .ok { memory with datain := rbs memory.datain val msb lsb }
  else .error .unsupportedBits

/-- `llsim_mem_extract_dataout` -/
def llsimMemExtractDataout (memory : Memory) (msb lsb : Nat) : Checked Word :=
  if msb ≤ 31 ∧ lsb ≤ 31 then .ok (sbs memory.dataout msb lsb)
  else .error .unsupportedBits

@[simp] theorem llsimMemSetDatain_full (memory : Memory) (val : Word) :
    llsimMemSetDatain memory val 31 0 = .ok { memory with datain := val } := by
  simp [llsimMemSetDatain]

@[simp] theorem llsimMemExtractDataout_full (memory : Memory) :
    llsimMemExtractDataout memory 31 0 = .ok memory.dataout := by
  simp [llsimMemExtractDataout]

namespace Memory

/-- The start of `sp_run`: no access has been announced yet. -/
def clearPort (memory : Memory) : Memory := { memory with read := false, write := false }

/-- The read half of `llsim_run_clock`. -/
def serveRead (memory : Memory) : Checked Memory :=
  if memory.read then
    if ¬ memory.readAddr.slt spSramHeight then .error .readOutOfRange
    else if memory.readAddr.slt 0#32 then .error .outOfBounds
    else .ok { memory with dataout := memory.data memory.readAddr.address, read := false }
  else .ok memory

/-- The write half of `llsim_run_clock`. -/
def serveWrite (memory : Memory) : Checked Memory :=
  if memory.write then
    if ¬ memory.writeAddr.slt spSramHeight then .error .writeOutOfRange
    else if memory.writeAddr.slt 0#32 then .error .outOfBounds
    else .ok { memory with
      data := Function.update memory.data memory.writeAddr.address memory.datain
      write := false }
  else .ok memory

/-- One memory's turn in `llsim_run_clock`. -/
def serve (memory : Memory) : Checked Memory := do
  let readDone := memory.read
  let writeDone := memory.write
  let memory ← memory.serveRead
  let memory ← memory.serveWrite
  if readDone && writeDone then .error .simultaneousAccess
  else if !readDone && !writeDone then .ok { memory with dataout := 0xBAADBAAD#32 }
  else .ok memory

/-- What an accepted clock leaves in the memory. -/
def served (memory : Memory) : Memory :=
  { memory with
    data :=
      if memory.write then
        Function.update memory.data memory.writeAddr.address memory.datain
      else memory.data
    dataout :=
      if memory.read then memory.data memory.readAddr.address
      else if memory.write then memory.dataout
      else 0xBAADBAAD#32
    read := false
    write := false }

/-- The two range tests of an access succeed exactly on array indices. -/
theorem range_tests_iff (addr : Word) :
    (addr.slt spSramHeight = true ∧ addr.slt 0#32 = false) ↔ addr.InRange := by
  simp only [BitVec.slt_eq_decide, decide_eq_true_eq, decide_eq_false_iff_not, Word.InRange]
  have height : spSramHeight.toInt = 65536 := by decide
  have zero : (0#32).toInt = 0 := by decide
  rw [height, zero, BitVec.toInt_eq_toNat_cond]
  have bound := addr.isLt
  split <;> omega

theorem serveRead_eq_ok {memory result : Memory} :
    memory.serveRead = .ok result ↔
      (memory.read = true → memory.readAddr.InRange) ∧
      { memory with
        dataout := if memory.read then memory.data memory.readAddr.address
          else memory.dataout
        read := false } = result := by
  rw [← range_tests_iff]
  obtain ⟨data, read, readAddr, write, writeAddr, datain, dataout⟩ := memory
  cases read
  · simp [serveRead]
  · cases above : readAddr.slt spSramHeight <;> cases below : readAddr.slt 0#32 <;>
      simp [serveRead, above, below]

theorem serveWrite_eq_ok {memory result : Memory} :
    memory.serveWrite = .ok result ↔
      (memory.write = true → memory.writeAddr.InRange) ∧
      { memory with
        data := if memory.write then
            Function.update memory.data memory.writeAddr.address memory.datain
          else memory.data
        write := false } = result := by
  rw [← range_tests_iff]
  obtain ⟨data, read, readAddr, write, writeAddr, datain, dataout⟩ := memory
  cases write
  · simp [serveWrite]
  · cases above : writeAddr.slt spSramHeight <;> cases below : writeAddr.slt 0#32 <;>
      simp [serveWrite, above, below]

/-- A clock is accepted exactly when it makes at most one access, in range. -/
theorem serve_eq_ok {memory result : Memory} :
    memory.serve = .ok result ↔
      ¬ (memory.read = true ∧ memory.write = true) ∧
      (memory.read = true → memory.readAddr.InRange) ∧
      (memory.write = true → memory.writeAddr.InRange) ∧
      memory.served = result := by
  obtain ⟨data, read, readAddr, write, writeAddr, datain, dataout⟩ := memory
  simp only [serve, Checked.bind_eq_ok, serveRead_eq_ok, serveWrite_eq_ok]
  constructor
  · rintro ⟨afterRead, ⟨readable, rfl⟩, afterWrite, ⟨writable, rfl⟩, rest⟩
    cases read <;> cases write <;> simp_all [served]
  · rintro ⟨exclusive, readable, writable, rfl⟩
    refine ⟨_, ⟨readable, rfl⟩, _, ⟨writable, rfl⟩, ?_⟩
    cases read <;> cases write <;> simp_all [served]

theorem serve_fault {memory : Memory} {fault : Fault}
    (exclusive : ¬ (memory.read = true ∧ memory.write = true))
    (failed : memory.serve = .error fault) :
    fault = .readOutOfRange ∨ fault = .writeOutOfRange ∨ fault = .outOfBounds := by
  obtain ⟨data, read, readAddr, write, writeAddr, datain, dataout⟩ := memory
  cases read
  · cases write
    · simp [serve, serveRead, serveWrite] at failed
    · cases above : writeAddr.slt spSramHeight <;> cases below : writeAddr.slt 0#32 <;>
        simp_all [serve, serveRead, serveWrite]
  · cases write
    · cases above : readAddr.slt spSramHeight <;> cases below : readAddr.slt 0#32 <;>
        simp_all [serve, serveRead, serveWrite]
    · simp at exclusive

end Memory

/-- An access to a memory port. -/
inductive Access where
  | read (addr : Word)
  | write (addr value : Word)
  deriving DecidableEq, Repr

/-- The accessed word exists. -/
def Access.InRange : Access → Prop
  | .read addr => addr.InRange
  | .write addr _ => addr.InRange

namespace Memory

/-- The simulator calls that announce an access, if there is one. -/
def announce (memory : Memory) : Option Access → Checked Memory
  | none => .ok memory
  | some (.read addr) => llsimMemRead memory addr
  | some (.write addr value) => do
      let memory ← llsimMemSetDatain memory value 31 0
      llsimMemWrite memory addr

/-- The memory after a clock with the given access. -/
def after (memory : Memory) : Option Access → Memory
  | none => { memory with read := false, write := false, dataout := 0xBAADBAAD#32 }
  | some (.read addr) => { memory with
      read := false
      readAddr := addr
      write := false
      dataout := memory.data addr.address }
  | some (.write addr value) => { memory with
      data := Function.update memory.data addr.address value
      read := false
      write := false
      writeAddr := addr
      datain := value }

@[simp] theorem announce_none (memory : Memory) : memory.announce none = .ok memory := rfl

/-- A port with one access announced. -/
def announced (memory : Memory) : Option Access → Memory
  | none => memory.clearPort
  | some (.read addr) => { memory.clearPort with read := true, readAddr := addr }
  | some (.write addr value) =>
      { memory.clearPort with datain := value, write := true, writeAddr := addr }

@[simp] theorem announce_clearPort (memory : Memory) (access : Option Access) :
    memory.clearPort.announce access = .ok (memory.announced access) := by
  rcases access with - | access
  · rfl
  · cases access <;>
      simp [announce, announced, llsimMemRead, llsimMemWrite, clearPort]

@[simp] theorem announced_dataout (memory : Memory) (access : Option Access) :
    (memory.announced access).dataout = memory.dataout := by
  rcases access with - | access
  · rfl
  · cases access <;> rfl

theorem serve_announced {memory result : Memory} {access : Option Access} :
    (memory.announced access).serve = .ok result ↔
      (∀ made, access = some made → made.InRange) ∧ memory.after access = result := by
  rw [serve_eq_ok]
  rcases access with - | access
  · simp [announced, clearPort, served, after]
  · cases access with
    | read addr => simp [announced, clearPort, served, after, Access.InRange]
    | write addr value => simp [announced, clearPort, served, after, Access.InRange]

theorem announced_exclusive (memory : Memory) (access : Option Access) :
    ¬ ((memory.announced access).read = true ∧ (memory.announced access).write = true) := by
  rcases access with - | access
  · simp [announced, clearPort]
  · cases access <;> simp [announced, clearPort]

@[simp] theorem after_data (memory : Memory) (access : Option Access) :
    (memory.after access).data =
      match access with
      | some (.write addr value) => Function.update memory.data addr.address value
      | _ => memory.data := by
  rcases access with - | access
  · rfl
  · cases access <;> rfl

@[simp] theorem after_read_dataout (memory : Memory) (addr : Word) :
    (memory.after (some (.read addr))).dataout = memory.data addr.address := rfl

end Memory

end SimpleProcessor
