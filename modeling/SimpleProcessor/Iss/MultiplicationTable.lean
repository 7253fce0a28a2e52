import SimpleProcessor.Asm.Instruction
import SimpleProcessor.Iss.Closed
import SimpleProcessor.Iss.Rules
import Mathlib.Data.List.GetD

/-!
# The multiplication table

The program that `assemble_program` writes fills a table of products from its last word
down.  R2 is the row; R3 counts the column down to 0 while R4 sums the row up; R5 points to
the next word of the table and R6 keeps the column.  The size of the table and the address
of its last word are immediates of the listing, and parameters here.
-/

namespace SimpleProcessor.Iss

open Transition

/-- The listing of `assemble_program`, which has the size 10 and the last address 2099. -/
def tableProgram (size last : Nat) : List Word :=
  let asm := Asm.word
  [asm .add 2 0 1 size, asm .add 3 0 1 size, asm .add 5 0 1 last, asm .add 6 0 1 size,
    -- loop:
    asm .jeq 0 2 0 18, asm .add 4 0 1 0,
    -- mult:
    asm .jeq 0 3 0 10, asm .add 4 4 2 0, asm .sub 3 3 1 1, asm .jeq 0 0 0 6,
    -- store:
    asm .st 0 4 5 0, asm .sub 5 5 1 1, asm .sub 6 6 1 1, asm .jne 0 6 0 16,
    asm .add 6 0 1 size, asm .sub 2 2 1 1,
    -- restore:
    asm .add 3 6 0 0, asm .jeq 0 0 0 4, asm .hlt 0 0 0 0]

/-- The first words of `mult_table.bin`. -/
example : tableProgram 10 2099 =
    [0x0081000a#32, 0x00c1000a#32, 0x01410833#32, 0x0181000a#32, 0x24100012#32, 0x01010000#32,
      0x2418000a#32, 0x01220000#32, 0x02d90001#32, 0x24000006#32, 0x12250000#32, 0x03690001#32,
      0x03b10001#32, 0x26300010#32, 0x0181000a#32, 0x02910001#32, 0x00f00000#32, 0x24000004#32,
      0x30000000#32] := by
  decide

/-- The instructions of the listing. -/
def tableFields (size last : Nat) : List Fields :=
  [⟨.add, 2#3, 0#3, 1#3, .ofNat 32 size⟩, ⟨.add, 3#3, 0#3, 1#3, .ofNat 32 size⟩,
    ⟨.add, 5#3, 0#3, 1#3, .ofNat 32 last⟩, ⟨.add, 6#3, 0#3, 1#3, .ofNat 32 size⟩,
    ⟨.jeq, 0#3, 2#3, 0#3, 18#32⟩, ⟨.add, 4#3, 0#3, 1#3, 0#32⟩,
    ⟨.jeq, 0#3, 3#3, 0#3, 10#32⟩, ⟨.add, 4#3, 4#3, 2#3, 0#32⟩, ⟨.sub, 3#3, 3#3, 1#3, 1#32⟩,
    ⟨.jeq, 0#3, 0#3, 0#3, 6#32⟩,
    ⟨.st, 0#3, 4#3, 5#3, 0#32⟩, ⟨.sub, 5#3, 5#3, 1#3, 1#32⟩, ⟨.sub, 6#3, 6#3, 1#3, 1#32⟩,
    ⟨.jne, 0#3, 6#3, 0#3, 16#32⟩, ⟨.add, 6#3, 0#3, 1#3, .ofNat 32 size⟩,
    ⟨.sub, 2#3, 2#3, 1#3, 1#32⟩,
    ⟨.add, 3#3, 6#3, 0#3, 0#32⟩, ⟨.jeq, 0#3, 0#3, 0#3, 4#32⟩, ⟨.hlt, 0#3, 0#3, 0#3, 0#32⟩]

/-- The instruction at an address of the program. -/
def tableField (size last : Nat) (pc : Address) : Fields :=
  (tableFields size last).getD pc.toNat (.ofWord 0#32)

/-- The program with any other data. -/
def tableImage (size last : Nat) (data : Image) : Image := fun addr =>
  if addr.toNat < 19 then wordAt (tableProgram size last) addr.toNat else data addr

section Listing

variable {size last : Nat}

theorem map_tableProgram (small : size ≤ 32767) (low : last ≤ 32767) :
    (tableProgram size last).map Fields.ofWord = tableFields size last := by
  have literal {opcode : Opcode} (named : Opcode.ofCode opcode.code = opcode)
      (dst src0 src1 : Nat) {immediate : Nat} (bound : immediate ≤ 32767) :=
    Asm.ofWord_word named dst src0 src1 bound
  simp only [tableProgram, tableFields, List.map_cons, List.map_nil]
  rw [literal rfl 2 0 1 small, literal rfl 3 0 1 small, literal rfl 5 0 1 low,
    literal rfl 6 0 1 small]
  rfl

theorem fieldsAt_tableProgram (small : size ≤ 32767) (low : last ≤ 32767) (index : Nat) :
    fieldsAt (tableProgram size last) index =
      (tableFields size last).getD index (.ofWord 0#32) := by
  rw [fieldsAt, wordAt, ← map_tableProgram small low, List.getD_map]

theorem fetched_table (small : size ≤ 32767) (low : last ≤ 32767) {mem : Image}
    (loaded : Loaded (tableProgram size last) mem) {pc : Address} (inside : pc.toNat < 19) :
    Fields.ofWord (mem pc) = tableField size last pc := by
  rw [loaded pc inside, ← fieldsAt, fieldsAt_tableProgram small low, tableField]

end Listing

/-- The registers that the program uses as variables. -/
structure TableVariables (regs : RegFile) (row column sum pointer saved : Word) : Prop where
  low : regs.LowZero
  row : regs 2#3 = row
  column : regs 3#3 = column
  sum : regs 4#3 = sum
  pointer : regs 5#3 = pointer
  saved : regs 6#3 = saved

theorem ofNat_ne_zero {value : Nat} (positive : 0 < value) (fits : value < 2 ^ 32) :
    BitVec.ofNat 32 value ≠ 0#32 := by
  intro none
  have zero := congrArg BitVec.toNat none
  rw [BitVec.toNat_ofNat, Nat.mod_eq_of_lt fits, BitVec.toNat_zero] at zero
  omega

theorem ofNat_succ_sub_one (value : Nat) :
    BitVec.ofNat 32 (value + 1) - 1#32 = BitVec.ofNat 32 value := by
  rw [BitVec.ofNat_add]
  exact BitVec.add_sub_cancel _ _

/-! ## The program, block by block -/

section Blocks

variable {shifts : Shifts} {goal : State → Prop} {size last : Nat} {mem : Image}
variable {regs : RegFile} {pc : Address} {row sum pointer saved : Word}
variable (small : size ≤ 32767) (bounded : last ≤ 32767)
  (loaded : Loaded (tableProgram size last) mem)
include small bounded loaded

theorem storesBehind_table (inside : pc.toNat < 19)
    (store : (tableField size last pc).opcode = .st →
      ((tableField size last pc).operand1 regs).InRange ∧
        19 ≤ ((tableField size last pc).operand1 regs).toNat) (count : Word) :
    (running pc regs mem count).StoresBehind 19 := by
  have fetched : (running pc regs mem count).fields = tableField size last pc :=
    fetched_table small bounded loaded inside
  rw [State.StoresBehind, fetched]
  exact store

theorem table_compute (inside : pc.toNat < 19)
    (compute : (tableField size last pc).opcode.isCompute = true)
    (named : 1#3 < (tableField size last pc).dst)
    (rest : RunsThrough shifts (State.StoresBehind 19) goal (pc + 1#16)
      (Function.update regs (tableField size last pc).dst
        (aluResult shifts (tableField size last pc).opcode
          ((tableField size last pc).operand0 regs) ((tableField size last pc).operand1 regs)))
      mem) :
    RunsThrough shifts (State.StoresBehind 19) goal pc regs mem :=
  through_compute (fetched_table small bounded loaded inside) (by omega)
    (storesBehind_table small bounded loaded inside
      (absurd · (Opcode.kind_of_isCompute compute).2.2.1))
    compute named rest

theorem table_taken (inside : pc.toNat < 19)
    (branch : (tableField size last pc).opcode.isBranch = true)
    (taken : Arch.taken shifts (tableField size last pc) regs = true)
    (target : (tableField size last pc).immediate.toNat ≤ 32767)
    (rest : RunsThrough shifts (State.StoresBehind 19) goal
      (tableField size last pc).immediate.address
      (Function.update regs 7#3 (Word.ofAddress pc)) mem) :
    RunsThrough shifts (State.StoresBehind 19) goal pc regs mem :=
  through_taken (fetched_table small bounded loaded inside) (by omega)
    (storesBehind_table small bounded loaded inside
      (absurd · (Opcode.kind_of_isBranch branch).2.2.1))
    branch taken target rest

theorem table_notTaken (inside : pc.toNat < 19)
    (branch : (tableField size last pc).opcode.isBranch = true)
    (notTaken : Arch.taken shifts (tableField size last pc) regs = false)
    (rest : RunsThrough shifts (State.StoresBehind 19) goal (pc + 1#16) regs mem) :
    RunsThrough shifts (State.StoresBehind 19) goal pc regs mem :=
  through_notTaken (fetched_table small bounded loaded inside) (by omega)
    (storesBehind_table small bounded loaded inside
      (absurd · (Opcode.kind_of_isBranch branch).2.2.1))
    branch notTaken rest

/-- 6 to 9: the column is counted down while the row is summed up. -/
theorem through_product {column : Nat} (fits : column < 2 ^ 32)
    (values : TableVariables regs row (.ofNat 32 column) sum pointer saved)
    (rest : ∀ regs, TableVariables regs row 0#32 (sum + row * .ofNat 32 column) pointer saved →
      RunsThrough shifts (State.StoresBehind 19) goal 10#16 regs mem) :
    RunsThrough shifts (State.StoresBehind 19) goal 6#16 regs mem := by
  induction column generalizing regs sum with
  | zero =>
      have zero := values.low.1
      refine table_taken small bounded loaded (by decide) rfl ?_ (of_decide_eq_true rfl) ?_
      · exact (Arch.taken_jeq rfl).trans (decide_eq_true (values.column.trans zero.symm))
      · obtain ⟨-, rfl, column, rfl, rfl, rfl⟩ := values
        rw [BitVec.mul_zero, BitVec.add_zero] at rest
        exact through_of_low fun low => rest _ ⟨low, rfl, column, rfl, rfl, rfl⟩
  | succ column ih =>
      have zero := values.low.1
      have nonzero := ofNat_ne_zero (Nat.succ_pos column) fits
      refine table_notTaken small bounded loaded (by decide) rfl ?_ ?_
      · exact (Arch.taken_jeq rfl).trans
          (decide_eq_false fun equal => nonzero ((values.column.symm.trans equal).trans zero))
      refine table_compute small bounded loaded (by decide) rfl (of_decide_eq_true rfl) ?_
      refine table_compute small bounded loaded (by decide) rfl (of_decide_eq_true rfl) ?_
      refine table_taken small bounded loaded (by decide) rfl
        ((Arch.taken_jeq rfl).trans (decide_eq_true rfl)) (of_decide_eq_true rfl) ?_
      have product : sum + row * BitVec.ofNat 32 (column + 1) =
          sum + row + row * BitVec.ofNat 32 column := by
        rw [BitVec.ofNat_add, BitVec.mul_add, BitVec.mul_one, BitVec.add_assoc,
          BitVec.add_comm row]
      rw [product] at rest
      obtain ⟨-, rfl, column', rfl, rfl, rfl⟩ := values
      refine through_of_low fun low => ih (by omega) ⟨low, rfl, ?_, rfl, rfl, rfl⟩ rest
      exact (congrArg (· - 1#32) column').trans (ofNat_succ_sub_one column)

theorem through_restore {column : Word}
    (values : TableVariables regs row column sum pointer saved)
    (rest : ∀ regs, TableVariables regs row saved sum pointer saved →
      RunsThrough shifts (State.StoresBehind 19) goal 4#16 regs mem) :
    RunsThrough shifts (State.StoresBehind 19) goal 16#16 regs mem := by
  obtain ⟨⟨zero, -⟩, rfl, -, rfl, rfl, rfl⟩ := values
  refine table_compute small bounded loaded (by decide) rfl (of_decide_eq_true rfl) ?_
  refine table_taken small bounded loaded (by decide) rfl
    ((Arch.taken_jeq rfl).trans (decide_eq_true rfl)) (of_decide_eq_true rfl) ?_
  refine through_of_low fun low => rest _ ⟨low, rfl, ?_, rfl, rfl, rfl⟩
  exact (congrArg (regs 6#3 + ·) zero).trans (BitVec.add_zero _)

theorem through_advance {row column : Nat} (fits : column < 2 ^ 32) {counted : Word}
    (values : TableVariables regs (.ofNat 32 (row + 1)) counted sum pointer
      (.ofNat 32 (column + 1)))
    (rest : ∀ regs, TableVariables regs (.ofNat 32 (if column = 0 then row else row + 1))
        (.ofNat 32 (if column = 0 then size else column)) sum (pointer - 1#32)
        (.ofNat 32 (if column = 0 then size else column)) →
      RunsThrough shifts (State.StoresBehind 19) goal 4#16 regs mem) :
    RunsThrough shifts (State.StoresBehind 19) goal 11#16 regs mem := by
  obtain ⟨⟨zero, -⟩, rowHere, -, rfl, rfl, savedHere⟩ := values
  have left : regs 6#3 - 1#32 = BitVec.ofNat 32 column := by rw [savedHere, ofNat_succ_sub_one]
  refine table_compute small bounded loaded (by decide) rfl (of_decide_eq_true rfl) ?_
  refine table_compute small bounded loaded (by decide) rfl (of_decide_eq_true rfl) ?_
  by_cases ended : column = 0
  · rw [if_pos ended, if_pos ended] at rest
    subst ended
    refine table_notTaken small bounded loaded (by decide) rfl ?_ ?_
    · exact (Arch.taken_jne rfl).trans (decide_eq_false (not_not_intro (left.trans zero.symm)))
    refine table_compute small bounded loaded (by decide) rfl (of_decide_eq_true rfl) ?_
    refine table_compute small bounded loaded (by decide) rfl (of_decide_eq_true rfl) ?_
    refine through_of_low fun low => through_restore small bounded loaded
      ⟨low, ?_, rfl, rfl, rfl, ?_⟩ rest
    · exact (congrArg (· - 1#32) rowHere).trans (ofNat_succ_sub_one row)
    · exact (congrArg (· + BitVec.ofNat 32 size) zero).trans (BitVec.zero_add _)
  · rw [if_neg ended, if_neg ended] at rest
    have nonzero := ofNat_ne_zero (Nat.pos_of_ne_zero ended) fits
    refine table_taken small bounded loaded (by decide) rfl ?_ (of_decide_eq_true rfl) ?_
    · exact (Arch.taken_jne rfl).trans
        (decide_eq_true fun equal => nonzero ((left.symm.trans equal).trans zero))
    exact through_of_low fun low => through_restore small bounded loaded
      ⟨low, rowHere, rfl, rfl, rfl, left⟩ rest

/-- 4 to 17: one word of the table. -/
theorem through_cell {row column pointer : Nat} {sum : Word} (rowFits : row + 1 < 2 ^ 32)
    (columnFits : column + 1 < 2 ^ 32) (behind : 19 ≤ pointer) (inside : pointer < 65536)
    (values : TableVariables regs (.ofNat 32 (row + 1)) (.ofNat 32 (column + 1)) sum
      (.ofNat 32 pointer) (.ofNat 32 (column + 1)))
    (rest : ∀ regs sum, TableVariables regs (.ofNat 32 (if column = 0 then row else row + 1))
        (.ofNat 32 (if column = 0 then size else column)) sum (.ofNat 32 pointer - 1#32)
        (.ofNat 32 (if column = 0 then size else column)) →
      RunsThrough shifts (State.StoresBehind 19) goal 4#16 regs
        (Function.update mem (.ofNat 16 pointer) (.ofNat 32 ((row + 1) * (column + 1))))) :
    RunsThrough shifts (State.StoresBehind 19) goal 4#16 regs mem := by
  have zero := values.low.1
  refine table_notTaken small bounded loaded (by decide) rfl ?_ ?_
  · exact (Arch.taken_jeq rfl).trans (decide_eq_false fun equal =>
      ofNat_ne_zero (Nat.succ_pos row) rowFits ((values.row.symm.trans equal).trans zero))
  refine table_compute small bounded loaded (by decide) rfl (of_decide_eq_true rfl) ?_
  refine through_of_low fun low => through_product small bounded loaded columnFits
    ⟨low, values.row, values.column, (congrArg (· + 0#32) zero).trans (BitVec.add_zero _),
      values.pointer, values.saved⟩ ?_
  intro regs' values'
  have product : 0#32 + BitVec.ofNat 32 (row + 1) * BitVec.ofNat 32 (column + 1) =
      BitVec.ofNat 32 ((row + 1) * (column + 1)) := by
    rw [BitVec.zero_add, BitVec.ofNat_mul]
  rw [product] at values'
  have index : (BitVec.ofNat 32 pointer).toNat = pointer := by
    rw [BitVec.toNat_ofNat, Nat.mod_eq_of_lt (by omega)]
  have operand : (tableField size last 10#16).operand1 regs' = BitVec.ofNat 32 pointer :=
    values'.pointer
  have inRange : Word.InRange (BitVec.ofNat 32 pointer) := by
    rw [Word.InRange, index]
    exact inside
  have inside' : (10#16).toNat < 19 := by decide
  refine through_store (fetched_table small bounded loaded inside') (by decide)
    (storesBehind_table small bounded loaded inside' fun _ => ?_) rfl ?_ ?_
  · rw [operand, index]
    exact ⟨inRange, behind⟩
  · rw [operand]
    exact inRange
  · have stored : (tableField size last 10#16).operand0 regs' =
        BitVec.ofNat 32 ((row + 1) * (column + 1)) := values'.sum
    have target : 19 ≤ (BitVec.ofNat 16 pointer).toNat := by
      rw [BitVec.toNat_ofNat, Nat.mod_eq_of_lt inside]
      exact behind
    rw [operand, stored, Word.address_ofNat]
    exact through_advance small bounded (loaded.update target _) (by omega) values'
      fun regs => rest regs _

end Blocks

/-- The row of the last word that is left to write, counted from 1, and 0 when none is. -/
def rowLeft (size left : Nat) : Nat := (left + size - 1) / size

/-- Its column. -/
def columnLeft (size left : Nat) : Nat := (left + size - 1) % size + 1

/-- The memory when the first words of the table are left to write. -/
def tableMemory (size first : Nat) (image : Image) (left : Nat) : Image := fun addr =>
  if first + left ≤ addr.toNat ∧ addr.toNat < first + size * size then
    .ofNat 32 (((addr.toNat - first) / size + 1) * ((addr.toNat - first) % size + 1))
  else image addr

section Table

variable {size first left : Nat}

theorem rowLeft_zero (positive : 0 < size) : rowLeft size 0 = 0 := by
  rw [rowLeft, Nat.div_eq_of_lt (by omega)]

theorem rowLeft_succ (positive : 0 < size) (left : Nat) :
    rowLeft size (left + 1) = left / size + 1 := by
  have shift : left + 1 + size - 1 = left + size := by omega
  rw [rowLeft, shift, Nat.add_div_right _ positive]

theorem columnLeft_succ (left : Nat) : columnLeft size (left + 1) = left % size + 1 := by
  have shift : left + 1 + size - 1 = left + size := by omega
  rw [columnLeft, shift, Nat.add_mod_right]

theorem advance_left (positive : 0 < size) (left : Nat) :
    (if left % size = 0 then left / size else left / size + 1) = rowLeft size left ∧
      (if left % size = 0 then size else left % size) = columnLeft size left := by
  have split := Nat.div_add_mod left size
  have bound := Nat.mod_lt left positive
  by_cases ended : left % size = 0
  · have quotient : (left + size - 1) / size = left / size ∧
        (left + size - 1) % size = size - 1 :=
      (Nat.div_mod_unique positive).mpr ⟨by omega, by omega⟩
    rw [if_pos ended, if_pos ended, rowLeft, columnLeft, quotient.1, quotient.2]
    omega
  · have quotient : (left + size - 1) / size = left / size + 1 ∧
        (left + size - 1) % size = left % size - 1 :=
      (Nat.div_mod_unique positive).mpr ⟨by rw [Nat.mul_succ]; omega, by omega⟩
    rw [if_neg ended, if_neg ended, rowLeft, columnLeft, quotient.1, quotient.2]
    omega

theorem update_tableMemory (image : Image) (inside : left < size * size)
    (fits : first + size * size ≤ 65536) :
    Function.update (tableMemory size first image (left + 1)) (.ofNat 16 (first + left))
      (.ofNat 32 ((left / size + 1) * (left % size + 1))) = tableMemory size first image left := by
  have index : (BitVec.ofNat 16 (first + left)).toNat = first + left := by
    rw [BitVec.toNat_ofNat, Nat.mod_eq_of_lt (by omega)]
  funext addr
  by_cases here : addr = .ofNat 16 (first + left)
  · subst here
    rw [Function.update_self, tableMemory, index, if_pos (by omega), Nat.add_sub_cancel_left]
  · have other : addr.toNat ≠ first + left := by
      intro same
      exact here (BitVec.eq_of_toNat_eq (same.trans index.symm))
    have same : first + (left + 1) ≤ addr.toNat ∧ addr.toNat < first + size * size ↔
        first + left ≤ addr.toNat ∧ addr.toNat < first + size * size := by omega
    rw [Function.update_of_ne here]
    simp only [tableMemory, same]

theorem loaded_tableMemory {program : List Word} {image : Image} (loaded : Loaded program image)
    (behind : program.length ≤ first) : Loaded program (tableMemory size first image left) := by
  intro addr inside
  rw [tableMemory, if_neg (by omega), loaded addr inside]

end Table

section Run

variable {shifts : Shifts} {goal : State → Prop} {size last left first : Nat} {image : Image}
variable {regs : RegFile} {sum : Word}

/-- 4 to 18: the words that are left are written. -/
theorem through_table (positive : 0 < size) (small : size ≤ 32767) (bounded : last ≤ 32767)
    (behind : 19 ≤ first) (fits : first + size * size ≤ 65536)
    (loaded : Loaded (tableProgram size last) image) (inside : left ≤ size * size)
    (values : TableVariables regs (.ofNat 32 (rowLeft size left))
      (.ofNat 32 (columnLeft size left)) sum (.ofNat 32 (first + left - 1))
      (.ofNat 32 (columnLeft size left)))
    (rest : ∀ regs count, goal (ended 18#16 regs (tableMemory size first image 0) count)) :
    RunsThrough shifts (State.StoresBehind 19) goal 4#16 regs
      (tableMemory size first image left) := by
  have here : Loaded (tableProgram size last) (tableMemory size first image left) :=
    loaded_tableMemory loaded behind
  induction left generalizing regs sum with
  | zero =>
      have zero := values.low.1
      have row := values.row
      rw [rowLeft_zero positive] at row
      refine table_taken small bounded here (by decide) rfl ?_ (of_decide_eq_true rfl) ?_
      · exact (Arch.taken_jeq rfl).trans (decide_eq_true (row.trans zero.symm))
      · have inside' : (18#16).toNat < 19 := by decide
        change RunsThrough shifts (State.StoresBehind 19) goal 18#16 _ _
        exact through_hlt (fetched_table small bounded here inside') (by decide)
          (storesBehind_table small bounded here inside' nofun) rfl (rest _)
  | succ left ih =>
      have cells : left / size < size := Nat.div_lt_of_lt_mul inside
      have columns := Nat.mod_lt left positive
      have pointer : first + (left + 1) - 1 = first + left := by omega
      have next : BitVec.ofNat 32 (first + left) - 1#32 = BitVec.ofNat 32 (first + left - 1) := by
        have succ : first + left = first + left - 1 + 1 := by omega
        rw [succ, ofNat_succ_sub_one, Nat.add_sub_cancel]
      rw [rowLeft_succ positive, columnLeft_succ, pointer] at values
      refine through_cell small bounded here (by omega) (by omega) (by omega) (by omega) values ?_
      obtain ⟨row, column⟩ := advance_left positive left
      rw [row, column, next, update_tableMemory image inside fits]
      intro regs' sum' values'
      exact ih (Nat.le_of_lt inside) values' (loaded_tableMemory loaded behind)

theorem through_program (positive : 0 < size) (small : size ≤ 32767) (bounded : last ≤ 32767)
    (room : 19 + size * size ≤ last + 1) (loaded : Loaded (tableProgram size last) image)
    (rest : ∀ regs count, goal (ended 18#16 regs
      (tableMemory size (last + 1 - size * size) image 0) count)) :
    RunsThrough shifts (State.StoresBehind 19) goal 0#16 (fun _ => 0#32) image := by
  have square : rowLeft size (size * size) = size ∧ columnLeft size (size * size) = size := by
    have quotient : (size * size + size - 1) / size = size ∧
        (size * size + size - 1) % size = size - 1 :=
      (Nat.div_mod_unique positive).mpr ⟨by omega, by omega⟩
    rw [rowLeft, columnLeft, quotient.1, quotient.2]
    omega
  have unwritten : tableMemory size (last + 1 - size * size) image (size * size) = image := by
    funext addr
    rw [tableMemory, if_neg (by omega)]
  have behind : 19 ≤ last + 1 - size * size := by omega
  have fits : last + 1 - size * size + size * size ≤ 65536 := by omega
  refine table_compute small bounded loaded (by decide) rfl (of_decide_eq_true rfl) ?_
  refine table_compute small bounded loaded (by decide) rfl (of_decide_eq_true rfl) ?_
  refine table_compute small bounded loaded (by decide) rfl (of_decide_eq_true rfl) ?_
  refine table_compute small bounded loaded (by decide) rfl (of_decide_eq_true rfl) ?_
  rw [← unwritten]
  refine through_of_low fun low => through_table positive small bounded behind fits
    loaded (Nat.le_refl _) ⟨low, ?_, ?_, rfl, ?_, ?_⟩ ?_
  · rw [square.1]
    exact BitVec.zero_add _
  · rw [square.2]
    exact BitVec.zero_add _
  · have pointer : last + 1 - size * size + size * size - 1 = last := by omega
    rw [pointer]
    exact BitVec.zero_add _
  · rw [square.2]
    exact BitVec.zero_add _
  · exact rest

/-- The table of products ends at `last`, and no other word has changed. -/
structure Tabulates (size last : Nat) (before after : Image) : Prop where
  product : ∀ row < size, ∀ column < size,
    after (.ofNat 16 (last + 1 - size * size + (row * size + column))) =
      .ofNat 32 ((row + 1) * (column + 1))
  other : ∀ addr : Address, addr.toNat < last + 1 - size * size ∨ last < addr.toNat →
    after addr = before addr

theorem tabulates_tableMemory (image : Image) (room : size * size ≤ last + 1)
    (bounded : last ≤ 32767) :
    Tabulates size last image (tableMemory size (last + 1 - size * size) image 0) where
  product := by
    intro row rowInside column columnInside
    have cell : row * size + column < size * size := by
      calc row * size + column < row * size + size := Nat.add_lt_add_left columnInside _
        _ = (row + 1) * size := (Nat.succ_mul row size).symm
        _ ≤ size * size := Nat.mul_le_mul_right size rowInside
    have index : (BitVec.ofNat 16 (last + 1 - size * size + (row * size + column))).toNat =
        last + 1 - size * size + (row * size + column) := by
      rw [BitVec.toNat_ofNat, Nat.mod_eq_of_lt (by omega)]
    have quotient : (row * size + column) / size = row ∧ (row * size + column) % size = column :=
      (Nat.div_mod_unique (by omega)).mpr ⟨by rw [Nat.mul_comm]; omega, columnInside⟩
    rw [tableMemory, index, if_pos (by omega), Nat.add_sub_cancel_left, quotient.1, quotient.2]
  other := by
    intro addr outside
    rw [tableMemory, if_neg (by omega)]

theorem loaded_tableImage (size last : Nat) (data : Image) :
    Loaded (tableProgram size last) (tableImage size last data) :=
  fun _ inside => if_pos inside

theorem reaches_table (shifts : Shifts) (data : Image) (positive : 0 < size)
    (small : size ≤ 32767) (bounded : last ≤ 32767) (room : 19 + size * size ≤ last + 1) :
    ReachesThrough (next shifts) (State.StoresBehind 19)
      (fun final => final.halted = true ∧
        Tabulates size last (tableImage size last data) final.mem)
      (init (tableImage size last data)) := by
  refine through_program positive small bounded room (loaded_tableImage size last data) ?_
    ⟨rfl, rfl⟩ 0#32
  intro regs count
  exact ⟨rfl, tabulates_tableMemory _ (by omega) bounded⟩

end Run

end SimpleProcessor.Iss
