import SimpleProcessor.Asm.Instruction
import SimpleProcessor.Iss.Links
import SimpleProcessor.Iss.Rules

/-!
# The multiplication program

Shift and add on the absolute value of the multiplier, which sits in R3: R2 is the
multiplicand, R4 the sum, R5 the lowest bit of the multiplier and R6 its sign.  The
arithmetic shift never takes a negative multiplier to 0, and one word is its own
negation.
-/

namespace SimpleProcessor.Iss

open Transition

/-- The first words of `minus_3_times_minus_5.bin`. -/
def multiplicationProgram : List Word :=
  [0x108103e8#32, 0x10c103e9#32, 0x01000000#32, 0x01800000#32, 0x20030007#32, 0x02c30000#32,
    0x01810001#32, 0x2418000e#32, 0x09590001#32, 0x2428000b#32, 0x01220000#32, 0x04910001#32,
    0x06d90001#32, 0x24000007#32, 0x24300010#32, 0x03040000#32, 0x122103ea#32, 0x30000000#32]

/-- The program with its two arguments and any other data. -/
def multiplicationImage (data : Image) (x y : Word) : Image := fun addr =>
  if addr.toNat < 18 then multiplicationProgram.getD addr.toNat 0#32
  else if addr = 1000#16 then x
  else if addr = 1001#16 then y
  else data addr

/-- The instruction at an address of the program. -/
def multiplicationFields (pc : Address) : Fields :=
  .ofWord (multiplicationProgram.getD pc.toNat 0#32)

theorem fetched_multiplication {data : Image} {x y : Word} {pc : Address}
    (inside : pc.toNat < 18) :
    Fields.ofWord (multiplicationImage data x y pc) = multiplicationFields pc := by
  rw [multiplicationImage, if_pos inside, multiplicationFields]

/-- The listing that the assembler has for the program. -/
example : multiplicationProgram =
    let asm := Asm.word
    [asm .ld 2 0 1 1000, asm .ld 3 0 1 1001, asm .add 4 0 0 0, asm .add 6 0 0 0,
      asm .jlt 0 0 3 7, asm .sub 3 0 3 0, asm .add 6 0 1 1,
      -- loop:
      asm .jeq 0 3 0 14, asm .and 5 3 1 1, asm .jeq 0 5 0 11, asm .add 4 4 2 0,
      asm .lsf 2 2 1 1, asm .rsf 3 3 1 1, asm .jeq 0 0 0 7,
      -- is_neg:
      asm .jeq 0 6 0 16, asm .sub 4 0 4 0,
      -- output:
      asm .st 0 4 1 1002, asm .hlt 0 0 0 0] := by
  decide

/-- The registers that the program uses as variables. -/
structure Variables (regs : RegFile) (multiplicand multiplier sum sign : Word) : Prop where
  low : regs.LowZero
  multiplicand : regs 2#3 = multiplicand
  multiplier : regs 3#3 = multiplier
  sum : regs 4#3 = sum
  sign : regs 6#3 = sign

theorem shiftLeft_one (word : Word) : word <<< 1 = word * 2#32 := by
  rw [BitVec.shiftLeft_eq_mul_twoPow]
  rfl

theorem lowBit_cases (multiplier : Word) :
    multiplier &&& 1#32 = 0#32 ∨ multiplier &&& 1#32 = 1#32 := by
  rw [BitVec.and_one_eq_setWidth_ofBool_getLsbD]
  cases multiplier.getLsbD 0 <;> decide

theorem half_add_lowBit (multiplier : Word) :
    multiplier.sshiftRight 1 * 2#32 + (multiplier &&& 1#32) = multiplier := by
  have bits (i : Nat) : (multiplier.sshiftRight 1 <<< 1).getLsbD i =
      (decide (0 < i) && multiplier.getLsbD i) := by
    rw [BitVec.getLsbD_shiftLeft, BitVec.getLsbD_sshiftRight]
    grind
  rw [← shiftLeft_one, BitVec.add_eq_or_of_and_eq_zero]
  · apply BitVec.eq_of_getLsbD_eq
    intro i bound
    rw [BitVec.getLsbD_or, bits, BitVec.getLsbD_and, BitVec.getLsbD_one]
    grind
  · apply BitVec.eq_of_getLsbD_eq
    intro i bound
    rw [BitVec.getLsbD_and, bits, BitVec.getLsbD_and, BitVec.getLsbD_one, BitVec.getLsbD_zero]
    grind

theorem sum_add_mul_half (multiplicand multiplier sum : Word) :
    (if multiplier &&& 1#32 = 0#32 then sum else sum + multiplicand) +
        multiplicand <<< 1 * multiplier.sshiftRight 1 =
      sum + multiplicand * multiplier := by
  have parts := half_add_lowBit multiplier
  have doubled : multiplicand * 2#32 * multiplier.sshiftRight 1 =
      multiplicand * (multiplier.sshiftRight 1 * 2#32) := by
    rw [BitVec.mul_assoc, BitVec.mul_comm 2#32]
  rw [shiftLeft_one, doubled]
  rcases lowBit_cases multiplier with even | odd
  · rw [even, BitVec.add_zero] at parts
    rw [if_pos even, parts]
  · rw [odd] at parts
    rw [if_neg (by simp [odd])]
    conv_rhs => rw [← parts, BitVec.mul_add, BitVec.mul_one]
    rw [BitVec.add_assoc, BitVec.add_comm multiplicand]

/-! ## The program, block by block -/

section Blocks

variable {shifts : Shifts} {goal : State → Prop} {data : Image} {x y : Word}
variable {regs : RegFile} {multiplicand multiplier sum sign : Word}

/-- 0 to 6: the arguments are loaded and the multiplier is made positive. -/
theorem runs_start
    (rest : ∀ regs, Variables regs x (if (0#32).slt y then y else 0#32 - y) 0#32
        (if (0#32).slt y then 0#32 else 1#32) →
      Runs shifts goal 7#16 regs (multiplicationImage data x y)) :
    Runs shifts goal 0#16 (fun _ => 0#32) (multiplicationImage data x y) := by
  refine runs_load (fetched_multiplication (by decide)) (by decide) rfl (by decide) ?_
  refine runs_load (fetched_multiplication (by decide)) (by decide) rfl (by decide) ?_
  refine runs_compute (fetched_multiplication (by decide)) (by decide) rfl (by decide) ?_
  refine runs_compute (fetched_multiplication (by decide)) (by decide) rfl (by decide) ?_
  cases positive : (0#32).slt y with
  | true =>
      rw [positive] at rest
      refine runs_taken (fetched_multiplication (by decide)) (by decide) rfl
        ((Arch.taken_jlt rfl).trans positive) (by decide) ?_
      exact runs_of_low fun low => rest _ ⟨low, rfl, rfl, rfl, rfl⟩
  | false =>
      rw [positive] at rest
      refine runs_notTaken (fetched_multiplication (by decide)) (by decide) rfl
        ((Arch.taken_jlt rfl).trans positive) ?_
      refine runs_compute (fetched_multiplication (by decide)) (by decide) rfl (by decide) ?_
      refine runs_compute (fetched_multiplication (by decide)) (by decide) rfl (by decide) ?_
      exact runs_of_low fun low => rest _ ⟨low, rfl, rfl, rfl, rfl⟩

theorem runs_halve (values : Variables regs multiplicand multiplier sum sign)
    (rest : ∀ regs,
      Variables regs (multiplicand <<< 1) (multiplier.sshiftRight 1) sum sign →
      Runs shifts goal 7#16 regs (multiplicationImage data x y)) :
    Runs shifts goal 11#16 regs (multiplicationImage data x y) := by
  obtain ⟨-, rfl, rfl, rfl, rfl⟩ := values
  refine runs_compute (fetched_multiplication (by decide)) (by decide) rfl (by decide) ?_
  refine runs_compute (fetched_multiplication (by decide)) (by decide) rfl (by decide) ?_
  refine runs_taken (fetched_multiplication (by decide)) (by decide) rfl
    ((Arch.taken_jeq rfl).trans (decide_eq_true rfl)) (by decide) ?_
  refine runs_of_low fun low => rest _ ⟨low, ?_, ?_, rfl, rfl⟩
  · exact shifts.left_eq _ 1#32 (by decide)
  · exact shifts.right_eq _ 1#32 (by decide)

/-- 8 to 13: one round of the loop. -/
theorem runs_round (values : Variables regs multiplicand multiplier sum sign)
    (rest : ∀ regs, Variables regs (multiplicand <<< 1) (multiplier.sshiftRight 1)
        (if multiplier &&& 1#32 = 0#32 then sum else sum + multiplicand) sign →
      Runs shifts goal 7#16 regs (multiplicationImage data x y)) :
    Runs shifts goal 8#16 regs (multiplicationImage data x y) := by
  obtain ⟨⟨zero, -⟩, rfl, rfl, rfl, rfl⟩ := values
  refine runs_compute (fetched_multiplication (by decide)) (by decide) rfl (by decide) ?_
  by_cases even : regs 3#3 &&& 1#32 = 0#32
  · rw [if_pos even] at rest
    refine runs_taken (fetched_multiplication (by decide)) (by decide) rfl ?_ (by decide) ?_
    · exact (Arch.taken_jeq rfl).trans (decide_eq_true (even.trans zero.symm))
    · exact runs_of_low fun low => runs_halve ⟨low, rfl, rfl, rfl, rfl⟩ rest
  · rw [if_neg even] at rest
    refine runs_notTaken (fetched_multiplication (by decide)) (by decide) rfl ?_ ?_
    · exact (Arch.taken_jeq rfl).trans (decide_eq_false (even <| ·.trans zero))
    · refine runs_compute (fetched_multiplication (by decide)) (by decide) rfl (by decide) ?_
      exact runs_of_low fun low => runs_halve ⟨low, rfl, rfl, rfl, rfl⟩ rest

theorem runs_store_sum (values : Variables regs multiplicand multiplier sum sign)
    (rest : ∀ regs count, goal (ended 17#16 regs
      (Function.update (multiplicationImage data x y) 1002#16 sum) count)) :
    Runs shifts goal 16#16 regs (multiplicationImage data x y) := by
  obtain ⟨-, rfl, rfl, rfl, rfl⟩ := values
  refine runs_store (fetched_multiplication (by decide)) (by decide) rfl
    (by decide : Word.InRange 1002#32) ?_
  have hlt : Fields.ofWord (Function.update (multiplicationImage data x y) 1002#16
      (regs 4#3) 17#16) = multiplicationFields 17#16 := by
    rw [Function.update_of_ne (by decide)]
    exact fetched_multiplication (by decide)
  exact runs_hlt hlt (by decide) rfl (rest regs)

theorem runs_output (values : Variables regs multiplicand multiplier sum sign)
    (rest : ∀ regs count, goal (ended 17#16 regs
      (Function.update (multiplicationImage data x y) 1002#16
        (if sign = 0#32 then sum else 0#32 - sum)) count)) :
    Runs shifts goal 14#16 regs (multiplicationImage data x y) := by
  obtain ⟨⟨zero, -⟩, rfl, rfl, rfl, rfl⟩ := values
  by_cases positive : regs 6#3 = 0#32
  · rw [if_pos positive] at rest
    refine runs_taken (fetched_multiplication (by decide)) (by decide) rfl ?_ (by decide) ?_
    · exact (Arch.taken_jeq rfl).trans (decide_eq_true (positive.trans zero.symm))
    · exact runs_of_low fun low => runs_store_sum ⟨low, rfl, rfl, rfl, rfl⟩ rest
  · rw [if_neg positive] at rest
    refine runs_notTaken (fetched_multiplication (by decide)) (by decide) rfl ?_ ?_
    · exact (Arch.taken_jeq rfl).trans (decide_eq_false (positive <| ·.trans zero))
    · refine runs_compute (fetched_multiplication (by decide)) (by decide) rfl (by decide) ?_
      refine runs_of_low fun low => runs_store_sum ⟨low, rfl, rfl, ?_, rfl⟩ rest
      exact congrArg (· - regs 4#3) zero

/-- 7 to 17: a multiplier that is not negative is shifted to 0. -/
theorem runs_loop (nonnegative : multiplier.msb = false)
    (values : Variables regs multiplicand multiplier sum sign)
    (rest : ∀ regs count, goal (ended 17#16 regs
      (Function.update (multiplicationImage data x y) 1002#16
        (if sign = 0#32 then sum + multiplicand * multiplier
          else 0#32 - (sum + multiplicand * multiplier))) count)) :
    Runs shifts goal 7#16 regs (multiplicationImage data x y) := by
  -- on the multiplier, which is halved; the sum and the product of the two factors add up
  -- to the same result in every round
  induction size : multiplier.toNat using Nat.strongRecOn
    generalizing multiplier regs multiplicand sum with
  | ind size' ih =>
      obtain ⟨zero, -⟩ := values.low
      by_cases done : multiplier = 0#32
      · refine runs_taken (fetched_multiplication (by decide)) (by decide) rfl ?_
          (by decide) ?_
        · exact (Arch.taken_jeq rfl).trans
            (decide_eq_true ((values.multiplier.trans done).trans zero.symm))
        · rw [done, BitVec.mul_zero, BitVec.add_zero] at rest
          obtain ⟨-, rfl, rfl, rfl, rfl⟩ := values
          exact runs_of_low fun low => runs_output ⟨low, rfl, rfl, rfl, rfl⟩ rest
      · refine runs_notTaken (fetched_multiplication (by decide)) (by decide) rfl ?_ ?_
        · exact (Arch.taken_jeq rfl).trans
            (decide_eq_false fun equal => done ((values.multiplier.symm.trans equal).trans zero))
        · apply runs_round values
          intro regs' values'
          have smaller : (multiplier.sshiftRight 1).toNat < size' := by
            have positive : multiplier.toNat ≠ 0 := by
              intro none
              exact done (BitVec.eq_of_toNat_eq none)
            rw [BitVec.toNat_sshiftRight_of_msb_false nonnegative, Nat.shiftRight_eq_div_pow]
            omega
          rw [← sum_add_mul_half] at rest
          exact ih _ smaller (by rw [BitVec.msb_sshiftRight, nonnegative]) values' rest rfl

end Blocks

section Run

variable {shifts : Shifts} {data : Image} {x y : Word}

/-- The program has ended behind address 17 with the product in address 1002. -/
def Multiplied (data : Image) (x y : Word) (final : State) : Prop :=
  final.halted = true ∧ final.reportedPc = 17#32 ∧
    final.mem = Function.update (multiplicationImage data x y) 1002#16 (x * y)

theorem msb_absolute (ordinary : y ≠ 0x80000000#32) :
    (if (0#32).slt y then y else 0#32 - y).msb = false := by
  cases positive : (0#32).slt y with
  | true =>
      rw [BitVec.slt_iff_toInt_lt] at positive
      simpa [BitVec.msb_eq_toInt] using Int.le_of_lt positive
  | false =>
      by_cases zero : y = 0#32
      · subst zero
        decide
      · have negative : y.msb = true := by
          rw [← Bool.not_eq_true, BitVec.slt_iff_toInt_lt] at positive
          have nonzero : y.toInt ≠ 0 := by
            intro none
            exact zero (BitVec.eq_of_toInt_eq none)
          rw [BitVec.toInt_zero] at positive
          rw [BitVec.msb_eq_toInt, decide_eq_true_eq]
          omega
        rw [if_neg (by simp), BitVec.zero_sub, BitVec.msb_neg, negative]
        have notLowest : y ≠ BitVec.intMin 32 := ordinary
        simp [zero, notLowest]

theorem signed_product (x y : Word) :
    (if (if (0#32).slt y then 0#32 else 1#32) = 0#32
      then 0#32 + x * (if (0#32).slt y then y else 0#32 - y)
      else 0#32 - (0#32 + x * (if (0#32).slt y then y else 0#32 - y))) = x * y := by
  cases (0#32).slt y with
  | true => simp
  | false => simp

theorem reaches_multiplied (ordinary : y ≠ 0x80000000#32) :
    Reaches (next shifts) (Multiplied data x y) (init (multiplicationImage data x y)) := by
  refine runs_start ?_ ⟨rfl, rfl⟩ 0#32
  intro regs values
  apply runs_loop (msb_absolute ordinary) values
  intro regs count
  refine ⟨rfl, (by decide : Word.ofAddress 18#16 - 1#32 = 17#32), ?_⟩
  rw [signed_product]
  rfl

/-- The loop is entered with a negative multiplier. -/
def Negative (data : Image) (x y : Word) (state : State) : Prop :=
  ∃ regs count multiplicand multiplier sum sign,
    state = running 7#16 regs (multiplicationImage data x y) count ∧
      Variables regs multiplicand multiplier sum sign ∧ multiplier.msb = true

/-- A negative multiplier stays negative. -/
theorem negative_returns (state : State) (negative : Negative data x y state) :
    ∃ state', next shifts state = some state' ∧
      Reaches (next shifts) (Negative data x y) state' := by
  obtain ⟨regs, count, multiplicand, multiplier, sum, sign, rfl, values, msb⟩ := negative
  have notDone : multiplier ≠ 0#32 := by
    rintro rfl
    simp at msb
  have notTaken : Arch.taken shifts (multiplicationFields 7#16) regs = false :=
    (Arch.taken_jeq rfl).trans (decide_eq_false fun equal =>
      notDone ((values.multiplier.symm.trans equal).trans values.low.1))
  refine ⟨_, next_notTaken (fetched_multiplication (by decide)) (by decide) rfl values.low
    notTaken count, ?_⟩
  refine runs_round values ?_ values.low (count + 1#32)
  intro regs' values' _ count'
  exact Reaches.here ⟨regs', count', _, _, _, _, rfl, values',
    BitVec.msb_sshiftRight.trans msb⟩

theorem reaches_negative :
    Reaches (next shifts) (Negative data x 0x80000000#32)
      (init (multiplicationImage data x 0x80000000#32)) := by
  refine runs_start ?_ ⟨rfl, rfl⟩ 0#32
  intro regs values _ count
  exact Reaches.here ⟨regs, count, _, _, _, _, rfl, values, by decide⟩

/-- The multiplication ends unless the multiplier is its own negation, and where it ends
the product is the only word that has changed. -/
theorem multiplies (shifts : Shifts) (data : Image) (x y : Word) :
    ((∃ steps final,
        runFor (next shifts) steps (init (multiplicationImage data x y)) = some final ∧
          final.halted = true ∧ final.reportedPc = 17#32) ↔ y ≠ 0x80000000#32) ∧
      ∀ steps final,
        runFor (next shifts) steps (init (multiplicationImage data x y)) = some final →
        final.halted = true →
        final.reportedPc = 17#32 ∧
          final.mem = Function.update (multiplicationImage data x y) 1002#16 (x * y) := by
  have ends {steps : Nat} {final : State}
      (run : runFor (next shifts) steps (init (multiplicationImage data x y)) = some final)
      (halted : final.halted = true) : y ≠ 0x80000000#32 := by
    rintro rfl
    obtain ⟨beyond, further⟩ :=
      reaches_negative.exists_runFor (runFor_of_return negative_returns (steps + 1))
    obtain ⟨last, reached, step⟩ := exists_of_runFor_succ further
    rw [run] at reached
    cases reached
    rw [next_of_halted halted] at step
    cases step
  refine ⟨⟨?_, ?_⟩, ?_⟩
  · rintro ⟨steps, final, run, halted, -⟩
    exact ends run halted
  · intro ordinary
    obtain ⟨steps, final, run, halted, pc, -⟩ := reaches_multiplied ordinary
    exact ⟨steps, final, run, halted, pc⟩
  · intro steps final run halted
    obtain ⟨-, pc, mem⟩ := (reaches_multiplied (ends run halted)).of_end
      (fun last multiplied => next_of_halted multiplied.1) run (next_of_halted halted)
    exact ⟨pc, mem⟩

end Run

end SimpleProcessor.Iss
