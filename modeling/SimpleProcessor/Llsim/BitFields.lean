import SimpleProcessor.Llsim.Memory
import SimpleProcessor.Lib.BitArray

/-!
# Bit fields of memory words

The loader writes the words of a program through `llsim_mem_inject`, which
replaces a bit field by a 64-bit load and store.  The mask of the inserted bits
is a 32-bit `int`: when the field ends at bit 31 of the access, a set top bit is
its sign, and the extension to 64 bits sets the whole next word.
-/

namespace SimpleProcessor

/-- `lbitmask0` -/
def lbitmask0 (bits : Nat) : BitVec 64 :=
  if bits = 64 then -1#64 else (1#64 <<< bits) - 1#64

/-- `lbitmask` -/
def lbitmask (msb lsb : Nat) : BitVec 64 := lbitmask0 (msb - lsb + 1) <<< lsb

/-- `lsbs` -/
def lsbs (val : BitVec 64) (msb lsb : Nat) : BitVec 64 :=
  if msb = 63 ∧ lsb = 0 then val
  else val.sshiftRight lsb &&& lbitmask0 (msb - lsb + 1)

/-- `lrbs`.  The second operand of `|` is an `int`. -/
def lrbs (val : BitVec 64) (data : Word) (msb lsb : Nat) : BitVec 64 :=
  (val &&& ~~~lbitmask msb lsb) ||| ((data <<< lsb) &&& bitmask msb lsb).signExtend 64

/-- The array of a memory with 32-bit entries: `height` and `data`. -/
structure WordArray where
  height : Nat
  data : Nat → Word

namespace WordArray

/-- A load through an `i64` pointer, at a byte offset from `data`. -/
def loadI64 (array : WordArray) (byte : Nat) : Checked (BitVec 64) :=
  if byte + 8 ≤ 4 * array.height then .ok (BitArray.load 64 array.data (8 * byte))
  else .error .outOfBounds

/-- A store through an `i64` pointer. -/
def storeI64 (array : WordArray) (byte : Nat) (val64 : BitVec 64) : Checked WordArray :=
  if byte + 8 ≤ 4 * array.height then
    .ok { array with data := BitArray.store array.data (8 * byte) val64 }
  else .error .outOfBounds

end WordArray

/-- `generic_extract_bits`, with the pointer as a byte offset. -/
def genericExtractBits (array : WordArray) (p msb lsb : Nat) : Checked Word := do
  let bytePos := lsb / 8
  let val64 ← array.loadI64 (p + bytePos)
  .ok ((lsbs val64 (msb - bytePos * 8) (lsb - bytePos * 8)).setWidth 32)

/-- `generic_inject_bits` -/
def genericInjectBits (array : WordArray) (p : Nat) (data : Word) (msb lsb : Nat) :
    Checked WordArray := do
  let bytePos := lsb / 8
  let val64 ← array.loadI64 (p + bytePos)
  array.storeI64 (p + bytePos) (lrbs val64 data (msb - bytePos * 8) (lsb - bytePos * 8))

/-- `llsim_mem_inject`; `entry_size` is 1. -/
def llsimMemInject (memory : WordArray) (addr : Nat) (val : Word) (msb lsb : Nat) :
    Checked WordArray :=
  genericInjectBits memory (4 * addr) val msb lsb

/-- `llsim_mem_extract` -/
def llsimMemExtract (memory : WordArray) (addr msb lsb : Nat) : Checked Word :=
  genericExtractBits memory (4 * addr) msb lsb

/-- The loop of `sp_generate_sram_memory_image` over the words read from the file. -/
def injectImage : List Word → Nat → WordArray → Checked WordArray
  | [], _, sram => .ok sram
  | word :: rest, i, sram => do
      let sram ← llsimMemInject sram i word 31 0
      injectImage rest (i + 1) sram

/-- `sp_generate_sram_memory_image`, into the cleared memory. -/
def spGenerateSramMemoryImage (memoryImage : List Word) : Checked WordArray :=
  injectImage memoryImage 0 ⟨spSramHeight.toNat, fun _ => 0#32⟩

section Masks

variable {msb lsb : Nat}

theorem getLsbD_bitmask0 {bits : Nat} (bound : bits ≤ 32) (i : Nat) :
    (bitmask0 bits).getLsbD i = decide (i < bits) := by
  by_cases full : bits = 32
  · rw [bitmask0, if_pos full, BitVec.neg_one_eq_allOnes, BitVec.getLsbD_allOnes, full]
  · rw [bitmask0, if_neg full, BitArray.getLsbD_lowOnes (by omega)]

theorem getLsbD_lbitmask0 {bits : Nat} (bound : bits ≤ 64) (i : Nat) :
    (lbitmask0 bits).getLsbD i = decide (i < bits) := by
  by_cases full : bits = 64
  · rw [lbitmask0, if_pos full, BitVec.neg_one_eq_allOnes, BitVec.getLsbD_allOnes, full]
  · rw [lbitmask0, if_neg full, BitArray.getLsbD_lowOnes (by omega)]

theorem getLsbD_bitmask (order : lsb ≤ msb) (bound : msb ≤ 31) (i : Nat) :
    (bitmask msb lsb).getLsbD i = decide (lsb ≤ i ∧ i ≤ msb) := by
  rw [bitmask, BitVec.getLsbD_shiftLeft, getLsbD_bitmask0 (by omega), Bool.eq_iff_iff]
  simp only [Bool.and_eq_true, Bool.not_eq_true', decide_eq_true_eq, decide_eq_false_iff_not]
  omega

theorem getLsbD_lbitmask (order : lsb ≤ msb) (bound : msb ≤ 63) (i : Nat) :
    (lbitmask msb lsb).getLsbD i = decide (lsb ≤ i ∧ i ≤ msb) := by
  rw [lbitmask, BitVec.getLsbD_shiftLeft, getLsbD_lbitmask0 (by omega), Bool.eq_iff_iff]
  simp only [Bool.and_eq_true, Bool.not_eq_true', decide_eq_true_eq, decide_eq_false_iff_not]
  omega

theorem getLsbD_lsbs (val : BitVec 64) (order : lsb ≤ msb) (bound : msb ≤ 31) (i : Nat) :
    (lsbs val msb lsb).getLsbD i = (decide (i ≤ msb - lsb) && val.getLsbD (lsb + i)) := by
  have notFull : ¬ (msb = 63 ∧ lsb = 0) := by omega
  rw [lsbs, if_neg notFull, BitVec.getLsbD_and, getLsbD_lbitmask0 (by omega)]
  by_cases inside : i ≤ msb - lsb
  · have noSign : lsb + i < 64 := by omega
    have small : ¬ 64 ≤ i := by omega
    have field : i < msb - lsb + 1 := by omega
    simp [BitVec.getLsbD_sshiftRight, noSign, small, inside, field]
  · have outside : ¬ i < msb - lsb + 1 := by omega
    simp [inside, outside]

theorem getLsbD_inserted (data : Word) (order : lsb ≤ msb) (bound : msb ≤ 31) {i : Nat}
    (small : i < 64) :
    (((data <<< lsb) &&& bitmask msb lsb).signExtend 64).getLsbD i =
      if i < 32 then decide (lsb ≤ i ∧ i ≤ msb) && data.getLsbD (i - lsb)
      else decide (msb = 31) && data.getLsbD (31 - lsb) := by
  have field (j : Nat) (low : j < 32) : ((data <<< lsb) &&& bitmask msb lsb).getLsbD j =
      (decide (lsb ≤ j ∧ j ≤ msb) && data.getLsbD (j - lsb)) := by
    rw [BitVec.getLsbD_and, BitVec.getLsbD_shiftLeft, getLsbD_bitmask order bound]
    by_cases inside : lsb ≤ j ∧ j ≤ msb
    · have notBelow : ¬ j < lsb := by omega
      simp [inside, notBelow, low]
    · simp [inside]
  rw [BitVec.getLsbD_signExtend, BitVec.msb_eq_getLsbD_last, field 31 (by omega)]
  simp only [small, decide_true, Bool.true_and]
  split
  next low => rw [field i low]
  next =>
    congr 1
    rw [decide_eq_decide]
    omega

/-- `lrbs` replaces the field, and sets the upper half when the field ends with a set
bit 31. -/
theorem getLsbD_lrbs (val : BitVec 64) (data : Word) (order : lsb ≤ msb) (bound : msb ≤ 31)
    {i : Nat} (small : i < 64) :
    (lrbs val data msb lsb).getLsbD i =
      if lsb ≤ i ∧ i ≤ msb then data.getLsbD (i - lsb)
      else val.getLsbD i || (decide (32 ≤ i ∧ msb = 31) && data.getLsbD (31 - lsb)) := by
  rw [lrbs, BitVec.getLsbD_or, BitVec.getLsbD_and, BitVec.getLsbD_not,
    getLsbD_lbitmask order (by omega), getLsbD_inserted data order bound small]
  by_cases inside : lsb ≤ i ∧ i ≤ msb
  · have low : i < 32 := by omega
    simp [inside, low]
  · by_cases low : i < 32
    · have notHigh : ¬ 32 ≤ i := by omega
      simp [inside, low, notHigh, small]
    · have high : 32 ≤ i := by omega
      simp [inside, low, high, small]

theorem bit_lrbs (data : Nat → Word) (offset : Nat) (val : Word) (order : lsb ≤ msb)
    (bound : msb ≤ 31) (j : Nat) :
    BitArray.bit
        (BitArray.store data offset (lrbs (BitArray.load 64 data offset) val msb lsb)) j =
      if offset + lsb ≤ j ∧ j ≤ offset + msb then val.getLsbD (j - (offset + lsb))
      else BitArray.bit data j ||
        (decide (offset + 32 ≤ j ∧ j < offset + 64 ∧ msb = 31) && val.getLsbD (31 - lsb)) := by
  rw [BitArray.bit_store (by decide)]
  by_cases window : offset ≤ j ∧ j < offset + 64
  · obtain ⟨i, rfl⟩ := Nat.exists_eq_add_of_le window.1
    have small : i < 64 := by omega
    rw [if_pos window, Nat.add_sub_cancel_left, getLsbD_lrbs _ _ order bound small,
      BitArray.getLsbD_load _ _ small]
    by_cases inside : lsb ≤ i ∧ i ≤ msb
    · have index : offset + i - (offset + lsb) = i - lsb := by omega
      rw [if_pos inside, if_pos (by omega), index]
    · have upper : offset + 32 ≤ offset + i ∧ offset + i < offset + 64 ∧ msb = 31 ↔
          32 ≤ i ∧ msb = 31 := by omega
      rw [if_neg inside, if_neg (by omega), decide_eq_decide.mpr upper]
  · rw [if_neg window, if_neg (by omega), decide_eq_false (by omega), Bool.false_and,
      Bool.or_false]

end Masks

/-! ## The effect on the words -/

/-- A field that ends at bit 31 and starts in the first byte, filled with a set top bit. -/
def spills (val : Word) (msb lsb : Nat) : Bool :=
  msb = 31 && decide (lsb < 8) && val.getLsbD (31 - lsb)

/-- The 64-bit access to a field stays inside the array. -/
def WordArray.Covers (array : WordArray) (addr lsb : Nat) : Prop :=
  4 * addr + lsb / 8 + 8 ≤ 4 * array.height

private theorem getLsbD_ones {i : Nat} (low : i < 32) :
    (BitVec.allOnes 32).getLsbD i = true := by
  rw [BitVec.getLsbD_allOnes, decide_eq_true low]

section Words

variable {memory : WordArray} {addr msb lsb : Nat}

theorem llsimMemInject_bits (covers : memory.Covers addr lsb) (val : Word) (order : lsb ≤ msb)
    (bound : msb ≤ 31) :
    ∃ memory', llsimMemInject memory addr val msb lsb = .ok memory' ∧
      memory'.height = memory.height ∧
      ∀ k i, i < 32 → (memory'.data k).getLsbD i =
        if k = addr ∧ lsb ≤ i ∧ i ≤ msb then val.getLsbD (i - lsb)
        else (memory.data k).getLsbD i || (decide (k = addr + 1) && spills val msb lsb) := by
  simp only [WordArray.Covers] at covers
  simp only [llsimMemInject, genericInjectBits, WordArray.loadI64, WordArray.storeI64,
    if_pos covers, Checked.ok_bind]
  refine ⟨_, rfl, rfl, ?_⟩
  intro k i low
  have first : 8 * (4 * addr + lsb / 8) + (lsb - lsb / 8 * 8) = 32 * addr + lsb := by omega
  have last : 8 * (4 * addr + lsb / 8) + (msb - lsb / 8 * 8) = 32 * addr + msb := by omega
  rw [← BitArray.bit_eq _ k low, bit_lrbs _ _ _ (by omega) (by omega), first, last,
    BitArray.bit_eq _ k low]
  by_cases inside : k = addr ∧ lsb ≤ i ∧ i ≤ msb
  · have here : 32 * addr + lsb ≤ 32 * k + i ∧ 32 * k + i ≤ 32 * addr + msb := by omega
    have index : 32 * k + i - (32 * addr + lsb) = i - lsb := by omega
    rw [if_pos here, if_pos inside, index]
  · have elsewhere : ¬ (32 * addr + lsb ≤ 32 * k + i ∧ 32 * k + i ≤ 32 * addr + msb) := by
      omega
    rw [if_neg elsewhere, if_neg inside]
    congr 1
    by_cases ends : msb = 31 ∧ lsb < 8
    · have upper : 8 * (4 * addr + lsb / 8) + 32 ≤ 32 * k + i ∧
          32 * k + i < 8 * (4 * addr + lsb / 8) + 64 ∧ msb - lsb / 8 * 8 = 31 ↔
            k = addr + 1 := by omega
      have top : 31 - (lsb - lsb / 8 * 8) = 31 - lsb := by omega
      have sign : spills val msb lsb = val.getLsbD (31 - lsb) := by simp [spills, ends]
      rw [decide_eq_decide.mpr upper, top, sign]
    · have notUpper : ¬ (8 * (4 * addr + lsb / 8) + 32 ≤ 32 * k + i ∧
          32 * k + i < 8 * (4 * addr + lsb / 8) + 64 ∧ msb - lsb / 8 * 8 = 31) := by omega
      have silent : spills val msb lsb = false := by
        simp only [spills, Bool.and_eq_false_iff, decide_eq_false_iff_not]
        omega
      rw [silent, decide_eq_false notUpper, Bool.and_false, Bool.false_and]

/-- An extraction reads the field. -/
theorem llsimMemExtract_eq (covers : memory.Covers addr lsb) (order : lsb ≤ msb)
    (bound : msb ≤ 31) {field : Word}
    (bits : ∀ i, i ≤ msb - lsb → (memory.data addr).getLsbD (lsb + i) = field.getLsbD i) :
    llsimMemExtract memory addr msb lsb =
      .ok ((field.setWidth (msb - lsb + 1)).setWidth 32) := by
  simp only [WordArray.Covers] at covers
  simp only [llsimMemExtract, genericExtractBits, WordArray.loadI64, if_pos covers,
    Checked.ok_bind]
  congr 1
  apply BitVec.eq_of_getLsbD_eq
  intro i low
  have order' : lsb - lsb / 8 * 8 ≤ msb - lsb / 8 * 8 := by omega
  rw [BitVec.getLsbD_setWidth, getLsbD_lsbs _ order' (by omega), BitVec.getLsbD_setWidth,
    BitVec.getLsbD_setWidth]
  by_cases inside : i ≤ msb - lsb
  · have inside' : i ≤ msb - lsb / 8 * 8 - (lsb - lsb / 8 * 8) := by omega
    have small : lsb - lsb / 8 * 8 + i < 64 := by omega
    have index : 8 * (4 * addr + lsb / 8) + (lsb - lsb / 8 * 8 + i) = 32 * addr + (lsb + i) := by
      omega
    have short : i < msb - lsb + 1 := by omega
    rw [BitArray.getLsbD_load _ _ small, index, BitArray.bit_eq _ _ (by omega), bits i inside,
      decide_eq_true inside', decide_eq_true short, Bool.true_and]
  · have outside : ¬ i ≤ msb - lsb / 8 * 8 - (lsb - lsb / 8 * 8) := by omega
    have long : ¬ i < msb - lsb + 1 := by omega
    rw [decide_eq_false outside, decide_eq_false long, Bool.false_and, Bool.false_and]

/-- An injection that succeeds stays inside the array. -/
theorem covers_of_ok {val : Word} {memory' : WordArray}
    (injected : llsimMemInject memory addr val msb lsb = .ok memory') :
    memory.Covers addr lsb := by
  by_contra outside
  simp only [WordArray.Covers] at outside
  simp [llsimMemInject, genericInjectBits, WordArray.loadI64, if_neg outside] at injected

/-- The word behind an accessed one decides whether the access stays inside. -/
theorem covers_iff (next : addr + 1 < memory.height) (bound : lsb ≤ 31) :
    memory.Covers addr lsb ↔ lsb < 8 ∨ addr + 2 < memory.height := by
  simp only [WordArray.Covers]
  omega

end Words

/-- An injection changes its field only, and an extraction reads the field back. -/
def InjectsField (memory : WordArray) (addr : Nat) (val : Word) (msb lsb : Nat) : Prop :=
  ∃ memory', llsimMemInject memory addr val msb lsb = .ok memory' ∧
    (∀ i, lsb ≤ i → i ≤ msb → (memory'.data addr).getLsbD i = val.getLsbD (i - lsb)) ∧
    (∀ i, i < 32 → i < lsb ∨ msb < i →
      (memory'.data addr).getLsbD i = (memory.data addr).getLsbD i) ∧
    (∀ k, k < memory.height → k ≠ addr → memory'.data k = memory.data k) ∧
    llsimMemExtract memory' addr msb lsb = .ok ((val.setWidth (msb - lsb + 1)).setWidth 32)

/-- An injection that stays inside the array keeps to its field unless it spills into a
word with a zero bit. -/
theorem injectsField_iff {memory : WordArray} {addr msb lsb : Nat} (val : Word)
    (next : addr + 1 < memory.height) (order : lsb ≤ msb) (bound : msb ≤ 31) :
    InjectsField memory addr val msb lsb ↔
      (lsb < 8 ∨ addr + 2 < memory.height) ∧
        (spills val msb lsb = true → memory.data (addr + 1) = BitVec.allOnes 32) := by
  rw [← covers_iff next (by omega)]
  constructor
  · rintro ⟨memory', injected, -, -, words, -⟩
    have covers := covers_of_ok injected
    refine ⟨covers, ?_⟩
    intro spilled
    obtain ⟨memory'', injected', -, bits⟩ := llsimMemInject_bits covers val order bound
    rw [injected] at injected'
    cases injected'
    rw [← words (addr + 1) next (by omega)]
    apply BitVec.eq_of_getLsbD_eq
    intro i low
    rw [bits (addr + 1) i low, if_neg (by omega), spilled, getLsbD_ones low]
    simp
  · rintro ⟨covers, spilled⟩
    obtain ⟨memory', injected, height, bits⟩ := llsimMemInject_bits covers val order bound
    have field : ∀ i, lsb ≤ i → i ≤ msb →
        (memory'.data addr).getLsbD i = val.getLsbD (i - lsb) := by
      intro i low high
      rw [bits addr i (by omega), if_pos ⟨rfl, low, high⟩]
    refine ⟨memory', injected, field, ?_, ?_, ?_⟩
    · intro i low outside
      rw [bits addr i low, if_neg (by omega)]
      simp
    · intro k _ other
      apply BitVec.eq_of_getLsbD_eq
      intro i low
      rw [bits k i low, if_neg (by omega)]
      by_cases behind : k = addr + 1 ∧ spills val msb lsb = true
      · rw [behind.1, spilled behind.2, getLsbD_ones low, Bool.true_or]
      · have silent : (decide (k = addr + 1) && spills val msb lsb) = false := by
          simpa using behind
        rw [silent, Bool.or_false]
    · apply llsimMemExtract_eq _ order bound
      · intro i inside
        rw [field (lsb + i) (by omega) (by omega), Nat.add_sub_cancel_left]
      · simpa only [WordArray.Covers, height] using covers

/-! ## The loader -/

/-- The loaded words are in the memory and all words behind them are zero. -/
def LoadsImage (memoryImage : List Word) : Prop :=
  ∃ sram, spGenerateSramMemoryImage memoryImage = .ok sram ∧
    (∀ k, k < memoryImage.length → sram.data k = memoryImage.getD k 0#32) ∧
    ∀ k, memoryImage.length ≤ k → k < spSramHeight.toNat → sram.data k = 0#32

section Loader

variable {sram : WordArray} {i : Nat}

theorem llsimMemInject_word (fits : i + 1 < sram.height) (word : Word) :
    ∃ sram', llsimMemInject sram i word 31 0 = .ok sram' ∧ sram'.height = sram.height ∧
      ∀ k, sram'.data k =
        if k = i then word
        else if k = i + 1 ∧ word.msb = true then BitVec.allOnes 32
        else sram.data k := by
  have covers : sram.Covers i 0 := by
    simp only [WordArray.Covers]
    omega
  have sign : spills word 31 0 = word.msb := by
    simp [spills, BitVec.msb_eq_getLsbD_last]
  obtain ⟨sram', injected, height, bits⟩ :=
    llsimMemInject_bits covers word (Nat.zero_le 31) (Nat.le_refl 31)
  refine ⟨sram', injected, height, ?_⟩
  intro k
  apply BitVec.eq_of_getLsbD_eq
  intro j low
  have top : j ≤ 31 := by omega
  rw [bits k j low, sign]
  by_cases here : k = i
  · simp [here, top]
  · by_cases behind : k = i + 1 ∧ word.msb = true
    · rw [if_neg (by omega), if_neg here, if_pos behind, getLsbD_ones low, behind.1, behind.2]
      simp
    · have silent : (decide (k = i + 1) && word.msb) = false := by simpa using behind
      simp [here, behind, silent]

/-- The loop loads its words, and its last one may set the word behind them. -/
theorem injectImage_eq {words : List Word} (nonempty : words ≠ [])
    (fits : i + words.length < sram.height) :
    ∃ sram', injectImage words i sram = .ok sram' ∧
      ∀ k, sram'.data k =
        if k < i then sram.data k
        else if k < i + words.length then words.getD (k - i) 0#32
        else if k = i + words.length ∧ (words.getLast nonempty).msb = true then
          BitVec.allOnes 32
        else sram.data k := by
  induction words generalizing i sram with
  | nil => contradiction
  | cons word rest ih =>
      rw [List.length_cons] at fits
      obtain ⟨sram₁, injected, height, data⟩ := llsimMemInject_word
        (show i + 1 < sram.height by omega) word
      cases rest with
      | nil =>
          refine ⟨sram₁, by rw [injectImage, injected]; rfl, ?_⟩
          intro k
          rw [data k, List.length_singleton, List.getLast_singleton]
          by_cases before : k < i
          · have notHere : k ≠ i := by omega
            have notBehind : ¬ (k = i + 1 ∧ word.msb = true) := by omega
            rw [if_neg notHere, if_neg notBehind, if_pos before]
          · rw [if_neg before]
            by_cases here : k = i
            · simp [here]
            · have behind : ¬ k < i + 1 := by omega
              rw [if_neg here, if_neg behind]
      | cons second rest =>
          obtain ⟨sram', loaded, final⟩ := ih (List.cons_ne_nil second rest)
            (show i + 1 + (second :: rest).length < sram₁.height by omega)
          refine ⟨sram', by rw [injectImage, injected]; exact loaded, ?_⟩
          intro k
          have length : i + 1 + (second :: rest).length =
              i + (word :: second :: rest).length := by
            simp only [List.length_cons]
            omega
          rw [final k, data k, length, List.getLast_cons (List.cons_ne_nil second rest)]
          by_cases before : k < i
          · have notHere : k ≠ i := by omega
            have notBehind : ¬ (k = i + 1 ∧ word.msb = true) := by omega
            rw [if_pos (by omega), if_neg notHere, if_neg notBehind, if_pos before]
          · rw [if_neg before]
            by_cases here : k = i
            · simp [here]
            · have notBefore : ¬ k < i + 1 := by omega
              have index : k - i = k - (i + 1) + 1 := by omega
              rw [if_neg notBefore, index, List.getD_cons_succ]
              by_cases inside : k < i + (word :: second :: rest).length
              · rw [if_pos inside, if_pos inside]
              · have notBehind : ¬ (k = i + 1 ∧ word.msb = true) := by
                  simp only [List.length_cons] at inside
                  omega
                rw [if_neg inside, if_neg inside, if_neg here, if_neg notBehind]

theorem lt_height_of_injectImage {words : List Word} (nonempty : words ≠ [])
    {sram' : WordArray} (loaded : injectImage words i sram = .ok sram') :
    i + words.length < sram.height := by
  induction words generalizing i sram with
  | nil => contradiction
  | cons word rest ih =>
      obtain ⟨sram₁, injected, rest_loaded⟩ := Checked.bind_eq_ok.mp loaded
      have covers := covers_of_ok injected
      simp only [WordArray.Covers] at covers
      obtain ⟨sram₂, injected', height, -⟩ := llsimMemInject_word
        (show i + 1 < sram.height by omega) word
      rw [injected] at injected'
      cases injected'
      cases rest with
      | nil =>
          simp only [List.length_cons, List.length_nil]
          omega
      | cons second rest =>
          have shorter := ih (List.cons_ne_nil second rest) rest_loaded
          rw [height] at shorter
          simp only [List.length_cons] at shorter ⊢
          omega

/-- The loader leaves zeros behind its words when there is room for one more word and its
last word is not negative. -/
theorem loadsImage_iff {memoryImage : List Word} (nonempty : memoryImage ≠ []) :
    LoadsImage memoryImage ↔
      memoryImage.length < spSramHeight.toNat ∧ (memoryImage.getLast nonempty).msb = false := by
  have fits (room : memoryImage.length < spSramHeight.toNat) :
      0 + memoryImage.length < (WordArray.mk spSramHeight.toNat fun _ => 0#32).height := by
    rwa [Nat.zero_add]
  constructor
  · rintro ⟨sram, loaded, -, behind⟩
    have room := lt_height_of_injectImage nonempty loaded
    simp only [Nat.zero_add] at room
    refine ⟨room, ?_⟩
    obtain ⟨sram', loaded', data⟩ := injectImage_eq nonempty (fits room)
    rw [spGenerateSramMemoryImage, loaded'] at loaded
    cases loaded
    have zero := behind memoryImage.length (Nat.le_refl _) room
    rw [data] at zero
    cases sign : (memoryImage.getLast nonempty).msb with
    | false => rfl
    | true =>
        simp [sign] at zero
  · rintro ⟨room, sign⟩
    obtain ⟨sram, loaded, data⟩ := injectImage_eq nonempty (fits room)
    refine ⟨sram, loaded, ?_, ?_⟩
    · intro k inside
      rw [data k, if_neg (Nat.not_lt_zero k), Nat.zero_add, if_pos inside, Nat.sub_zero]
    · intro k behind _
      rw [data k, if_neg (Nat.not_lt_zero k), Nat.zero_add, if_neg (by omega), sign]
      simp

end Loader

/-- The exact effect of the bit-field functions, and of the loader that uses them. -/
theorem bit_field_injection (memory : WordArray) (addr : Nat) (val : Word) (msb lsb : Nat)
    (next : addr + 1 < memory.height) (order : lsb ≤ msb) (bound : msb ≤ 31)
    (memoryImage : List Word) (nonempty : memoryImage ≠ []) :
    (InjectsField memory addr val msb lsb ↔
      (lsb < 8 ∨ addr + 2 < memory.height) ∧
        (spills val msb lsb = true → memory.data (addr + 1) = BitVec.allOnes 32)) ∧
    (LoadsImage memoryImage ↔
      memoryImage.length < spSramHeight.toNat ∧
        (memoryImage.getLast nonempty).msb = false) := by
  constructor
  · exact injectsField_iff val next order bound
  · exact loadsImage_iff nonempty

/-- A field in the middle of a word, and a program of one word. -/
theorem bit_field_injection_small :
    InjectsField ⟨2, fun _ => 7#32⟩ 0 5#32 7 4 ∧ LoadsImage [5#32] := by
  have both := bit_field_injection ⟨2, fun _ => 7#32⟩ 0 5#32 7 4 (by decide) (by decide)
    (by decide) [5#32] (List.cons_ne_nil _ _)
  constructor
  · exact both.1.mpr (by decide)
  · exact both.2.mpr (by decide)

/-- A negative word sets the word behind it. -/
theorem negative_word_spills :
    ((llsimMemInject ⟨2, fun _ => 0#32⟩ 0 0x80000000#32 31 0).map fun memory =>
      memory.data 1).toOption = some 0xffffffff#32 ∧
    ¬ InjectsField ⟨2, fun _ => 0#32⟩ 0 0x80000000#32 31 0 ∧
    ¬ LoadsImage [0x80000000#32] := by
  refine ⟨by decide +kernel, ?_, ?_⟩
  · rw [injectsField_iff _ (by decide) (by decide) (by decide)]
    decide
  · rw [loadsImage_iff (List.cons_ne_nil _ _)]
    decide

end SimpleProcessor
