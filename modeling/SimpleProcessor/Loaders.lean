import SimpleProcessor.Lib.Stdio
import SimpleProcessor.Llsim.BitFields

/-!
# Program files

The assembler writes a program as text, one word a line.  The instruction-set
simulator reads it back string by string and checks every string; the two
processors convert numbers until the end of the file and check nothing.
-/

namespace SimpleProcessor

open Stdio

/-- What a loader makes of a file: it reports an error and ends the program, or it
leaves a memory and counts lines. -/
inductive Load (μ : Type) where
  | rejected
  | accepted (memory : μ) (lines : Nat)

/-- A zero word after a conversion: `%x` stores a number modulo 2^32, and nothing when it
finds none. -/
def Word.scanned (number : Option Int) : Word := (number.map (BitVec.ofInt 32)).getD 0#32

namespace Asm

/-- `fprintf(fp, "%08x\n", word)` -/
def line (word : Word) : Text := printHex 8 word.toNat ++ ['\n']

/-- The output loop of `assemble_program`. -/
def output (mem : Image) (lastAddr : Nat) : Text :=
  (List.range lastAddr).flatMap fun addr => line (mem (.ofNat 16 addr))

end Asm

namespace Iss

/-- The loop of `main` over the strings of the file.  The index is not checked, and a word
is stored behind `mem` when the string has a number. -/
def loadStrings : List Text → Nat → Image → Checked (Load Image)
  | [], memIndex, mem => .ok (.accepted mem memIndex)
  | lineBuffer :: rest, memIndex, mem =>
      match sscanfHex 8 lineBuffer with
      | none => .ok .rejected
      | some number =>
          if memIndex < 65536 then
            loadStrings rest (memIndex + 1)
              (Function.update mem (.ofNat 16 memIndex) (Word.scanned (some number)))
          else .error .outOfBounds

/-- The strings that `fgets` reads into a buffer of `CMD_SIZE` characters. -/
def strings (file : Text) : List Text := fgetsAll 31 file

/-- The loader of `main`. -/
def load (file : Text) : Checked (Load Image) := loadStrings (strings file) 0 fun _ => 0#32

end Iss

/-- The first loop of `sp_generate_sram_memory_image`, with room for that many words of
`memory_image`.  Every call of `fscanf` tries to read behind what it uses, so that `feof`
holds when nothing is left. -/
def readMemoryImage : Nat → Text → List Word
  | 0, _ => []
  | room + 1, file =>
      Word.scanned (fscanfHex 8 file).1 ::
        if (fscanfHex 8 file).2 = [] then []
        else readMemoryImage room (fscanfHex 8 file).2

/-- The words of a memory. -/
def WordArray.image (array : WordArray) : Image := fun addr => array.data addr.toNat

namespace MultiCycle

/-- `sp_generate_sram_memory_image` -/
def load (file : Text) : Checked (Load Image) := do
  let memoryImage := readMemoryImage spSramHeight.toNat file
  let sram ← spGenerateSramMemoryImage memoryImage
  .ok (.accepted sram.image memoryImage.length)

end MultiCycle

namespace Pipeline

/-- The second loop of `sp_generate_sram_memory_image`. -/
def injectImages : List Word → Nat → WordArray → WordArray → Checked (WordArray × WordArray)
  | [], _, srami, sramd => .ok (srami, sramd)
  | word :: rest, i, srami, sramd => do
      let srami ← llsimMemInject srami i word 31 0
      let sramd ← llsimMemInject sramd i word 31 0
      injectImages rest (i + 1) srami sramd

/-- `sp_generate_sram_memory_image`, into both memories. -/
def load (file : Text) : Checked (Load (Image × Image)) := do
  let memoryImage := readMemoryImage spSramHeight.toNat file
  let cleared : WordArray := ⟨spSramHeight.toNat, fun _ => 0#32⟩
  let (srami, sramd) ← injectImages memoryImage 0 cleared cleared
  .ok (.accepted (srami.image, sramd.image) memoryImage.length)

theorem injectImages_same (words : List Word) (i : Nat) (sram : WordArray) :
    injectImages words i sram sram = (injectImage words i sram).map fun sram => (sram, sram) := by
  induction words generalizing i sram with
  | nil => rfl
  | cons word rest ih =>
      rw [injectImages, injectImage]
      cases injected : llsimMemInject sram i word 31 0 with
      | error fault => rfl
      | ok sram' => exact ih (i + 1) sram'

theorem load_eq (file : Text) :
    load file = (MultiCycle.load file).map fun
      | .rejected => .rejected
      | .accepted image lines => .accepted (image, image) lines := by
  rw [load, MultiCycle.load, spGenerateSramMemoryImage]
  simp only [injectImages_same]
  cases injectImage (readMemoryImage spSramHeight.toNat file) 0
    ⟨spSramHeight.toNat, fun _ => 0#32⟩ <;> rfl

end Pipeline

/-- A memory after words were stored from an index on. -/
def stored (words : List Word) (i : Nat) (mem : Image) : Image := fun addr =>
  if i ≤ addr.toNat ∧ addr.toNat < i + words.length then words.getD (addr.toNat - i) 0#32
  else mem addr

/-- A memory with words at its start and zeros behind them. -/
def imageOf (words : List Word) : Image := fun addr => words.getD addr.toNat 0#32

/-- Words, and the sign extension of the last one behind them. -/
def withSign (words : List Word) : List Word :=
  words ++ [(words.getLastD 0#32).sshiftRight 31]

theorem sshiftRight_31 (word : Word) :
    word.sshiftRight 31 = if word.msb then BitVec.allOnes 32 else 0#32 := by
  apply BitVec.eq_of_getLsbD_eq
  intro i bound
  have sign : (word.sshiftRight 31).getLsbD i = word.msb := by
    have inside : ¬ 32 ≤ i := by omega
    rw [BitVec.getLsbD_sshiftRight, BitVec.msb_eq_getLsbD_last]
    rcases Nat.eq_zero_or_pos i with rfl | positive
    · simp
    · have beyond : ¬ 31 + i < 32 := by omega
      simp [inside, beyond]
  rw [sign]
  split
  next negative => rw [BitVec.getLsbD_allOnes, negative, decide_eq_true bound]
  next nonnegative => simpa using nonnegative

theorem stored_nil (i : Nat) (mem : Image) : stored [] i mem = mem := by
  funext addr
  rw [stored, if_neg (by simp)]

theorem stored_cons {i : Nat} (room : i < 65536) (word : Word) (rest : List Word)
    (mem : Image) :
    stored rest (i + 1) (Function.update mem (.ofNat 16 i) word) =
      stored (word :: rest) i mem := by
  have index : (BitVec.ofNat 16 i).toNat = i := by
    rw [BitVec.toNat_ofNat, Nat.mod_eq_of_lt room]
  funext addr
  simp only [stored, List.length_cons]
  by_cases here : addr = BitVec.ofNat 16 i
  · subst here
    rw [index, if_neg (by omega), if_pos (by omega), Function.update_self, Nat.sub_self]
    rfl
  · have other : addr.toNat ≠ i := by
      intro same
      exact here (BitVec.eq_of_toNat_eq (same.trans index.symm))
    rw [Function.update_of_ne here]
    by_cases inside : i + 1 ≤ addr.toNat ∧ addr.toNat < i + 1 + rest.length
    · have next : addr.toNat - i = addr.toNat - (i + 1) + 1 := by omega
      rw [if_pos inside, if_pos (by omega), next, List.getD_cons_succ]
    · rw [if_neg inside, if_neg (by omega)]

theorem stored_zero (words : List Word) : stored words 0 (fun _ => 0#32) = imageOf words := by
  funext addr
  rw [stored, imageOf, Nat.sub_zero, Nat.zero_add]
  by_cases inside : addr.toNat < words.length
  · rw [if_pos ⟨Nat.zero_le _, inside⟩]
  · rw [if_neg (by omega), List.getD_eq_default _ _ (by omega)]

namespace Iss

/-- The numbers with which strings begin. -/
def leading (lineBuffers : List Text) : List Word :=
  lineBuffers.map fun lineBuffer => Word.scanned (sscanfHex 8 lineBuffer)

theorem loadStrings_eq_accepted {lineBuffers : List Text} {memIndex lines : Nat}
    {mem image : Image} (inside : memIndex ≤ 65536) :
    loadStrings lineBuffers memIndex mem = .ok (.accepted image lines) ↔
      (∀ lineBuffer ∈ lineBuffers, (sscanfHex 8 lineBuffer).isSome = true) ∧
      memIndex + lineBuffers.length ≤ 65536 ∧
      stored (leading lineBuffers) memIndex mem = image ∧
      memIndex + lineBuffers.length = lines := by
  induction lineBuffers generalizing memIndex mem with
  | nil => simp [loadStrings, inside, stored_nil, leading]
  | cons lineBuffer rest ih =>
      rw [loadStrings, List.forall_mem_cons]
      cases found : sscanfHex 8 lineBuffer with
      | none => simp
      | some number =>
          have length : memIndex + 1 + rest.length = memIndex + (rest.length + 1) := by omega
          have leading' : leading (lineBuffer :: rest) =
              Word.scanned (some number) :: leading rest := by
            rw [leading, List.map_cons, found, leading]
          simp only [leading', List.length_cons]
          by_cases room : memIndex < 65536
          · rw [if_pos room, ih room, stored_cons room, length]
            simp
          · rw [if_neg room]
            simp
            omega

theorem load_eq_accepted {file : Text} {image : Image} {lines : Nat} :
    load file = .ok (.accepted image lines) ↔
      (∀ lineBuffer ∈ strings file, (sscanfHex 8 lineBuffer).isSome = true) ∧
      (strings file).length ≤ 65536 ∧ imageOf (leading (strings file)) = image ∧
      (strings file).length = lines := by
  rw [load, loadStrings_eq_accepted (Nat.zero_le _), Nat.zero_add, stored_zero]

end Iss

theorem readMemoryImage_ne_nil (file : Text) :
    readMemoryImage spSramHeight.toNat file ≠ [] :=
  List.cons_ne_nil _ _

theorem image_injected {words : List Word} (nonempty : words ≠ []) {sram : WordArray}
    (data : ∀ k, sram.data k =
      if k < 0 then 0#32
      else if k < 0 + words.length then words.getD (k - 0) 0#32
      else if k = 0 + words.length ∧ (words.getLast nonempty).msb = true then
        BitVec.allOnes 32
      else 0#32) :
    sram.image = imageOf (withSign words) := by
  have last : words.getLastD 0#32 = words.getLast nonempty := by
    rw [List.getLastD_eq_getLast?, List.getLast?_eq_some_getLast nonempty,
      Option.getD_some]
  funext addr
  rw [WordArray.image, data, imageOf, withSign, last, sshiftRight_31,
    if_neg (Nat.not_lt_zero _), Nat.zero_add, Nat.sub_zero]
  by_cases inside : addr.toNat < words.length
  · rw [if_pos inside, List.getD_append _ _ _ _ inside]
  · rw [if_neg inside, List.getD_append_right _ _ _ _ (by omega)]
    by_cases behind : addr.toNat = words.length
    · simp [behind]
    · have far : [if (words.getLast nonempty).msb then BitVec.allOnes 32 else 0#32].length ≤
          addr.toNat - words.length := by
        simp only [List.length_singleton]
        omega
      rw [List.getD_eq_default _ _ far, if_neg (by simp [behind])]

namespace MultiCycle

/-- What the processors load, from any file with room for one more word. -/
theorem load_eq_accepted {file : Text} {image : Image} {lines : Nat} :
    load file = .ok (.accepted image lines) ↔
      (readMemoryImage spSramHeight.toNat file).length < 65536 ∧
      imageOf (withSign (readMemoryImage spSramHeight.toNat file)) = image ∧
      (readMemoryImage spSramHeight.toNat file).length = lines := by
  have nonempty := readMemoryImage_ne_nil file
  rw [load]
  generalize readMemoryImage spSramHeight.toNat file = words at nonempty
  have loads (room : words.length < 65536) :
      ∃ sram, spGenerateSramMemoryImage words = .ok sram ∧
        sram.image = imageOf (withSign words) := by
    have fits : 0 + words.length <
        (WordArray.mk spSramHeight.toNat fun _ => 0#32).height := by
      rw [Nat.zero_add]
      exact room
    obtain ⟨sram, loaded, data⟩ := injectImage_eq nonempty fits
    exact ⟨sram, loaded, image_injected nonempty data⟩
  constructor
  · intro accepted
    obtain ⟨sram, loaded, rest⟩ := Checked.bind_eq_ok.mp accepted
    have room := lt_height_of_injectImage nonempty loaded
    have room' : words.length < 65536 := by
      rw [Nat.zero_add] at room
      exact room
    obtain ⟨sram', loaded', image⟩ := loads room'
    rw [loaded] at loaded'
    cases loaded'
    cases rest
    exact ⟨room', image.symm, rfl⟩
  · rintro ⟨room, rfl, rfl⟩
    obtain ⟨sram, loaded, image⟩ := loads room
    rw [loaded, Checked.ok_bind, image]

theorem load_ne_rejected (file : Text) : load file ≠ .ok .rejected := by
  intro rejected
  obtain ⟨sram, loaded, rest⟩ := Checked.bind_eq_ok.mp rejected
  cases rest

end MultiCycle

namespace Pipeline

theorem load_eq_accepted {file : Text} {memories : Image × Image} {lines : Nat} :
    load file = .ok (.accepted memories lines) ↔
      ∃ image, MultiCycle.load file = .ok (.accepted image lines) ∧ (image, image) = memories := by
  rw [load_eq]
  cases loaded : MultiCycle.load file with
  | error fault => simp [Except.map]
  | ok result =>
      cases result with
      | rejected => simp [Except.map]
      | accepted image lines' =>
          simp only [Except.map, Except.ok.injEq, Load.accepted.injEq]
          constructor
          · rintro ⟨rfl, rfl⟩
            exact ⟨image, ⟨rfl, rfl⟩, rfl⟩
          · rintro ⟨_, ⟨rfl, rfl⟩, rfl⟩
            exact ⟨rfl, rfl⟩

end Pipeline

end SimpleProcessor
