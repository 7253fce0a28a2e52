import SimpleProcessor.Asm.Instruction
import SimpleProcessor.Loaders

/-!
# Programs survive the file

Every loader reads back the words that the assembler wrote.  The injection of a word
stores 64 bits, so that the processors cannot load the last word of a full memory.
-/

namespace SimpleProcessor

open Stdio

/-- Every loader finds each written word and counts the written lines. -/
structure SurvivesFile (mem : Image) (lastAddr : Nat) : Prop where
  iss : ∃ image, Iss.load (Asm.output mem lastAddr) = .ok (.accepted image lastAddr) ∧
    ∀ addr : Address, addr.toNat < lastAddr → image addr = mem addr
  multiCycle : ∃ image,
    MultiCycle.load (Asm.output mem lastAddr) = .ok (.accepted image lastAddr) ∧
    ∀ addr : Address, addr.toNat < lastAddr → image addr = mem addr
  pipeline : ∃ srami sramd,
    Pipeline.load (Asm.output mem lastAddr) = .ok (.accepted (srami, sramd) lastAddr) ∧
    ∀ addr : Address, addr.toNat < lastAddr → srami addr = mem addr ∧ sramd addr = mem addr

theorem fits_printHex (word : Word) : word.toNat < 16 ^ 8 := word.isLt

theorem scanned_toNat (word : Word) : Word.scanned (some (word.toNat : Int)) = word := by
  rw [Word.scanned, Option.map_some, Option.getD_some, BitVec.ofInt_natCast,
    BitVec.ofNat_toNat, BitVec.setWidth_eq]

theorem sscanfHex_line (word : Word) :
    sscanfHex 8 (Asm.line word) = some (word.toNat : Int) := by
  rw [Asm.line, sscanfHex_printHex (by decide) (fits_printHex word)]

theorem fscanfHex_line (word : Word) (rest : Text) :
    fscanfHex 8 (Asm.line word ++ rest) = (some (word.toNat : Int), skipSpace rest) := by
  rw [Asm.line, List.append_assoc]
  exact fscanfHex_printHex (by decide) (fits_printHex word) rest

theorem Iss.strings_lines (words : List Word) :
    Iss.strings (words.flatMap Asm.line) = words.map Asm.line := by
  induction words with
  | nil => rfl
  | cons word rest ih =>
      have noNewline : ∀ c ∈ printHex 8 word.toNat, c ≠ '\n' := by
        intro c member
        exact ((allDigits_printHex 8 word.toNat).plain c member).notNewline
      have short : (printHex 8 word.toNat).length < 31 := by
        rw [length_printHex (by decide) (fits_printHex word)]
        decide
      rw [Iss.strings] at ih ⊢
      rw [List.flatMap_cons, List.map_cons, ← ih]
      simp only [Asm.line, List.append_assoc, List.singleton_append]
      exact fgetsAll_line noNewline short _

theorem Iss.leading_lines (words : List Word) : Iss.leading (words.map Asm.line) = words := by
  rw [Iss.leading, List.map_map]
  refine (List.map_congr_left ?_).trans (List.map_id words)
  intro word _
  rw [Function.comp_apply, sscanfHex_line, scanned_toNat, id]

theorem skipSpace_lines (words : List Word) :
    skipSpace (words.flatMap Asm.line) = words.flatMap Asm.line := by
  cases words with
  | nil => rfl
  | cons word rest =>
      rw [List.flatMap_cons, Asm.line, List.append_assoc]
      exact skipSpace_digits (allDigits_printHex 8 word.toNat)
        (printHex_ne_nil (by decide) word.toNat) _

theorem readMemoryImage_lines {words : List Word} {room : Nat} (nonempty : words ≠ [])
    (fits : words.length ≤ room) :
    readMemoryImage room (words.flatMap Asm.line) = words := by
  induction words generalizing room with
  | nil => contradiction
  | cons word rest ih =>
      cases room with
      | zero => simp at fits
      | succ room =>
          have step := fscanfHex_line word (rest.flatMap Asm.line)
          rw [skipSpace_lines] at step
          rw [List.flatMap_cons, readMemoryImage, step]
          simp only [scanned_toNat, List.cons.injEq, true_and]
          cases rest with
          | nil => rfl
          | cons second rest =>
              have more : (second :: rest).flatMap Asm.line ≠ [] := by
                simp [Asm.line]
              rw [if_neg more]
              exact ih (List.cons_ne_nil second rest) (Nat.le_of_succ_le_succ fits)

section Output

variable (mem : Image) {lastAddr : Nat}

/-- The words that the assembler writes. -/
def written (lastAddr : Nat) : List Word :=
  (List.range lastAddr).map fun addr => mem (.ofNat 16 addr)

theorem output_eq (lastAddr : Nat) :
    Asm.output mem lastAddr = (written mem lastAddr).flatMap Asm.line := by
  rw [Asm.output, written, List.flatMap_map]

theorem length_written (lastAddr : Nat) : (written mem lastAddr).length = lastAddr := by
  simp [written]

theorem getD_written {addr : Address} (inside : addr.toNat < lastAddr) :
    (written mem lastAddr).getD addr.toNat 0#32 = mem addr := by
  simp [written, inside]

theorem Iss.load_output (bound : lastAddr ≤ 65536) :
    Iss.load (Asm.output mem lastAddr) =
      .ok (.accepted (imageOf (written mem lastAddr)) lastAddr) := by
  rw [output_eq, Iss.load_eq_accepted, Iss.strings_lines, Iss.leading_lines, List.length_map,
    length_written]
  refine ⟨?_, bound, rfl, rfl⟩
  intro lineBuffer member
  obtain ⟨word, -, rfl⟩ := List.mem_map.mp member
  rw [sscanfHex_line, Option.isSome_some]

theorem readMemoryImage_output (positive : 1 ≤ lastAddr) (bound : lastAddr ≤ 65536) :
    readMemoryImage spSramHeight.toNat (Asm.output mem lastAddr) = written mem lastAddr := by
  have length := length_written mem lastAddr
  have nonempty : written mem lastAddr ≠ [] := by
    intro none
    rw [none, List.length_nil] at length
    omega
  rw [output_eq]
  exact readMemoryImage_lines nonempty (by rw [length]; exact bound)

theorem MultiCycle.load_output (positive : 1 ≤ lastAddr) (room : lastAddr < 65536) :
    MultiCycle.load (Asm.output mem lastAddr) =
      .ok (.accepted (imageOf (withSign (written mem lastAddr))) lastAddr) := by
  rw [MultiCycle.load_eq_accepted, readMemoryImage_output mem positive (Nat.le_of_lt room),
    length_written]
  exact ⟨room, rfl, rfl⟩

/-- The processors do not read a full memory back. -/
theorem not_survivesFile_full : ¬ SurvivesFile mem 65536 := by
  intro survives
  obtain ⟨image, accepted, -⟩ := survives.multiCycle
  have room := (MultiCycle.load_eq_accepted.mp accepted).1
  rw [readMemoryImage_output mem (by decide) (Nat.le_refl _), length_written] at room
  exact absurd room (Nat.lt_irrefl _)

theorem imageOf_written {addr : Address} (inside : addr.toNat < lastAddr) :
    imageOf (written mem lastAddr) addr = mem addr := by
  rw [imageOf, getD_written mem inside]

theorem imageOf_withSign_written {addr : Address} (inside : addr.toNat < lastAddr) :
    imageOf (withSign (written mem lastAddr)) addr = mem addr := by
  have inside' : addr.toNat < (written mem lastAddr).length := by
    rwa [length_written]
  rw [imageOf, withSign, List.getD_append _ _ _ _ inside', getD_written mem inside]

/-- A program survives the file exactly when it does not fill the memory. -/
theorem image_survives_file (positive : 1 ≤ lastAddr) (bound : lastAddr ≤ 65536) :
    SurvivesFile mem lastAddr ↔ lastAddr < 65536 := by
  constructor
  · intro survives
    rcases Nat.lt_or_eq_of_le bound with room | rfl
    · exact room
    · exact absurd survives (not_survivesFile_full mem)
  · intro room
    have loaded := MultiCycle.load_output mem positive room
    refine ⟨⟨_, Iss.load_output mem bound, ?_⟩, ⟨_, loaded, ?_⟩,
      ⟨_, _, Pipeline.load_eq_accepted.mpr ⟨_, loaded, rfl⟩, ?_⟩⟩
    · intro addr inside
      exact imageOf_written mem inside
    · intro addr inside
      exact imageOf_withSign_written mem inside
    · intro addr inside
      exact ⟨imageOf_withSign_written mem inside, imageOf_withSign_written mem inside⟩

end Output

/-- A program of three words. -/
theorem image_survives_file_short :
    SurvivesFile (fun addr => Word.ofAddress addr - 1#32) 3 :=
  (image_survives_file _ (by decide) (by decide)).mpr (by decide)

/-- A full memory of zeros. -/
theorem full_image_lost : ¬ SurvivesFile (fun _ => 0#32) 65536 :=
  not_survivesFile_full fun _ => 0#32

end SimpleProcessor
