import SimpleProcessor.ProgramFiles

/-!
# When the loaders agree on a file

The processors never reject a file: a conversion that fails leaves a zero.  So the
loaders agree on the files that the instruction-set simulator accepts and in which
the processors read the same numbers.
-/

namespace SimpleProcessor

open Stdio

/-- Every loader reports an error. -/
def AllReject (file : Text) : Prop :=
  Iss.load file = .ok .rejected ∧ MultiCycle.load file = .ok .rejected ∧
    Pipeline.load file = .ok .rejected

/-- Every loader accepts the file, stores inside the memory only and leaves the same one. -/
def AllAccept (file : Text) : Prop :=
  ∃ image, (∃ lines, Iss.load file = .ok (.accepted image lines)) ∧
    (∃ lines, MultiCycle.load file = .ok (.accepted image lines)) ∧
    ∃ lines, Pipeline.load file = .ok (.accepted (image, image) lines)

/-- The loaders agree on a file, and a line that does not start with a number is rejected. -/
structure LoadersAgree (file : Text) : Prop where
  outcome : AllReject file ∨ AllAccept file
  malformed : ∀ line ∈ lines file, (scanHex 8 line).1 = none → AllReject file

/-- Every string of at most 31 characters begins with a number, there are no more of them
than words, and up to zeros at the end these are all numbers of the file.  Behind a last
number with bit 31 set, `ffffffff` counts as a number. -/
structure NumberALine (file : Text) : Prop where
  begins : ∀ string ∈ fgetsAll 31 file, (sscanfHex 8 string).isSome = true
  strings : (fgetsAll 31 file).length ≤ 65536
  numbers : ∃ numbers, Conversions 8 file numbers ∧ numbers.length < 65536 ∧
    ∀ k, ((fgetsAll 31 file).map fun string => Word.scanned (sscanfHex 8 string)).getD k 0#32 =
      (withSign (numbers.map Word.scanned)).getD k 0#32

theorem readMemoryImage_eq_of_conversions {file : Text} {numbers : List (Option Int)}
    (conversions : Conversions 8 file numbers) {room : Nat} (fits : numbers.length ≤ room) :
    readMemoryImage room file = numbers.map Word.scanned := by
  induction conversions generalizing room with
  | last ends =>
      cases room with
      | zero => simp at fits
      | succ room => rw [readMemoryImage, if_pos ends, List.map_singleton]
  | more goesOn _ ih =>
      cases room with
      | zero => simp at fits
      | succ room =>
          rw [readMemoryImage, if_neg goesOn, ih (Nat.le_of_succ_le_succ fits), List.map_cons]

theorem exists_conversions {file : Text} {room : Nat}
    (short : (readMemoryImage room file).length < room) :
    ∃ numbers, Conversions 8 file numbers ∧
      numbers.map Word.scanned = readMemoryImage room file := by
  induction room generalizing file with
  | zero => simp at short
  | succ room ih =>
      rw [readMemoryImage] at short ⊢
      by_cases ends : (fscanfHex 8 file).2 = []
      · rw [if_pos ends]
        exact ⟨_, .last ends, rfl⟩
      · rw [if_neg ends] at short ⊢
        obtain ⟨numbers, rest, words⟩ := ih (Nat.lt_of_succ_lt_succ short)
        exact ⟨_, .more ends rest, congrArg (_ :: ·) words⟩

theorem imageOf_eq_iff {words words' : List Word} (fits : words.length ≤ 65536)
    (fits' : words'.length ≤ 65536) :
    imageOf words = imageOf words' ↔ ∀ k, words.getD k 0#32 = words'.getD k 0#32 := by
  constructor
  · intro same k
    rcases Nat.lt_or_ge k 65536 with inside | outside
    · have word := congrFun same (BitVec.ofNat 16 k)
      rw [imageOf, imageOf, BitVec.toNat_ofNat, Nat.mod_eq_of_lt inside] at word
      exact word
    · rw [List.getD_eq_default _ _ (by omega), List.getD_eq_default _ _ (by omega)]
  · intro same
    funext addr
    exact same addr.toNat

section Agreement

variable {file : Text}

theorem not_allReject (file : Text) : ¬ AllReject file := by
  rintro ⟨-, rejected, -⟩
  exact MultiCycle.load_ne_rejected file rejected

theorem length_withSign (words : List Word) : (withSign words).length = words.length + 1 := by
  rw [withSign, List.length_append, List.length_singleton]

theorem allAccept_iff : AllAccept file ↔ NumberALine file := by
  constructor
  · rintro ⟨image, ⟨_, iss⟩, ⟨_, processor⟩, -⟩
    obtain ⟨begins, strings, leading, -⟩ := Iss.load_eq_accepted.mp iss
    obtain ⟨room, words, -⟩ := MultiCycle.load_eq_accepted.mp processor
    obtain ⟨numbers, conversions, read⟩ := exists_conversions room
    rw [← read] at room words
    rw [List.length_map] at room
    refine ⟨begins, strings, numbers, conversions, room, ?_⟩
    refine (imageOf_eq_iff ?_ ?_).mp (leading.trans words.symm)
    · rwa [List.length_map]
    · rw [length_withSign, List.length_map]
      exact room
  · rintro ⟨begins, strings, numbers, conversions, room, same⟩
    have read : readMemoryImage spSramHeight.toNat file = numbers.map Word.scanned :=
      readMemoryImage_eq_of_conversions conversions (Nat.le_of_lt room)
    have image : imageOf (withSign (numbers.map Word.scanned)) =
        imageOf (Iss.leading (Iss.strings file)) := by
      refine (imageOf_eq_iff ?_ ?_).mpr fun k => (same k).symm
      · rw [length_withSign, List.length_map]
        exact room
      · rwa [Iss.leading, List.length_map]
    have processor : MultiCycle.load file =
        .ok (.accepted (imageOf (Iss.leading (Iss.strings file))) numbers.length) := by
      rw [MultiCycle.load_eq_accepted, read, List.length_map]
      exact ⟨room, image, rfl⟩
    exact ⟨_, ⟨_, Iss.load_eq_accepted.mpr ⟨begins, strings, rfl, rfl⟩⟩, ⟨_, processor⟩,
      ⟨_, Pipeline.load_eq_accepted.mpr ⟨_, processor, rfl⟩⟩⟩

theorem getD_withSign_iff (words : List Word) :
    (∀ k, words.getD k 0#32 = (withSign words).getD k 0#32) ↔
      (words.getLastD 0#32).msb = false := by
  have sign : (withSign words).getD words.length 0#32 =
      if (words.getLastD 0#32).msb then BitVec.allOnes 32 else 0#32 := by
    rw [withSign, List.getD_append_right _ _ _ _ (Nat.le_refl _), Nat.sub_self, sshiftRight_31]
    rfl
  constructor
  · intro same
    have behind := same words.length
    rw [sign, List.getD_eq_default _ _ (Nat.le_refl _)] at behind
    cases negative : (words.getLastD 0#32).msb with
    | false => rfl
    | true =>
        rw [negative, if_pos rfl] at behind
        exact absurd behind (by decide)
  · intro nonnegative k
    rcases Nat.lt_trichotomy k words.length with inside | rfl | outside
    · rw [withSign, List.getD_append _ _ _ _ inside]
    · rw [sign, nonnegative, List.getD_eq_default _ _ (Nat.le_refl _)]
      rfl
    · have far : (withSign words).length ≤ k := by
        rw [length_withSign]
        exact outside
      rw [List.getD_eq_default _ _ (Nat.le_of_lt outside), List.getD_eq_default _ _ far]

theorem imageOf_withSign_iff (mem : Image) {lastAddr : Nat} (room : lastAddr < 65536) :
    imageOf (written mem lastAddr) = imageOf (withSign (written mem lastAddr)) ↔
      ((written mem lastAddr).getLastD 0#32).msb = false := by
  have length := length_written mem lastAddr
  rw [← getD_withSign_iff]
  apply imageOf_eq_iff
  · omega
  · rw [length_withSign]
    omega

/-- The loaders agree on an assembled program when its last word is not negative. -/
theorem allAccept_output_iff (mem : Image) {lastAddr : Nat} (positive : 1 ≤ lastAddr)
    (room : lastAddr < 65536) :
    AllAccept (Asm.output mem lastAddr) ↔
      ((written mem lastAddr).getLastD 0#32).msb = false := by
  have iss := Iss.load_output mem (Nat.le_of_lt room)
  have processor := MultiCycle.load_output mem positive room
  rw [← imageOf_withSign_iff mem room]
  constructor
  · rintro ⟨image, ⟨_, iss'⟩, ⟨_, processor'⟩, -⟩
    rw [iss, Except.ok.injEq, Load.accepted.injEq] at iss'
    rw [processor, Except.ok.injEq, Load.accepted.injEq] at processor'
    exact iss'.1.trans processor'.1.symm
  · intro equal
    rw [← equal] at processor
    exact ⟨_, ⟨_, iss⟩, ⟨_, processor⟩, ⟨_, Pipeline.load_eq_accepted.mpr ⟨_, processor, rfl⟩⟩⟩

/-- The loaders agree on the files with a number a line. -/
theorem loaders_agree_iff (file : Text) : LoadersAgree file ↔ NumberALine file := by
  constructor
  · rintro ⟨rejected | accepted, -⟩
    · exact absurd rejected (not_allReject file)
    · exact allAccept_iff.mp accepted
  · intro numbers
    refine ⟨Or.inr (allAccept_iff.mpr numbers), ?_⟩
    intro line member malformed
    have found := lines_isSome (by decide) numbers.begins line member
    rw [malformed] at found
    cases found

end Agreement

/-- Two numbers on a line, and an empty line, which only the first loader rejects. -/
theorem loaders_disagree :
    ¬ LoadersAgree "12 34\n".toList ∧
      Iss.load "12\n\n34\n".toList = .ok .rejected ∧ ¬ LoadersAgree "12\n\n34\n".toList := by
  refine ⟨?_, rfl, ?_⟩
  · rintro ⟨rejected | ⟨image, ⟨_, iss⟩, ⟨_, processor⟩, -⟩, -⟩
    · exact not_allReject _ rejected
    · obtain ⟨-, -, leading, -⟩ := Iss.load_eq_accepted.mp iss
      obtain ⟨-, words, -⟩ := MultiCycle.load_eq_accepted.mp processor
      have second := congrFun (leading.trans words.symm) 1#16
      exact absurd second (by decide)
  · rintro ⟨rejected | ⟨image, ⟨_, iss⟩, -⟩, -⟩
    · exact not_allReject _ rejected
    · exact absurd (Iss.load_eq_accepted.mp iss).1 (by decide)

end SimpleProcessor
