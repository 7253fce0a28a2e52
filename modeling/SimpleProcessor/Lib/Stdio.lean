import Mathlib.Algebra.Group.Nat.Defs
import Mathlib.Data.List.TakeWhile

/-!
# Numbers in text files

The conversions of the C library for hexadecimal numbers, and the reading of a
file line by line.  A file is the list of its characters that are still to be
read.
-/

namespace SimpleProcessor.Stdio

/-- What is left of a file or a string. -/
abbrev Text := List Char

/-- `isspace` -/
def isSpace (c : Char) : Bool := c = ' ' || ('\t'.toNat ≤ c.toNat && c.toNat ≤ '\r'.toNat)

/-- `isxdigit`, with the value of the digit. -/
def hexDigit? (c : Char) : Option Nat :=
  if '0'.toNat ≤ c.toNat ∧ c.toNat ≤ '9'.toNat then some (c.toNat - '0'.toNat)
  else if 'a'.toNat ≤ c.toNat ∧ c.toNat ≤ 'f'.toNat then some (c.toNat - 'a'.toNat + 10)
  else if 'A'.toNat ≤ c.toNat ∧ c.toNat ≤ 'F'.toNat then some (c.toNat - 'A'.toNat + 10)
  else none

/-- `%0<width>x` of `printf`. -/
def printHex (width number : Nat) : Text := (Nat.toDigits 16 number).leftpad width '0'

/-- White space in a format, and before a number. -/
def skipSpace (text : Text) : Text := text.dropWhile isSpace

/-- An optional sign: whether it is a minus, the width that is left and the rest. -/
def scanSign : Nat → Text → Bool × Nat × Text
  | room + 1, '-' :: rest => (true, room, rest)
  | room + 1, '+' :: rest => (false, room, rest)
  | room, text => (false, room, text)

/-- An optional prefix. -/
def scanPrefix : Nat → Text → Nat × Text
  | room + 2, '0' :: 'x' :: rest => (room, rest)
  | room + 2, '0' :: 'X' :: rest => (room, rest)
  | room, text => (room, text)

/-- As many digits as fit, behind the digits with the given value. -/
def scanDigits : Nat → Option Nat → Text → Option Nat × Text
  | room + 1, value, c :: rest =>
      match hexDigit? c with
      | some digit => scanDigits room (some (16 * value.getD 0 + digit)) rest
      | none => (value, c :: rest)
  | _, value, text => (value, text)

/-- `%<width>x` of `scanf`: the number, if there is one, and what has not been read.  A
sign or a prefix without a digit behind it is read and is no number. -/
def scanHex (width : Nat) (text : Text) : Option Int × Text :=
  let (negative, room, rest) := scanSign width (skipSpace text)
  let (room, rest) := scanPrefix room rest
  let (value, rest) := scanDigits room none rest
  (value.map fun value : Nat => if negative then -(value : Int) else value, rest)

/-- `sscanf`: a string ends at its first null character. -/
def sscanfHex (width : Nat) (string : Text) : Option Int :=
  (scanHex width (string.takeWhile fun c => c.toNat ≠ 0)).1

/-- `fscanf` with white space behind the number, which is read after a number only. -/
def fscanfHex (width : Nat) (text : Text) : Option Int × Text :=
  match scanHex width text with
  | (some value, rest) => (some value, skipSpace rest)
  | (none, rest) => (none, rest)

/-- The results of the calls of `fscanf` that read a file to its end. -/
inductive Conversions (width : Nat) : Text → List (Option Int) → Prop where
  | last {text : Text} (ends : (fscanfHex width text).2 = []) :
      Conversions width text [(fscanfHex width text).1]
  | more {text : Text} {numbers : List (Option Int)} (goesOn : (fscanfHex width text).2 ≠ [])
      (rest : Conversions width (fscanfHex width text).2 numbers) :
      Conversions width text ((fscanfHex width text).1 :: numbers)

/-- `fgets`, with room for that many characters: the string and the rest. -/
def fgets : Nat → Text → Text × Text
  | room + 1, c :: rest =>
      if c = '\n' then ([c], rest)
      else
        let (string, rest) := fgets room rest
        (c :: string, rest)
  | _, text => ([], text)

/-- The strings of the first calls of `fgets`. -/
def fgetsFor (room : Nat) : Nat → Text → List Text
  | calls + 1, c :: rest =>
      let (string, rest) := fgets room (c :: rest)
      string :: fgetsFor room calls rest
  | _, _ => []

/-- The strings that `fgets` returns until it returns `NULL`. -/
def fgetsAll (room : Nat) (text : Text) : List Text := fgetsFor room text.length text

/-- The lines of a file, with their newlines. -/
def lines : Text → List Text
  | [] => []
  | c :: rest =>
      if c = '\n' then [c] :: lines rest
      else
        match lines rest with
        | [] => [[c]]
        | line :: more => (c :: line) :: more

/-- A character that is no space, no other character of a number and no end of a string. -/
structure Plain (c : Char) : Prop where
  notSpace : isSpace c = false
  notMinus : c ≠ '-'
  notPlus : c ≠ '+'
  notPrefix : c ≠ 'x' ∧ c ≠ 'X'
  notNewline : c ≠ '\n'
  notNull : c.toNat ≠ 0

theorem plain_of_hexDigit {c : Char} {digit : Nat} (isDigit : hexDigit? c = some digit) :
    Plain c := by
  have no (other : Char) (notDigit : hexDigit? other = none) : c ≠ other := by
    rintro rfl
    rw [isDigit] at notDigit
    cases notDigit
  refine ⟨?_, no _ rfl, no _ rfl, ⟨no _ rfl, no _ rfl⟩, no _ rfl, ?_⟩
  · have notBlank := no ' ' rfl
    simp only [hexDigit?, Char.reduceToNat] at isDigit
    simp only [isSpace, notBlank, decide_false, Bool.false_or, Bool.and_eq_false_iff,
      decide_eq_false_iff_not, Char.reduceToNat]
    split at isDigit
    · omega
    · split at isDigit
      · omega
      · split at isDigit
        · omega
        · cases isDigit
  · intro null
    simp [hexDigit?, null] at isDigit

/-- A string of digits. -/
def AllDigits (digits : Text) : Prop := ∀ c ∈ digits, ∃ digit, hexDigit? c = some digit

theorem AllDigits.plain {digits : Text} (allDigits : AllDigits digits) :
    ∀ c ∈ digits, Plain c := by
  intro c member
  obtain ⟨digit, isDigit⟩ := allDigits c member
  exact plain_of_hexDigit isDigit

theorem hexDigit?_digitChar : ∀ digit < 16, hexDigit? (Nat.digitChar digit) = some digit := by
  decide

/-- The value of a string of digits, behind digits with a given value. -/
def digitsValue (value : Nat) (digits : Text) : Option Nat :=
  digits.foldlM (fun value c => (hexDigit? c).map (16 * value + ·)) value

theorem digitsValue_cons (value : Nat) (c : Char) (digits : Text) :
    digitsValue value (c :: digits) =
      (hexDigit? c).bind fun digit => digitsValue (16 * value + digit) digits := by
  rw [digitsValue, List.foldlM_cons]
  cases hexDigit? c <;> rfl

theorem digitsValue_append (value : Nat) (first second : Text) :
    digitsValue value (first ++ second) =
      (digitsValue value first).bind (digitsValue · second) := by
  rw [digitsValue, List.foldlM_append]
  rfl

theorem digitsValue_toDigits (number : Nat) :
    digitsValue 0 (Nat.toDigits 16 number) = some number := by
  induction number using Nat.strongRecOn with
  | ind number ih =>
      rcases Nat.lt_or_ge number 16 with small | large
      · rw [Nat.toDigits_of_lt_base small, digitsValue_cons, hexDigit?_digitChar number small]
        simp [digitsValue]
      · have last := hexDigit?_digitChar (number % 16) (Nat.mod_lt _ (by decide))
        rw [Nat.toDigits_of_base_le (by decide) large, digitsValue_append,
          ih (number / 16) (by omega), Option.bind_some, digitsValue_cons, last]
        simp only [digitsValue, Option.bind_some, List.foldlM_nil, Option.pure_def,
          Option.some.injEq]
        omega

theorem digitsValue_printHex (width number : Nat) :
    digitsValue 0 (printHex width number) = some number := by
  have zeros (count : Nat) : digitsValue 0 (List.replicate count '0') = some 0 := by
    induction count with
    | zero => rfl
    | succ count ih =>
        rw [List.replicate_succ, digitsValue_cons]
        exact ih
  rw [printHex, List.leftpad, digitsValue_append, zeros, Option.bind_some,
    digitsValue_toDigits]

theorem length_printHex {width number : Nat} (positive : 0 < width)
    (fits : number < 16 ^ width) : (printHex width number).length = width := by
  have short := (Nat.length_toDigits_le_iff (by decide : 1 < 16) positive).mpr fits
  rw [printHex, List.length_leftpad, Nat.max_eq_left short]

theorem allDigits_of_value {value number : Nat} {digits : Text}
    (valued : digitsValue value digits = some number) : AllDigits digits := by
  induction digits generalizing value with
  | nil => simp [AllDigits]
  | cons first rest ih =>
      rw [digitsValue_cons] at valued
      obtain ⟨digit, isDigit, valued'⟩ := Option.bind_eq_some_iff.mp valued
      rw [AllDigits, List.forall_mem_cons]
      exact ⟨⟨digit, isDigit⟩, ih valued'⟩

/-! ## Reading a number back -/

theorem scanDigits_append {digits : Text} {room number : Nat} {value : Option Nat}
    (valued : digitsValue (value.getD 0) digits = some number) (nonempty : digits ≠ [])
    (fits : digits.length ≤ room) (rest : Text) :
    scanDigits room value (digits ++ rest) =
      scanDigits (room - digits.length) (some number) rest := by
  induction digits generalizing room value with
  | nil => contradiction
  | cons first more ih =>
      rw [digitsValue_cons] at valued
      obtain ⟨digit, isDigit, valued'⟩ := Option.bind_eq_some_iff.mp valued
      cases room with
      | zero => simp at fits
      | succ room =>
          rw [List.length_cons, Nat.add_le_add_iff_right] at fits
          rw [List.cons_append, scanDigits, isDigit, List.length_cons,
            Nat.add_sub_add_right]
          cases more with
          | nil =>
              cases valued'
              rfl
          | cons second more => exact ih valued' (List.cons_ne_nil second more) fits

section Digits

variable {digits : Text} (allDigits : AllDigits digits)
include allDigits

theorem skipSpace_digits (nonempty : digits ≠ []) (rest : Text) :
    skipSpace (digits ++ rest) = digits ++ rest := by
  cases digits with
  | nil => contradiction
  | cons first more =>
      have notSpace := (allDigits.plain first List.mem_cons_self).notSpace
      rw [skipSpace, List.cons_append, List.dropWhile_cons_of_neg (by simp [notSpace])]

theorem scanSign_digits (nonempty : digits ≠ []) (room : Nat) (rest : Text) :
    scanSign room (digits ++ rest) = (false, room, digits ++ rest) := by
  cases digits with
  | nil => contradiction
  | cons first more =>
      have plain := allDigits.plain first List.mem_cons_self
      have notMinus := plain.notMinus
      have notPlus := plain.notPlus
      unfold scanSign
      split <;> simp_all

theorem scanPrefix_digits {room : Nat} (length : digits.length = room) (rest : Text) :
    scanPrefix room (digits ++ rest) = (room, digits ++ rest) := by
  subst length
  match digits with
  | [] => rfl
  | [_] => rfl
  | first :: second :: more =>
      obtain ⟨notLower, notUpper⟩ := (allDigits.plain second (by simp)).notPrefix
      unfold scanPrefix
      split <;> simp_all

end Digits

section Printed

variable {width number : Nat}

theorem allDigits_printHex (width number : Nat) : AllDigits (printHex width number) :=
  allDigits_of_value (digitsValue_printHex width number)

variable (positive : 0 < width)
include positive

theorem printHex_ne_nil (number : Nat) : printHex width number ≠ [] := by
  intro none
  have length := congrArg List.length none
  rw [printHex, List.length_leftpad, List.length_nil] at length
  omega

variable (fits : number < 16 ^ width)
include fits

/-- A number that was printed with its full width is read back, whatever follows. -/
theorem scanHex_printHex (rest : Text) :
    scanHex width (printHex width number ++ rest) = (some (number : Int), rest) := by
  have nonempty := printHex_ne_nil positive number
  have allDigits := allDigits_printHex width number
  have length := length_printHex positive fits
  have valued : digitsValue ((none : Option Nat).getD 0) (printHex width number) =
      some number := digitsValue_printHex width number
  rw [scanHex, skipSpace_digits allDigits nonempty, scanSign_digits allDigits nonempty]
  simp only [scanPrefix_digits allDigits length,
    scanDigits_append valued nonempty (Nat.le_of_eq length), length, Nat.sub_self]
  rfl

theorem sscanfHex_printHex :
    sscanfHex width (printHex width number ++ ['\n']) = some (number : Int) := by
  have whole : ∀ c ∈ printHex width number ++ ['\n'], decide (c.toNat ≠ 0) = true := by
    intro c member
    rw [List.mem_append, List.mem_singleton] at member
    rcases member with digit | rfl
    · exact decide_eq_true ((allDigits_printHex width number).plain c digit).notNull
    · decide
  have string : (printHex width number ++ ['\n']).takeWhile (fun c => c.toNat ≠ 0) =
      printHex width number ++ ['\n'] := List.takeWhile_eq_self_iff.mpr whole
  rw [sscanfHex, string, scanHex_printHex positive fits]

theorem fscanfHex_printHex (rest : Text) :
    fscanfHex width (printHex width number ++ '\n' :: rest) =
      (some (number : Int), skipSpace rest) := by
  rw [fscanfHex, scanHex_printHex positive fits]
  rfl

end Printed

section Append

variable {more : Text} (noPrefix : ∀ c, more.head? = some c → c ≠ 'x' ∧ c ≠ 'X')

theorem scanSign_append {text : Text} (nonempty : text ≠ []) (room : Nat) (more : Text) :
    scanSign room (text ++ more) =
      ((scanSign room text).1, (scanSign room text).2.1, (scanSign room text).2.2 ++ more) := by
  cases text with
  | nil => contradiction
  | cons first rest =>
      rw [List.cons_append]
      unfold scanSign
      split <;> split <;> simp_all

include noPrefix in
theorem scanPrefix_append {text : Text} (nonempty : text ≠ []) (room : Nat) :
    scanPrefix room (text ++ more) =
      ((scanPrefix room text).1, (scanPrefix room text).2 ++ more) := by
  match text with
  | [] => contradiction
  | [only] =>
      have alone : scanPrefix room [only] = (room, [only]) := by
        unfold scanPrefix
        split <;> simp_all
      rw [alone, List.singleton_append]
      unfold scanPrefix
      split <;> simp_all
  | first :: second :: rest =>
      rw [List.cons_append, List.cons_append]
      unfold scanPrefix
      split <;> split <;> simp_all

theorem scanDigits_some (room value : Nat) (text : Text) :
    (scanDigits room (some value) text).1.isSome = true := by
  induction room generalizing value text with
  | zero => rfl
  | succ room ih =>
      cases text with
      | nil => rfl
      | cons c rest =>
          rw [scanDigits]
          split
          · exact ih _ _
          · rfl

theorem scanDigits_isSome_iff {room : Nat} {text : Text} :
    (scanDigits room none text).1.isSome = true ↔
      0 < room ∧ ∃ c rest digit, text = c :: rest ∧ hexDigit? c = some digit := by
  cases room with
  | zero => simp [scanDigits]
  | succ room =>
      cases text with
      | nil => simp [scanDigits]
      | cons c rest =>
          rw [scanDigits]
          cases isDigit : hexDigit? c with
          | none => simp [isDigit]
          | some digit => simp [scanDigits_some, isDigit]

include noPrefix in
/-- A text that starts with a number still does with more behind it, unless that makes a
prefix of its 0. -/
theorem scanHex_append_isSome {width : Nat} {text : Text}
    (found : (scanHex width text).1.isSome = true) :
    (scanHex width (text ++ more)).1.isSome = true := by
  simp only [scanHex, Option.isSome_map] at found ⊢
  have start : skipSpace text ≠ [] := by
    intro none
    simp [none, scanSign, scanPrefix, scanDigits_isSome_iff] at found
  have unsigned : (scanSign width (skipSpace text)).2.2 ≠ [] := by
    intro none
    simp [none, scanPrefix, scanDigits_isSome_iff] at found
  have skipped : skipSpace (text ++ more) = skipSpace text ++ more := by
    have start' : (text.dropWhile isSpace).isEmpty ≠ true := by simpa [skipSpace] using start
    rw [skipSpace, List.dropWhile_append, if_neg start', skipSpace]
  rw [skipped, scanSign_append start]
  simp only [scanPrefix_append noPrefix unsigned]
  rw [scanDigits_isSome_iff] at found ⊢
  obtain ⟨room, c, rest, digit, digits, isDigit⟩ := found
  exact ⟨room, c, rest ++ more, digit, by rw [digits, List.cons_append], isDigit⟩

end Append

/-! ## Reading line by line -/

theorem fgets_append (room : Nat) (text : Text) :
    (fgets room text).1 ++ (fgets room text).2 = text := by
  induction room generalizing text with
  | zero => rfl
  | succ room ih =>
      cases text with
      | nil => rfl
      | cons c rest =>
          rw [fgets]
          split
          · rfl
          · exact congrArg (c :: ·) (ih rest)

theorem length_rest_fgets {room : Nat} (positive : 0 < room) (c : Char) (rest : Text) :
    (fgets room (c :: rest)).2.length ≤ rest.length := by
  obtain ⟨room, rfl⟩ := Nat.exists_eq_succ_of_ne_zero (Nat.ne_of_gt positive)
  rw [fgets]
  split
  · exact Nat.le_refl _
  · have whole := congrArg List.length (fgets_append room rest)
    rw [List.length_append] at whole
    simp only
    omega

theorem fgets_line {line : Text} {room : Nat} (noNewline : ∀ c ∈ line, c ≠ '\n')
    (fits : line.length < room) (rest : Text) :
    fgets room (line ++ '\n' :: rest) = (line ++ ['\n'], rest) := by
  induction line generalizing room with
  | nil =>
      cases room with
      | zero => simp at fits
      | succ room => rfl
  | cons c line ih =>
      rw [List.forall_mem_cons] at noNewline
      cases room with
      | zero => simp at fits
      | succ room =>
          rw [List.length_cons, Nat.add_lt_add_iff_right] at fits
          rw [List.cons_append, fgets, if_neg noNewline.1, ih noNewline.2 fits]
          rfl

private theorem fgetsFor_of_le {room : Nat} (positive : 0 < room) {calls : Nat} {text : Text}
    (enough : text.length ≤ calls) : fgetsFor room calls text = fgetsAll room text := by
  rw [fgetsAll]
  induction calls using Nat.strongRecOn generalizing text with
  | ind calls ih =>
      cases text with
      | nil => cases calls <;> rfl
      | cons c rest =>
          rw [List.length_cons] at enough ⊢
          obtain ⟨calls, rfl⟩ : ∃ fewer, calls = fewer + 1 := ⟨calls - 1, by omega⟩
          have shorter := length_rest_fgets positive c rest
          rw [fgetsFor, fgetsFor]
          simp only
          rw [ih calls (by omega) (by omega), ih rest.length (by omega) shorter]

@[simp] theorem fgetsAll_nil (room : Nat) : fgetsAll room [] = [] := rfl

theorem fgetsAll_cons {room : Nat} (positive : 0 < room) (c : Char) (rest : Text) :
    fgetsAll room (c :: rest) =
      (fgets room (c :: rest)).1 :: fgetsAll room (fgets room (c :: rest)).2 := by
  rw [← fgetsFor_of_le positive (length_rest_fgets positive c rest)]
  rfl

theorem fgetsAll_line {line : Text} {room : Nat} (noNewline : ∀ c ∈ line, c ≠ '\n')
    (fits : line.length < room) (rest : Text) :
    fgetsAll room (line ++ '\n' :: rest) = (line ++ ['\n']) :: fgetsAll room rest := by
  have positive : 0 < room := Nat.lt_of_le_of_lt (Nat.zero_le _) fits
  have read := fgets_line noNewline fits rest
  cases whole : line ++ '\n' :: rest with
  | nil => simp at whole
  | cons c more => rw [fgetsAll_cons positive, ← whole, read]

/-- What the first string is in the lines: a whole line, or the start of one. -/
theorem lines_fgets (room : Nat) (text : Text) :
    lines text = (fgets room text).1 :: lines (fgets room text).2 ∨
      (∀ first more, lines (fgets room text).2 = first :: more →
        lines text = ((fgets room text).1 ++ first) :: more) ∧
      ((fgets room text).2 = [] → text ≠ [] → lines text = [(fgets room text).1]) := by
  induction room generalizing text with
  | zero =>
      right
      constructor
      · intro first more rest
        exact rest
      · intro none some
        contradiction
  | succ room ih =>
      cases text with
      | nil => simp [fgets, lines]
      | cons c rest =>
          rw [fgets, lines]
          by_cases newline : c = '\n'
          · left
            rw [if_pos newline, if_pos newline]
          · rw [if_neg newline, if_neg newline]
            rcases ih rest with line | ⟨longer, only⟩
            · left
              rw [line]
            · right
              constructor
              · intro first more behind
                rw [longer first more behind]
                rfl
              · intro none _
                cases rest with
                | nil => cases room <;> rfl
                | cons second rest => rw [only none (List.cons_ne_nil second rest)]

theorem lines_eq_nil_iff {text : Text} : lines text = [] ↔ text = [] := by
  cases text with
  | nil => simp [lines]
  | cons c rest =>
      rw [lines]
      split
      · simp
      · split <;> simp

theorem notPrefix_of_isSome {width : Nat} {text : Text}
    (found : (scanHex width text).1.isSome = true) :
    ∀ c, text.head? = some c → c ≠ 'x' ∧ c ≠ 'X' := by
  intro c first
  cases text with
  | nil => cases first
  | cons first rest =>
      rw [List.head?_cons, Option.some.injEq] at first
      subst first
      by_contra letter
      rw [not_and_or, not_not, not_not] at letter
      have noSpace : skipSpace (first :: rest) = first :: rest := by
        rw [skipSpace, List.dropWhile_cons_of_neg]
        rcases letter with rfl | rfl <;> decide
      have noSign : scanSign width (first :: rest) = (false, width, first :: rest) := by
        unfold scanSign
        split <;> simp_all
      have noZero : scanPrefix width (first :: rest) = (width, first :: rest) := by
        unfold scanPrefix
        split <;> simp_all
      simp only [scanHex, noSpace, noSign, noZero, Option.isSome_map] at found
      obtain ⟨-, c, rest', digit, equal, isDigit⟩ := scanDigits_isSome_iff.mp found
      cases equal
      rcases letter with rfl | rfl <;> cases isDigit

theorem scanHex_of_sscanfHex {width : Nat} {string more : Text}
    (found : (sscanfHex width string).isSome = true)
    (noPrefix : ∀ c, more.head? = some c → c ≠ 'x' ∧ c ≠ 'X') :
    (scanHex width (string ++ more)).1.isSome = true := by
  rw [← List.takeWhile_append_dropWhile (p := fun c : Char => c.toNat ≠ 0) (l := string),
    List.append_assoc]
  apply scanHex_append_isSome _ found
  intro c first
  have null := List.head?_dropWhile_not (fun c : Char => c.toNat ≠ 0) string
  cases ended : string.dropWhile fun c => c.toNat ≠ 0 with
  | nil =>
      rw [ended] at first
      exact noPrefix c first
  | cons end' rest =>
      rw [ended] at first null
      cases first
      simp only [List.head?_cons] at null
      constructor <;> rintro rfl <;> simp at null

theorem lines_isSome {width room : Nat} (positive : 0 < room) {text : Text}
    (found : ∀ string ∈ fgetsAll room text, (sscanfHex width string).isSome = true) :
    ∀ line ∈ lines text, (scanHex width line).1.isSome = true := by
  induction size : text.length using Nat.strongRecOn generalizing text with
  | ind size' ih =>
      cases text with
      | nil => simp [lines]
      | cons c rest =>
          rw [fgetsAll_cons positive, List.forall_mem_cons] at found
          obtain ⟨foundFirst, foundRest⟩ := found
          have shorter := length_rest_fgets positive c rest
          rw [List.length_cons] at size
          have foundLines := ih _ (by omega) foundRest rfl
          have foundWhole : (scanHex width ((fgets room (c :: rest)).1 ++ [])).1.isSome = true :=
            scanHex_of_sscanfHex foundFirst (by simp)
          rw [List.append_nil] at foundWhole
          rcases lines_fgets room (c :: rest) with line | ⟨longer, only⟩
          · rw [line, List.forall_mem_cons]
            exact ⟨foundWhole, foundLines⟩
          · cases behind : lines (fgets room (c :: rest)).2 with
            | nil =>
                rw [only (lines_eq_nil_iff.mp behind) (List.cons_ne_nil c rest)]
                simpa using foundWhole
            | cons first more =>
                rw [behind, List.forall_mem_cons] at foundLines
                rw [longer first more behind, List.forall_mem_cons]
                exact ⟨scanHex_of_sscanfHex foundFirst (notPrefix_of_isSome foundLines.1),
                  foundLines.2⟩

example : scanHex 8 "  -0x1fg".toList = (some (-31), ['g']) := by decide

example : fgetsAll 3 "12\n3456\n".toList =
    ["12\n".toList, "345".toList, "6\n".toList] := by decide

end SimpleProcessor.Stdio
