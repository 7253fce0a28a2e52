import Mathlib.Data.List.Basic
import SimpleProcessor.Lib.Stdio

/-!
# Formatted output

`fprintf` with the conversions `%d`, `%0<width>x` and `%s`.  What a program prints
is the text of its steps one behind the other.
-/

namespace SimpleProcessor.Stdio

/-- An argument of `fprintf`: an `int`, or a string. -/
inductive Arg where
  | int (value : BitVec 32)
  | string (text : Text)

/-- `%d` of `printf`. -/
def printDecimal (number : Int) : Text :=
  if number < 0 then '-' :: Nat.toDigits 10 number.natAbs else Nat.toDigits 10 number.natAbs

/-- The text that `fprintf` writes. -/
def fprintf : Text → List Arg → Text
  | '%' :: 'd' :: format, .int value :: args => printDecimal value.toInt ++ fprintf format args
  | '%' :: '0' :: width :: 'x' :: format, .int value :: args =>
      printHex (width.toNat - '0'.toNat) value.toNat ++ fprintf format args
  | '%' :: 's' :: format, .string text :: args => text ++ fprintf format args
  | c :: format, args => c :: fprintf format args
  | [], _ => []

theorem fprintf_cons {c : Char} (notConversion : c ≠ '%') (format : Text) (args : List Arg) :
    fprintf (c :: format) args = c :: fprintf format args := by
  rw [fprintf]
  all_goals
    intros
    simp_all

theorem length_fprintf_pos {c : Char} {format : Text} (begins : format.head? = some c)
    (notConversion : c ≠ '%') (args : List Arg) : 0 < (fprintf format args).length := by
  cases format with
  | nil => cases begins
  | cons first rest =>
      cases begins
      rw [fprintf_cons notConversion, List.length_cons]
      omega

example : fprintf "R[%d] = MEM[%d] = %08x, %s\n".toList
    [.int 7#32, .int (-2), .int 0xabc#32, .string "LD".toList] =
      "R[7] = MEM[-2] = 00000abc, LD\n".toList := by
  decide

section Steps

variable {σ : Type} {text text' : σ → Text} {steps : List σ}

theorem flatMap_eq_flatten (printed : σ → Option Text) (steps : List σ)
    (same : ∀ step, text step = (printed step).getD []) :
    steps.flatMap text = (steps.filterMap printed).flatten := by
  induction steps with
  | nil => rfl
  | cons first rest ih =>
      rw [List.flatMap_cons, ih, same first]
      cases happened : printed first <;> simp [happened]

private theorem length_flatMap_le
    (both : ∀ step ∈ steps, text step = text' step ∨ (text step).length < (text' step).length) :
    (steps.flatMap text).length ≤ (steps.flatMap text').length := by
  induction steps with
  | nil => exact Nat.le_refl _
  | cons first rest ih =>
      rw [List.forall_mem_cons] at both
      have shorter := ih both.2
      simp only [List.flatMap_cons, List.length_append]
      rcases both.1 with equal | less
      · rw [equal]
        omega
      · omega

/-- Steps that print no more than others print as much only if each of them does. -/
theorem flatMap_eq_iff
    (both : ∀ step ∈ steps, text step = text' step ∨ (text step).length < (text' step).length) :
    steps.flatMap text = steps.flatMap text' ↔ ∀ step ∈ steps, text step = text' step := by
  constructor
  · intro same
    induction steps with
    | nil => simp
    | cons first rest ih =>
        rw [List.forall_mem_cons] at both ⊢
        obtain ⟨bothFirst, bothRest⟩ := both
        simp only [List.flatMap_cons] at same
        rcases bothFirst with equal | less
        · rw [equal, List.append_cancel_left_eq] at same
          exact ⟨equal, ih bothRest same⟩
        · -- the second text would be longer
          have shorter := length_flatMap_le bothRest
          have length := congrArg List.length same
          simp only [List.length_append] at length
          omega
  · exact List.flatMap_congr

end Steps

end SimpleProcessor.Stdio
