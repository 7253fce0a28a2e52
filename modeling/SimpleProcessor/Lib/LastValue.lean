import Mathlib.Algebra.BigOperators.Group.Finset.Piecewise
import Mathlib.Data.List.Basic

/-!
# Prediction by the last value

A value is guessed to be what it was the last time.  Guesses are pending for a while
before their value is known, so that some of them are older than the last value.  When a
wrong guess throws all pending guesses away, no more of them are wrong than the value
has changed.
-/

namespace SimpleProcessor.LastValue

universe u

variable {α : Type u} [DecidableEq α]

/-- How often a history changes, from the value before it on. -/
def changes : α → List α → Nat
  | _, [] => 0
  | last, value :: rest => (if value = last then 0 else 1) + changes value rest

theorem changes_snoc (first : α) (history : List α) (value : α) :
    changes first (history ++ [value]) =
      changes first history + if value = history.getLastD first then 0 else 1 := by
  induction history generalizing first with
  | nil => simp [changes]
  | cons next rest ih =>
      rw [List.cons_append, changes, changes, ih, List.getLastD_cons, Nat.add_assoc]

/-- Every mistake has a change of its own, and one is left when an old guess is pending. -/
structure Accounted (first : α) (history : List α) (mistakes : Nat) (pending : α → Prop) :
    Prop where
  mistakes_le : mistakes ≤ changes first history
  current : mistakes = changes first history →
    ∀ guess, pending guess → guess = history.getLastD first

namespace Accounted

variable {first value : α} {history : List α} {mistakes : Nat} {pending pending' : α → Prop}

theorem start (none : ∀ guess, ¬ pending guess) : Accounted first [] 0 pending :=
  ⟨Nat.zero_le _, fun _ guess made => absurd made (none guess)⟩

theorem guess (accounted : Accounted first history mistakes pending)
    (made : ∀ guess, pending' guess → pending guess ∨ guess = history.getLastD first) :
    Accounted first history mistakes pending' := by
  refine ⟨accounted.mistakes_le, ?_⟩
  intro full guess pending
  rcases made guess pending with old | new
  · exact accounted.current full guess old
  · exact new

theorem learn (accounted : Accounted first history mistakes pending) :
    Accounted first (history ++ [value]) mistakes pending := by
  have bound := accounted.mistakes_le
  constructor
  · rw [changes_snoc]
    omega
  · intro full guess made
    rw [changes_snoc] at full
    by_cases same : value = history.getLastD first
    · rw [if_pos same, Nat.add_zero] at full
      rw [accounted.current full guess made, List.getLastD_concat, same]
    · rw [if_neg same] at full
      omega

theorem mistake (accounted : Accounted first history mistakes pending) {wrong : α}
    (made : pending wrong) (differs : wrong ≠ value) (none : ∀ guess, ¬ pending' guess) :
    Accounted first (history ++ [value]) (mistakes + 1) pending' := by
  refine ⟨?_, fun _ guess made => absurd made (none guess)⟩
  have bound := accounted.mistakes_le
  rw [changes_snoc]
  by_cases same : value = history.getLastD first
  · -- the guess was an old one
    have open' : mistakes ≠ changes first history := by
      intro full
      exact differs ((accounted.current full wrong made).trans same.symm)
    omega
  · rw [if_neg same]
    omega

end Accounted

/-- What is counted, key by key. -/
theorem countP_eq_sum {β : Type u} {counted : β → Bool} {key : β → Nat} {bound : Nat}
    {values : List β} (small : ∀ value ∈ values, counted value = true → key value < bound) :
    values.countP counted =
      ∑ index ∈ Finset.range bound,
        values.countP fun value => counted value && key value = index := by
  induction values with
  | nil => simp
  | cons value rest ih =>
      rw [List.forall_mem_cons] at small
      simp only [List.countP_cons, Finset.sum_add_distrib, ih small.2]
      congr 1
      cases counts : counted value with
      | false => simp
      | true => simp [Finset.sum_ite_eq, small.1 counts]

end SimpleProcessor.LastValue
