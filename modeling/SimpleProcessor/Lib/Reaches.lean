import SimpleProcessor.Lib.Transition

/-!
# What a machine reaches

`Reaches next goal` is the weakest condition on a state under which the machine
gets to its goal.  A run is unique, so a machine that ends can only end where it
was shown to get to, and one that keeps coming back to an invariant never ends.
-/

namespace SimpleProcessor.Transition

universe u

variable {σ : Type u} {next : σ → Option σ}

/-- The machine gets to a state with the property. -/
def Reaches (next : σ → Option σ) (goal : σ → Prop) (state : σ) : Prop :=
  ∃ steps state', runFor next steps state = some state' ∧ goal state'

namespace Reaches

variable {goal middle : σ → Prop} {state state' : σ}

theorem here (holds : goal state) : Reaches next goal state := ⟨0, state, rfl, holds⟩

theorem step (taken : next state = some state') (rest : Reaches next goal state') :
    Reaches next goal state := by
  obtain ⟨steps, last, run, holds⟩ := rest
  refine ⟨steps + 1, last, ?_, holds⟩
  rw [runFor_succ, taken]
  exact run

theorem of_end (reaches : Reaches next goal state)
    (ends : ∀ last, goal last → next last = none) {steps : Nat} {final : σ}
    (run : runFor next steps state = some final) (stopped : next final = none) :
    goal final := by
  obtain ⟨steps', last, run', holds⟩ := reaches
  rcases Nat.le_total steps steps' with before | after
  · obtain ⟨middle, reached, rest⟩ := exists_of_le run' before
    rw [run] at reached
    cases reached
    cases remaining : steps' - steps with
    | zero =>
        rw [remaining] at rest
        cases rest
        exact holds
    | succ remaining' =>
        rw [remaining, runFor_succ, stopped] at rest
        cases rest
  · obtain ⟨middle, reached, rest⟩ := exists_of_le run after
    rw [run'] at reached
    cases reached
    cases remaining : steps - steps' with
    | zero =>
        rw [remaining] at rest
        cases rest
        exact holds
    | succ remaining' =>
        rw [remaining, runFor_succ, ends last holds] at rest
        cases rest

theorem exists_runFor {steps : Nat} (reaches : Reaches next goal state)
    (further : ∀ last, goal last → ∃ final, runFor next steps last = some final) :
    ∃ final, runFor next steps state = some final := by
  obtain ⟨before, last, run, holds⟩ := reaches
  obtain ⟨final, rest⟩ := further last holds
  obtain ⟨middle, reached, -⟩ :=
    exists_of_le (runFor_trans run rest) (Nat.le_add_left steps before)
  exact ⟨middle, reached⟩

end Reaches

/-- The machine gets to a state with the property and takes its steps in good states only. -/
def ReachesThrough (next : σ → Option σ) (good goal : σ → Prop) (state : σ) : Prop :=
  ∃ steps state', runFor next steps state = some state' ∧ goal state' ∧
    ∀ visited ∈ past next steps state, good visited

namespace ReachesThrough

variable {good goal : σ → Prop} {state state' : σ}

theorem here (holds : goal state) : ReachesThrough next good goal state :=
  ⟨0, state, rfl, holds, by simp⟩

theorem step (isGood : good state) (taken : next state = some state')
    (rest : ReachesThrough next good goal state') : ReachesThrough next good goal state := by
  obtain ⟨steps, last, run, holds, visits⟩ := rest
  refine ⟨steps + 1, last, ?_, holds, ?_⟩
  · rw [runFor_succ, taken]
    exact run
  · rw [past_succ_of_step steps taken, List.forall_mem_cons]
    exact ⟨isGood, visits⟩

theorem reaches (through : ReachesThrough next good goal state) : Reaches next goal state := by
  obtain ⟨steps, last, run, holds, -⟩ := through
  exact ⟨steps, last, run, holds⟩

end ReachesThrough

/-- A machine that always comes back to an invariant runs on forever. -/
theorem runFor_of_return {invariant : σ → Prop}
    (comesBack : ∀ state, invariant state →
      ∃ state', next state = some state' ∧ Reaches next invariant state')
    (steps : Nat) (state : σ) (holds : invariant state) :
    ∃ final, runFor next steps state = some final := by
  induction steps generalizing state with
  | zero => exact ⟨state, rfl⟩
  | succ steps ih =>
      obtain ⟨state', taken, again⟩ := comesBack state holds
      rw [runFor_succ, taken]
      exact again.exists_runFor ih

theorem stops_or_runs (stopped : σ → Prop) {start : σ}
    (goesOn : ∀ steps state, runFor next steps start = some state → ¬ stopped state →
      ∃ state', next state = some state') :
    (∃ steps state, runFor next steps start = some state ∧ stopped state) ∨
      ∀ steps, ∃ state, runFor next steps start = some state := by
  by_cases stops : ∃ steps state, runFor next steps start = some state ∧ stopped state
  · exact Or.inl stops
  · right
    intro steps
    induction steps with
    | zero => exact ⟨start, rfl⟩
    | succ steps ih =>
        obtain ⟨state, run⟩ := ih
        obtain ⟨state', step⟩ :=
          goesOn steps state run fun stopped => stops ⟨steps, state, run, stopped⟩
        exact ⟨state', runFor_snoc run step⟩

theorem next_ne_none_of_runs {start state : σ} {steps : Nat}
    (runs : ∀ steps, ∃ state, runFor next steps start = some state)
    (run : runFor next steps start = some state) : next state ≠ none := by
  intro stuck
  obtain ⟨beyond, further⟩ := runs (steps + 1)
  obtain ⟨last, reached, step⟩ := exists_of_runFor_succ further
  rw [run] at reached
  cases reached
  rw [stuck] at step
  cases step

end SimpleProcessor.Transition
