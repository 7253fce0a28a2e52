import SimpleProcessor.Lib.Transition

/-!
# Specifications that leave a choice open

A specification is a relation `step`, which may offer several next states, together
with the states for which it says anything at all.  What it promises, a machine has
to keep for one of the offered states only; what a program is to rely on must hold
whichever of them the machine takes.
-/

namespace SimpleProcessor.Choice

open Transition

universe u v

variable {σ : Type u} {τ : Type v} {step : τ → τ → Prop} {defined : τ → Prop}

/-- The second state can be reached from the first one in the given number of steps. -/
inductive Steps (step : τ → τ → Prop) : Nat → τ → τ → Prop where
  | zero (spec : τ) : Steps step 0 spec spec
  | snoc {count : Nat} {first last spec' : τ} (before : Steps step count first last)
      (taken : step last spec') : Steps step (count + 1) first spec'

theorem Steps.cons {count : Nat} {first second last : τ} (taken : step first second)
    (rest : Steps step count second last) : Steps step (count + 1) first last := by
  induction rest with
  | zero => exact .snoc (.zero first) taken
  | snoc _ later ih => exact .snoc (ih taken) later

/-- All states that are the given number of steps away, when every step is one of a list. -/
def ahead (offers : τ → List τ) : Nat → τ → List τ
  | 0, spec => [spec]
  | count + 1, spec => (ahead offers count spec).flatMap offers

theorem Steps.mem_ahead {offers : τ → List τ}
    (listed : ∀ spec spec', step spec spec' → spec' ∈ offers spec) {count : Nat} {spec spec' : τ}
    (steps : Steps step count spec spec') : spec' ∈ ahead offers count spec := by
  induction steps with
  | zero spec => exact List.mem_singleton_self spec
  | snoc _ taken ih => exact List.mem_flatMap.mpr ⟨_, ih, listed _ _ taken⟩

/-- Whatever is chosen, the goal is reached, and nothing undefined comes before it. -/
inductive Inevitable (step : τ → τ → Prop) (defined goal : τ → Prop) : τ → Prop where
  | here {spec : τ} (holds : goal spec) : Inevitable step defined goal spec
  | step {spec : τ} (known : defined spec)
      (rest : ∀ spec', step spec spec' → Inevitable step defined goal spec') :
      Inevitable step defined goal spec

theorem Inevitable.trans {middle goal : τ → Prop} {spec : τ}
    (first : Inevitable step defined middle spec)
    (second : ∀ spec', middle spec' → Inevitable step defined goal spec') :
    Inevitable step defined goal spec := by
  induction first with
  | here holds => exact second _ holds
  | step known _ ih => exact .step known ih

/-- A deterministic machine takes `width` steps for one of the steps that the specification
offers. -/
def Implements (next : σ → Option σ) (width : Nat) (step : τ → τ → Prop) (defined : τ → Prop)
    (related : σ → τ → Prop) : Prop :=
  ∀ state spec, related state spec → defined spec →
    ∃ state' spec', runFor next width state = some state' ∧ step spec spec' ∧
      related state' spec'

namespace Implements

variable {next : σ → Option σ} {width : Nat} {related : σ → τ → Prop}

theorem reaches (implements : Implements next width step defined related) {goal : τ → Prop}
    {spec : τ} (inevitable : Inevitable step defined goal spec) {state : σ}
    (start : related state spec) :
    ∃ count state' spec', runFor next (width * count) state = some state' ∧
      Steps step count spec spec' ∧ related state' spec' ∧ goal spec' := by
  induction inevitable generalizing state with
  | @here spec holds => exact ⟨0, state, spec, rfl, .zero spec, start, holds⟩
  | @step spec known _ ih =>
      obtain ⟨middle, spec', first, taken, related'⟩ := implements state spec start known
      obtain ⟨count, state', last, rest, steps, final, holds⟩ := ih spec' taken related'
      refine ⟨count + 1, state', last, ?_, .cons taken steps, final, holds⟩
      rw [Nat.mul_succ, Nat.add_comm]
      exact runFor_trans first rest

/-- The machine follows the specification for any number of steps, unless it ends. -/
theorem follows (implements : Implements next width step defined related) {ended : τ → Prop}
    {spec : τ} (count : Nat)
    (known : ∀ before < count, ∀ spec', Steps step before spec spec' →
      defined spec' ∨ ended spec')
    {state : σ} (start : related state spec) :
    ∃ taken ≤ count, ∃ state' spec', runFor next (width * taken) state = some state' ∧
      Steps step taken spec spec' ∧ related state' spec' ∧ (taken = count ∨ ended spec') := by
  induction count with
  | zero => exact ⟨0, Nat.le_refl 0, state, spec, rfl, .zero spec, start, Or.inl rfl⟩
  | succ count ih =>
      obtain ⟨taken, bound, state', spec', run, steps, related', outcome⟩ :=
        ih fun before earlier => known before (Nat.lt_succ_of_lt earlier)
      rcases outcome with rfl | ended'
      · rcases known taken (Nat.lt_succ_self taken) spec' steps with here | ended'
        · obtain ⟨state'', spec'', run', step', related''⟩ :=
            implements state' spec' related' here
          exact ⟨taken + 1, Nat.le_refl _, state'', spec'', runFor_trans run run',
            .snoc steps step', related'', Or.inl rfl⟩
        · exact ⟨taken, Nat.le_succ taken, state', spec', run, steps, related', Or.inr ended'⟩
      · exact ⟨taken, Nat.le_succ_of_le bound, state', spec', run, steps, related',
          Or.inr ended'⟩

end Implements

end SimpleProcessor.Choice
