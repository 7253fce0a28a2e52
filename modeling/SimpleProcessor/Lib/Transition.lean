import Mathlib.Data.List.Basic
import Mathlib.Data.Option.Basic

/-!
# Runs of a deterministic transition function

A machine is a function `next : σ → Option σ`; `none` means that the machine
takes no further step.  A run of a given length is unique, so the facts below
speak about `runFor` and about `past`, the states in which its steps were
taken.  Invariants may mention the past, which is how a history of events is
related to the current state.
-/

namespace SimpleProcessor.Transition

universe u v

variable {σ : Type u} {τ : Type v}

/-- The state reached after exactly the given number of steps. -/
def runFor (next : σ → Option σ) : Nat → σ → Option σ
  | 0, state => some state
  | steps + 1, state => (next state).bind (runFor next steps)

/-- The states in which the first steps of a run are taken, oldest first. -/
def past (next : σ → Option σ) : Nat → σ → List σ
  | 0, _ => []
  | steps + 1, state =>
      state :: ((next state).map (past next steps)).getD []

section Run

variable {next : σ → Option σ}

@[simp] theorem runFor_zero (state : σ) : runFor next 0 state = some state := rfl

@[simp] theorem past_zero (state : σ) : past next 0 state = [] := rfl

theorem runFor_succ (steps : Nat) (state : σ) :
    runFor next (steps + 1) state = (next state).bind (runFor next steps) := rfl

@[simp] theorem runFor_one (state : σ) : runFor next 1 state = next state := by
  simp only [runFor]
  cases next state <;> rfl

@[simp] theorem past_one (state : σ) : past next 1 state = [state] := by
  simp only [past]
  cases next state <;> rfl

theorem past_succ_of_step (steps : Nat) {state state' : σ}
    (step : next state = some state') :
    past next (steps + 1) state = state :: past next steps state' := by
  simp [past, step]

theorem forall_mem_past_succ {condition : σ → Prop} {steps : Nat} {state : σ} :
    (∀ visited ∈ past next (steps + 1) state, condition visited) ↔
      condition state ∧ ∀ state', next state = some state' →
        ∀ visited ∈ past next steps state', condition visited := by
  cases taken : next state with
  | none => simp [past, taken]
  | some state' => simp [past_succ_of_step steps taken]

theorem runFor_add (left right : Nat) (state : σ) :
    runFor next (left + right) state =
      (runFor next left state).bind (runFor next right) := by
  induction left generalizing state with
  | zero => simp
  | succ left ih =>
      rw [Nat.succ_add_eq_add_succ, Nat.add_succ, runFor_succ, runFor_succ]
      cases next state with
      | none => rfl
      | some state' => exact ih state'

theorem runFor_trans {left right : Nat} {first second third : σ}
    (firstRun : runFor next left first = some second)
    (secondRun : runFor next right second = some third) :
    runFor next (left + right) first = some third := by
  rw [runFor_add, firstRun]
  exact secondRun

theorem runFor_snoc {steps : Nat} {start state state' : σ}
    (run : runFor next steps start = some state)
    (step : next state = some state') :
    runFor next (steps + 1) start = some state' :=
  runFor_trans run (by rw [runFor_one]; exact step)

theorem filterMap_snoc (event : σ → Option τ) (before : List σ) (last : σ) :
    (before ++ [last]).filterMap event = before.filterMap event ++ (event last).toList := by
  rw [List.filterMap_append]
  cases happened : event last <;> simp [happened]

private theorem length_filterMap_le {event event' : σ → Option τ} {visited : List σ}
    (both : ∀ state ∈ visited, event state = event' state ∨ event state = none) :
    (visited.filterMap event).length ≤ (visited.filterMap event').length := by
  induction visited with
  | nil => simp
  | cons first rest ih =>
      rw [List.forall_mem_cons] at both
      have shorter := ih both.2
      rcases both.1 with equal | silent
      · cases happened : event' first <;> simp [equal, happened, shorter]
      · cases happened : event' first with
        | none => simpa [silent, happened] using shorter
        | some made => simpa [silent, happened] using Nat.le_succ_of_le shorter

/-- When one kind of event happens only together with the same event of another kind,
the two histories agree if no state makes the second event alone. -/
theorem filterMap_eq_iff {event event' : σ → Option τ} {visited : List σ}
    (both : ∀ state ∈ visited, event state = event' state ∨ event state = none) :
    visited.filterMap event = visited.filterMap event' ↔
      ∀ state ∈ visited, event state = event' state := by
  constructor
  · intro same
    induction visited with
    | nil => simp
    | cons first rest ih =>
        rw [List.forall_mem_cons] at both ⊢
        obtain ⟨bothFirst, bothRest⟩ := both
        cases happened' : event' first with
        | none =>
            have silent : event first = none := by simpa [happened'] using bothFirst
            refine ⟨silent, ih bothRest ?_⟩
            simpa [silent, happened'] using same
        | some made =>
            rcases bothFirst with equal | silent
            · refine ⟨equal.trans happened', ih bothRest ?_⟩
              simpa [equal, happened'] using same
            · -- the second history would be longer
              have shorter := length_filterMap_le bothRest
              simp only [List.filterMap_cons, silent, happened'] at same
              rw [same, List.length_cons] at shorter
              omega
  · exact List.filterMap_congr

theorem exists_of_runFor_succ {steps : Nat} {start state' : σ}
    (run : runFor next (steps + 1) start = some state') :
    ∃ state, runFor next steps start = some state ∧ next state = some state' := by
  rw [runFor_add] at run
  obtain ⟨state, first, last⟩ := Option.bind_eq_some_iff.mp run
  exact ⟨state, first, by rwa [runFor_one] at last⟩

/-- Every run has a run of each smaller length as its beginning. -/
theorem exists_of_le {steps bound : Nat} {start state : σ}
    (run : runFor next bound start = some state) (bounded : steps ≤ bound) :
    ∃ middle, runFor next steps start = some middle ∧
      runFor next (bound - steps) middle = some state := by
  rw [← Nat.add_sub_cancel' bounded, runFor_add] at run
  exact Option.bind_eq_some_iff.mp run

theorem past_add {left right : Nat} {start state : σ}
    (run : runFor next left start = some state) :
    past next (left + right) start =
      past next left start ++ past next right state := by
  induction left generalizing start with
  | zero =>
      cases run
      simp
  | succ left ih =>
      obtain ⟨second, step, rest⟩ := Option.bind_eq_some_iff.mp run
      rw [Nat.succ_add_eq_add_succ, Nat.add_succ, past_succ_of_step _ step,
        past_succ_of_step _ step, ih rest, List.cons_append]

theorem past_snoc {steps : Nat} {start state : σ}
    (run : runFor next steps start = some state) :
    past next (steps + 1) start = past next steps start ++ [state] := by
  rw [past_add run, past_one]

theorem length_past {steps : Nat} {start state : σ}
    (run : runFor next steps start = some state) : (past next steps start).length = steps := by
  induction steps generalizing state with
  | zero => rfl
  | succ steps ih =>
      obtain ⟨last, before, -⟩ := exists_of_runFor_succ run
      rw [past_snoc before, List.length_append, ih before, List.length_singleton]

theorem mem_past_iff {steps : Nat} {start state final : σ}
    (run : runFor next steps start = some final) :
    state ∈ past next steps start ↔
      ∃ index < steps, runFor next index start = some state := by
  induction steps generalizing final with
  | zero => simp
  | succ steps ih =>
      obtain ⟨last, before, -⟩ := exists_of_runFor_succ run
      rw [past_snoc before, List.mem_append, ih before, List.mem_singleton]
      constructor
      · rintro (⟨index, bound, reached⟩ | rfl)
        · exact ⟨index, Nat.lt_succ_of_lt bound, reached⟩
        · exact ⟨steps, Nat.lt_succ_self steps, before⟩
      · rintro ⟨index, bound, reached⟩
        rcases Nat.lt_succ_iff_lt_or_eq.mp bound with bound | rfl
        · exact Or.inl ⟨index, bound, reached⟩
        · exact Or.inr (Option.some.inj (reached.symm.trans before))

theorem exists_of_mem_past {steps : Nat} {start state final : σ}
    (run : runFor next steps start = some final) (member : state ∈ past next steps start) :
    ∃ index state', index < steps ∧ runFor next index start = some state ∧
      next state = some state' := by
  obtain ⟨index, before, reached⟩ := (mem_past_iff run).mp member
  obtain ⟨state', reached', -⟩ := exists_of_le run (Nat.succ_le_of_lt before)
  obtain ⟨last, again, step⟩ := exists_of_runFor_succ reached'
  rw [reached] at again
  cases again
  exact ⟨index, state', before, reached, step⟩

theorem exists_step_of_lt {index steps : Nat} {start state final : σ}
    (run : runFor next steps start = some final) (earlier : index < steps)
    (reached : runFor next index start = some state) : ∃ state', next state = some state' := by
  obtain ⟨-, state', -, -, step⟩ :=
    exists_of_mem_past run ((mem_past_iff run).mpr ⟨index, earlier, reached⟩)
  exact ⟨state', step⟩

theorem mem_past_of_le {steps bound : Nat} {start visited final : σ}
    (run : runFor next bound start = some final) (bounded : steps ≤ bound)
    (member : visited ∈ past next steps start) : visited ∈ past next bound start := by
  obtain ⟨middle, reached, -⟩ := exists_of_le run bounded
  rw [← Nat.add_sub_cancel' bounded, past_add reached]
  exact List.mem_append_left _ member

theorem mem_past_or_eq_of_step {steps : Nat} {start state state' final : σ}
    (run : runFor next steps start = some final) (member : state ∈ past next steps start)
    (step : next state = some state') : state' ∈ past next steps start ∨ state' = final := by
  obtain ⟨index, before, reached⟩ := (mem_past_iff run).mp member
  have reached' := runFor_snoc reached step
  rcases Nat.lt_or_eq_of_le (Nat.succ_le_of_lt before) with earlier | last
  · exact Or.inl ((mem_past_iff run).mpr ⟨index + 1, earlier, reached'⟩)
  · rw [← last] at run
    exact Or.inr (Option.some.inj (reached'.symm.trans run))

theorem le_of_stopped {steps clocks : Nat} {start state final : σ}
    (run : runFor next steps start = some final) (stopped : next final = none)
    (reached : runFor next clocks start = some state) : clocks ≤ steps := by
  rw [← Nat.not_lt]
  intro later
  obtain ⟨middle, again, onward⟩ := exists_of_le reached (Nat.succ_le_of_lt later)
  obtain ⟨last, before, step⟩ := exists_of_runFor_succ again
  rw [run] at before
  cases before
  rw [stopped] at step
  cases step

theorem mem_past_of_stopped {steps clocks : Nat} {start state final : σ}
    (run : runFor next steps start = some final) (stopped : next final = none)
    (reached : runFor next clocks start = some state) :
    state ∈ past next steps start ∨ state = final := by
  rcases Nat.lt_or_eq_of_le (le_of_stopped run stopped reached) with earlier | rfl
  · exact Or.inl ((mem_past_iff run).mpr ⟨clocks, earlier, reached⟩)
  · exact Or.inr (Option.some.inj (reached.symm.trans run))

/-- Invariants of a run that may mention its past: what holds at the start with
an empty past and is kept by every step from a good state holds at the end of every
run that visits good states only. -/
theorem runFor_induction_of {motive : List σ → σ → Prop} {good : σ → Prop} {start : σ}
    (init : motive [] start)
    (step : ∀ before state state', motive before state → good state →
      next state = some state' → motive (before ++ [state]) state')
    {steps : Nat} {state : σ} (run : runFor next steps start = some state)
    (conditions : ∀ visited ∈ past next steps start, good visited) :
    motive (past next steps start) state := by
  induction steps generalizing state with
  | zero =>
      cases run
      exact init
  | succ steps ih =>
      obtain ⟨last, before, taken⟩ := exists_of_runFor_succ run
      rw [past_snoc before, List.forall_mem_append, List.forall_mem_singleton] at conditions
      rw [past_snoc before]
      exact step _ _ _ (ih before conditions.1) conditions.2 taken

theorem runFor_induction {motive : List σ → σ → Prop} {start : σ}
    (init : motive [] start)
    (step : ∀ before state state', motive before state →
      next state = some state' → motive (before ++ [state]) state')
    {steps : Nat} {state : σ} (run : runFor next steps start = some state) :
    motive (past next steps start) state :=
  runFor_induction_of init (fun before state state' holds _ => step before state state' holds)
    run fun _ _ => trivial

/-- What each step makes of an observation, from the visited states alone. -/
theorem observe_eq_foldl {β : Type v} (observe : σ → β) (update : β → σ → β)
    {steps : Nat} {start state : σ} (run : runFor next steps start = some state)
    (each : ∀ index < steps, ∀ visited visited', runFor next index start = some visited →
      next visited = some visited' → observe visited' = update (observe visited) visited) :
    observe state = (past next steps start).foldl update (observe start) := by
  induction steps generalizing state with
  | zero =>
      cases run
      rfl
  | succ steps ih =>
      obtain ⟨last, before, taken⟩ := exists_of_runFor_succ run
      rw [past_snoc before, List.foldl_append, List.foldl_cons, List.foldl_nil,
        each steps (Nat.lt_succ_self steps) last state before taken,
        ih before fun index early => each index (Nat.lt_succ_of_lt early)]

theorem runFor_invariant {motive : σ → Prop} {start : σ}
    (init : motive start)
    (step : ∀ state state', motive state → next state = some state' → motive state')
    {steps : Nat} {state : σ} (run : runFor next steps start = some state) :
    motive state :=
  runFor_induction (motive := fun _ state => motive state) init
    (fun _ state state' holds taken => step state state' holds taken) run

/-- A machine that waits while a measure decreases reaches its goal within the value of
the measure, unless it stops first. -/
theorem reaches_of_measure (waiting goal : σ → Prop) (measure : σ → Nat)
    (step : ∀ state state', waiting state → next state = some state' →
      goal state' ∨ waiting state' ∧ measure state' < measure state)
    {state : σ} (start : waiting state) :
    ∃ steps ≤ measure state + 1, runFor next steps state = none ∨
      ∃ state', runFor next steps state = some state' ∧ goal state' := by
  induction size : measure state using Nat.strongRecOn generalizing state with
  | ind size ih =>
      cases taken : next state with
      | none =>
          refine ⟨1, by omega, Or.inl ?_⟩
          rw [runFor_one, taken]
      | some state' =>
          rcases step state state' start taken with reached | ⟨still, smaller⟩
          · refine ⟨1, by omega, Or.inr ⟨state', ?_, reached⟩⟩
            rw [runFor_one, taken]
          · obtain ⟨steps, bound, outcome⟩ := ih (measure state') (size ▸ smaller) still rfl
            refine ⟨steps + 1, by omega, ?_⟩
            rw [runFor_succ, taken]
            exact outcome

/-- The first state after a step from `start` in which `event` holds comes `steps` steps
after that step. -/
structure FirstAfter (next : σ → Option σ) (event : σ → Prop) (steps : Nat)
    (start later : σ) : Prop where
  run : runFor next (steps + 1) start = some later
  happens : event later
  silent : ∀ index < steps, ∀ state ∈ runFor next (index + 1) start, ¬ event state

/-- What holds after the first step and is kept by the steps without an event holds when
the event happens. -/
theorem FirstAfter.induction {event motive good : σ → Prop} {steps : Nat} {start later : σ}
    (after : FirstAfter next event steps start later)
    (first : ∀ state, next start = some state → motive state)
    (step : ∀ state state', motive state → ¬ event state → good state →
      next state = some state' → motive state')
    (conditions : ∀ visited ∈ past next (steps + 1) start, good visited) : motive later := by
  obtain ⟨state, taken, rest⟩ := Option.bind_eq_some_iff.mp after.run
  rw [past_succ_of_step steps taken, List.forall_mem_cons] at conditions
  have silent : ∀ visited ∈ past next steps state, ¬ event visited ∧ good visited := by
    intro visited member
    refine ⟨?_, conditions.2 visited member⟩
    obtain ⟨index, bound, reached⟩ := (mem_past_iff rest).mp member
    apply after.silent index bound
    rw [runFor_succ, taken]
    exact Option.mem_def.mpr reached
  refine runFor_induction_of (motive := fun _ state => motive state) (first state taken) ?_
    rest silent
  intro _ state state' holds ⟨silent, good⟩ taken
  exact step state state' holds silent good taken

end Run

/-! ## Two machines in lockstep -/

/-- If related states take related steps as long as each side meets its own
condition, then a run of the first machine is matched by a run of the second. -/
theorem runFor_lockstep {next : σ → Option σ} {next' : τ → Option τ}
    {related : σ → τ → Prop} {good : σ → Prop} {good' : τ → Prop}
    (step : ∀ left right left', related left right → good left → good' right →
      next left = some left' →
      ∃ right', next' right = some right' ∧ related left' right')
    {steps : Nat} {left left' : σ} {right : τ}
    (start : related left right)
    (conditions : ∀ state ∈ past next steps left, good state)
    (conditions' : ∀ state ∈ past next' steps right, good' state)
    (run : runFor next steps left = some left') :
    ∃ right', runFor next' steps right = some right' ∧ related left' right' := by
  induction steps generalizing left right with
  | zero =>
      cases run
      exact ⟨right, rfl, start⟩
  | succ steps ih =>
      obtain ⟨middle, taken, rest⟩ := Option.bind_eq_some_iff.mp run
      rw [forall_mem_past_succ] at conditions conditions'
      obtain ⟨middle', taken', middles⟩ :=
        step left right middle start conditions.1 conditions'.1 taken
      obtain ⟨right', rest', final⟩ := ih middles (conditions.2 middle taken)
        (conditions'.2 middle' taken') rest
      refine ⟨right', ?_, final⟩
      rw [runFor_succ, taken']
      exact rest'

section Stuttering

variable {ε : Type u} {next : σ → Option σ} {next' : τ → Option τ}
  {related : σ → τ → Prop} {event : σ → ε} {event' : τ → Option ε}

/-- While the rank decreases the second machine makes no event; its last step makes
the event of the first machine's step. -/
theorem exists_runFor_of_rank (rank : τ → Nat) {left left' : σ}
    (step : ∀ right, related left right →
      ∃ right', next' right = some right' ∧
        (event' right = none ∧ rank right' < rank right ∧ related left right' ∨
          event' right = some (event left) ∧ related left' right'))
    {right : τ} (start : related left right) :
    ∃ steps right', runFor next' steps right = some right' ∧ related left' right' ∧
      (past next' steps right).filterMap event' = [event left] := by
  induction bound : rank right using Nat.strongRecOn generalizing right with
  | ind size ih =>
      obtain ⟨middle, taken, outcome⟩ := step right start
      rcases outcome with ⟨silent, smaller, still⟩ | ⟨visible, moved⟩
      · obtain ⟨steps, right', run, final, events⟩ := ih (rank middle) (bound ▸ smaller) still rfl
        refine ⟨steps + 1, right', ?_, final, ?_⟩
        · rw [runFor_succ, taken]
          exact run
        · rw [past_succ_of_step steps taken, List.filterMap_cons, silent]
          exact events
      · refine ⟨1, middle, ?_, moved, ?_⟩
        · rw [runFor_one, taken]
        · rw [past_one, List.filterMap_cons, visible]
          rfl

/-- A run of the first machine is matched by a longer run of the second one that
makes the same events. -/
theorem runFor_stuttering (related : σ → τ → Prop) (rank : τ → Nat) {good : σ → Prop}
    (step : ∀ left left' right, good left → next left = some left' → related left right →
      ∃ right', next' right = some right' ∧
        (event' right = none ∧ rank right' < rank right ∧ related left right' ∨
          event' right = some (event left) ∧ related left' right'))
    {steps : Nat} {left left' : σ} {right : τ} (start : related left right)
    (conditions : ∀ visited ∈ past next steps left, good visited)
    (run : runFor next steps left = some left') :
    ∃ steps' right', runFor next' steps' right = some right' ∧ related left' right' ∧
      (past next' steps' right).filterMap event' = (past next steps left).map event := by
  induction steps generalizing left right with
  | zero =>
      cases run
      exact ⟨0, right, rfl, start, rfl⟩
  | succ steps ih =>
      obtain ⟨middle, taken, rest⟩ := Option.bind_eq_some_iff.mp run
      rw [forall_mem_past_succ] at conditions
      obtain ⟨first, middle', firstRun, middles, firstEvents⟩ :=
        exists_runFor_of_rank rank (step left middle · conditions.1 taken) start
      obtain ⟨second, right', secondRun, final, secondEvents⟩ :=
        ih middles (conditions.2 middle taken) rest
      refine ⟨first + second, right', runFor_trans firstRun secondRun, final, ?_⟩
      rw [past_add firstRun, List.filterMap_append, firstEvents, secondEvents,
        past_succ_of_step steps taken, List.map_cons, List.singleton_append]

/-- A machine makes one event in a step at most. -/
theorem steps_le_of_events {steps steps' : Nat} {left left' : σ} {right right' : τ}
    (run : runFor next steps left = some left') (run' : runFor next' steps' right = some right')
    (events : (past next' steps' right).filterMap event' = (past next steps left).map event) :
    steps ≤ steps' := by
  have made := List.length_filterMap_le event' (past next' steps' right)
  rwa [events, List.length_map, length_past run, length_past run'] at made

theorem exists_run_of_shorter {steps steps' shorter : Nat} {left left' : σ} {right right' : τ}
    (run : runFor next steps left = some left') (run' : runFor next' steps' right = some right')
    (events : (past next' steps' right).filterMap event' = (past next steps left).map event)
    (earlier : shorter ≤ steps') :
    ∃ fewer middle, runFor next fewer left = some middle ∧
      (past next' shorter right).filterMap event' = (past next fewer left).map event := by
  obtain ⟨middle', first', second'⟩ := exists_of_le run' earlier
  let begun := (past next' shorter right).filterMap event'
  have split : past next' (shorter + (steps' - shorter)) right =
      past next' shorter right ++ past next' (steps' - shorter) middle' := past_add first'
  rw [Nat.add_sub_cancel' earlier] at split
  rw [split, List.filterMap_append] at events
  have fewer : begun.length ≤ steps := by
    have lengths := congrArg List.length events
    rw [List.length_append, List.length_map, length_past run] at lengths
    exact Nat.le_of_add_right_le (Nat.le_of_eq lengths)
  obtain ⟨middle, first, -⟩ := exists_of_le run fewer
  have whole : past next (begun.length + (steps - begun.length)) left =
      past next begun.length left ++ past next (steps - begun.length) middle := past_add first
  rw [Nat.add_sub_cancel' fewer] at whole
  rw [whole, List.map_append] at events
  refine ⟨begun.length, middle, first, (List.append_inj events ?_).1⟩
  rw [List.length_map, length_past first]

end Stuttering

section Blocks

variable {ω : Type u} {next : σ → Option σ} {next' : τ → Option τ} {good : σ → Prop}
  {clocks : Nat}

/-- When the second machine always takes the same number of steps for one step of the first,
and writes what that step writes, then it writes the same in a run. -/
theorem runFor_blocks (related : σ → τ → Prop) (output : σ → List ω) (output' : τ → List ω)
    (block : ∀ left left' right, good left → next left = some left' → related left right →
      ∃ right', runFor next' clocks right = some right' ∧ related left' right' ∧
        (past next' clocks right).flatMap output' = output left)
    {steps : Nat} {left left' : σ} {right : τ} (start : related left right)
    (conditions : ∀ visited ∈ past next steps left, good visited)
    (run : runFor next steps left = some left') :
    ∃ right', runFor next' (clocks * steps) right = some right' ∧ related left' right' ∧
      (past next' (clocks * steps) right).flatMap output' =
        (past next steps left).flatMap output := by
  induction steps generalizing left right with
  | zero =>
      cases run
      exact ⟨right, rfl, start, rfl⟩
  | succ steps ih =>
      obtain ⟨middle, taken, rest⟩ := Option.bind_eq_some_iff.mp run
      rw [forall_mem_past_succ] at conditions
      obtain ⟨middle', firstRun, middles, first⟩ := block left middle right conditions.1 taken start
      obtain ⟨right', secondRun, final, second⟩ := ih middles (conditions.2 middle taken) rest
      rw [Nat.mul_succ, Nat.add_comm]
      refine ⟨right', runFor_trans firstRun secondRun, final, ?_⟩
      rw [past_add firstRun, List.flatMap_append, first, second, past_succ_of_step steps taken,
        List.flatMap_cons]

end Blocks

end SimpleProcessor.Transition
