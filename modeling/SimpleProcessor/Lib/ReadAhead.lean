import Mathlib.Logic.Function.Basic
import Mathlib.Data.List.Basic

/-!
# Copying through a short queue

A copier moves `count` cells from `src 0, src 1, …` to `dst 0, dst 1, …` of one
memory.  It reads cells in order into a queue and writes the head of the queue
in order; other parties may write cells outside both ranges in between.  The
cell written last and the cells still to be read may be the same cells.  As
long as the copier keeps at least two words of the queue before a write (or has
read everything), it overwrites no cell that it has not read, provided that
every written cell is a source cell at most one place further on.
-/

namespace SimpleProcessor.ReadAhead

universe u v

variable {α : Type u} {β : Type v}

/-- The memory, the number of cells written and the words read but not written. -/
structure Copy (α : Type u) (β : Type v) where
  mem : α → β
  written : Nat
  queue : List β

namespace Copy

/-- Number of cells read. -/
def fetched (copy : Copy α β) : Nat := copy.written + copy.queue.length

/-- Read the next source cell into the queue. -/
def read (src : Nat → α) (copy : Copy α β) : Copy α β :=
  { copy with queue := copy.queue ++ [copy.mem (src copy.fetched)] }

variable [DecidableEq α]

/-- Write one word to the next destination cell. -/
def write (dst : Nat → α) (copy : Copy α β) (value : β) (rest : List β) : Copy α β where
  mem := Function.update copy.mem (dst copy.written) value
  written := copy.written + 1
  queue := rest

/-- Another party writes a cell. -/
def store (copy : Copy α β) (cell : α) (value : β) : Copy α β :=
  { copy with mem := Function.update copy.mem cell value }

@[simp] theorem write_mem (dst : Nat → α) (copy : Copy α β) (value : β) (rest : List β) :
    (copy.write dst value rest).mem = Function.update copy.mem (dst copy.written) value := rfl

@[simp] theorem store_mem (copy : Copy α β) (cell : α) (value : β) :
    (copy.store cell value).mem = Function.update copy.mem cell value := rfl

end Copy

/-- The two ranges of a copy: distinct destination cells, and an overlap in
which no cell is written more than one place before it is read. -/
structure Ranges (src dst : Nat → α) (count : Nat) : Prop where
  distinct : ∀ i j, i < count → j < count → dst i = dst j → i = j
  overlap : ∀ i j, i < count → j < count → dst i = src j → j ≤ i + 1

/-- The copy so far, relative to the cells at the start (`original`) and to the
cells as the other parties alone would have left them (`others`). -/
structure Correct (src dst : Nat → α) (count : Nat) (original others : α → β)
    (copy : Copy α β) : Prop where
  bounded : copy.fetched ≤ count
  copied : ∀ i, i < copy.written → copy.mem (dst i) = original (src i)
  queued : copy.queue =
    (List.range copy.queue.length).map fun k => original (src (copy.written + k))
  unread : ∀ k, copy.fetched ≤ k → k < count → copy.mem (src k) = original (src k)
  frame : ∀ cell, (∀ i, i < copy.written → cell ≠ dst i) → copy.mem cell = others cell

section Moves

variable {src dst : Nat → α} {count : Nat} {original others : α → β} {copy : Copy α β}

theorem Correct.start (src dst : Nat → α) (count : Nat) (mem : α → β) :
    Correct src dst count mem mem ⟨mem, 0, []⟩ where
  bounded := Nat.zero_le count
  copied i bound := absurd bound (Nat.not_lt_zero i)
  queued := rfl
  unread _ _ _ := rfl
  frame _ _ := rfl

theorem Correct.read (correct : Correct src dst count original others copy)
    (more : copy.fetched < count) :
    Correct src dst count original others (copy.read src) := by
  have fetchedNext : (copy.read src).fetched = copy.fetched + 1 := by
    simp [Copy.fetched, Copy.read, Nat.add_assoc]
  refine ⟨by omega, correct.copied, ?_, ?_, correct.frame⟩
  · have value : copy.mem (src copy.fetched) = original (src copy.fetched) :=
      correct.unread _ (Nat.le_refl _) more
    simp only [Copy.read, List.length_append, List.length_singleton, List.range_succ,
      List.map_append, List.map_singleton, value]
    rw [← correct.queued]
    rfl
  · intro k unread bound
    exact correct.unread k (by omega) bound

variable [DecidableEq α]

theorem Correct.write (ranges : Ranges src dst count)
    (correct : Correct src dst count original others copy)
    {value : β} {rest : List β} (queue : copy.queue = value :: rest)
    (ahead : copy.fetched = count ∨ copy.written + 2 ≤ copy.fetched) :
    Correct src dst count original others (copy.write dst value rest) := by
  have length : copy.queue.length = rest.length + 1 := by rw [queue]; rfl
  have fetchedSame : (copy.write dst value rest).fetched = copy.fetched := by
    simp only [Copy.fetched, Copy.write, length]
    omega
  have bounded := correct.bounded
  have writable : copy.written < count := by
    simp only [Copy.fetched, length] at bounded
    omega
  have queued := correct.queued
  rw [queue, List.length_cons, List.range_succ_eq_map, List.map_cons, List.map_map] at queued
  obtain ⟨head, tail⟩ := List.cons.inj queued
  refine ⟨by rw [fetchedSame]; exact bounded, ?_, ?_, ?_, ?_⟩
  · intro i bound
    rcases Nat.lt_succ_iff_lt_or_eq.mp bound with before | rfl
    · have other : dst i ≠ dst copy.written := fun same =>
        absurd (ranges.distinct i _ (by omega) writable same) (by omega)
      rw [Copy.write_mem, Function.update_of_ne other]
      exact correct.copied i before
    · rw [Copy.write_mem, Function.update_self, head]
      rfl
  · rw [Copy.write]
    refine tail.trans (List.map_congr_left fun k _ => ?_)
    simp only [Function.comp_apply, Nat.succ_eq_add_one]
    rw [Nat.add_right_comm, Nat.add_assoc]
  · intro k unread bound
    rw [fetchedSame] at unread
    have other : src k ≠ dst copy.written := fun same => by
      have near := ranges.overlap _ k writable bound same.symm
      omega
    rw [Copy.write_mem, Function.update_of_ne other]
    exact correct.unread k unread bound
  · intro cell outside
    have other : cell ≠ dst copy.written := outside _ (Nat.lt_succ_self _)
    rw [Copy.write_mem, Function.update_of_ne other]
    exact correct.frame cell fun i bound => outside i (Nat.lt_succ_of_lt bound)

theorem Correct.store (correct : Correct src dst count original others copy)
    {cell : α} (value : β)
    (outside : ∀ i, i < count → cell ≠ src i ∧ cell ≠ dst i) :
    Correct src dst count original (Function.update others cell value)
      (copy.store cell value) := by
  have bounded := correct.bounded
  refine ⟨bounded, ?_, correct.queued, ?_, ?_⟩
  · intro i bound
    have inside : i < count := by
      simp only [Copy.fetched] at bounded
      simp only [Copy.store] at bound
      omega
    rw [Copy.store_mem, Function.update_of_ne (outside i inside).2.symm]
    exact correct.copied i bound
  · intro k unread bound
    rw [Copy.store_mem, Function.update_of_ne (outside k bound).1.symm]
    exact correct.unread k unread bound
  · intro other untouched
    by_cases same : other = cell
    · subst same
      simp [Copy.store]
    · rw [Copy.store_mem, Function.update_of_ne same, Function.update_of_ne same]
      exact correct.frame other untouched

end Moves

end SimpleProcessor.ReadAhead
