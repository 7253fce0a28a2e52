/-!
# Paths through addresses

A hop is a visited address together with the address that comes next.  A path is
a sequence of hops that fit together.  The instructions a processor has retired
form a path, and so do the instructions it has fetched on speculation; a flush
cuts the second one short.
-/

namespace SimpleProcessor

universe u

/-- A visited address and the next one. -/
@[ext] structure Hop (α : Type u) where
  pc : α
  next : α
  deriving DecidableEq

variable {α : Type u}

/-- The hops start at the first address, fit together and end at the last one. -/
def Path : α → List (Hop α) → α → Prop
  | start, [], finish => finish = start
  | start, hop :: rest, finish => hop.pc = start ∧ Path hop.next rest finish

namespace Path

variable {start middle finish : α} {hops left right : List (Hop α)}

@[simp] theorem nil_iff : Path start [] finish ↔ finish = start := Iff.rfl

@[simp] theorem cons_iff {hop : Hop α} {rest : List (Hop α)} :
    Path start (hop :: rest) finish ↔ hop.pc = start ∧ Path hop.next rest finish :=
  Iff.rfl

theorem append_iff :
    Path start (left ++ right) finish ↔
      ∃ middle, Path start left middle ∧ Path middle right finish := by
  induction left generalizing start with
  | nil => simp
  | cons hop left ih =>
      simp only [List.cons_append, cons_iff, ih]
      constructor
      · rintro ⟨first, middle, before, after⟩
        exact ⟨middle, ⟨first, before⟩, after⟩
      · rintro ⟨middle, ⟨first, before⟩, after⟩
        exact ⟨first, middle, before, after⟩

theorem append (before : Path start left middle) (after : Path middle right finish) :
    Path start (left ++ right) finish :=
  append_iff.mpr ⟨middle, before, after⟩

theorem snoc (path : Path start hops finish) (next : α) :
    Path start (hops ++ [⟨finish, next⟩]) next :=
  path.append ⟨rfl, rfl⟩

/-- Along a path whose hops go to a low place or climb by one, the height grows by
at most one a hop. -/
theorem height_le (height : α → Nat) {bound : Nat}
    (climbs : ∀ hop ∈ hops, height hop.next ≤ bound ∨ height hop.next ≤ height hop.pc + 1)
    (low : height start ≤ bound) (path : Path start hops finish) :
    height finish ≤ bound + hops.length := by
  induction hops generalizing start bound with
  | nil =>
      rw [nil_iff] at path
      rw [path]
      exact Nat.le_add_right_of_le low
  | cons hop rest ih =>
      rw [cons_iff] at path
      obtain ⟨first, path⟩ := path
      rw [List.forall_mem_cons] at climbs
      have next : height hop.next ≤ bound + 1 := by
        rcases climbs.1 with direct | climb
        · exact Nat.le_succ_of_le direct
        · rw [first] at climb
          exact Nat.le_trans climb (Nat.add_le_add_right low 1)
      have restClimbs : ∀ later ∈ rest,
          height later.next ≤ bound + 1 ∨ height later.next ≤ height later.pc + 1 := by
        intro later member
        exact (climbs.2 later member).imp_left Nat.le_succ_of_le
      have final := ih restClimbs next path
      rw [List.length_cons]
      omega

end Path

/-- The hop of a pipeline stage, which may be empty. -/
def hopIf (active : Bool) (pc next : α) : List (Hop α) := if active then [⟨pc, next⟩] else []

@[simp] theorem hopIf_true (pc next : α) : hopIf true pc next = [⟨pc, next⟩] := rfl

@[simp] theorem hopIf_false (pc next : α) : hopIf false pc next = [] := rfl

end SimpleProcessor
