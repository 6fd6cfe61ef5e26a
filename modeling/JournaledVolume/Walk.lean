import JournaledVolume.Disk

/-!
# Walks over the journal

A walk is a state that is carried from one item of the journal to the next, reading the disk on the
way. Pointers on disk cannot be trusted, and a replay overwrites blocks while it walks, so a walk
ends for a reason of its own: it remembers the blocks that it has visited, visits none twice and
none outside the partition. How far it still may go is its room, which every step makes smaller.

The step of a walk fails without saying how to go on. `Walk.advance` keeps the state of a walk
between steps: a walk that has ended or failed stays ended.
-/

namespace JournaledVolume

/-- A walk over items of type `α`, with a state of type `κ`. -/
class Walk (κ : Type) (α : outParam Type) where
  /-- The walk that has ended. -/
  ended : κ
  /-- Reads the next item, and returns it with the walk behind it. -/
  step {δ : Type} [BlockDevice δ] (partition : Partition) (walk : κ) : DiskM δ (Option (α × κ))
  /-- A bound on how far a walk may go, in lexicographic order. -/
  room (partition : Partition) (walk : κ) : Nat × Nat × Nat
  /-- Every step makes the room smaller. -/
  step_room {δ : Type} [BlockDevice δ] {partition : Partition} {walk rest : κ} {item : α}
    {disk after : Disk δ} (stepped : step partition walk disk = .ok (some (item, rest)) after) :
    WellFoundedRelation.rel (room partition rest) (room partition walk)

namespace Walk

variable {κ α σ δ : Type} [Walk κ α] [BlockDevice δ]

/-- Takes one step of the walk in memory. -/
def advance (partition : Partition) : AttachedM κ δ (Option α) := fun state =>
  match step partition state.memory state.disk with
  | .ok (some (item, rest)) disk => .ok (some item) { memory := rest, disk }
  | .ok none disk => .ok none { memory := ended, disk }
  | .error error disk => .error error { memory := ended, disk }

/-- Visits the items of a walk until it ends, or until the walk or a visit fails. -/
def forEach (partition : Partition) (visit : α → AttachedM σ δ Unit) (walk : κ) :
    AttachedM σ δ Unit := fun state =>
  match stepped : step partition walk state.disk with
  | .ok (some (item, rest)) disk =>
    have := step_room stepped
    match visit item { state with disk } with
    | .ok _ state => forEach partition visit rest state
    | .error error state => .error error state
  | .ok none disk => .ok () { state with disk }
  | .error error disk => .error error { state with disk }
termination_by room partition walk
decreasing_by assumption

/-- The items of a walk, in order. -/
def collect (partition : Partition) (walk : κ) : DiskM δ (List α) := do
  let items ← DiskM.accumulate #[]
    (forEach partition (fun item => AttachedM.revise fun items => items.push item) walk)
  return items.toList

end Walk

/-- The number of blocks below `length` that were not visited. -/
def unvisited (length : Nat) (visited : List Address) : Nat :=
  (List.range length).countP fun block => decide (block ∉ visited.map UInt64.toNat)

/-- A visit to a new block leaves fewer blocks to visit. -/
theorem unvisited_cons_lt {length : Nat} {visited : List Address} {block : Address}
    (inside : block.toNat < length) (new : block ∉ visited) :
    unvisited length (block :: visited) < unvisited length visited := by
  have isNew : block.toNat ∉ visited.map UInt64.toNat := by
    intro known
    obtain ⟨other, isKnown, same⟩ := List.mem_map.1 known
    exact new (UInt64.toNat_inj.1 same ▸ isKnown)
  -- The block splits the range: before and behind it no block becomes unvisited, and it does not.
  obtain ⟨before, behind, split⟩ := List.append_of_mem (List.mem_range.2 inside)
  have fewer (blocks : List Nat) :
      blocks.countP (fun other => decide (other ∉ (block :: visited).map UInt64.toNat)) ≤
        blocks.countP fun other => decide (other ∉ visited.map UInt64.toNat) :=
    List.countP_mono_left fun other _ remains => by
      simp only [List.map_cons, List.mem_cons, not_or, decide_eq_true_eq] at remains ⊢
      exact remains.2
  have first := fewer before
  have second := fewer behind
  simp only [unvisited, split, List.countP_append, List.countP_cons]
  simp only [List.map_cons, List.mem_cons, true_or, not_true_eq_false, decide_false, isNew,
    not_false_eq_true, decide_true, if_true, Bool.false_eq_true, if_false] at first second ⊢
  omega

end JournaledVolume
