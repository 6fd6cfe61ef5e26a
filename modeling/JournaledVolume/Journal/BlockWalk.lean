import JournaledVolume.Journal.ChainWalk

/-!
# The blocks of the pending transactions

`BlockWalk` visits every block that the transactions of a chain occupy: for each transaction, from
new to old, its header, and for each of its log records the record and then the wandered blocks
that the record names.
-/

namespace JournaledVolume

/-- A walk over the blocks of transactions. -/
inductive BlockWalk where
  /-- The walk is over. -/
  | ended
  /-- The transactions to come, the records to come of the last transaction visited, and the
  wandered blocks to come of the last record visited. -/
  | walking (transactions : ChainWalk) (records : RecordWalk) (wandered : List Address)
deriving DecidableEq, Repr

namespace BlockWalk

/-- The walk over the blocks of the transactions from one down to another, which it leaves out. -/
def start (newest stop : Address) : BlockWalk := walking (.start newest stop) .ended []

variable {δ : Type} [BlockDevice δ]

/-- Visits the header of the next transaction. -/
def stepTransaction (partition : Partition) (transactions : ChainWalk) :
    DiskM δ (Option ((Address × BlockKind) × BlockWalk)) := do
  match ← transactions.step partition with
  | some (transaction, rest) =>
    return some ((transaction.address, .txHeader), walking rest (.start transaction) [])
  | none => return none

/-- Visits the next log record of the transaction at hand, or the next transaction. -/
def stepRecord (partition : Partition) (transactions : ChainWalk) (records : RecordWalk) :
    DiskM δ (Option ((Address × BlockKind) × BlockWalk)) := do
  match ← records.step partition with
  | some ((block, record), rest) =>
    let wandered := record.entries.map WanderEntry.wandered
    return some ((block, .logRecord), walking transactions rest wandered)
  | none => stepTransaction partition transactions

/-- Visits the next block. -/
def step (partition : Partition) :
    BlockWalk → DiskM δ (Option ((Address × BlockKind) × BlockWalk))
  | ended => return none
  | walking transactions records (block :: wandered) =>
    return some ((block, .wandered), walking transactions records wandered)
  | walking transactions records [] => stepRecord partition transactions records

/-- How far the walk may still go: the transactions, then the records of the one at hand, then the
wandered blocks of the record at hand. -/
def room (partition : Partition) : BlockWalk → Nat × Nat × Nat
  | ended => (0, 0, 0)
  | walking transactions records wandered =>
    (transactions.room partition, records.room partition, wandered.length)

/-- A step to a transaction visits a new one. -/
theorem room_of_stepTransaction {partition : Partition} {transactions : ChainWalk}
    {records : RecordWalk} {rest : BlockWalk} {item : Address × BlockKind} {disk after : Disk δ}
    (stepped : stepTransaction partition transactions disk = .ok (some (item, rest)) after) :
    WellFoundedRelation.rel (rest.room partition)
      ((walking transactions records []).room partition) := by
  obtain ⟨found, _, chained, returned⟩ := Action.of_bind_ok stepped
  cases found with
  | none => exact nomatch (Action.of_pure_ok returned).1
  | some found =>
    obtain ⟨same, _⟩ := Action.of_pure_ok returned
    cases same
    exact .left _ _ (ChainWalk.room_of_step chained)

/-- A step to a record or a transaction visits a new one. -/
theorem room_of_stepRecord {partition : Partition} {transactions : ChainWalk}
    {records : RecordWalk} {rest : BlockWalk} {item : Address × BlockKind} {disk after : Disk δ}
    (stepped : stepRecord partition transactions records disk = .ok (some (item, rest)) after) :
    WellFoundedRelation.rel (rest.room partition)
      ((walking transactions records []).room partition) := by
  obtain ⟨found, _, recorded, further⟩ := Action.of_bind_ok stepped
  cases found with
  | none => exact room_of_stepTransaction further
  | some found =>
    obtain ⟨same, _⟩ := Action.of_pure_ok further
    cases same
    exact .right _ (.left _ _ (RecordWalk.room_of_step recorded))

/-- Every step visits a new transaction, a new record of the transaction at hand, or one of the
wandered blocks that are left. -/
theorem room_of_step {partition : Partition} {walk rest : BlockWalk} {item : Address × BlockKind}
    {disk after : Disk δ} (stepped : step partition walk disk = .ok (some (item, rest)) after) :
    WellFoundedRelation.rel (rest.room partition) (walk.room partition) := by
  cases walk with
  | ended => exact nomatch (Action.of_pure_ok stepped).1
  | walking transactions records wandered =>
    cases wandered with
    | nil => exact room_of_stepRecord stepped
    | cons block wandered =>
      obtain ⟨same, _⟩ := Action.of_pure_ok stepped
      cases same
      exact .right _ (.right _ (Nat.lt_succ_self _))

end BlockWalk

instance : Walk BlockWalk (Address × BlockKind) where
  ended := .ended
  step := BlockWalk.step
  room partition walk := walk.room partition
  step_room := BlockWalk.room_of_step

end JournaledVolume
