import JournaledVolume.Journal.Encoding
import JournaledVolume.Journal.Pointer
import JournaledVolume.Walk

/-!
# The transaction chain and the record chains

The header of each transaction points to the one committed before it. `ChainWalk` follows these
pointers from the newest transaction to one where it stops, which it does not visit.

The log records of a transaction form a chain that starts in its header. `RecordWalk` follows it to
the record that points back to the header, or to itself.
-/

namespace JournaledVolume

/-- A walk along the transaction chain, from new to old. -/
inductive ChainWalk where
  /-- The walk is over. -/
  | ended
  /-- The next header to visit, where to stop, and the headers visited. -/
  | walking (next stop : Address) (visited : List Address)
deriving DecidableEq, Repr

namespace ChainWalk

/-- The walk from a transaction down to another one, which it leaves out. -/
def start (newest stop : Address) : ChainWalk := walking newest stop []

/-- Visits the next transaction header. -/
def step {δ : Type} [BlockDevice δ] (partition : Partition) :
    ChainWalk → DiskM δ (Option (Transaction × ChainWalk))
  | ended => return none
  | walking next stop visited =>
    if next = stop then return none
    else if next ∈ visited then DiskM.refuse (.txChainLoops next) (.chainLoops next.toNat)
    else do
      match TxHeader.decode? (← DiskM.readPointer partition next) with
      | some header =>
        DiskM.emit (.txRead header.id next header.previous)
        return some (⟨next, header⟩, walking header.previous stop (next :: visited))
      | none => DiskM.refuse (.notTxHeader next) (.badMagic next.toNat)

/-- The number of blocks that the walk may still visit. -/
def room (partition : Partition) : ChainWalk → Nat
  | ended => 0
  | walking _ _ visited => unvisited partition.length visited

/-- Every step visits a new block. -/
theorem room_of_step {δ : Type} [BlockDevice δ] {partition : Partition} {walk rest : ChainWalk}
    {item : Transaction} {disk after : Disk δ}
    (stepped : step partition walk disk = .ok (some (item, rest)) after) :
    rest.room partition < walk.room partition := by
  cases walk with
  | ended => exact nomatch (Action.of_pure_ok stepped).1
  | walking next stop visited =>
    by_cases last : next = stop
    · simp only [step, last, if_true] at stepped
      exact nomatch (Action.of_pure_ok stepped).1
    by_cases known : next ∈ visited
    · simp only [step, last, known, if_true, if_false] at stepped
      exact (DiskM.refuse_ne_ok stepped).elim
    simp only [step, last, known, if_false] at stepped
    obtain ⟨content, _, read, stepped⟩ := Action.of_bind_ok stepped
    cases decoded : TxHeader.decode? content with
    | none =>
      simp only [decoded] at stepped
      exact (DiskM.refuse_ne_ok stepped).elim
    | some header =>
      simp only [decoded] at stepped
      obtain ⟨_, _, _, returned⟩ := Action.of_bind_ok stepped
      obtain ⟨same, _⟩ := Action.of_pure_ok returned
      cases same
      exact unvisited_cons_lt (DiskM.readPointer_inside read) known

end ChainWalk

instance : Walk ChainWalk Transaction where
  ended := .ended
  step := ChainWalk.step
  room partition walk := (0, 0, walk.room partition)
  step_room stepped := .right _ (.right _ (ChainWalk.room_of_step stepped))

/-- A walk along the log records of a transaction. -/
inductive RecordWalk where
  /-- The walk is over. -/
  | ended
  /-- The address and the id of the transaction, the next record to visit, and the records
  visited. -/
  | walking (address : Address) (id : UInt64) (next : Address) (visited : List Address)
deriving DecidableEq, Repr

namespace RecordWalk

/-- The walk over all log records of a transaction. -/
def start (transaction : Transaction) : RecordWalk :=
  walking transaction.address transaction.header.id transaction.header.firstRecord []

/-- Reads the log record at an address. -/
def readRecord {δ : Type} [BlockDevice δ] (partition : Partition) (block : Address) :
    DiskM δ LogRecord := do
  match LogRecord.decode? (← DiskM.readPointer partition block) with
  | some record => return record
  | none => throw (Defect.badMagic block.toNat).toError

/-- A log record that could be read lies inside the partition. -/
theorem readRecord_inside {δ : Type} [BlockDevice δ] {partition : Partition} {block : Address}
    {record : LogRecord} {disk after : Disk δ}
    (ran : readRecord partition block disk = .ok record after) :
    block.toNat < partition.length := by
  obtain ⟨_, _, read, _⟩ := Action.of_bind_ok ran
  exact DiskM.readPointer_inside read

/-- Visits the next log record. -/
def step {δ : Type} [BlockDevice δ] (partition : Partition) :
    RecordWalk → DiskM δ (Option ((Address × LogRecord) × RecordWalk))
  | ended => return none
  | walking address id next visited =>
    if next = address then return none
    else if next ∈ visited then DiskM.refuse (.recordChainLoops id next) (.chainLoops next.toNat)
    else do
      let record ← DiskM.orReport (fun _ => .badLogRecord id next) (readRecord partition next)
      -- A record that points to itself is the last one.
      let rest := if record.next = next then ended
        else walking address id record.next (next :: visited)
      return some ((next, record), rest)

/-- The number of blocks that the walk may still visit. -/
def room (partition : Partition) : RecordWalk → Nat
  | ended => 0
  | walking _ _ _ visited => unvisited partition.length visited

/-- Every step visits a new block. -/
theorem room_of_step {δ : Type} [BlockDevice δ] {partition : Partition} {walk rest : RecordWalk}
    {item : Address × LogRecord} {disk after : Disk δ}
    (stepped : step partition walk disk = .ok (some (item, rest)) after) :
    rest.room partition < walk.room partition := by
  cases walk with
  | ended => exact nomatch (Action.of_pure_ok stepped).1
  | walking address id next visited =>
    by_cases last : next = address
    · simp only [step, last, if_true] at stepped
      exact nomatch (Action.of_pure_ok stepped).1
    by_cases known : next ∈ visited
    · simp only [step, last, known, if_true, if_false] at stepped
      exact (DiskM.refuse_ne_ok stepped).elim
    simp only [step, last, known, if_false] at stepped
    obtain ⟨record, _, read, returned⟩ := Action.of_bind_ok stepped
    obtain ⟨same, _⟩ := Action.of_pure_ok returned
    cases same
    have fewer := unvisited_cons_lt (readRecord_inside (DiskM.of_orReport_ok read)) known
    by_cases loops : record.next = next
    · simp only [loops, if_true, room]
      omega
    · simpa only [loops, if_false, room] using fewer

end RecordWalk

instance : Walk RecordWalk (Address × LogRecord) where
  ended := .ended
  step := RecordWalk.step
  room partition walk := (0, 0, walk.room partition)
  step_room stepped := .right _ (.right _ (RecordWalk.room_of_step stepped))

end JournaledVolume
