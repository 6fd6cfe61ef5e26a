import JournaledVolume.Findings
import JournaledVolume.Journal.Basic
import JournaledVolume.Journal.ChainWalk

/-!
# Inspection of the pending transactions

Before a journal is trusted, its pending transactions are examined from old to new. Every header,
log record and wandered block has to be claimed: it must lie inside the partition and off the fixed
metadata, nothing else in the journal may use it, and no older transaction may overwrite it, since a
replay would do so before the block is needed. The home blocks of a transaction must lie inside
the partition, differ from each other and be no blocks of the journal.

The transactions behind the first bad one are not looked at: they cannot be replayed without it. A
repair moves the commit point back to the newest good transaction. When the chain itself is damaged
no transaction on it is trusted.
-/

namespace JournaledVolume

/-- The blocks that the transactions examined so far use. -/
structure Usage where
  /-- The headers, log records and wandered blocks. -/
  claimed : List Address := []
  /-- The home blocks of the transaction at hand, newest first. -/
  homes : List Address := []
  /-- The home blocks of the transactions found good. -/
  overwritten : List Address := []
deriving DecidableEq, Repr

namespace Usage

/-- Whether a block is one that a journal may name, in a partition of `length` blocks. -/
def named (length : Nat) (block : Address) : Bool := decide (block ≠ 0 ∧ block.toNat < length)

/-- Takes a block for the journal itself. A block that it may not name is reported as `outside`. -/
def claim (fixed : Bitmap) (length : Nat) (outside : Cause) (block : Address) (usage : Usage) :
    Except Error Usage := do
  let refuse (cause : Cause) : Except Error Unit := throw (.atBlock cause block.toNat)
  unless named length block do refuse outside
  if fixed.test block.toNat then refuse .overlapsFixed
  if block ∈ usage.claimed then refuse .referencedTwice
  if block ∈ usage.overwritten then refuse .overwrittenEarlier
  return { usage with claimed := block :: usage.claimed }

/-- Takes a block as one that the transaction at hand overwrites. -/
def target (length : Nat) (block : Address) (usage : Usage) : Except Error Usage := do
  let refuse (cause : Cause) : Except Error Unit := throw (.atBlock cause block.toNat)
  unless named length block do refuse .homeOutOfRange
  if block ∈ usage.homes then refuse .homeRepeats
  return { usage with homes := block :: usage.homes }

/-- Takes both blocks of an entry. -/
def addEntry (fixed : Bitmap) (length : Nat) (usage : Usage) (entry : WanderEntry) :
    Except Error Usage := do
  target length entry.home (← claim fixed length .wanderedOutOfRange entry.wandered usage)

/-- Takes a log record and the blocks of its entries. -/
def addRecord (fixed : Bitmap) (length : Nat) (block : Address) (record : LogRecord)
    (usage : Usage) : Except Error Usage := do
  record.entries.foldlM (addEntry fixed length)
    (← claim fixed length .logRecordOutOfRange block usage)

/-- Ends the transaction at hand, which must not overwrite a block of the journal. -/
def settle (usage : Usage) : Except Error Usage :=
  match usage.homes.reverse.find? (· ∈ usage.claimed) with
  | some block => .error (.atBlock .homeOverlaps block.toNat)
  | none => .ok { usage with homes := [], overwritten := usage.homes ++ usage.overwritten }

end Usage

/-- The first transaction that is not in order. -/
structure BadTransaction where
  /-- The address of its header. -/
  address : Nat
  /-- Its id; unknown when its header cannot be read. -/
  id : Option UInt64
  /-- The block at which the fault shows. -/
  block : Nat
  /-- What is wrong there. -/
  cause : Cause
deriving DecidableEq, Repr

/-- The answer of an inspection. -/
structure Inspection where
  /-- The verdict. -/
  findings : Findings := ∅
  /-- The number of good transactions before the first bad one. -/
  valid : Nat := 0
  /-- The first bad transaction. -/
  bad : Option BadTransaction := none
  /-- The newest transaction to trust. -/
  commitPoint : Address
deriving DecidableEq, Repr

variable {δ : Type} [BlockDevice δ]

namespace Transaction

/-- Takes all blocks of a transaction, or fails at the first fault. -/
def examine (partition : Partition) (fixed : Bitmap) (transaction : Transaction) (usage : Usage) :
    DiskM δ Usage :=
  DiskM.accumulate usage do
    AttachedM.tryRevise
      (Usage.claim fixed partition.length .txHeaderOutOfRange transaction.address)
    Walk.forEach partition
      (fun (block, record) =>
        AttachedM.tryRevise (Usage.addRecord fixed partition.length block record))
      (RecordWalk.start transaction)
    AttachedM.tryRevise Usage.settle

/-- Examines transactions in order, up to the first bad one. Returns the good ones before it, and
what is wrong with it. -/
def examineAll (partition : Partition) (fixed : Bitmap) :
    List Transaction → Usage → DiskM δ (List Transaction × Option BadTransaction)
  | [], _ => return ([], none)
  | transaction :: newer, usage => do
    match ← DiskM.findDamage (transaction.examine partition fixed usage) with
    | .ok usage =>
      let (good, bad) ← examineAll partition fixed newer usage
      return (transaction :: good, bad)
    | .error (block, cause) =>
      let address := transaction.address.toNat
      return ([], some { address, id := some transaction.header.id, block, cause })

end Transaction

namespace Journal

/-- Examines the pending transactions. Returns the good ones, from old to new, and what is wrong
with the first bad one. -/
def examine (partition : Partition) (fixed : Bitmap) (journal : Journal) :
    DiskM δ (List Transaction × Option BadTransaction) := do
  match ← DiskM.findDamage (journal.pending partition) with
  | .ok transactions => Transaction.examineAll partition fixed transactions {}
  | .error (block, cause) => return ([], some { address := block, id := none, block, cause })

/-- Moves the commit point. -/
def commitAt (journal : Journal) (address : Address) : Journal :=
  { journal with header.lastCommitted := address, dirty := true }

/-- Checks the pending transactions against each other and against the fixed metadata. A mode that
repairs moves the commit point in memory to the newest good transaction. -/
def check (partition : Partition) (fixed : Bitmap) (mode : CheckMode) (journal : Journal) :
    DiskM δ (Inspection × Journal) := do
  let former := journal.header.lastCommitted
  if journal.isEmpty then return ({ commitPoint := former }, journal)
  Action.ofExcept (Bitmap.checkRoom partition.length)
  let (good, bad) ← journal.examine partition fixed
  let valid := good.length
  match bad with
  | none => return ({ valid, commitPoint := former }, journal)
  | some fault =>
    let commitPoint := (good.getLast?.map Transaction.address).getD journal.footer.lastFlushed
    DiskM.emit (.badTransaction fault.id fault.address fault.cause fault.block)
    if mode.repairs then
      DiskM.emit (.commitPointMoved former commitPoint)
      return ({ findings := { fixed := true }, valid, bad, commitPoint },
        journal.commitAt commitPoint)
    else return ({ findings := { fixable := true }, valid, bad, commitPoint }, journal)

/-- Fails at the block at which the first bad transaction shows its fault. -/
def validate (partition : Partition) (fixed : Bitmap) (journal : Journal) : DiskM δ Unit := do
  let (inspection, _) ← journal.check partition fixed .check
  match inspection.bad with
  | some fault => throw (.atBlock fault.cause fault.block)
  | none => return ()

end Journal

end JournaledVolume
