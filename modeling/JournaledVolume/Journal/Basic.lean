import JournaledVolume.Journal.BlockWalk

/-!
# The journal

A journal handle holds the journal header and footer in memory. The transactions between the newest
committed one and the newest replayed one are pending. Changes to the handle stay in memory until a
sync writes both blocks.
-/

namespace JournaledVolume

/-- A journal handle. -/
structure Journal where
  /-- The blocks of the journal pointers. -/
  area : JournalArea
  /-- The bytes of a block. -/
  blockSize : Nat
  /-- The journal header in memory. -/
  header : JournalHeader
  /-- The journal footer in memory. -/
  footer : JournalFooter
  /-- Whether the handle holds something that is not known to be on disk. -/
  dirty : Bool
deriving DecidableEq, Repr

/-- The kinds of journals that a volume can name. -/
inductive JournalKind where
  /-- Committed blocks wander back to their homes. -/
  | wandered
deriving DecidableEq, Repr

namespace JournalKind

/-- The journal that a number on disk stands for. -/
def ofNumber : Nat → Except Error JournalKind
  | 0 => .ok .wandered
  | _ => .error ⟨.unknownJournal, none⟩

/-- The number of a journal on disk. -/
def number : JournalKind → Nat
  | .wandered => 0

/-- The word for a journal. -/
def name : JournalKind → String
  | .wandered => "Wandered"

end JournalKind

/-- Whether a journal has something to replay. -/
inductive JournalState where
  /-- Every committed transaction was replayed. -/
  | empty
  /-- A committed transaction was not replayed. -/
  | pending
deriving DecidableEq, Repr

namespace JournalState

/-- The word for a state. -/
def name : JournalState → String
  | .empty => "Empty"
  | .pending => "Pending"

end JournalState

namespace Journal

/-- A journal without transactions. Nothing of it is on disk. -/
def create (area : JournalArea) (blockSize : Nat) : Journal :=
  { area, blockSize, header := {}, footer := {}, dirty := true }

/-- Whether there is something to replay. -/
def state (journal : Journal) : JournalState :=
  if journal.header.lastCommitted = journal.footer.lastFlushed then .empty else .pending

/-- Whether there is nothing to replay. -/
def isEmpty (journal : Journal) : Bool := journal.state = .empty

/-- The blocks of the journal pointers, with their use. -/
def fixedBlocks (journal : Journal) : List (Address × BlockKind) :=
  [(journal.area.header, .journalHeader), (journal.area.footer, .journalFooter)]

/-- The walk over the pending transactions, from new to old. -/
def chain (journal : Journal) : ChainWalk :=
  .start journal.header.lastCommitted journal.footer.lastFlushed

/-- The walk over the blocks of the pending transactions. -/
def blocks (journal : Journal) : BlockWalk :=
  .start journal.header.lastCommitted journal.footer.lastFlushed

/-- Sets both journal pointers to zero, so that no old transaction can become pending again. -/
def invalidate (journal : Journal) : Journal :=
  { journal with header.lastCommitted := 0, footer.lastFlushed := 0, dirty := true }

/-- What setting the pointers to zero reports. -/
def invalidateEvents : List Event := [.journalInvalidated]

/-- What dropping a journal handle reports. -/
def closeEvents (journal : Journal) : List Event :=
  if journal.dirty then [.journalClosedDirty] else []

variable {δ : Type} [BlockDevice δ]

/-- Reads the journal pointers of a volume. -/
def load (partition : Partition) (area : JournalArea) : DiskM δ Journal := do
  Action.ofExcept (checkBlockSize partition.blockSize)
  let header := JournalHeader.decode (← DiskM.readBlock partition area.header.toNat)
  let footer := JournalFooter.decode (← DiskM.readBlock partition area.footer.toNat)
  DiskM.emit (.journalLoaded header.lastCommitted footer.lastFlushed)
  return { area, blockSize := partition.blockSize, header, footer, dirty := false }

/-- Writes the journal header, and then the journal footer. -/
def write (partition : Partition) (journal : Journal) : DiskM δ Unit := do
  Action.ofExcept (checkBlockSize journal.blockSize)
  if partition.blockSize ≠ journal.blockSize then throw ⟨.journalBlockSize, none⟩
  DiskM.writeBlock partition journal.area.header.toNat (journal.header.encode journal.blockSize)
  DiskM.writeBlock partition journal.area.footer.toNat (journal.footer.encode journal.blockSize)
  DiskM.emit (.journalSynced journal.header.lastCommitted journal.footer.lastFlushed)

/-- Writes the journal pointers, unless nothing has changed. Returns the handle that is known to be
on disk. -/
def sync (partition : Partition) (journal : Journal) : DiskM δ Journal := do
  if journal.dirty then journal.write partition
  return { journal with dirty := false }

/-- The pending transactions, from old to new. -/
def pending (partition : Partition) (journal : Journal) : DiskM δ (List Transaction) := do
  return (← Walk.collect partition journal.chain).reverse

end Journal

end JournaledVolume
