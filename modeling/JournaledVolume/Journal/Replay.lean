import JournaledVolume.Journal.Basic
import JournaledVolume.Journal.ChainWalk

/-!
# Replay

A replay copies the wandered blocks of every pending transaction to their homes: the
transactions from old to new, and the entries of each in the order of its log. A home block
that several entries name ends with the content of the last one.

Blocks that were copied stay copied when a replay fails. The handle of the journal stays as it was,
so the next replay starts from the same transaction again.
-/

namespace JournaledVolume

/-- What a replay did. -/
structure ReplayReport where
  /-- The number of transactions replayed. -/
  transactions : Nat := 0
  /-- The number of blocks copied. -/
  blocks : Nat := 0
deriving DecidableEq, Repr, Inhabited

variable {δ : Type} [BlockDevice δ]

namespace Transaction

/-- Copies one wandered block to its home. Both addresses are checked before either block
is touched. The number of blocks copied so far is kept in memory. -/
def copyBlock (partition : Partition) (transaction : Transaction) (entry : WanderEntry) :
    AttachedM Nat δ Unit := do
  AttachedM.onDisk do
    DiskM.checkPointer partition entry.wandered
    DiskM.checkPointer partition entry.home
    let content ← DiskM.readBlock partition entry.wandered.toNat
    DiskM.writeBlock partition entry.home.toNat content
  AttachedM.revise Nat.succ
  AttachedM.emit (.blockCopied
    { txId := transaction.header.id
      txAddress := transaction.address
      wandered := entry.wandered
      home := entry.home
      copied := ← AttachedM.memory })

/-- Copies the blocks of one transaction, after `copied` others. Returns the number of blocks copied
so far. -/
def replay (partition : Partition) (transaction : Transaction) (copied : Nat) : DiskM δ Nat :=
  DiskM.accumulate copied <|
    Walk.forEach partition
      (fun (_, record) => record.entries.forM (transaction.copyBlock partition))
      (RecordWalk.start transaction)

end Transaction

namespace Journal

/-- The handle after a transaction was replayed. -/
def advance (journal : Journal) (transaction : Transaction) : Journal :=
  { journal with
    footer :=
      { lastFlushed := transaction.address
        counters := transaction.header.counters }
    dirty := true }

/-- Replays the pending transactions and writes the pointers behind the newest of them. Returns what
was done, and the handle that is on disk now. -/
def replay (partition : Partition) (journal : Journal) : DiskM δ (ReplayReport × Journal) := do
  let transactions ← journal.pending partition
  let blocks ← transactions.foldlM
    (fun copied transaction =>
      DiskM.orReport (.replayFailed transaction.header.id transaction.address)
        (transaction.replay partition copied))
    0
  let replayed ← (transactions.foldl advance journal).sync partition
  DiskM.flush
  return ({ transactions := transactions.length, blocks }, replayed)

end Journal

end JournaledVolume
