import JournaledVolume.Journal.Replay

/-!
# Bringing a volume into service

A mount is what a volume keeps in memory while it is brought into service: the journal handle, and
the counters that a replay hands on. Nothing in memory changes before the replayed journal is on
disk. An activation also zeroes the journal pointers, so that no old transaction can become pending
again.
-/

namespace JournaledVolume

/-- What a volume keeps in memory while it is brought into service. -/
structure Mount where
  /-- The journal handle. -/
  journal : Journal
  /-- The superblock. -/
  superblock : Superblock
  /-- The allocator of object ids. -/
  objectIds : ObjectIds
deriving DecidableEq, Repr

namespace Mount

/-- The mount after its journal was replayed: the counters come from the newest transaction. -/
def accept (mount : Mount) (replayed : Journal) : Mount where
  journal := replayed
  superblock := mount.superblock.accept replayed.footer.counters
  objectIds := mount.objectIds.accept replayed.footer.counters

variable {δ : Type} [BlockDevice δ]

/-- Replays the journal and takes the counters over. An empty journal has none to take over. -/
def replay (partition : Partition) : AttachedM Mount δ ReplayReport := do
  let journal := (← AttachedM.memory).journal
  if journal.isEmpty then return {}
  let (report, replayed) ← AttachedM.onDisk (journal.replay partition)
  AttachedM.revise fun mount => mount.accept replayed
  AttachedM.emit (.replayed report.transactions report.blocks)
  return report

/-- Sets both journal pointers to zero in memory. -/
def invalidate : AttachedM Mount δ Unit := do
  AttachedM.revise fun mount => { mount with journal := mount.journal.invalidate }
  Journal.invalidateEvents.forM AttachedM.emit

/-- Writes the journal pointers, unless nothing has changed. -/
def sync (partition : Partition) : AttachedM Mount δ Unit := do
  let journal ← AttachedM.onDisk ((← AttachedM.memory).journal.sync partition)
  AttachedM.revise fun mount => { mount with journal }

/-- Replays the journal, and writes it without transactions. When the replay fails the volume must
not be used. -/
def activate (partition : Partition) : AttachedM Mount δ ReplayReport := do
  let report ← replay partition
  let journal := (← AttachedM.memory).journal
  if journal.header.lastCommitted ≠ 0 ∨ journal.footer.lastFlushed ≠ 0 then invalidate
  sync partition
  return report

end Mount

end JournaledVolume
