import JournaledVolume.Device
import JournaledVolume.Event

/-!
# Blocks of a partition

A volume lies in a partition of a device: a range of bytes, addressed in blocks from its start. A
request for blocks is checked before the device sees it, then turned into a request for sectors.
The partition does not change while an operation runs, so its length bounds every walk over it.

Offsets and sizes are natural numbers: a byte offset from 2 ^ 64 on stays what it is and does not
wrap around. Nor does a division by zero stop anything. It gives zero, so a partition whose blocks
have no bytes has no blocks.

A disk is the device with the traffic counters and the log. An action on a disk returns the disk
as it is afterwards, also when it fails.
-/

namespace JournaledVolume

/-- The part of a device that a volume lies in, and the units it is addressed in. -/
structure Partition where
  /-- The bytes of a block. -/
  blockSize : Nat
  /-- The bytes of a sector. -/
  sectorSize : Nat
  /-- The first byte of the partition. -/
  offset : Nat
  /-- The number of bytes of the partition. -/
  size : Nat
deriving DecidableEq, Repr

namespace Partition

/-- The partition that is the whole of a device; blocks must be whole sectors. Blocks without bytes
are whole sectors too, and are not refused. -/
def whole (shape : Shape) : Except Error Partition :=
  if shape.sectorSize = 0 ∨ shape.blockSize % shape.sectorSize ≠ 0 then
    .error ⟨.sectorSize, none⟩
  else
    .ok
      { blockSize := shape.blockSize
        sectorSize := shape.sectorSize
        offset := 0
        size := shape.totalBlocks * shape.blockSize }

/-- The same device with another range of bytes. -/
def restrict (partition : Partition) (offset size : Nat) : Partition :=
  { partition with offset, size }

/-- The number of whole blocks in the partition, which is zero if blocks have no bytes. -/
def length (partition : Partition) : Nat := partition.size / partition.blockSize

/-- The sector in which a block starts. The offset of its first byte is not reduced to a word. -/
def sectorOf (partition : Partition) (block : Nat) : Nat :=
  (block * partition.blockSize + partition.offset) / partition.sectorSize

/-- The number of sectors of a block. -/
def sectorsPerBlock (partition : Partition) : Nat := partition.blockSize / partition.sectorSize

/-- Refuses blocks that lie outside the partition. -/
def checkRange (partition : Partition) (block count : Nat) : Except Error Unit :=
  if block + count ≤ partition.length then .ok () else .error (.atBlock .beyondPartition block)

end Partition

/-- A device in use. -/
structure Disk (δ : Type) where
  /-- The device. -/
  device : δ
  /-- The number of blocks requested from the device. -/
  reads : Nat := 0
  /-- The number of blocks handed to the device. -/
  writes : Nat := 0
  /-- What the operations on the disk have reported, oldest first. -/
  log : Array Event := #[]

/-- An action on a disk. -/
abbrev DiskM (δ : Type) := Action (Disk δ)

namespace DiskM

variable {δ : Type}

/-- Reports an event. -/
def emit (event : Event) : DiskM δ Unit :=
  modify fun disk => { disk with log := disk.log.push event }

/-- Lets the device act; the counters and the log stay as they are. -/
def onDevice {α : Type} (act : Action δ α) : DiskM δ α := fun disk =>
  match act disk.device with
  | .ok value device => .ok value { disk with device }
  | .error error device => .error error { disk with device }

/-- Lets the device act on behalf of a block: an error of the device that names no block gets
this one. -/
def transfer {α : Type} (block : Nat) (act : Action δ α) : DiskM δ α := fun disk =>
  match onDevice act disk with
  | .ok value disk => .ok value disk
  | .error error disk => .error (error.withBlock block) disk

variable [BlockDevice δ]

/-- Reads `count` blocks from `block` on. -/
def readBlocks (partition : Partition) (block count : Nat) : DiskM δ Bytes := do
  let required := count * partition.blockSize
  Action.ofExcept (partition.checkRange block count)
  modify fun disk => { disk with reads := disk.reads + count }
  let data ← transfer block (BlockDevice.readSectors (partition.sectorOf block)
    (count * partition.sectorsPerBlock))
  if data.length < required then throw (.atBlock .shortRead block)
  return data.take required

/-- Reads one block. -/
def readBlock (partition : Partition) (block : Nat) : DiskM δ Bytes :=
  readBlocks partition block 1

/-- Reads `count` blocks over the front of a buffer. Returns the number of bytes read and the
buffer. -/
def readInto (partition : Partition) (block count : Nat) (buffer : Bytes) :
    DiskM δ (Nat × Bytes) := do
  let required := count * partition.blockSize
  if buffer.length < required then throw ⟨.shortBuffer, none⟩
  let data ← readBlocks partition block count
  return (required, data ++ buffer.drop required)

/-- Writes the front of a buffer to `count` blocks from `block` on. Returns the number of bytes
written. -/
def writeBlocks (partition : Partition) (block count : Nat) (buffer : Bytes) : DiskM δ Nat := do
  let required := count * partition.blockSize
  if buffer.length < required then throw ⟨.shortBuffer, none⟩
  if BlockDevice.readOnly (← get).device then throw (.atBlock .readOnly block)
  Action.ofExcept (partition.checkRange block count)
  modify fun disk => { disk with writes := disk.writes + count }
  let taken ← transfer block (BlockDevice.writeSectors (partition.sectorOf block)
    (buffer.take required))
  if taken < required then throw (.atBlock .shortWrite block)
  return required

/-- Writes one block. -/
def writeBlock (partition : Partition) (block : Nat) (buffer : Bytes) : DiskM δ Unit := do
  let _ ← writeBlocks partition block 1 buffer

/-- Puts everything written so far into stable storage. -/
def flush : DiskM δ Unit := onDevice BlockDevice.flush

end DiskM

/-- A structure in memory and the disk that it is kept on. -/
structure Attached (σ δ : Type) where
  /-- The structure in memory. -/
  memory : σ
  /-- The disk. -/
  disk : Disk δ

/-- An action on a structure in memory and on the disk that it is kept on. -/
abbrev AttachedM (σ δ : Type) := Action (Attached σ δ)

namespace AttachedM

variable {σ δ α : Type}

/-- An action on the disk alone. -/
def onDisk (act : DiskM δ α) : AttachedM σ δ α := fun state =>
  match act state.disk with
  | .ok value disk => .ok value { state with disk }
  | .error error disk => .error error { state with disk }

/-- The structure in memory. -/
def memory : AttachedM σ δ σ := do
  return (← get).memory

/-- Changes the structure in memory. -/
def revise (change : σ → σ) : AttachedM σ δ Unit :=
  modify fun state => { state with memory := change state.memory }

/-- Changes the structure in memory, or fails and leaves it. -/
def tryRevise (change : σ → Except Error σ) : AttachedM σ δ Unit := fun state =>
  match change state.memory with
  | .ok memory => .ok () { state with memory }
  | .error error => .error error state

/-- Reports an event. -/
def emit (event : Event) : AttachedM σ δ Unit := onDisk (DiskM.emit event)

end AttachedM

/-- Runs an action. When it fails at damage, returns that instead of failing. -/
def DiskM.findDamage {δ α : Type} (act : DiskM δ α) : DiskM δ (Except (Nat × Cause) α) :=
  fun disk =>
    match act disk with
    | .ok value disk => .ok (.ok value) disk
    | .error error disk =>
      match error.damage? with
      | some damage => .ok (.error damage) disk
      | none => .error error disk

/-- Runs an action on a structure of its own, which starts as given, and returns what it became. -/
def DiskM.accumulate {σ δ : Type} (start : σ) (act : AttachedM σ δ Unit) : DiskM δ σ := fun disk =>
  match act { memory := start, disk } with
  | .ok _ state => .ok state.memory state.disk
  | .error error state => .error error state.disk

end JournaledVolume
