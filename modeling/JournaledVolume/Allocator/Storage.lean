import JournaledVolume.Allocator.Verification
import JournaledVolume.Disk

/-!
# The allocator on disk

Loading reads every bitmap block and counts the blocks in use anew: no count on disk is believed,
and a bad checksum is reported but refuses nothing. A sync writes every bitmap block. It records the
checksum of a block once the block is written, so a failure leaves the allocator marked as changed
and the checksums of the blocks written before it up to date.
-/

namespace JournaledVolume

namespace Allocator

variable {δ : Type} [BlockDevice δ]

/-- Refuses a volume whose blocks have another size than the partition's. -/
def checkPartition (partition : Partition) (geometry : Geometry) : Except Error Unit :=
  if partition.blockSize = geometry.blockSize then .ok ()
  else .error ⟨.allocatorBlockSize, none⟩

/-- The allocator after the bitmap block of segment `index` was found to hold `image`. -/
def absorb (allocator : Allocator) (index : Nat) (image : Bytes) : Allocator :=
  let geometry := allocator.geometry
  let size := geometry.segmentSize allocator.bitmap.bits.bytes.size index
  { allocator with
    bitmap := allocator.bitmap.load (geometry.segmentStart index)
      ((image.drop Geometry.checksumSize).take size)
    sums := allocator.sums.push (LittleEndian.decode32 image) }

/-- An allocator for a volume, before any of its bitmap blocks was read. -/
def blank (geometry : Geometry) : Except Error Allocator := do
  let bitmap ← Bitmap.zeros geometry.blockCount
  return { geometry, bitmap, sums := #[], dirty := false }

/-- Loads the allocator of a volume. -/
def load (partition : Partition) (geometry : Geometry) : DiskM δ Allocator := do
  Action.ofExcept (checkPartition partition geometry)
  let blank ← Action.ofExcept (blank geometry)
  let filled ← blank.segments.foldlM
    (fun allocator index => do
      let image ← DiskM.readBlock partition (geometry.bitmapBlock index)
      return allocator.absorb index image)
    blank
  let loaded := { filled with bitmap := filled.bitmap.recount }
  loaded.badBlocks.forM fun block => DiskM.emit (.checksumAtLoad block)
  DiskM.emit (.allocatorLoaded geometry.blockCount loaded.used geometry.bitmapBlocks)
  return loaded

/-- Writes the bitmap block of a segment and records its checksum. -/
def writeSegment (partition : Partition) (index : Nat) : AttachedM Allocator δ Unit := do
  let allocator ← AttachedM.memory
  AttachedM.onDisk (DiskM.writeBlock partition (allocator.geometry.bitmapBlock index)
    (allocator.blockImage index))
  AttachedM.revise fun allocator =>
    { allocator with
      sums := allocator.sums.setIfInBounds index (allocator.segmentSum index) }

/-- Writes every bitmap block, unless nothing has changed. -/
def sync (partition : Partition) : AttachedM Allocator δ Unit := do
  let allocator ← AttachedM.memory
  if allocator.dirty then
    Action.ofExcept (checkPartition partition allocator.geometry)
    allocator.segments.forM (writeSegment partition)
    AttachedM.revise fun allocator => { allocator with dirty := false }
    AttachedM.emit (.allocatorSynced allocator.used allocator.free)

end Allocator

end JournaledVolume
