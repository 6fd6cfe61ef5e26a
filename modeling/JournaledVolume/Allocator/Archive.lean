import JournaledVolume.Allocator.Verification
import JournaledVolume.PackStream

/-!
# Packed allocators

A packed allocator is the number of blocks of its volume, followed by the recorded checksum and the
payload of each bitmap block. The recorded checksums are packed as they are, so an allocator read
back has the same bad blocks. Nothing in the stream depends on where the blocks lie on disk.
-/

namespace JournaledVolume

namespace Allocator

/-- The items of a packed allocator. -/
def packedItems (allocator : Allocator) : List Item :=
  .word64 (UInt64.ofNat allocator.geometry.blockCount) ::
    allocator.segments.flatMap fun index =>
      [.word32 (allocator.recordedSum index), .raw (allocator.payload index)]

/-- The allocator as a pack stream. -/
def pack (allocator : Allocator) : Bytes := Item.encodeAll allocator.packedItems

/-- Reads one bitmap block of a packed allocator. -/
def unpackSegment (allocator : Allocator) (index : Nat) : Reader Allocator := do
  let geometry := allocator.geometry
  let sum ← Reader.word32
  let payload ← Reader.take geometry.bytesPerBlock
  let size := geometry.segmentSize allocator.bitmap.bits.bytes.size index
  return { allocator with
    bitmap := allocator.bitmap.load (geometry.segmentStart index) (payload.take size)
    sums := allocator.sums.push sum }

/-- Reads a packed allocator. Nothing of it is on disk yet. -/
def unpack (blockSize : Nat) : Reader Allocator := do
  let blockCount ← Reader.word64
  let geometry : Geometry := { blockSize, blockCount := blockCount.toNat }
  Action.ofExcept geometry.check
  let bitmap ← Action.ofExcept (Bitmap.zeros geometry.blockCount)
  let blank : Allocator := { geometry, bitmap, sums := #[], dirty := true }
  let filled ← blank.segments.foldlM unpackSegment blank
  return { filled with bitmap := filled.bitmap.recount }

/-- What reading a packed allocator reports. -/
def unpackEvents (allocator : Allocator) : List Event :=
  [.allocatorUnpacked allocator.geometry.blockCount]

end Allocator

end JournaledVolume
