import JournaledVolume.Adler32
import JournaledVolume.Event

/-!
# The block allocator

An allocator holds the bitmap of a volume in memory, with the checksum recorded for each bitmap
block. Its operations change memory only and mark the allocator as changed; what they report is
given by functions of the same name on events.
-/

namespace JournaledVolume

/-- The bitmap of a volume in memory. -/
structure Allocator where
  /-- The size of the volume. -/
  geometry : Geometry
  /-- Which blocks are in use. -/
  bitmap : Bitmap
  /-- The checksum recorded for each bitmap block. -/
  sums : Array UInt32
  /-- Whether memory holds something that is not known to be on disk. -/
  dirty : Bool
deriving DecidableEq, Repr

/-- The kinds of allocators that a volume can name. -/
inductive AllocatorKind where
  /-- One bit a block, in checksummed bitmap blocks. -/
  | bitmap
deriving DecidableEq, Repr

namespace AllocatorKind

/-- The allocator that a number on disk stands for. -/
def ofNumber : Nat → Except Error AllocatorKind
  | 0 => .ok .bitmap
  | _ => .error ⟨.unknownAllocator, none⟩

/-- The number of an allocator on disk. -/
def number : AllocatorKind → Nat
  | .bitmap => 0

/-- The word for an allocator. -/
def name : AllocatorKind → String
  | .bitmap => "Bitmap"

end AllocatorKind

/-- The bytes of a segment of a bitmap. -/
def Geometry.segment (geometry : Geometry) (bits : Bits) (index : Nat) : Bytes :=
  let start := geometry.segmentStart index
  (bits.bytes.extract start (start + geometry.segmentSize bits.bytes.size index)).toList

/-- The checksum of a segment: the room that the segment leaves in its bitmap block counts as
ones. -/
def Geometry.segmentSum (geometry : Geometry) (bits : Bits) (index : Nat) : UInt32 :=
  Adler32.padded (geometry.segment bits index)
    (geometry.bytesPerBlock - geometry.segmentSize bits.bytes.size index)

namespace Allocator

/-- The segments, by number. -/
def segments (allocator : Allocator) : List Nat := List.range allocator.geometry.bitmapBlocks

/-- The bytes of a bitmap block behind its checksum: a segment, and ones in the rest of the
block. -/
def payload (allocator : Allocator) (index : Nat) : Bytes :=
  let segment := allocator.geometry.segment allocator.bitmap.bits index
  segment ++ List.replicate (allocator.geometry.bytesPerBlock - segment.length) 0xFF

/-- The checksum of a segment as it is now. -/
def segmentSum (allocator : Allocator) (index : Nat) : UInt32 :=
  allocator.geometry.segmentSum allocator.bitmap.bits index

/-- A bitmap block as it is written to disk. -/
def blockImage (allocator : Allocator) (index : Nat) : Bytes :=
  LittleEndian.encode32 (allocator.segmentSum index) ++ allocator.payload index

/-- An allocator in which every block is free. Nothing of it is on disk. -/
def create (geometry : Geometry) : Except Error Allocator := do
  let bitmap ← Bitmap.zeros geometry.blockCount
  let sums := (List.range geometry.bitmapBlocks).map (geometry.segmentSum bitmap.bits)
  return { geometry, bitmap, sums := sums.toArray, dirty := true }

/-- What the creation of an allocator reports. -/
def createEvents (allocator : Allocator) : List Event :=
  [.allocatorCreated allocator.geometry.blockCount]

/-- The number of blocks in use. -/
def used (allocator : Allocator) : Nat := allocator.bitmap.marked

/-- The number of free blocks. -/
def free (allocator : Allocator) : Nat := allocator.bitmap.cleared

/-- Takes the first run of `count` free blocks from the start of the volume. When there is none, it
takes the longest run of free blocks instead, so the length of the run taken has to be looked at;
it is zero when no block is free. -/
def allocate (allocator : Allocator) (count : Nat) : Except Error (Bitmap.Run × Allocator) := do
  match allocator.bitmap.findRun? 0 count with
  | none => return (⟨0, 0⟩, allocator)
  | some run =>
    let bitmap ← allocator.bitmap.mark run.start run.length
    return (run, { allocator with bitmap, dirty := true })

/-- What an allocation of `count` blocks reports of the run that it took. -/
def allocateEvents (count : Nat) (run : Bitmap.Run) : List Event :=
  if run.length = 0 then [.nothingFree count]
  else if run.length < count then [.shortAllocation count run.start run.length]
  else []

/-- Frees a run of blocks, whether they were in use or not. -/
def release (allocator : Allocator) (start count : Nat) : Except Error Allocator := do
  let bitmap ← allocator.bitmap.clear start count
  return { allocator with bitmap, dirty := true }

/-- Takes a run of blocks, whether they were free or not. -/
def occupy (allocator : Allocator) (start count : Nat) : Except Error Allocator := do
  let bitmap ← allocator.bitmap.mark start count
  return { allocator with bitmap, dirty := true }

/-- Whether a run lies in the volume and is in use throughout. -/
def occupied (allocator : Allocator) (start count : Nat) : Bool :=
  allocator.bitmap.allMarked start count

/-- Whether a run lies in the volume and is free throughout. -/
def available (allocator : Allocator) (start count : Nat) : Bool :=
  allocator.bitmap.allCleared start count

/-- What dropping an allocator reports. -/
def closeEvents (allocator : Allocator) : List Event :=
  if allocator.dirty then [.allocatorClosedDirty] else []

/-- Hands the blocks that share their bitmap block with a given one to a visitor. A tool that
distrusts one bit marks all of them. -/
def visitRegion {m : Type → Type} [Monad m] [MonadExceptOf Error m] (allocator : Allocator)
    (block : Nat) (visit : Bitmap.Run → m Unit) : m Unit := do
  match allocator.geometry.regionOf block with
  | .ok run => visit run
  | .error error => throw error

end Allocator

end JournaledVolume
