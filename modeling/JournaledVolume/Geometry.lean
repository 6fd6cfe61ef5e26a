import JournaledVolume.Bitmap

/-!
# Where things lie on a volume

The first 65536 bytes of a volume are reserved. The master block follows, then the format block, the
first bitmap block, the journal header and the journal footer. Bitmap block `i` after the first one
is the first of the blocks that it describes, so the bitmap blocks lie a fixed stride apart.

The bytes of the bitmap are cut into segments, one for each bitmap block. A bitmap block holds a
checksum of four bytes and its segment; the last segment may be shorter than the room for it.
-/

namespace JournaledVolume

/-- What a block is used for. -/
inductive BlockKind where
  /-- A block of the allocation bitmap. -/
  | bitmap
  /-- The journal header. -/
  | journalHeader
  /-- The journal footer. -/
  | journalFooter
  /-- The header of a transaction. -/
  | txHeader
  /-- A log record of a transaction. -/
  | logRecord
  /-- A temporary copy of a block that a transaction changes. -/
  | wandered
deriving DecidableEq, Repr

/-- The word for a use of a block. -/
def BlockKind.name : BlockKind → String
  | .bitmap => "Bitmap"
  | .journalHeader => "JournalHeader"
  | .journalFooter => "JournalFooter"
  | .txHeader => "TxHeader"
  | .logRecord => "LogRecord"
  | .wandered => "Wandered"

/-- The address of a block, as the disk holds it. -/
abbrev Address := UInt64

/-- The sizes that a block may have: the powers of two from 512 to 65536. -/
def blockSizes : List Nat := [512, 1024, 2048, 4096, 8192, 16384, 32768, 65536]

/-- Refuses a size that no block may have. -/
def checkBlockSize (size : Nat) : Except Error Unit :=
  if size ∈ blockSizes then .ok () else .error ⟨.blockSize, none⟩

/-- The block of a volume that follows the reserved bytes. -/
def masterBlock (blockSize : Nat) : Nat := 65536 / blockSize

/-- The two blocks that hold the pointers of a journal. -/
structure JournalArea where
  /-- The block of the journal header. -/
  header : Address
  /-- The block of the journal footer. -/
  footer : Address
deriving DecidableEq, Repr

/-- The usual place of the journal pointers: behind the first bitmap block. -/
def JournalArea.standard (blockSize : Nat) : JournalArea where
  header := UInt64.ofNat (masterBlock blockSize + 3)
  footer := UInt64.ofNat (masterBlock blockSize + 4)

/-- Journals lie in the usual place of a volume with blocks of 4096 bytes, unless told otherwise. -/
instance : Inhabited JournalArea := ⟨JournalArea.standard 4096⟩

/-- The size of a volume. -/
structure Geometry where
  /-- The bytes of a block. -/
  blockSize : Nat
  /-- The number of blocks. -/
  blockCount : Nat
deriving DecidableEq, Repr

namespace Geometry

/-- The bytes of a bitmap block that hold its checksum. -/
def checksumSize : Nat := 4

/-- Refuses a size that no volume has: odd block sizes and volumes without blocks. -/
def check (geometry : Geometry) : Except Error Unit := do
  checkBlockSize geometry.blockSize
  if geometry.blockCount = 0 then throw ⟨.emptyVolume, none⟩

/-- The master block. -/
def masterBlock (geometry : Geometry) : Nat := JournaledVolume.masterBlock geometry.blockSize

/-- The block of the format's own superblock. -/
def formatBlock (geometry : Geometry) : Nat := geometry.masterBlock + 1

/-- The first bitmap block. -/
def bitmapStart (geometry : Geometry) : Nat := geometry.masterBlock + 2

/-- The usual place of the journal pointers. -/
def journalArea (geometry : Geometry) : JournalArea := JournalArea.standard geometry.blockSize

/-- The bytes of the bitmap that one bitmap block holds. -/
def bytesPerBlock (geometry : Geometry) : Nat := geometry.blockSize - checksumSize

/-- The number of blocks that one bitmap block describes. -/
def bitsPerBlock (geometry : Geometry) : Nat := geometry.bytesPerBlock * 8

/-- The number of bitmap blocks: enough to describe every block of the volume. -/
def bitmapBlocks (geometry : Geometry) : Nat :=
  (geometry.blockCount + geometry.bitsPerBlock - 1) / geometry.bitsPerBlock

/-- The address of a bitmap block. -/
def bitmapBlock (geometry : Geometry) (index : Nat) : Nat :=
  if index = 0 then geometry.bitmapStart else index * geometry.bitsPerBlock

/-- The segment that describes a block. -/
def segmentOf (geometry : Geometry) (block : Nat) : Nat := block / geometry.bitsPerBlock

/-- The blocks that share their bitmap block with a given one. -/
def regionOf (geometry : Geometry) (block : Nat) : Except Error Bitmap.Run :=
  if geometry.blockCount ≤ block then .error (.atBlock .beyondAllocator block)
  else
    let start := geometry.segmentOf block * geometry.bitsPerBlock
    .ok ⟨start, min geometry.bitsPerBlock (geometry.blockCount - start)⟩

/-- Where the bytes of a segment start in the bitmap. -/
def segmentStart (geometry : Geometry) (index : Nat) : Nat := index * geometry.bytesPerBlock

/-- The number of bytes of a segment, in a bitmap of `size` bytes. -/
def segmentSize (geometry : Geometry) (size index : Nat) : Nat :=
  min geometry.bytesPerBlock (size - geometry.segmentStart index)

end Geometry

/-- A walk over the addresses of the bitmap blocks. -/
structure BitmapLayout where
  /-- The size of the volume. -/
  geometry : Geometry
  /-- The number of bitmap blocks already passed. -/
  passed : Nat := 0
deriving DecidableEq, Repr

namespace BitmapLayout

/-- The number of bitmap blocks still to come. -/
def remaining (layout : BitmapLayout) : Nat := layout.geometry.bitmapBlocks - layout.passed

/-- The next bitmap block, and the walk behind it. -/
def next? (layout : BitmapLayout) : Option ((Nat × BlockKind) × BitmapLayout) :=
  if layout.passed < layout.geometry.bitmapBlocks then
    some ((layout.geometry.bitmapBlock layout.passed, .bitmap),
      { layout with passed := layout.passed + 1 })
  else none

/-- The next `count` bitmap blocks, or as many as there are. -/
def take (layout : BitmapLayout) : (count : Nat) → List (Nat × BlockKind)
  | 0 => []
  | count + 1 =>
    match layout.next? with
    | some (item, rest) => item :: rest.take count
    | none => []

/-- All bitmap blocks still to come. -/
def toList (layout : BitmapLayout) : List (Nat × BlockKind) := layout.take layout.remaining

end BitmapLayout

/-- The walk over the bitmap blocks of a volume, from the first. -/
def Geometry.bitmapLayout (geometry : Geometry) : BitmapLayout := { geometry }

/-- The blocks that no journal may occupy: everything up to the journal footer, and the bitmap
blocks. -/
def Geometry.fixedMetadata (geometry : Geometry) : Except Error Bitmap := do
  let blank ← Bitmap.zeros geometry.blockCount
  let head := min (geometry.journalArea.footer.toNat + 1) geometry.blockCount
  let marked ← blank.mark 0 head
  geometry.bitmapLayout.toList.foldlM
    (fun bitmap (block, _) =>
      if block < geometry.blockCount then bitmap.mark block 1 else pure bitmap)
    marked

end JournaledVolume
