import JournaledVolume.Bits
import JournaledVolume.LittleEndian

/-!
# Bitmaps

A bitmap says of each block of a volume whether it is in use, and keeps the number of blocks in use
beside the bits. The last byte may have bits past the last block: they are kept as they were loaded
and never counted. Loading bytes leaves the count as it was until it is taken again.
-/

namespace JournaledVolume

/-- One bit a block, with the number of set bits. -/
structure Bitmap where
  /-- The number of blocks. -/
  total : Nat
  /-- The number of blocks whose bit is set. -/
  marked : Nat
  /-- The bits, with those past the last block. -/
  bits : Bits
deriving DecidableEq, Repr

namespace Bitmap

/-- The number of bytes that hold one bit for each of `total` blocks. -/
def byteCount (total : Nat) : Nat := (total + 7) / 8

/-- The number of bytes that no bitmap in memory reaches: 128 tebibytes. Whether memory has room
depends on what else it holds, so a fixed limit only stands for its refusal. No result depends on
the number: any other limit that leaves room for small volumes, and none for 2 ^ 64 blocks, would
do. -/
def memoryLimit : Nat := 128 * 1024 * 1024 * 1024 * 1024

/-- Refuses a number of blocks for which memory has no room, at one bit a block. A refusal below the
limit is not modelled. -/
def checkRoom (total : Nat) : Except Error Unit :=
  if memoryLimit ≤ byteCount total then .error ⟨.outOfMemory, none⟩ else .ok ()

/-- A bitmap in which every block is free. -/
def zeros (total : Nat) : Except Error Bitmap := do
  checkRoom total
  return { total, marked := 0, bits := Bits.zeros (byteCount total) }

/-- The number of blocks whose bit is clear. -/
def cleared (bitmap : Bitmap) : Nat := bitmap.total - bitmap.marked

/-- Copies bytes over those from `offset` on, as far as the bitmap has bytes. The count of marked
blocks is not taken again. -/
def load (bitmap : Bitmap) (offset : Nat) (data : Bytes) : Bitmap :=
  { bitmap with bits := ⟨go bitmap.bits.bytes offset data⟩ }
where
  /-- Stores the bytes one after another; those past the end are dropped. -/
  go (stored : Array UInt8) (index : Nat) : Bytes → Array UInt8
    | [] => stored
    | byte :: rest => go (stored.setIfInBounds index byte) (index + 1) rest

/-- Takes the count of marked blocks again. -/
def recount (bitmap : Bitmap) : Bitmap :=
  { bitmap with marked := bitmap.bits.ones 0 bitmap.total }

/-- Whether the bit of a block is set; there is no block past the last. -/
def test (bitmap : Bitmap) (block : Nat) : Bool :=
  decide (block < bitmap.total) && bitmap.bits.test block

/-- Refuses a run of blocks that leaves the bitmap. -/
def checkRun (bitmap : Bitmap) (start count : Nat) : Except Error Unit :=
  if start + count ≤ bitmap.total then .ok () else .error (.atBlock .beyondBitmap start)

/-- Sets the bits of a run of blocks; only those that were clear are counted. -/
def mark (bitmap : Bitmap) (start count : Nat) : Except Error Bitmap := do
  bitmap.checkRun start count
  let before := bitmap.bits.ones start (start + count)
  match Bits.fill true start count bitmap.bits with
  | .ok _ bits => return { bitmap with bits, marked := bitmap.marked + (count - before) }
  | .error error _ => throw error

/-- Clears the bits of a run of blocks; only those that were set are counted. -/
def clear (bitmap : Bitmap) (start count : Nat) : Except Error Bitmap := do
  bitmap.checkRun start count
  let before := bitmap.bits.ones start (start + count)
  match Bits.fill false start count bitmap.bits with
  | .ok _ bits => return { bitmap with bits, marked := bitmap.marked - before }
  | .error error _ => throw error

/-- Whether a run lies in the bitmap and has every bit set. -/
def allMarked (bitmap : Bitmap) (start count : Nat) : Bool :=
  decide (start + count ≤ bitmap.total) &&
    (bitmap.bits.find? false start (start + count)).isNone

/-- Whether a run lies in the bitmap and has every bit clear. -/
def allCleared (bitmap : Bitmap) (start count : Nat) : Bool :=
  decide (start + count ≤ bitmap.total) &&
    (bitmap.bits.find? true start (start + count)).isNone

/-- The first block from `start` on whose bit is clear. -/
def findCleared? (bitmap : Bitmap) (start : Nat) : Option Nat :=
  bitmap.bits.find? false start bitmap.total

/-- The first block from `start` on whose bit is set. -/
def findMarked? (bitmap : Bitmap) (start : Nat) : Option Nat :=
  bitmap.bits.find? true start bitmap.total

/-- A run of blocks. -/
structure Run where
  /-- The first block. -/
  start : Nat
  /-- The number of blocks. -/
  length : Nat
deriving DecidableEq, Repr, Inhabited

/-- The longer of two runs; of equally long ones the one seen first. -/
def Run.longer (seen : Option Run) (run : Run) : Run :=
  match seen with
  | some best => if best.length < run.length then run else best
  | none => run

/-- The first run of at least `count` clear bits from `start` on, cut to `count`. When there is
none, the longest run of clear bits, and of equally long ones the first. -/
def findRun? (bitmap : Bitmap) (start count : Nat) : Option Run :=
  if positive : 0 < count then go positive start none else none
where
  /-- Searches from `position` on, with the longest run seen before. -/
  go (positive : 0 < count) (position : Nat) (best : Option Run) : Option Run :=
    match found : bitmap.bits.find? false position bitmap.total with
    | none => best
    | some first =>
      have hit := Bits.find?_eq_some found
      have length_pos := Bits.zeroRun_pos
        (by omega : first < min bitmap.total (first + count)) hit.2.2.1 hit.2.2.2
      let length := bitmap.bits.zeroRun first (min bitmap.total (first + count))
      if length = count then some ⟨first, length⟩
      else go positive (first + length) (some (Run.longer best ⟨first, length⟩))
  termination_by bitmap.total - position
  decreasing_by omega

/-- The runs of marked blocks, in order, each as long as it can be. -/
def markedRuns (bitmap : Bitmap) : List Run := go 0
where
  /-- The runs from `position` on. -/
  go (position : Nat) : List Run :=
    match found : bitmap.findMarked? position with
    | none => []
    | some first =>
      have hit := Bits.find?_eq_some found
      let stop := (bitmap.findCleared? (first + 1)).getD bitmap.total
      ⟨first, stop - first⟩ :: go (max stop (first + 1))
  termination_by bitmap.total - position
  decreasing_by omega

end Bitmap

end JournaledVolume
