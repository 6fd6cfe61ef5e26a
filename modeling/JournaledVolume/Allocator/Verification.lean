import JournaledVolume.Allocator.Basic
import JournaledVolume.Findings

/-!
# Verification of the bitmap blocks

A bitmap block is bad when the checksum recorded for it is not that of its segment in memory. A
repair believes the segment and replaces the checksum, so that the next write to disk brings the
block in order.
-/

namespace JournaledVolume

/-- A bitmap block whose recorded checksum is not that of its segment. -/
structure Mismatch where
  /-- The segment. -/
  index : Nat
  /-- The address of the bitmap block. -/
  block : Nat
  /-- The checksum recorded. -/
  recorded : UInt32
  /-- The checksum of the segment. -/
  computed : UInt32
deriving DecidableEq, Repr

namespace Allocator

/-- The checksum recorded for a segment. -/
def recordedSum (allocator : Allocator) (index : Nat) : UInt32 := allocator.sums.getD index 0

/-- What is wrong with a segment's checksum, if anything. -/
def mismatch? (allocator : Allocator) (index : Nat) : Option Mismatch :=
  let computed := allocator.segmentSum index
  let recorded := allocator.recordedSum index
  if computed = recorded then none
  else some { index, block := allocator.geometry.bitmapBlock index, recorded, computed }

/-- The bad bitmap blocks, in order, with their checksums. -/
def mismatches (allocator : Allocator) : List Mismatch :=
  allocator.segments.filterMap allocator.mismatch?

/-- The addresses of the bad bitmap blocks, in order. -/
def badBlocks (allocator : Allocator) : List Nat := allocator.mismatches.map Mismatch.block

/-- Fails at the first bad bitmap block. -/
def verify (allocator : Allocator) : Except Error Unit :=
  match allocator.badBlocks with
  | [] => .ok ()
  | block :: _ => .error (.atBlock .bitmapChecksum block)

/-- What a verification reports. -/
def verifyEvents (allocator : Allocator) : List Event :=
  allocator.badBlocks.map .checksumMismatch

/-- Records the computed checksum of a bad bitmap block. -/
def accept (allocator : Allocator) (bad : Mismatch) : Allocator :=
  { allocator with sums := allocator.sums.setIfInBounds bad.index bad.computed, dirty := true }

/-- Checks the bitmap blocks. A mode that repairs records the checksum of every bad one. -/
def check (allocator : Allocator) (mode : CheckMode) : Findings × Allocator :=
  let bad := allocator.mismatches
  if bad.isEmpty then (∅, allocator)
  else if mode.repairs then ({ fixed := true }, bad.foldl accept allocator)
  else ({ fixable := true }, allocator)

/-- What a check in a mode reports. -/
def checkEvents (allocator : Allocator) (mode : CheckMode) : List Event :=
  allocator.mismatches.map fun bad =>
    if mode.repairs then .checksumReplaced bad.block bad.recorded bad.computed
    else .checksumWrong bad.block bad.recorded bad.computed

end Allocator

end JournaledVolume
