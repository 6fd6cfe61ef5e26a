/-!
# Superblock counters

A committed transaction carries a snapshot of the counters that the superblock and the allocator of
object ids keep. The counters are words of the disk format. Setting one of them marks the
superblock as changed; its disk format is no concern of this library.
-/

namespace JournaledVolume

/-- The counters of a volume at one moment. -/
structure Counters where
  /-- The number of free blocks. -/
  freeBlocks : UInt64 := 0
  /-- The number of object ids in use. -/
  usedObjectIds : UInt64 := 0
  /-- The next object id to hand out. -/
  nextObjectId : UInt64 := 0
deriving DecidableEq, Repr, Inhabited

/-- The superblock in memory. -/
structure Superblock where
  /-- The bytes of a block. -/
  blockSize : UInt32
  /-- The number of blocks. -/
  blockCount : UInt64
  /-- The counters. -/
  counters : Counters
  /-- Whether a counter was set since the superblock was made. -/
  dirty : Bool := false
deriving DecidableEq, Repr

namespace Superblock

/-- A fresh superblock, which counts every block as free. -/
def fresh (blockSize : UInt32) (blockCount : UInt64) : Superblock :=
  { blockSize, blockCount, counters := { freeBlocks := blockCount } }

/-- Sets the number of free blocks. -/
def setFreeBlocks (superblock : Superblock) (count : UInt64) : Superblock :=
  { superblock with counters.freeBlocks := count, dirty := true }

/-- Sets the number of object ids in use. -/
def setUsedObjectIds (superblock : Superblock) (count : UInt64) : Superblock :=
  { superblock with counters.usedObjectIds := count, dirty := true }

/-- Sets the next object id. -/
def setNextObjectId (superblock : Superblock) (id : UInt64) : Superblock :=
  { superblock with counters.nextObjectId := id, dirty := true }

/-- Takes all counters over from a snapshot. -/
def accept (superblock : Superblock) (counters : Counters) : Superblock :=
  { superblock with counters, dirty := true }

end Superblock

/-- The state of the allocator of object ids. -/
structure ObjectIds where
  /-- The next id to hand out. -/
  next : UInt64 := 0
  /-- The number of ids in use. -/
  used : UInt64 := 0
deriving DecidableEq, Repr, Inhabited

namespace ObjectIds

/-- Sets the next object id. -/
def setNext (ids : ObjectIds) (next : UInt64) : ObjectIds := { ids with next }

/-- Sets the number of object ids in use. -/
def setUsed (ids : ObjectIds) (used : UInt64) : ObjectIds := { ids with used }

/-- Takes the object id counters over from a snapshot. -/
def accept (ids : ObjectIds) (counters : Counters) : ObjectIds :=
  (ids.setNext counters.nextObjectId).setUsed counters.usedObjectIds

end ObjectIds

end JournaledVolume
