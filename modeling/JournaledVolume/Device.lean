import JournaledVolume.Action
import JournaledVolume.LittleEndian

/-!
# Sector devices

A device transfers whole sectors and may fail. What it is made of, and when it fails, is its own
affair: the operations of this library ask nothing of it but this interface. A transfer may also
stop early, which the count of bytes transferred shows.
-/

namespace JournaledVolume

/-- The units of a device and its capacity. -/
structure Shape where
  /-- The bytes of a block of the volume on the device. -/
  blockSize : Nat
  /-- The bytes of a sector. -/
  sectorSize : Nat
  /-- The capacity in blocks. -/
  totalBlocks : Nat
deriving DecidableEq, Repr

/-- A device that transfers sectors. Every transfer returns the device as it is afterwards, also
when it fails. -/
class BlockDevice (δ : Type) where
  /-- The units and the capacity. -/
  shape : δ → Shape
  /-- Whether the device refuses writes. -/
  readOnly : δ → Bool
  /-- Reads `count` sectors from sector `first` on, and returns the bytes that it delivered. -/
  readSectors (first count : Nat) : Action δ Bytes
  /-- Writes whole sectors from sector `first` on, and returns the number of bytes taken. -/
  writeSectors (first : Nat) (data : Bytes) : Action δ Nat
  /-- Puts everything written so far into stable storage. -/
  flush : Action δ Unit

end JournaledVolume
