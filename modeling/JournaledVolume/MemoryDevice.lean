import JournaledVolume.Device
import Std.Data.TreeMap

/-!
# A device in memory

The device keeps the sectors that were written and reads every other sector as zero, so it can be
as large as any. It records the calls made to it and can be told to fail: after a number of
transfers, by moving too few bytes, by refusing writes or by failing to flush.
-/

namespace JournaledVolume

/-- How a device misbehaves. -/
structure Faults where
  /-- The number of reads that still succeed, if they are numbered. -/
  readsLeft : Option Nat := none
  /-- The number of writes that still succeed, if they are numbered. -/
  writesLeft : Option Nat := none
  /-- The number of bytes by which each transfer falls short of the request. -/
  short : Nat := 0
  /-- Whether flushing fails. -/
  flushFails : Bool := false
  /-- Whether the device refuses writes. -/
  readOnly : Bool := false
  /-- The error of a transfer that fails. -/
  error : Error := ⟨.reported .io "injected failure", none⟩
deriving DecidableEq, Repr

/-- Counts a transfer down; `none` when none is left. -/
def Faults.countDown : Option Nat → Option (Option Nat)
  | none => some none
  | some 0 => none
  | some (left + 1) => some (some left)

/-- A call made to a device. -/
inductive Call where
  /-- A read of `count` sectors from sector `first` on. -/
  | read (first count : Nat)
  /-- A write of `count` sectors from sector `first` on. -/
  | write (first count : Nat)
  /-- A flush. -/
  | flush
deriving DecidableEq, Repr

/-- A call in short form. -/
def Call.text : Call → String
  | .read first count => s!"R{first}+{count}"
  | .write first count => s!"W{first}+{count}"
  | .flush => "F"

/-- A device that holds its sectors in memory. -/
structure MemoryDevice where
  /-- The units and the capacity. -/
  shape : Shape
  /-- Whether the device has no flush and no write protection of its own. -/
  plain : Bool := false
  /-- How the device misbehaves. -/
  faults : Faults := {}
  /-- The sectors that were written, by number. -/
  sectors : Std.TreeMap Nat Bytes := ∅
  /-- The calls made to the device, oldest first. -/
  calls : Array Call := #[]

namespace MemoryDevice

/-- The number of sectors of the device. -/
def sectorCount (device : MemoryDevice) : Nat :=
  device.shape.totalBlocks * device.shape.blockSize / device.shape.sectorSize

/-- The content of a sector. -/
def sector (device : MemoryDevice) (number : Nat) : Bytes :=
  device.sectors.getD number (List.replicate device.shape.sectorSize 0)

/-- The content of `count` sectors from `first` on. -/
def fetch (device : MemoryDevice) (first : Nat) : (count : Nat) → Bytes
  | 0 => []
  | count + 1 => device.sector first ++ device.fetch (first + 1) count

/-- The device after `count` sectors from `first` on were replaced. -/
def store (device : MemoryDevice) (first : Nat) : (count : Nat) → Bytes → MemoryDevice
  | 0, _ => device
  | count + 1, data =>
    let stored := device.sectors.insert first (data.take device.shape.sectorSize)
    { device with sectors := stored }.store (first + 1) count
      (data.drop device.shape.sectorSize)

/-- The device after bytes were stored from byte `offset` on, whatever its faults. -/
def poke (device : MemoryDevice) (offset : Nat) (data : Bytes) : MemoryDevice :=
  let sectorSize := device.shape.sectorSize
  let first := offset / sectorSize
  let lead := offset % sectorSize
  let count := (lead + data.length + sectorSize - 1) / sectorSize
  let former := device.fetch first count
  device.store first count (former.take lead ++ data ++ former.drop (lead + data.length))

/-- The byte at `offset`. -/
def peek (device : MemoryDevice) (offset : Nat) : UInt8 :=
  (device.sector (offset / device.shape.sectorSize)).getD (offset % device.shape.sectorSize) 0

/-- The number of sectors of a block. -/
def sectorsPerBlock (device : MemoryDevice) : Nat :=
  device.shape.blockSize / device.shape.sectorSize

/-- The content of a block, counted from the start of the device. -/
def block (device : MemoryDevice) (number : Nat) : Bytes :=
  device.fetch (number * device.sectorsPerBlock) device.sectorsPerBlock

/-- The blocks that hold a byte other than zero, with their content, in ascending order. -/
def nonzeroBlocks (device : MemoryDevice) : List (Nat × Bytes) :=
  let touched := (device.sectors.keys.map fun sector => sector / device.sectorsPerBlock).eraseReps
  (touched.map fun number => (number, device.block number)).filter fun (_, content) =>
    content.any fun byte => byte != 0

/-- Records a call. -/
def record (call : Call) : Action MemoryDevice Unit :=
  modify fun device => { device with calls := device.calls.push call }

/-- Fails unless a numbered transfer is left. -/
def countDown (left : Faults → Option Nat) (change : Faults → Option Nat → Faults) :
    Action MemoryDevice Unit := do
  let device ← get
  match Faults.countDown (left device.faults) with
  | some rest => set { device with faults := change device.faults rest }
  | none => throw device.faults.error

/-- Fails when sectors lie outside the device. -/
def checkSectors (first count : Nat) : Action MemoryDevice Unit := do
  if (← get).sectorCount < first + count then
    throw ⟨.reported .io "outside device", none⟩

instance : BlockDevice MemoryDevice where
  shape device := device.shape
  readOnly device := !device.plain && device.faults.readOnly
  readSectors first count := do
    record (.read first count)
    countDown Faults.readsLeft fun faults readsLeft => { faults with readsLeft }
    checkSectors first count
    let device ← get
    let data := device.fetch first count
    return data.take (data.length - device.faults.short)
  writeSectors first data := do
    let count := data.length / (← get).shape.sectorSize
    record (.write first count)
    countDown Faults.writesLeft fun faults writesLeft => { faults with writesLeft }
    checkSectors first count
    modify fun device => device.store first count data
    return data.length - (← get).faults.short
  flush := do
    unless (← get).plain do
      record .flush
      if (← get).faults.flushFails then throw ⟨.reported .io "injected flush failure", none⟩

end MemoryDevice

end JournaledVolume
