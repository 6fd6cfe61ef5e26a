import JournaledVolume.Proofs.Content
import JournaledVolume.Proofs.Ending

/-!
# A device that keeps bytes

A store is a device that keeps bytes, remembers what has reached it, and fails at the calls that a
plan names. Its content and its plan are arbitrary, so what is proved of a store holds of every
image and every pattern of faults.

An operation that runs on a disk either has every request answered in full, and then `Ran` lists
what it asked for and what reached the device, or it breaks off at the first fault, and then
`Broke` says that a part of what it would have done has reached the device.
-/

namespace JournaledVolume

/-- How a call to a device goes wrong. -/
structure Fault where
  /-- The number of bytes of a write that reach the device all the same. -/
  reached : Nat := 0
  /-- The number of bytes that a transfer is said to have moved, if it is answered. -/
  short : Option Nat := none
  /-- The error of a call that is not answered. -/
  error : Error := ⟨.reported .io "injected failure", none⟩
deriving DecidableEq, Repr

namespace Fault

/-- The answer to a transfer of `size` bytes, which falls short of them, or an error. -/
def answer (fault : Fault) (size : Nat) : Except Error Nat :=
  match fault.short with
  | some moved => .ok (min moved (size - 1))
  | none => .error fault.error

/-- Whether writes of `size` bytes reach the device as a whole or not at all. -/
def Atomic (size : Nat) (fault : Fault) : Prop := fault.reached = 0 ∨ size ≤ fault.reached

end Fault

/-- A device that keeps bytes. -/
structure Store where
  /-- The units and the capacity. -/
  shape : Shape
  /-- Whether the device refuses writes. -/
  readOnly : Bool := false
  /-- What the device held at first. -/
  start : Content
  /-- What has reached the device since then, oldest first. -/
  effects : List Effect := []
  /-- The number of calls made to the device. -/
  calls : Nat := 0
  /-- The calls that go wrong, by number. -/
  plan : Nat → Option Fault := fun _ => none

namespace Store

/-- What the device holds. -/
def content (store : Store) : Content := store.start.afterAll store.effects

/-- The device after calls that had effects. -/
def advance (store : Store) (requests : Nat) (effects : List Effect) : Store :=
  { store with calls := store.calls + requests, effects := store.effects ++ effects }

/-- The number of sectors of the device. -/
def sectorCount (store : Store) : Nat :=
  store.shape.totalBlocks * store.shape.blockSize / store.shape.sectorSize

/-- Answers a transfer of `size` bytes that would have an effect. The answer is the number of bytes
transferred. -/
def transfer (first count size : Nat) (effect : Option Effect) : Action Store Nat := fun store =>
  if store.sectorCount < first + count then
    .error ⟨.reported .io "outside device", none⟩ (store.advance 1 [])
  else
    match store.plan store.calls with
    | none => .ok size (store.advance 1 effect.toList)
    | some fault =>
      let after := store.advance 1 (effect.map (Effect.cut fault.reached)).toList
      match fault.answer size with
      | .ok moved => .ok moved after
      | .error error => .error error after

instance : BlockDevice Store where
  shape := shape
  readOnly := readOnly
  readSectors first count := do
    let store ← get
    let size := count * store.shape.sectorSize
    let moved ← transfer first count size none
    return (store.content.slice (first * store.shape.sectorSize) size).take moved
  writeSectors first data := do
    let sectorSize := (← get).shape.sectorSize
    transfer first (data.length / sectorSize) data.length (some (.write (first * sectorSize) data))
  flush store :=
    match store.plan store.calls with
    | none => .ok () (store.advance 1 [.flush])
    | some fault => .error fault.error (store.advance 1 [])

/-- Whether the device answers every request within its capacity from now on. -/
structure Sound (store : Store) : Prop where
  /-- No call to come goes wrong. -/
  answers : ∀ number, store.calls ≤ number → store.plan number = none

/-- Whether the device serves every request within its capacity from now on, writes included. -/
structure Serves (store : Store) : Prop extends store.Sound where
  /-- The device takes writes. -/
  writable : store.readOnly = false

end Store

/-- What an operation asked of a device and reported of its progress. -/
@[ext]
structure Trace where
  /-- The number of calls, all of them answered in full. -/
  requests : Nat := 0
  /-- What reached the device. -/
  effects : List Effect := []
  /-- The copies reported. -/
  copies : List Copy := []

namespace Trace

/-- One operation after another. -/
instance : Append Trace where
  append first second :=
    { requests := first.requests + second.requests
      effects := first.effects ++ second.effects
      copies := first.copies ++ second.copies }

/-- Reading blocks. -/
def reads (count : Nat) : Trace := { requests := count }

end Trace

namespace Partition

/-- Whether a partition lies on a device of a shape: it has its units, and all of it is there. -/
structure LiesOn (partition : Partition) (shape : Shape) : Prop extends partition.Sectored where
  /-- Blocks are those of the device. -/
  blockSize_eq : partition.blockSize = shape.blockSize
  /-- Sectors are those of the device. -/
  sectorSize_eq : partition.sectorSize = shape.sectorSize
  /-- The partition ends within the device. -/
  inside : partition.offset + partition.size ≤ shape.totalBlocks * shape.blockSize

end Partition

namespace Disk

/-- The blocks of a partition as the disk holds them. -/
def image (partition : Partition) (disk : Disk Store) : Image :=
  partition.image disk.device.content

/-- The copies that operations on the disk have reported, oldest first. -/
def copies (disk : Disk Store) : List Copy := disk.log.toList.filterMap Event.copy?

/-- Whether an operation had every request answered, and what it did. -/
structure Ran (before after : Disk Store) (trace : Trace) : Prop where
  /-- The device changed by the effects of the operation alone. -/
  device : after.device = before.device.advance trace.requests trace.effects
  /-- None of the calls went wrong. -/
  unharmed : ∀ number < trace.requests, before.device.plan (before.device.calls + number) = none
  /-- The copies were reported behind those before. -/
  copies : after.copies = before.copies ++ trace.copies

end Disk

/-- How a list of effects breaks off: the last effect that the device saw may have reached it in
part. -/
inductive Torn (reached : Nat) : (whole part : List Effect) → Prop where
  /-- Nothing more reached the device. -/
  | nothing (whole : List Effect) : Torn reached whole []
  /-- The next effect reached the device in part. -/
  | last (effect : Effect) (rest : List Effect) :
    Torn reached (effect :: rest) [effect.cut reached]
  /-- The next effect reached the device, and the others broke off. -/
  | step (effect : Effect) {rest part : List Effect} (torn : Torn reached rest part) :
    Torn reached (effect :: rest) (effect :: part)

/-- Whether an operation broke off at a fault, with what it would have done to the device. -/
def Disk.Broke (before after : Disk Store) (whole : List Effect) : Prop :=
  ∃ requests fault part, after.device = before.device.advance (requests + 1) part ∧
    (∀ number < requests, before.device.plan (before.device.calls + number) = none) ∧
    before.device.plan (before.device.calls + requests) = some fault ∧
    Torn fault.reached whole part

end JournaledVolume
