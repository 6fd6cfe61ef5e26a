import JournaledVolume.Proofs.Ending

/-!
# Block requests and the calls that they make

Whatever a device is, a request for blocks is either refused before the device sees it, and nothing
changes, or it makes exactly one call to the device. Then it counts its blocks, leaves the device as
the call left it, and succeeds only if the call moved all bytes. A failure names a block.
-/

namespace JournaledVolume

open JournaledVolume.Action

/-- An error that was given a block names one. -/
theorem Error.isSome_block_withBlock (error : Error) (block : Nat) :
    (error.withBlock block).block.isSome = true := by
  rw [withBlock]
  cases error.block with
  | none => rfl
  | some named => rfl

namespace DiskM

variable {δ α : Type}

/-- Whether a call to a device fails, or moves fewer bytes than required. -/
def FallsShort (call : Action δ α) (size : α → Nat) (required : Nat)
    (device after : δ) : Prop :=
  (∃ failure, call device = .error failure after) ∨
    ∃ moved, call device = .ok moved after ∧ size moved < required

/-- What a device does for a block leaves the counters and the log, and an error names a block. -/
theorem ends_transfer_call (block : Nat) (call : Action δ α) (disk : Disk δ) :
    Ends (transfer block call) disk
      (fun value after => after = { disk with device := after.device } ∧
        call disk.device = .ok value after.device)
      fun error after => after = { disk with device := after.device } ∧
        error.block.isSome = true ∧ ∃ failure, call disk.device = .error failure after.device := by
  cases ran : call disk.device with
  | ok value device =>
    have moves : transfer block call disk = .ok value { disk with device } := by
      simp only [transfer, onDevice, ran]
    exact ends_of_ok moves ⟨rfl, rfl⟩
  | error error device =>
    have fails : transfer block call disk = .error (error.withBlock block) { disk with device } := by
      simp only [transfer, onDevice, ran]
    exact ends_of_error fails ⟨rfl, error.isSome_block_withBlock block, error, rfl⟩

variable [BlockDevice δ] {partition : Partition} {block count : Nat} {buffer : Bytes}

/-- The call that a read of blocks makes to the device. -/
def sectorRead (partition : Partition) (block count : Nat) : Action δ Bytes :=
  BlockDevice.readSectors (partition.sectorOf block) (count * partition.sectorsPerBlock)

/-- The call that a write of blocks makes to the device. -/
def sectorWrite (partition : Partition) (block count : Nat) (buffer : Bytes) : Action δ Nat :=
  BlockDevice.writeSectors (partition.sectorOf block) (buffer.take (count * partition.blockSize))

/-- How a read of blocks is served: it made its call and counted its blocks, and returns what the
call delivered. -/
structure ReadServed (partition : Partition) (block count : Nat) (disk : Disk δ) (data : Bytes)
    (after : Disk δ) : Prop where
  /-- The blocks are counted, and the device is as the call left it. -/
  counted : after = { disk with device := after.device, reads := disk.reads + count }
  /-- The call delivered all bytes. -/
  delivered : ∃ moved, sectorRead partition block count disk.device = .ok moved after.device ∧
    count * partition.blockSize ≤ moved.length ∧ data = moved.take (count * partition.blockSize)

/-- How a read of blocks fails at the device: it made its call and counted its blocks. -/
structure ReadFailed (partition : Partition) (block count : Nat) (disk : Disk δ) (error : Error)
    (after : Disk δ) : Prop where
  /-- The blocks are counted, and the device is as the call left it. -/
  counted : after = { disk with device := after.device, reads := disk.reads + count }
  /-- The error names a block. -/
  named : error.block.isSome = true
  /-- The call failed or delivered too few bytes. -/
  short : FallsShort (sectorRead partition block count) List.length (count * partition.blockSize)
    disk.device after.device

/-- How a write of blocks is served: it made its call and counted its blocks. -/
structure WriteServed (partition : Partition) (block count : Nat) (buffer : Bytes) (disk : Disk δ)
    (written : Nat) (after : Disk δ) : Prop where
  /-- The blocks are counted, and the device is as the call left it. -/
  counted : after = { disk with device := after.device, writes := disk.writes + count }
  /-- The number of bytes of the blocks is returned. -/
  size : written = count * partition.blockSize
  /-- The call took all bytes. -/
  taken : ∃ moved, sectorWrite partition block count buffer disk.device = .ok moved after.device ∧
    count * partition.blockSize ≤ moved

/-- How a write of blocks fails at the device: it made its call and counted its blocks. -/
structure WriteFailed (partition : Partition) (block count : Nat) (buffer : Bytes) (disk : Disk δ)
    (error : Error) (after : Disk δ) : Prop where
  /-- The blocks are counted, and the device is as the call left it. -/
  counted : after = { disk with device := after.device, writes := disk.writes + count }
  /-- The error names a block. -/
  named : error.block.isSome = true
  /-- The call failed or took too few bytes. -/
  short : FallsShort (sectorWrite partition block count buffer) id (count * partition.blockSize)
    disk.device after.device

/-- A read of blocks outside the partition is refused: nothing is asked of the device, and nothing
is counted. -/
theorem ends_readBlocks_refused (disk : Disk δ) (outside : partition.length < block + count) :
    Ends (readBlocks partition block count) disk (fun _ _ => False) fun _ after => after = disk := by
  rw [readBlocks, Partition.checkRange, if_neg (Nat.not_le_of_lt outside)]
  exact ends_throw rfl

/-- A read into too small a buffer is refused in the same way. -/
theorem ends_readInto_refused (disk : Disk δ)
    (refused : buffer.length < count * partition.blockSize ∨ partition.length < block + count) :
    Ends (readInto partition block count buffer) disk (fun _ _ => False)
      fun _ after => after = disk := by
  unfold readInto
  dsimp only
  by_cases short : buffer.length < count * partition.blockSize
  · rw [if_pos short]
    exact Ends.stop (ends_throw rfl)
  · rw [if_neg short]
    exact Ends.stop (ends_readBlocks_refused disk (refused.resolve_left short))

/-- A write is refused in the same way, and also by a device that takes no writes. -/
theorem ends_writeBlocks_refused (disk : Disk δ)
    (refused : buffer.length < count * partition.blockSize ∨ partition.length < block + count ∨
      BlockDevice.readOnly disk.device = true) :
    Ends (writeBlocks partition block count buffer) disk (fun _ _ => False)
      fun _ after => after = disk := by
  unfold writeBlocks
  dsimp only
  by_cases short : buffer.length < count * partition.blockSize
  · rw [if_pos short]
    exact Ends.stop (ends_throw rfl)
  · rw [if_neg short]
    refine ends_get ?_
    by_cases guarded : BlockDevice.readOnly disk.device = true
    · rw [if_pos guarded]
      exact Ends.stop (ends_throw rfl)
    · have outside : ¬ block + count ≤ partition.length := by
        have beyond := (refused.resolve_left short).resolve_right guarded
        omega
      rw [if_neg guarded, Partition.checkRange, if_neg outside]
      exact ends_throw rfl

/-- A read of blocks of the partition is served, or fails at the device. -/
theorem ends_readBlocks (inside : block + count ≤ partition.length) (disk : Disk δ) :
    Ends (readBlocks partition block count) disk (ReadServed partition block count disk)
      (ReadFailed partition block count disk) := by
  have counted := ends_transfer_call block (sectorRead partition block count)
    { disk with reads := disk.reads + count }
  unfold readBlocks
  rw [Partition.checkRange, if_pos inside]
  refine ends_ofExcept (fun _ _ => ends_modify (counted.bind ?_ ?_)) nofun
  · intro moved after ⟨left, called⟩
    by_cases short : moved.length < count * partition.blockSize
    · rw [if_pos short]
      exact ends_throw ⟨left, rfl, .inr ⟨moved, called, short⟩⟩
    · rw [if_neg short]
      exact ends_pure ⟨left, moved, called, Nat.le_of_not_lt short, rfl⟩
  · intro error after ⟨left, named, failed⟩
    exact ⟨left, named, .inl failed⟩

/-- A read over the front of a buffer is served, or fails at the device, as a read of blocks. -/
theorem ends_readInto (enough : count * partition.blockSize ≤ buffer.length)
    (inside : block + count ≤ partition.length) (disk : Disk δ) :
    Ends (readInto partition block count buffer) disk
      (fun result after => ∃ data, ReadServed partition block count disk data after ∧
        result = (count * partition.blockSize, data ++ buffer.drop (count * partition.blockSize)))
      (ReadFailed partition block count disk) := by
  unfold readInto
  dsimp only
  rw [if_neg (Nat.not_lt_of_le enough)]
  refine (ends_readBlocks inside disk).andThen fun data after served => ?_
  exact ends_pure ⟨data, served, rfl⟩

/-- A read over the front of a buffer that succeeds is a read of blocks that does. -/
theorem readBlocks_of_readInto {disk after : Disk δ} {result : Nat × Bytes}
    (ran : readInto partition block count buffer disk = .ok result after) :
    ∃ data, readBlocks partition block count disk = .ok data after ∧
      result = (count * partition.blockSize, data ++ buffer.drop (count * partition.blockSize)) := by
  unfold readInto at ran
  dsimp only at ran
  split at ran
  · exact (throw_ne_ok (of_bind_ok ran).choose_spec.choose_spec.1).elim
  · obtain ⟨data, between, delivered, returned⟩ := of_bind_ok ran
    obtain ⟨rfl, rfl⟩ := of_pure_ok returned
    exact ⟨data, delivered, rfl⟩

/-- A write of blocks of the partition to a device that takes writes is served, or fails at the
device. -/
theorem ends_writeBlocks (enough : count * partition.blockSize ≤ buffer.length)
    (inside : block + count ≤ partition.length) (disk : Disk δ)
    (writable : BlockDevice.readOnly disk.device = false) :
    Ends (writeBlocks partition block count buffer) disk
      (WriteServed partition block count buffer disk)
      (WriteFailed partition block count buffer disk) := by
  have counted := ends_transfer_call block (sectorWrite partition block count buffer)
    { disk with writes := disk.writes + count }
  unfold writeBlocks
  dsimp only
  rw [if_neg (Nat.not_lt_of_le enough)]
  refine ends_get ?_
  rw [writable, if_neg Bool.false_ne_true, Partition.checkRange, if_pos inside]
  refine ends_ofExcept (fun _ _ => ends_modify (counted.bind ?_ ?_)) nofun
  · intro moved after ⟨left, called⟩
    by_cases short : moved < count * partition.blockSize
    · rw [if_pos short]
      exact ends_throw ⟨left, rfl, .inr ⟨moved, called, short⟩⟩
    · rw [if_neg short]
      exact ends_pure ⟨left, rfl, moved, called, Nat.le_of_not_lt short⟩
  · intro error after ⟨left, named, failed⟩
    exact ⟨left, named, .inl failed⟩

end DiskM

end JournaledVolume
