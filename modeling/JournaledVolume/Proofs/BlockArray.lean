import JournaledVolume.Proofs.BlockRuns
import JournaledVolume.Proofs.Interruption

/-!
# A partition is an array of blocks

What a read of a block returns depends on the writes to this block alone. A request for several
blocks does what requests for each of them do, in any order. A request that is refused changes
nothing, and every other request makes one call to the device and counts its blocks.
-/

namespace JournaledVolume

open JournaledVolume.Action DiskM

namespace Partition

variable {shape : Shape} {all : Partition} {offset size : Nat}

/-- Every partition of a device that is not refused is measured in its units. -/
theorem measuredBy_of_whole (accepted : whole shape = .ok all) (offset size : Nat) :
    (all.restrict offset size).MeasuredBy shape := by
  rw [whole] at accepted
  split at accepted
  · exact nomatch accepted
  · next even =>
    cases accepted
    rw [not_or, not_not] at even
    exact ⟨⟨Nat.pos_of_ne_zero even.1, Nat.dvd_of_mod_eq_zero even.2⟩, rfl, rfl⟩

end Partition

variable {partition : Partition} {disk after other : Disk Store} {block count : Nat}
  {buffer : Bytes}

namespace DiskM

/-- Writes the blocks of a run one by one, in some order. -/
def writeSingly (partition : Partition) (block : Nat) (buffer : Bytes) (order : List Nat) :
    DiskM Store Unit :=
  order.forM fun index => writeBlock partition (block + index) (partition.portion buffer index)

/-- Reads blocks behind a first one, one by one. -/
def readSingly (partition : Partition) (block : Nat) (order : List Nat) :
    DiskM Store (List Bytes) :=
  order.mapM fun index => readBlock partition (block + index)

/-- Unless a fault comes, the blocks of a run that is reached are written one by one. -/
theorem exists_writeSingly (measured : partition.MeasuredBy disk.device.shape)
    (sound : disk.device.Sound) (writable : disk.device.readOnly = false)
    (run : partition.ReachesRun disk.device.shape block count)
    (enough : count * partition.blockSize ≤ buffer.length) (order : List Nat)
    (among : ∀ index ∈ order, index < count) :
    ∃ single, writeSingly partition block buffer order disk = .ok () single ∧
      single.device.content =
        disk.device.content.afterAll (partition.portionWrites block buffer order) ∧
      single.writes = disk.writes + order.length := by
  induction order generalizing disk with
  | nil => exact ⟨disk, rfl, rfl, rfl⟩
  | cons index order ih =>
    obtain ⟨first, later⟩ := List.forall_mem_cons.1 among
    have full := Partition.length_portion enough first
    have reaches := (run.reaches measured.toSectored first).run
    have fits : 1 * partition.blockSize ≤ (partition.portion buffer index).length := by omega
    obtain ⟨written, between, ran⟩ := exists_writeBlocks measured sound writable reaches fits
    obtain ⟨_, _, _, _, counted, left⟩ := left_of_writeBlocks measured ran
    rw [List.take_of_length_le (by omega)] at left
    rw [← left.shape] at measured run
    obtain ⟨single, rest, content, writes⟩ :=
      ih measured (left.sound sound) (left.readOnly.trans writable) run later
    have one : writeBlock partition (block + index) (partition.portion buffer index) disk =
        .ok () between := bind_of_ok ran
    refine ⟨single, ?_, ?_, ?_⟩
    · rw [writeSingly, List.forM_eq_forM, List.forM_cons, bind_of_ok one]
      exact rest
    · rw [content, left.content]
      rfl
    · rw [writes, counted, List.length_cons]
      omega

/-- Unless a fault comes, the blocks of a run that is reached are read one by one. -/
theorem exists_readSingly (measured : partition.MeasuredBy disk.device.shape)
    (sound : disk.device.Sound) (run : partition.ReachesRun disk.device.shape block count)
    (order : List Nat) (among : ∀ index ∈ order, index < count) :
    ∃ single, readSingly partition block order disk =
        .ok (order.map fun index => disk.image partition (block + index)) single ∧
      single.device.content = disk.device.content ∧ single.reads = disk.reads + order.length := by
  induction order generalizing disk with
  | nil => exact ⟨disk, rfl, rfl, rfl⟩
  | cons index order ih =>
    obtain ⟨first, later⟩ := List.forall_mem_cons.1 among
    have reaches := (run.reaches measured.toSectored first).run
    obtain ⟨data, between, ran⟩ := exists_readBlocks measured sound reaches
    obtain ⟨_, bytes, counted, left⟩ := left_of_readBlocks measured ran
    rw [Nat.one_mul] at bytes
    rw [← left.shape] at measured run
    obtain ⟨single, rest, content, reads⟩ := ih measured (left.sound sound) run later
    have one : readBlock partition (block + index) disk = .ok data between := ran
    have same : between.image partition = disk.image partition :=
      congrArg partition.image left.content
    refine ⟨single, ?_, content.trans left.content, ?_⟩
    · rw [readSingly, List.mapM_cons, bind_of_ok one, ← readSingly, bind_of_ok rest, List.map_cons,
        same, bytes]
      rfl
    · rw [reads, counted, List.length_cons]
      omega

end DiskM

namespace Disk

/-- What a read of a block returns, unless a fault comes. -/
def reading (partition : Partition) (disk : Disk Store) (block : Nat) : Except Error Bytes :=
  match readBlock partition block disk.repaired with
  | .ok content _ => .ok content
  | .error error _ => .error error

/-- A block that is reached reads as the device holds it. -/
theorem reading_of_reaches (measured : partition.MeasuredBy disk.device.shape)
    (reaches : partition.Reaches disk.device.shape block) :
    disk.reading partition block = .ok (disk.image partition block) := by
  obtain ⟨content, after, ran⟩ := @exists_readBlocks _ disk.repaired _ _ measured
    disk.sound_repaired reaches.run
  obtain ⟨_, bytes, _⟩ := @left_of_readBlocks _ disk.repaired _ _ _ _ measured ran
  have one : readBlock partition block disk.repaired = .ok content after := ran
  rw [Nat.one_mul] at bytes
  rw [reading, one, bytes]
  rfl

/-- A block that is not reached is refused with an error that the device's content does not
matter for. -/
theorem exists_refusal {shape : Shape} (unreached : ¬ partition.Reaches shape block) :
    ∃ error, ∀ disk : Disk Store, disk.device.shape = shape →
      disk.reading partition block = .error error := by
  have refused (disk : Disk Store) (error : Error) (ends : Ends (readBlock partition block)
      disk.repaired (fun _ _ => False) fun failure _ => failure = error) :
      disk.reading partition block = .error error := by
    obtain ⟨failure, after, ran, rfl⟩ := ends.exists_error fun _ _ => id
    rw [reading, ran]
  -- Outside the partition the request is refused, and outside the device by the device.
  by_cases inside : block + 1 ≤ partition.length
  · refine ⟨(⟨.reported .io "outside device", none⟩ : Error).withBlock block, ?_⟩
    rintro disk rfl
    have outside : disk.repaired.device.sectorCount <
        partition.sectorOf block + 1 * partition.sectorsPerBlock := by
      by_contra within
      rw [Nat.one_mul] at within
      exact unreached ⟨inside, Nat.le_of_not_lt within⟩
    apply refused
    rw [readBlock, readBlocks, Partition.checkRange, if_pos inside]
    refine ends_ofExcept (fun _ _ => ends_modify ?_) ?_
    · refine Ends.stop (DiskM.ends_transfer (ends_get (Ends.stop ?_)))
      exact ends_of_error (if_pos outside) rfl
    · intro _ failed
      cases failed
  · refine ⟨.atBlock .beyondPartition block, fun disk _ => refused disk _ ?_⟩
    rw [readBlock, readBlocks, Partition.checkRange, if_neg inside]
    exact ends_throw rfl

/-- What a block reads as depends on what the device holds there. -/
theorem reading_congr (measured : partition.MeasuredBy disk.device.shape)
    (shape : after.device.shape = disk.device.shape)
    (same : after.image partition block = disk.image partition block) :
    after.reading partition block = disk.reading partition block := by
  by_cases reaches : partition.Reaches disk.device.shape block
  · have still : partition.Reaches after.device.shape block := shape ▸ reaches
    rw [reading_of_reaches measured reaches, reading_of_reaches (shape ▸ measured) still, same]
  · obtain ⟨error, refuses⟩ := exists_refusal reaches
    rw [refuses disk rfl, refuses after shape]

/-- What a write of blocks does to the blocks that are read. -/
structure WroteRun (partition : Partition) (block count : Nat) (buffer : Bytes)
    (before after : Disk Store) : Prop where
  /-- Each block of the run reads as its portion of the buffer. -/
  inside : ∀ index < count,
    after.reading partition (block + index) = .ok (partition.portion buffer index)
  /-- Every other block reads as before. -/
  outside : ∀ other, other < block ∨ block + count ≤ other →
    after.reading partition other = before.reading partition other
  /-- Writing the blocks one by one, in any order, leaves the same device and counts the same. -/
  singly : ∀ order, order.Perm (List.range count) → ∃ single,
    writeSingly partition block buffer order before.repaired = .ok () single ∧
      single.device.content = after.device.content ∧ single.writes = after.writes

/-- What a read of blocks over the front of a buffer returns. -/
structure ReadRun (partition : Partition) (block count : Nat) (buffer : Bytes)
    (result : Nat × Bytes) (before after : Disk Store) : Prop where
  /-- The device holds what it held. -/
  quiet : after.device.content = before.device.content
  /-- Reading the blocks one by one returns the same bytes and counts the same. -/
  singly : ∃ portions single,
    readSingly partition block (List.range count) before.repaired = .ok portions single ∧
      result = (count * partition.blockSize,
        portions.flatten ++ buffer.drop (count * partition.blockSize)) ∧
      single.reads = after.reads

/-- A write of blocks that succeeds stores the portions of the buffer. -/
theorem wroteRun_of_writeBlocks {written : Nat} (measured : partition.MeasuredBy disk.device.shape)
    (ran : writeBlocks partition block count buffer disk = .ok written after) :
    WroteRun partition block count buffer disk after := by
  obtain ⟨run, enough, writable, _, counted, left⟩ := left_of_writeBlocks measured ran
  have sectored := measured.toSectored
  refine ⟨?_, ?_, ?_⟩
  · intro index among
    have reaches : partition.Reaches after.device.shape (block + index) :=
      left.shape ▸ run.reaches sectored among
    rw [reading_of_reaches (left.shape ▸ measured) reaches, image, left.content,
      Partition.image_after_run sectored enough among]
  · intro other apart
    refine reading_congr measured left.shape ?_
    rw [image, left.content, Partition.image_after_run_of_outside sectored apart, image]
  · intro order perm
    have among (index : Nat) (known : index ∈ order) : index < count :=
      List.mem_range.1 (perm.mem_iff.1 known)
    obtain ⟨single, singly, content, writes⟩ := @exists_writeSingly _ disk.repaired _ _ _ measured
      disk.sound_repaired writable run enough order among
    refine ⟨single, singly, ?_, ?_⟩
    · rw [content, Partition.afterAll_portionWrites_of_perm sectored enough perm,
        Partition.afterAll_portionWrites sectored enough, left.content]
      rfl
    · rw [writes, counted, perm.length_eq, List.length_range]
      rfl

/-- A read of blocks that succeeds returns the blocks. -/
theorem readRun_of_readInto {result : Nat × Bytes}
    (measured : partition.MeasuredBy disk.device.shape)
    (ran : readInto partition block count buffer disk = .ok result after) :
    ReadRun partition block count buffer result disk after := by
  obtain ⟨data, delivered, rfl⟩ := readBlocks_of_readInto ran
  obtain ⟨run, bytes, counted, left⟩ := left_of_readBlocks measured delivered
  obtain ⟨single, singly, _, reads⟩ := @exists_readSingly _ disk.repaired _ _ measured
    disk.sound_repaired run (List.range count) fun _ => List.mem_range.1
  refine ⟨left.content, _, single, singly, ?_, ?_⟩
  · rw [bytes, ← Partition.flatten_image measured.toSectored]
    rfl
  · rw [reads, counted, List.length_range]
    rfl

end Disk

/-- What stands between a request for blocks and the device, whatever the device is. -/
structure Guarded {δ : Type} [BlockDevice δ] (partition : Partition) (block count : Nat)
    (buffer : Bytes) (disk : Disk δ) : Prop where
  /-- A read beyond the partition or into too small a buffer fails, and nothing has changed. -/
  read_refused : buffer.length < count * partition.blockSize ∨ partition.length < block + count →
    ∃ error, readInto partition block count buffer disk = .error error disk
  /-- So does a write, also on a device that takes no writes. -/
  write_refused : buffer.length < count * partition.blockSize ∨ partition.length < block + count ∨
    BlockDevice.readOnly disk.device = true →
    ∃ error, writeBlocks partition block count buffer disk = .error error disk
  /-- Every other read is served, or fails at the device. -/
  read_called : count * partition.blockSize ≤ buffer.length → block + count ≤ partition.length →
    Ends (readInto partition block count buffer) disk
      (fun result after => ∃ data, ReadServed partition block count disk data after ∧
        result = (count * partition.blockSize, data ++ buffer.drop (count * partition.blockSize)))
      (ReadFailed partition block count disk)
  /-- So is every other write, or it fails at the device. -/
  write_called : count * partition.blockSize ≤ buffer.length → block + count ≤ partition.length →
    BlockDevice.readOnly disk.device = false →
    Ends (writeBlocks partition block count buffer) disk
      (WriteServed partition block count buffer disk)
      (WriteFailed partition block count buffer disk)

/-- Every request is guarded. -/
theorem guarded {δ : Type} [BlockDevice δ] (partition : Partition) (block count : Nat)
    (buffer : Bytes) (disk : Disk δ) : Guarded partition block count buffer disk where
  read_refused refused := by
    obtain ⟨error, _, ran, rfl⟩ := (ends_readInto_refused disk refused).exists_error fun _ _ => id
    exact ⟨error, ran⟩
  write_refused refused := by
    obtain ⟨error, _, ran, rfl⟩ := (ends_writeBlocks_refused disk refused).exists_error fun _ _ => id
    exact ⟨error, ran⟩
  read_called enough inside := ends_readInto enough inside disk
  write_called enough inside writable := ends_writeBlocks enough inside disk writable

/-- A partition is an array of blocks, wherever it lies on a device that is not refused. A write
that succeeds stores its blocks and no others, and a read that succeeds returns its blocks; either
does what requests for the single blocks do. Requests that the device has room for succeed unless a
fault comes. On any device, a request is refused without a trace or makes one call and counts it. -/
theorem blocks_form_array {shape : Shape} {all : Partition} {offset size : Nat}
    (accepted : Partition.whole shape = .ok all) (part : partition = all.restrict offset size) :
    (∀ (disk : Disk Store) block count buffer, disk.device.shape = shape →
      (∀ written after, writeBlocks partition block count buffer disk = .ok written after →
        disk.WroteRun partition block count buffer after) ∧
      (∀ result after, readInto partition block count buffer disk = .ok result after →
        disk.ReadRun partition block count buffer result after) ∧
      (disk.device.Sound → partition.ReachesRun shape block count →
        count * partition.blockSize ≤ buffer.length →
        (∃ result after, readInto partition block count buffer disk = .ok result after) ∧
        (disk.device.readOnly = false →
          ∃ written after, writeBlocks partition block count buffer disk = .ok written after))) ∧
    ∀ {δ : Type} [BlockDevice δ] (disk : Disk δ) block count buffer,
      Guarded partition block count buffer disk := by
  have measured : partition.MeasuredBy shape := by
    rw [part]
    exact Partition.measuredBy_of_whole accepted offset size
  refine ⟨?_, fun disk block count buffer => guarded partition block count buffer disk⟩
  rintro disk block count buffer rfl
  refine ⟨fun _ _ => Disk.wroteRun_of_writeBlocks measured,
    fun _ _ => Disk.readRun_of_readInto measured, fun sound run enough => ⟨?_, ?_⟩⟩
  · have ends := ends_readInto enough run.inside disk
    obtain ⟨result, after, ran, _⟩ := ends.exists_ok fun _ after failed =>
      not_fallsShort_sectorRead measured sound run after.device failed.short
    exact ⟨result, after, ran⟩
  · intro writable
    exact exists_writeBlocks measured sound writable run enough

namespace Sample

/-- A partition of two blocks that starts within a sector. -/
def within : Partition := { blockSize := 512, sectorSize := 512, offset := 100, size := 1024 }

/-- An empty device of eight blocks. -/
def empty : Disk Store :=
  { device :=
      { shape := { blockSize := 512, sectorSize := 512, totalBlocks := 8 }
        start := fun _ => 0 } }

end Sample

/-- Two blocks are written to a partition that starts within a sector. The second then reads as it
was written, also if it was written before the first. -/
theorem blocks_form_array_sample : ∃ written after, ∃ single : Disk Store,
    writeBlocks Sample.within 0 2 (List.replicate 1024 7) Sample.empty = .ok written after ∧
      after.reading Sample.within 1 = .ok (List.replicate 512 7) ∧
      writeSingly Sample.within 0 (List.replicate 1024 7) [1, 0] Sample.empty.repaired =
        .ok () single ∧ single.device.content = after.device.content := by
  obtain ⟨array, _⟩ := @blocks_form_array Sample.within ⟨512, 512, 8⟩ _ 100 1024 rfl rfl
  obtain ⟨wrote, _, returns⟩ := array Sample.empty 0 2 (List.replicate 1024 7) rfl
  have enough : 2 * Sample.within.blockSize ≤ (List.replicate 1024 (7 : UInt8)).length :=
    List.length_replicate.ge
  have run : Sample.within.ReachesRun ⟨512, 512, 8⟩ 0 2 := ⟨by decide, by decide⟩
  obtain ⟨_, writes⟩ := returns ⟨fun _ _ => rfl⟩ run enough
  obtain ⟨written, after, ran⟩ := writes rfl
  obtain ⟨inside, _, singly⟩ := wrote written after ran
  obtain ⟨single, alone, content, _⟩ := singly [1, 0] (by decide)
  have portion : Sample.within.portion (List.replicate 1024 7) 1 = List.replicate 512 7 := by
    rw [Partition.portion, List.drop_replicate, List.take_replicate]
    rfl
  refine ⟨written, after, single, ran, ?_, alone, content⟩
  rw [← portion]
  exact inside 1 (by decide)

end JournaledVolume
