import JournaledVolume.Allocator.Storage
import JournaledVolume.Proofs.Encoding
import JournaledVolume.Proofs.Marking
import JournaledVolume.Proofs.PackStream
import JournaledVolume.Proofs.Requests
import Mathlib.Data.List.Basic

/-!
# The bitmap blocks on disk

The segments of a bitmap, one behind the other, are its bytes, and each has a bitmap block of its
own. `Allocator.stored` is the allocator that the bitmap blocks of a disk hold. Loading returns it;
and once every bitmap block has been written, it is the allocator that was written.
-/

namespace JournaledVolume

open JournaledVolume.Action

namespace Geometry

variable {geometry : Geometry} {image : Image} {bits : Bits} {count index other : Nat}

/-- A volume that is not refused has a valid block size. -/
theorem blockSize_of_check (accepted : geometry.check = .ok ()) :
    geometry.blockSize ∈ blockSizes := by
  by_contra invalid
  rw [check, checkBlockSize, if_neg invalid] at accepted
  exact nomatch accepted

/-- A bitmap block has room for its checksum. -/
theorem checksumSize_add_bytesPerBlock (valid : geometry.blockSize ∈ blockSizes) :
    checksumSize + geometry.bytesPerBlock = geometry.blockSize := by
  simp only [blockSizes, List.mem_cons, List.not_mem_nil, or_false] at valid
  simp only [bytesPerBlock, checksumSize]
  omega

/-- The first bitmap block lies before the others. -/
theorem bitmapStart_lt (valid : geometry.blockSize ∈ blockSizes) :
    geometry.bitmapStart < geometry.bitsPerBlock := by
  simp only [blockSizes, List.mem_cons, List.not_mem_nil, or_false] at valid
  simp only [bitmapStart, masterBlock, JournaledVolume.masterBlock, bitsPerBlock, bytesPerBlock,
    checksumSize]
  rcases valid with size | size | size | size | size | size | size | size <;> rw [size] <;> decide

/-- The bitmap blocks are in the order of their segments. -/
theorem bitmapBlock_lt (valid : geometry.blockSize ∈ blockSizes) (earlier : index < other) :
    geometry.bitmapBlock index < geometry.bitmapBlock other := by
  have first := bitmapStart_lt valid
  have positive : other ≠ 0 := Nat.ne_zero_of_lt earlier
  rw [bitmapBlock, bitmapBlock, if_neg positive]
  by_cases start : index = 0
  · rw [if_pos start]
    exact first.trans_le (Nat.le_mul_of_pos_left _ (Nat.pos_of_ne_zero positive))
  · rw [if_neg start]
    exact Nat.mul_lt_mul_of_pos_right earlier (Nat.zero_lt_of_lt first)

/-- Each segment has a bitmap block of its own. -/
theorem bitmapBlock_injective (valid : geometry.blockSize ∈ blockSizes)
    (same : geometry.bitmapBlock index = geometry.bitmapBlock other) : index = other := by
  have ordered : StrictMono geometry.bitmapBlock := fun _ _ earlier => bitmapBlock_lt valid earlier
  exact ordered.injective same

/-- The bitmap blocks have room for the bytes of the bitmap. -/
theorem byteCount_le (valid : geometry.blockSize ∈ blockSizes) :
    Bitmap.byteCount geometry.blockCount ≤ geometry.bitmapBlocks * geometry.bytesPerBlock := by
  have positive : 0 < geometry.bitsPerBlock := Nat.zero_lt_of_lt (bitmapStart_lt valid)
  have covers : geometry.blockCount ≤ geometry.bitmapBlocks * geometry.bitsPerBlock := by
    have split := Nat.div_add_mod (geometry.blockCount + geometry.bitsPerBlock - 1)
      geometry.bitsPerBlock
    have small := Nat.mod_lt (geometry.blockCount + geometry.bitsPerBlock - 1) positive
    rw [bitmapBlocks, Nat.mul_comm]
    omega
  rw [bitsPerBlock, ← Nat.mul_assoc] at covers
  rw [Bitmap.byteCount]
  omega

/-- A segment is a range of the bytes. -/
theorem segment_eq (geometry : Geometry) (bits : Bits) (index : Nat) :
    geometry.segment bits index =
      (bits.bytes.toList.drop (index * geometry.bytesPerBlock)).take geometry.bytesPerBlock := by
  rw [segment, Array.toList_extract, List.extract_eq_take_drop, Nat.add_sub_cancel_left,
    segmentSize, segmentStart, ← Array.length_toList, ← List.length_drop, ← List.take_eq_take_min]

/-- A segment has the size that its place gives it. -/
theorem length_segment (geometry : Geometry) (bits : Bits) (index : Nat) :
    (geometry.segment bits index).length = geometry.segmentSize bits.bytes.size index := by
  rw [segment_eq, List.length_take, List.length_drop, Array.length_toList, segmentSize,
    segmentStart]

/-- The segments, one behind the other, are the bytes. -/
theorem flatMap_segment (geometry : Geometry) (bits : Bits) (count : Nat) :
    (List.range count).flatMap (geometry.segment bits) =
      bits.bytes.toList.take (count * geometry.bytesPerBlock) := by
  rw [← flatMap_take_drop]
  exact List.flatMap_congr fun index _ => segment_eq geometry bits index

/-- The part of a bitmap block's content that is its segment, in a bitmap of `size` bytes. -/
def segmentOfBlock (geometry : Geometry) (size index : Nat) (content : Bytes) : Bytes :=
  (content.drop checksumSize).take (geometry.segmentSize size index)

/-- The bytes of the bitmap that the first bitmap blocks hold. -/
def segmentsOn (geometry : Geometry) (image : Image) (count : Nat) : Bytes :=
  (List.range count).flatMap fun index =>
    geometry.segmentOfBlock (Bitmap.byteCount geometry.blockCount) index
      (image (geometry.bitmapBlock index))

/-- The checksums that the first bitmap blocks hold. -/
def sumsOn (geometry : Geometry) (image : Image) (count : Nat) : List UInt32 :=
  (List.range count).map fun index => LittleEndian.decode32 (image (geometry.bitmapBlock index))

/-- A segment of a bitmap block is as long as it should be. -/
theorem length_segmentOfBlock {size : Nat} {content : Bytes}
    (full : content.length = geometry.blockSize) :
    (geometry.segmentOfBlock size index content).length = geometry.segmentSize size index := by
  rw [segmentOfBlock, List.length_take, List.length_drop, full, segmentSize, bytesPerBlock]
  omega

/-- The first bitmap blocks hold as many bytes of the bitmap as they have room for, or all. -/
theorem length_segmentsOn (full : ∀ block, (image block).length = geometry.blockSize)
    (count : Nat) : (geometry.segmentsOn image count).length =
      min (count * geometry.bytesPerBlock) (Bitmap.byteCount geometry.blockCount) := by
  induction count with
  | zero => rw [Nat.zero_mul, Nat.zero_min]; rfl
  | succ count ih =>
    rw [segmentsOn, List.range_succ, List.flatMap_append, List.length_append,
      List.flatMap_singleton, length_segmentOfBlock (full _), ← segmentsOn, ih, segmentSize,
      segmentStart, Nat.succ_mul]
    omega

/-- All bitmap blocks hold all bytes of the bitmap. -/
theorem length_segmentsOn_all (valid : geometry.blockSize ∈ blockSizes)
    (full : ∀ block, (image block).length = geometry.blockSize) :
    (geometry.segmentsOn image geometry.bitmapBlocks).length =
      Bitmap.byteCount geometry.blockCount := by
  rw [length_segmentsOn full, Nat.min_eq_right (byteCount_le valid)]

end Geometry

/-- Bytes that are stored behind others replace those that were there. -/
theorem Bitmap.load_go_append (former behind data : Bytes) (fits : data.length ≤ behind.length) :
    Bitmap.load.go (former ++ behind).toArray former.length data =
      (former ++ data ++ behind.drop data.length).toArray := by
  induction data generalizing former behind with
  | nil => simp only [load.go, List.append_nil, List.length_nil, List.drop_zero]
  | cons byte data ih =>
    cases behind with
    | nil => exact absurd fits (Nat.not_succ_le_zero _)
    | cons old behind =>
      have stored : ((former ++ old :: behind).toArray.setIfInBounds former.length byte) =
          ((former ++ [byte]) ++ behind).toArray := by
        simp
      have next := ih (former ++ [byte]) behind (Nat.le_of_succ_le_succ fits)
      rw [List.length_append] at next
      rw [load.go, stored]
      exact next.trans (by simp)

namespace Allocator

variable {partition : Partition} {geometry : Geometry} {image : Image} {disk after : Disk Store}

/-- An allocator of which the first bitmap blocks were read. -/
def filled (geometry : Geometry) (image : Image) (count : Nat) : Allocator :=
  let size := Bitmap.byteCount geometry.blockCount
  let bytes := geometry.segmentsOn image count
  { geometry
    bitmap :=
      { total := geometry.blockCount
        marked := 0
        bits := ⟨(bytes ++ List.replicate (size - bytes.length) 0).toArray⟩ }
    sums := (geometry.sumsOn image count).toArray
    dirty := false }

/-- The allocator that the bitmap blocks of a volume hold. -/
def stored (geometry : Geometry) (image : Image) : Allocator where
  geometry
  bitmap := Bitmap.recount
    { total := geometry.blockCount
      marked := 0
      bits := ⟨(geometry.segmentsOn image geometry.bitmapBlocks).toArray⟩ }
  sums := (geometry.sumsOn image geometry.bitmapBlocks).toArray
  dirty := false

/-- Before any bitmap block was read, no bit is set. -/
theorem blank_of_room (room : Bitmap.checkRoom geometry.blockCount = .ok ()) (image : Image) :
    blank geometry = .ok (filled geometry image 0) := by
  rw [blank, Bitmap.zeros_of_room room]
  show Except.ok _ = Except.ok _
  simp [filled, Bits.zeros, Geometry.segmentsOn, Geometry.sumsOn]

/-- An allocator of which bitmap blocks were read has all bytes of its bitmap. -/
theorem size_filled (full : ∀ block, (image block).length = geometry.blockSize) (count : Nat) :
    (filled geometry image count).bitmap.bits.bytes.size =
      Bitmap.byteCount geometry.blockCount := by
  have within := Geometry.length_segmentsOn full count
  simp only [filled, List.size_toArray, List.length_append, List.length_replicate]
  omega

/-- Reading the next bitmap block adds what it holds. -/
theorem absorb_filled (full : ∀ block, (image block).length = geometry.blockSize) (count : Nat) :
    (filled geometry image count).absorb count (image (geometry.bitmapBlock count)) =
      filled geometry image (count + 1) := by
  let size := Bitmap.byteCount geometry.blockCount
  let bytes := geometry.segmentsOn image count
  let segment := geometry.segmentOfBlock size count (image (geometry.bitmapBlock count))
  have known : bytes.length = min (count * geometry.bytesPerBlock) size :=
    Geometry.length_segmentsOn full count
  have gained : segment.length =
      min geometry.bytesPerBlock (size - count * geometry.bytesPerBlock) :=
    Geometry.length_segmentOfBlock (full _)
  have next : geometry.segmentsOn image (count + 1) = bytes ++ segment := by
    rw [Geometry.segmentsOn, List.range_succ, List.flatMap_append, List.flatMap_singleton]
    rfl
  have loaded : Bitmap.load.go (bytes ++ List.replicate (size - bytes.length) 0).toArray
      (count * geometry.bytesPerBlock) segment =
        (bytes ++ segment ++ List.replicate (size - (bytes ++ segment).length) 0).toArray := by
    -- A bitmap block that begins behind the end of the bitmap has an empty segment.
    rcases Nat.le_total (count * geometry.bytesPerBlock) size with within | beyond
    · have place : count * geometry.bytesPerBlock = bytes.length := by omega
      have fits : segment.length ≤ (List.replicate (size - bytes.length) (0 : UInt8)).length := by
        rw [List.length_replicate]
        omega
      rw [place, Bitmap.load_go_append _ _ _ fits, List.drop_replicate, List.length_append,
        Nat.sub_sub]
    · have nothing : segment = [] := List.eq_nil_of_length_eq_zero (by omega)
      rw [nothing, List.append_nil]
      rfl
  have sums : (geometry.sumsOn image count).toArray.push
      (LittleEndian.decode32 (image (geometry.bitmapBlock count))) =
        (geometry.sumsOn image (count + 1)).toArray := by
    rw [Geometry.sumsOn, Geometry.sumsOn, List.range_succ, List.map_append, List.push_toArray]
    rfl
  have sized := size_filled full count
  simp only [absorb, sized]
  simp only [filled, next, Bitmap.load, ← sums]
  congr 3

/-- When all bitmap blocks were read, the bitmap is counted again. -/
theorem recount_filled (valid : geometry.blockSize ∈ blockSizes)
    (full : ∀ block, (image block).length = geometry.blockSize) :
    { filled geometry image geometry.bitmapBlocks with
      bitmap := (filled geometry image geometry.bitmapBlocks).bitmap.recount } =
        stored geometry image := by
  simp only [filled, stored, Geometry.length_segmentsOn_all valid full, Nat.sub_self,
    List.replicate_zero, List.append_nil]

/-- Whether the bitmap blocks of a volume can be read from a device. -/
structure Reached (partition : Partition) (geometry : Geometry) (shape : Shape) : Prop where
  /-- The volume has the block size of the partition. -/
  same : partition.blockSize = geometry.blockSize
  /-- Memory has room for the bitmap. -/
  room : Bitmap.checkRoom geometry.blockCount = .ok ()
  /-- The partition reaches every bitmap block. -/
  reaches : ∀ index < geometry.bitmapBlocks, partition.Reaches shape (geometry.bitmapBlock index)

/-- Reporting events that are no copies leaves what an operation did. -/
theorem ends_forM_emit {α : Type} {before : Disk Store} {trace : Trace} {items : List α}
    {event : α → Event} {fails : Error → Disk Store → Prop}
    (silent : ∀ item, (event item).copy? = none) (ran : before.Ran disk trace) :
    Ends (items.forM fun item => DiskM.emit (event item)) disk
      (fun _ after => before.Ran after trace) fails := by
  induction items generalizing disk with
  | nil => exact ends_pure ran
  | cons item items ih => exact DiskM.ends_emit_andThen (ih (ran.report (silent item)))

/-- Whether the first bitmap blocks were read. -/
structure Reading (partition : Partition) (geometry : Geometry) (before : Disk Store)
    (count : Nat) (allocator : Allocator) (after : Disk Store) : Prop where
  /-- The partition reaches them. -/
  reaches : ∀ index < count,
    partition.Reaches before.device.shape (geometry.bitmapBlock index)
  /-- What they hold is in memory. -/
  filled : allocator = filled geometry (before.image partition) count
  /-- Nothing else was done. -/
  ran : before.Ran after (.reads count)

/-- One more bitmap block is read, unless it cannot be read. -/
theorem Reading.ends_step {count : Nat} {before : Disk Store} {allocator : Allocator}
    (reading : Reading partition geometry before count allocator disk)
    (measured : partition.MeasuredBy before.device.shape)
    (same : partition.blockSize = geometry.blockSize) :
    Ends (do
        let image ← DiskM.readBlock partition (geometry.bitmapBlock count)
        return allocator.absorb count image) disk
      (Reading partition geometry before (count + 1))
      fun _ _ => ¬ (partition.Reaches before.device.shape (geometry.bitmapBlock count) ∧
        before.device.Sound) := by
  have current : partition.MeasuredBy disk.device.shape := measured.of_shape reading.ran.shape
  have full (block : Nat) : (before.image partition block).length = geometry.blockSize :=
    (Partition.length_image _ _).trans same
  refine (DiskM.ends_readBlock_measured current (geometry.bitmapBlock count)).bind ?_ ?_
  · rintro _ after ⟨reached, rfl, ran⟩
    rw [reading.ran.shape] at reached
    refine ends_pure ⟨?_, ?_, reading.ran.trans ran⟩
    · exact Nat.forall_lt_succ_right.2 ⟨reading.reaches, reached⟩
    · rw [reading.ran.image rfl, reading.filled, absorb_filled full]
  · rintro _ _ fails ⟨reached, sound⟩
    rw [reading.ran.shape] at fails
    exact fails ⟨reached, reading.ran.sound sound⟩

/-- A volume that a partition does not refuse has the partition's block size. -/
theorem same_of_checkPartition (accepted : checkPartition partition geometry = .ok ()) :
    partition.blockSize = geometry.blockSize := by
  by_contra differs
  rw [checkPartition, if_neg differs] at accepted
  exact nomatch accepted

/-- There is room for the bitmap of an allocator that was made. -/
theorem room_of_blank {allocator : Allocator} (made : blank geometry = .ok allocator) :
    Bitmap.checkRoom geometry.blockCount = .ok () := by
  cases zeros : Bitmap.zeros geometry.blockCount with
  | ok bitmap => exact Bitmap.room_of_zeros zeros
  | error error =>
    rw [blank, zeros] at made
    exact nomatch made

/-- Loading returns the allocator that is stored, unless a bitmap block cannot be read. -/
theorem ends_load (measured : partition.MeasuredBy disk.device.shape)
    (valid : geometry.blockSize ∈ blockSizes) :
    Ends (load partition geometry) disk
      (fun allocator after => Reached partition geometry disk.device.shape ∧
        allocator = stored geometry (disk.image partition) ∧
        disk.Ran after (.reads geometry.bitmapBlocks))
      fun _ _ => ¬ (Reached partition geometry disk.device.shape ∧ disk.device.Sound) := by
  unfold load
  refine ends_ofExcept (fun _ accepted => ?_) ?_
  · have same := same_of_checkPartition accepted
    refine ends_ofExcept (fun start made => ?_) ?_
    · have room := room_of_blank made
      have full (block : Nat) : (disk.image partition block).length = geometry.blockSize :=
        (Partition.length_image _ _).trans same
      rw [blank_of_room room (disk.image partition)] at made
      cases made
      have begins : Reading partition geometry disk 0 (filled geometry (disk.image partition) 0)
          disk := ⟨fun _ none => absurd none (Nat.not_lt_zero _), rfl, .nothing rfl rfl⟩
      refine Ends.andThen (ends_foldlM_range begins fun index within _ _ reading => ?_) ?_
      · refine (reading.ends_step measured same).allow ?_
        exact fun _ _ fails all => fails ⟨all.1.reaches index within, all.2⟩
      · rintro _ between ⟨reaches, rfl, ran⟩
        refine Ends.andThen (ends_forM_emit (fun _ => rfl) ran) ?_
        intro _ between ran
        refine DiskM.ends_emit_andThen (ends_pure ⟨⟨same, room, reaches⟩, ?_, ran.report rfl⟩)
        exact recount_filled valid full
    · rintro error failed ⟨reached, _⟩
      rw [blank_of_room reached.room (disk.image partition)] at failed
      exact nomatch failed
  · rintro error refused ⟨reached, _⟩
    rw [checkPartition, if_pos reached.same] at refused
    exact nomatch refused

/-- The allocator that is stored is loaded from a device that answers. -/
theorem exists_load (measured : partition.MeasuredBy disk.device.shape)
    (valid : geometry.blockSize ∈ blockSizes)
    (reached : Reached partition geometry disk.device.shape) (sound : disk.device.Sound) :
    ∃ after, load partition geometry disk = .ok (stored geometry (disk.image partition)) after := by
  obtain ⟨_, after, loads, _, rfl, _⟩ :=
    (ends_load measured valid).exists_ok fun _ _ fails => fails ⟨reached, sound⟩
  exact ⟨after, loads⟩

variable {allocator : Allocator} {state between : Attached Allocator Store} {count index : Nat}

/-- Whether an allocator is one for its volume: it has a bit for each block, the right count of
them, and a checksum for each bitmap block. -/
structure WellFormed (allocator : Allocator) : Prop where
  /-- The block size is valid. -/
  valid : allocator.geometry.blockSize ∈ blockSizes
  /-- Memory has room for the bitmap. -/
  room : Bitmap.checkRoom allocator.geometry.blockCount = .ok ()
  /-- The bitmap has the blocks of the volume. -/
  total : allocator.bitmap.total = allocator.geometry.blockCount
  /-- It has a byte for every eight of them. -/
  size : allocator.bitmap.bits.bytes.size = Bitmap.byteCount allocator.geometry.blockCount
  /-- Its count is right. -/
  counted : allocator.bitmap.Counted
  /-- Every bitmap block has a checksum. -/
  sums : allocator.sums.size = allocator.geometry.bitmapBlocks

/-- A payload fills the room behind the checksum. -/
theorem length_payload (allocator : Allocator) (index : Nat) :
    (allocator.payload index).length = allocator.geometry.bytesPerBlock := by
  have fits : (allocator.geometry.segment allocator.bitmap.bits index).length ≤
      allocator.geometry.bytesPerBlock := by
    rw [Geometry.length_segment]
    exact Nat.min_le_left _ _
  rw [payload, List.length_append, List.length_replicate]
  omega

/-- A bitmap block as it is written has the size of a block. -/
theorem length_blockImage (valid : allocator.geometry.blockSize ∈ blockSizes) (index : Nat) :
    (allocator.blockImage index).length = allocator.geometry.blockSize := by
  rw [blockImage, List.length_append, LittleEndian.length_encode32, length_payload]
  exact Geometry.checksumSize_add_bytesPerBlock valid

/-- The segment is read back from its bitmap block, whatever the checksum in front of it. -/
theorem segmentOfBlock_append (allocator : Allocator) (sum : UInt32) (index : Nat) :
    allocator.geometry.segmentOfBlock allocator.bitmap.bits.bytes.size index
      (LittleEndian.encode32 sum ++ allocator.payload index) =
        allocator.geometry.segment allocator.bitmap.bits index := by
  have behind : (LittleEndian.encode32 sum ++ allocator.payload index).drop Geometry.checksumSize =
      allocator.payload index := LittleEndian.drop_encode32_append _ _
  rw [Geometry.segmentOfBlock, behind, payload, ← Geometry.length_segment, List.take_left']
  rfl

/-- Where every bitmap block holds its segment behind some checksum, the allocator is stored, with
these checksums. -/
theorem stored_of_sums (formed : allocator.WellFormed) {sum : Nat → UInt32}
    (written : ∀ index < allocator.geometry.bitmapBlocks,
      image (allocator.geometry.bitmapBlock index) =
        LittleEndian.encode32 (sum index) ++ allocator.payload index) :
    stored allocator.geometry image =
      { allocator with
        sums := ((List.range allocator.geometry.bitmapBlocks).map sum).toArray
        dirty := false } := by
  have segments : allocator.geometry.segmentsOn image allocator.geometry.bitmapBlocks =
      allocator.bitmap.bits.bytes.toList := by
    have each : allocator.geometry.segmentsOn image allocator.geometry.bitmapBlocks =
        (List.range allocator.geometry.bitmapBlocks).flatMap
          (allocator.geometry.segment allocator.bitmap.bits) := by
      apply List.flatMap_congr
      intro index within
      rw [written index (List.mem_range.1 within), ← formed.size, segmentOfBlock_append]
    rw [each, Geometry.flatMap_segment]
    apply List.take_of_length_le
    rw [Array.length_toList, formed.size]
    exact Geometry.byteCount_le formed.valid
  have sums : allocator.geometry.sumsOn image allocator.geometry.bitmapBlocks =
      (List.range allocator.geometry.bitmapBlocks).map sum := by
    apply List.map_congr_left
    intro index within
    rw [written index (List.mem_range.1 within)]
    exact LittleEndian.decode32_encode32_append _ _
  have bitmap : Bitmap.recount
      { total := allocator.geometry.blockCount
        marked := 0
        bits := ⟨allocator.bitmap.bits.bytes⟩ } = allocator.bitmap := by
    rw [Bitmap.recount, ← formed.total, ← formed.counted.marked]
  rw [stored, segments, sums, Array.toArray_toList, bitmap]

/-- Where every bitmap block is as it should be written, the allocator is stored, with the checksums
of its segments. -/
theorem stored_of_written (formed : allocator.WellFormed)
    (written : ∀ index < allocator.geometry.bitmapBlocks,
      image (allocator.geometry.bitmapBlock index) = allocator.blockImage index) :
    stored allocator.geometry image =
      { allocator with
        sums := ((List.range allocator.geometry.bitmapBlocks).map allocator.segmentSum).toArray
        dirty := false } :=
  stored_of_sums formed written

/-- Whether a state differs from an earlier one in checksums, and in what the device holds. -/
structure Resummed (before after : Attached Allocator Store) : Prop where
  /-- Only checksums differ in memory. -/
  memory : after.memory = { before.memory with sums := after.memory.sums }
  /-- There are as many checksums. -/
  size : after.memory.sums.size = before.memory.sums.size
  /-- The device has its units and its capacity. -/
  shape : after.disk.device.shape = before.disk.device.shape

/-- Whether the first bitmap blocks were written. -/
structure Writing (partition : Partition) (before : Attached Allocator Store) (count : Nat)
    (after : Attached Allocator Store) : Prop extends Resummed before after where
  /-- The partition reaches them. -/
  reaches : ∀ index < count, partition.Reaches before.disk.device.shape
    (before.memory.geometry.bitmapBlock index)
  /-- They are on the device. -/
  written : ∀ index < count, after.disk.image partition
    (before.memory.geometry.bitmapBlock index) = before.memory.blockImage index
  /-- Their checksums are recorded. -/
  sums : ∀ index < count, after.memory.sums[index]? = some (before.memory.segmentSum index)

/-- One more bitmap block on the device, with its checksum recorded. -/
theorem Writing.next {sums : Array UInt32} {disk after : Disk Store}
    (writing : Writing partition state count { memory := { state.memory with sums }, disk })
    (valid : state.memory.geometry.blockSize ∈ blockSizes)
    (within : count < state.memory.sums.size)
    (reached : partition.Reaches disk.device.shape (state.memory.geometry.bitmapBlock count))
    (shape : after.device.shape = disk.device.shape)
    (image : after.image partition = Function.update (disk.image partition)
      (state.memory.geometry.bitmapBlock count) (state.memory.blockImage count)) :
    Writing partition state (count + 1)
      { memory :=
          { state.memory with sums := sums.setIfInBounds count (state.memory.segmentSum count) }
        disk := after } := by
  -- The blocks that were written before keep their content, since no two segments share a block.
  obtain ⟨⟨_, size, same⟩, reaches, written, recorded⟩ := writing
  refine ⟨⟨rfl, Array.size_setIfInBounds.trans size, shape.trans same⟩, ?_, ?_, ?_⟩
  · rw [show disk.device.shape = _ from same] at reached
    exact Nat.forall_lt_succ_right.2 ⟨reaches, reached⟩
  · dsimp only
    rw [image]
    refine Nat.forall_lt_succ_right.2 ⟨fun index early => ?_, Function.update_self _ _ _⟩
    rw [Function.update_of_ne]
    · exact written index early
    · exact fun same => Nat.ne_of_lt early (Geometry.bitmapBlock_injective valid same)
  · refine Nat.forall_lt_succ_right.2 ⟨fun index early => ?_, ?_⟩
    · exact (Array.getElem?_setIfInBounds_ne (Nat.ne_of_gt early)).trans (recorded index early)
    · exact Array.getElem?_setIfInBounds_self_of_lt (Nat.lt_of_lt_of_eq within size.symm)

/-- One more bitmap block is written, or none. -/
theorem Writing.ends_step (writing : Writing partition state count between)
    (measured : partition.MeasuredBy state.disk.device.shape)
    (valid : state.memory.geometry.blockSize ∈ blockSizes)
    (same : partition.blockSize = state.memory.geometry.blockSize)
    (within : count < state.memory.sums.size) :
    Ends (writeSegment partition count) between
      (fun _ after => Writing partition state (count + 1) after)
      fun _ after => Resummed state after := by
  obtain ⟨memory, disk⟩ := between
  obtain ⟨sums, rfl⟩ : ∃ sums, memory = { state.memory with sums } := ⟨_, writing.memory⟩
  have shape : disk.device.shape = state.disk.device.shape := writing.shape
  have current : partition.MeasuredBy disk.device.shape := measured.of_shape shape
  have full : (state.memory.blockImage count).length = partition.blockSize :=
    (length_blockImage valid count).trans same.symm
  have writes := DiskM.ends_writeBlock_measured current
    (state.memory.geometry.bitmapBlock count) full
  refine ends_get (AttachedM.ends_onDisk_andThen (writes.mono ?_ ?_))
  · rintro _ after ⟨reached, ran⟩
    have image : after.image partition = Function.update (disk.image partition)
        (state.memory.geometry.bitmapBlock count) (state.memory.blockImage count) := by
      rw [Disk.image, ran.content]
      exact Partition.image_after_blockWrite measured.toSectored full
    exact writing.next valid within reached ran.shape image
  · exact fun _ after wrote => ⟨rfl, writing.size, wrote.shape.trans shape⟩

/-- Once all bitmap blocks were written, all checksums are those of the segments. -/
theorem Writing.sums_eq (writing : Writing partition state count between)
    (all : state.memory.sums.size = count) :
    between.memory.sums = ((List.range count).map state.memory.segmentSum).toArray := by
  have each (index : Nat) : between.memory.sums[index]? =
      ((List.range count).map state.memory.segmentSum).toArray[index]? := by
    rcases Nat.lt_or_ge index count with before | beyond
    · rw [writing.sums index before]
      simp [before]
    · have size : between.memory.sums.size ≤ index := by
        rw [writing.size, all]
        exact beyond
      rw [Array.getElem?_eq_none size]
      simp [beyond]
  exact Array.ext_getElem? each

/-- A sync of a changed allocator writes every bitmap block, or breaks off and may have changed
checksums. -/
theorem ends_sync_writing (formed : state.memory.WellFormed)
    (measured : partition.MeasuredBy state.disk.device.shape) (dirty : state.memory.dirty = true) :
    Ends (sync partition) state
      (fun _ after => partition.blockSize = state.memory.geometry.blockSize ∧
        ∃ wrote, Writing partition state state.memory.geometry.bitmapBlocks wrote ∧
          after.memory = { wrote.memory with dirty := false } ∧
          after.disk.device = wrote.disk.device)
      fun _ after => Resummed state after := by
  refine ends_get ?_
  show Ends (if state.memory.dirty then _ else _) _ _ _
  rw [if_pos dirty]
  refine ends_ofExcept (fun _ accepted => ?_) fun _ _ => ⟨rfl, rfl, rfl⟩
  have same := same_of_checkPartition accepted
  have begins : Writing partition state 0 state :=
    ⟨⟨rfl, rfl, rfl⟩, fun _ none => absurd none (Nat.not_lt_zero _),
      fun _ none => absurd none (Nat.not_lt_zero _), fun _ none => absurd none (Nat.not_lt_zero _)⟩
  refine Ends.andThen (ends_forM_range begins fun index within _ writing => ?_) ?_
  · exact writing.ends_step measured formed.valid same (formed.sums ▸ within)
  · intro _ wrote writing
    exact ⟨same, wrote, writing, rfl, rfl⟩

/-- A sync of a changed allocator stores it and leaves it unchanged but for its checksums, or
breaks off and may have changed checksums. -/
theorem ends_sync (formed : state.memory.WellFormed)
    (measured : partition.MeasuredBy state.disk.device.shape) (dirty : state.memory.dirty = true) :
    Ends (sync partition) state
      (fun _ after => Reached partition state.memory.geometry after.disk.device.shape ∧
        Resummed { state with memory.dirty := false } after ∧
        stored state.memory.geometry (after.disk.image partition) = after.memory)
      fun _ after => Resummed state after := by
  refine (ends_sync_writing formed measured dirty).mono ?_ fun _ _ only => only
  rintro _ ⟨_, disk⟩ ⟨same, ⟨memory, wrote⟩, writing, rfl, device⟩
  have sums := writing.sums_eq formed.sums
  obtain ⟨recorded, rfl⟩ : ∃ sums, memory = { state.memory with sums } := ⟨_, writing.memory⟩
  have shape : disk.device.shape = state.disk.device.shape :=
    (congrArg Store.shape device).trans writing.shape
  have image : disk.image partition = wrote.image partition :=
    congrArg (fun device : Store => partition.image device.content) device
  have reached : Reached partition state.memory.geometry disk.device.shape := by
    rw [shape]
    exact ⟨same, formed.room, writing.reaches⟩
  have left : stored state.memory.geometry (disk.image partition) =
      { state.memory with sums := recorded, dirty := false } := by
    rw [image, stored_of_written formed writing.written, ← sums]
  exact ⟨reached, ⟨rfl, writing.size, shape⟩, left⟩

end Allocator

end JournaledVolume
