import JournaledVolume.Proofs.PackedAllocator
import Mathlib.Order.Interval.Finset.SuccPred

/-!
# Where the bit of a block lies

A block is found three times: by its segment of the bytes, by its place among the bits of the
segment, and by the bitmap block, which for the first segment lies elsewhere than the others. The
three agree. An allocator that was loaded says of each block what its bit on disk says, whatever
else the bitmap blocks hold.
-/

namespace JournaledVolume

namespace Geometry

variable {geometry : Geometry} {image : Image} {bits : Bits} {block : Nat}

/-- The byte of its bitmap block that holds the bit of a block, behind the checksum. -/
def bitByte (geometry : Geometry) (block : Nat) : Nat :=
  checksumSize + block % geometry.bitsPerBlock / 8

/-- Whether the bit of a block is set in the bitmap block that describes it. -/
def bitOnDisk (geometry : Geometry) (image : Image) (block : Nat) : Bool :=
  let content := image (geometry.bitmapBlock (block / geometry.bitsPerBlock))
  (content.getD (geometry.bitByte block) 0).toNat.testBit (block % 8)

/-- Whether the segments divide the bytes of a bitmap among the bitmap blocks. -/
structure Divides (geometry : Geometry) (bits : Bits) : Prop where
  /-- The first segment starts with the first byte. -/
  first : geometry.segmentStart 0 = 0
  /-- Each of the others starts where the one before ends. -/
  next : ∀ index, index + 1 < geometry.bitmapBlocks → geometry.segmentStart (index + 1) =
    geometry.segmentStart index + geometry.segmentSize bits.bytes.size index
  /-- No segment is empty. -/
  positive : ∀ index < geometry.bitmapBlocks, 0 < geometry.segmentSize bits.bytes.size index
  /-- All but the last fill their bitmap block, which has four bytes for the checksum. -/
  full : ∀ index, index + 1 < geometry.bitmapBlocks →
    geometry.segmentSize bits.bytes.size index = geometry.blockSize - 4
  /-- The last segment ends with the last byte. -/
  last : ∀ index, index + 1 = geometry.bitmapBlocks →
    geometry.segmentStart index + geometry.segmentSize bits.bytes.size index = bits.bytes.size
  /-- One behind the other they are the bytes. -/
  covers : (List.range geometry.bitmapBlocks).flatMap (geometry.segment bits) = bits.bytes.toList

/-- The segments divide the bytes of a bitmap that has a bit for each block. -/
theorem divides (valid : geometry.blockSize ∈ blockSizes)
    (sized : bits.bytes.size = Bitmap.byteCount geometry.blockCount) : geometry.Divides bits := by
  have fits := byteCount_le valid
  have fills (index : Nat) (before : index + 1 < geometry.bitmapBlocks) :
      geometry.segmentSize bits.bytes.size index = geometry.bytesPerBlock := by
    rw [sized]
    exact segmentSize_of_not_last valid before
  refine ⟨Nat.zero_mul _, ?_, ?_, fills, ?_, ?_⟩
  · intro index before
    rw [fills index before, segmentStart, segmentStart, Nat.succ_mul]
  · intro index within
    have start := segmentStart_lt valid within
    have whole := bitmapStart_lt valid
    rw [bitsPerBlock] at whole
    rw [segmentSize, segmentStart, sized]
    omega
  · intro index last
    have start := segmentStart_lt valid (Nat.lt_of_lt_of_eq (Nat.lt_succ_self index) last)
    rw [← last, Nat.succ_mul] at fits
    rw [segmentSize, segmentStart, sized]
    omega
  · rw [flatMap_segment]
    apply List.take_of_length_le
    rw [Array.length_toList, sized]
    exact fits

/-- A block is in the segment that its number gives. -/
theorem segmentOf_lt (valid : geometry.blockSize ∈ blockSizes)
    (inside : block < geometry.blockCount) : geometry.segmentOf block < geometry.bitmapBlocks := by
  have positive : 0 < geometry.bitsPerBlock := Nat.zero_lt_of_lt (bitmapStart_lt valid)
  have start : geometry.segmentOf block * geometry.bitsPerBlock ≤ block := Nat.div_mul_le_self _ _
  rw [bitmapBlocks, Nat.lt_iff_add_one_le, Nat.le_div_iff_mul_le positive, Nat.succ_mul]
  omega

/-- The byte of the bitmap that holds the bit of a block, found by its segment. -/
theorem div_eq_segmentOf (geometry : Geometry) (block : Nat) :
    block / 8 = geometry.segmentOf block * geometry.bytesPerBlock +
      block % geometry.bitsPerBlock / 8 := by
  have split : geometry.bitsPerBlock * (block / geometry.bitsPerBlock) +
      block % geometry.bitsPerBlock = block := Nat.div_add_mod block geometry.bitsPerBlock
  have scaled : geometry.bitsPerBlock * (block / geometry.bitsPerBlock) =
      8 * (geometry.segmentOf block * geometry.bytesPerBlock) := by
    rw [bitsPerBlock, segmentOf, bitsPerBlock]
    ac_rfl
  omega

/-- The byte of a block's bit is not behind the end of the bitmap block. -/
theorem mod_div_lt (valid : geometry.blockSize ∈ blockSizes) (block : Nat) :
    block % geometry.bitsPerBlock / 8 < geometry.bytesPerBlock := by
  have positive : 0 < geometry.bitsPerBlock := Nat.zero_lt_of_lt (bitmapStart_lt valid)
  have small := Nat.mod_lt block positive
  rw [bitsPerBlock] at small ⊢
  omega

/-- Among the bytes that the bitmap blocks hold, the bit of a block is the one on disk. -/
theorem test_segmentsOn (valid : geometry.blockSize ∈ blockSizes)
    (full : ∀ block, (image block).length = geometry.blockSize)
    (inside : block < geometry.blockCount) :
    (Bits.mk (geometry.segmentsOn image geometry.bitmapBlocks).toArray).test block =
      geometry.bitOnDisk image block := by
  let size := Bitmap.byteCount geometry.blockCount
  let number := geometry.segmentOf block
  let offset := block % geometry.bitsPerBlock / 8
  let content := image (geometry.bitmapBlock number)
  let bytes := geometry.segmentsOn image geometry.bitmapBlocks
  have within := segmentOf_lt valid inside
  have place : block / 8 = number * geometry.bytesPerBlock + offset :=
    geometry.div_eq_segmentOf block
  have room : offset < geometry.bytesPerBlock := mod_div_lt valid block
  have held : block / 8 < size := by
    show block / 8 < Bitmap.byteCount geometry.blockCount
    rw [Bitmap.byteCount]
    omega
  have part : offset < geometry.segmentSize size number := by
    rw [segmentSize, segmentStart]
    omega
  have known : (geometry.bitByte block) < content.length := by
    have whole := checksumSize_add_bytesPerBlock valid
    rw [full, bitByte]
    omega
  -- The byte of the bitmap is one of its segment, and this is the byte of the bitmap block.
  have found : bytes[block / 8]? = some (content.getD (geometry.bitByte block) 0) := by
    calc bytes[block / 8]?
      _ = (geometry.segment ⟨bytes.toArray⟩ number)[offset]? := by
        rw [segment_eq, List.getElem?_take_of_lt room, List.getElem?_drop, place]
      _ = ((content.drop checksumSize).take (geometry.segmentSize size number))[offset]? := by
        rw [segment_segmentsOn valid full within]
        rfl
      _ = content[geometry.bitByte block]? := by
        rw [List.getElem?_take_of_lt part, List.getElem?_drop]
        rfl
      _ = some (content.getD (geometry.bitByte block) 0) := by
        rw [List.getD_eq_getElem?_getD, List.getElem?_eq_getElem known, Option.getD_some]
  rw [← List.getElem?_toArray] at found
  exact Bits.test_of_getElem? found

/-- The region of a block is the set of blocks whose bits lie in the same bitmap block. -/
theorem regionOf_eq (valid : geometry.blockSize ∈ blockSizes)
    (inside : block < geometry.blockCount) : ∃ run, geometry.regionOf block = .ok run ∧
      ∀ other, (other < geometry.blockCount ∧
        geometry.bitmapBlock (other / geometry.bitsPerBlock) =
          geometry.bitmapBlock (block / geometry.bitsPerBlock)) ↔
        run.start ≤ other ∧ other < run.start + run.length := by
  have positive : 0 < geometry.bitsPerBlock := Nat.zero_lt_of_lt (bitmapStart_lt valid)
  let start := geometry.segmentOf block * geometry.bitsPerBlock
  have before : start ≤ block := Nat.div_mul_le_self _ _
  refine ⟨⟨start, min geometry.bitsPerBlock (geometry.blockCount - start)⟩, ?_, fun other => ?_⟩
  · rw [regionOf, if_neg (Nat.not_le_of_lt inside)]
  · have same : geometry.bitmapBlock (other / geometry.bitsPerBlock) =
        geometry.bitmapBlock (block / geometry.bitsPerBlock) ↔
          start ≤ other ∧ other < start + geometry.bitsPerBlock := by
      have shared : geometry.bitmapBlock (other / geometry.bitsPerBlock) =
          geometry.bitmapBlock (block / geometry.bitsPerBlock) ↔
            other / geometry.bitsPerBlock = geometry.segmentOf block :=
        ⟨bitmapBlock_injective valid, congrArg geometry.bitmapBlock⟩
      rw [shared, Nat.div_eq_iff positive]
      show start ≤ other ∧ _ ↔ _
      omega
    rw [same]
    show _ ↔ start ≤ other ∧
      other < start + min geometry.bitsPerBlock (geometry.blockCount - start)
    omega

end Geometry

namespace Allocator

variable {geometry : Geometry} {image : Image} {partition : Partition} {loaded : Allocator}
  {disk after : Disk Store}

/-- Whether an allocator is what the bitmap blocks of a volume say. -/
structure Mirrors (geometry : Geometry) (image : Image) (allocator : Allocator) : Prop where
  /-- The segments divide the bytes of the bitmap. -/
  divides : geometry.Divides allocator.bitmap.bits
  /-- A block is in use if its bit on disk is set. -/
  occupied : ∀ block < geometry.blockCount,
    allocator.occupied block 1 = geometry.bitOnDisk image block
  /-- The blocks in use are those whose bit on disk is set. -/
  used : allocator.used =
    ((Finset.range geometry.blockCount).filter (geometry.bitOnDisk image · = true)).card
  /-- The checksum of a segment is the one in front of its bitmap block. -/
  recorded : ∀ index < geometry.bitmapBlocks, allocator.sums[index]? =
    some (LittleEndian.decode32 (image (geometry.bitmapBlock index)))
  /-- There are no other checksums. -/
  sums : allocator.sums.size = geometry.bitmapBlocks
  /-- The region of a block is the set of blocks whose bits lie in the same bitmap block. -/
  region : ∀ block < geometry.blockCount, ∃ run, allocator.geometry.regionOf block = .ok run ∧
    ∀ other, (other < geometry.blockCount ∧
      geometry.bitmapBlock (other / geometry.bitsPerBlock) =
        geometry.bitmapBlock (block / geometry.bitsPerBlock)) ↔
      run.start ≤ other ∧ other < run.start + run.length

/-- A stored allocator mirrors the bitmap blocks. -/
theorem mirrors_stored (valid : geometry.blockSize ∈ blockSizes)
    (room : Bitmap.checkRoom geometry.blockCount = .ok ())
    (full : ∀ block, (image block).length = geometry.blockSize) :
    (stored geometry image).Mirrors geometry image := by
  have formed := wellFormed_stored valid room full
  have bit (block : Nat) (inside : block < geometry.blockCount) :
      (stored geometry image).bitmap.bits.test block = geometry.bitOnDisk image block :=
    Geometry.test_segmentsOn valid full inside
  refine ⟨Geometry.divides valid formed.size, ?_, ?_, ?_, formed.sums, ?_⟩
  · intro block inside
    have whole : block + 1 ≤ (stored geometry image).bitmap.total := inside
    rw [Bool.eq_iff_iff, occupied, formed.counted.allMarked_iff, ← bit block inside,
      Nat.Ico_succ_singleton, Finset.singleton_subset_iff, Bitmap.mem_markedBlocks]
    exact ⟨fun known => known.2.2, fun marked => ⟨whole, inside, marked⟩⟩
  · rw [used, ← formed.counted.card_markedBlocks, Bitmap.markedBlocks]
    apply congrArg Finset.card
    apply Finset.filter_congr
    intro block inside
    rw [bit block (Finset.mem_range.1 inside)]
  · intro index within
    simp [stored, Geometry.sumsOn, within]
  · exact fun block inside => Geometry.regionOf_eq valid inside

/-- An allocator that was loaded says of each block what its bit on disk says, whatever else the
bitmap blocks hold. -/
theorem load_mirrors_disk (accepted : geometry.check = .ok ())
    (measured : partition.MeasuredBy disk.device.shape)
    (loads : load partition geometry disk = .ok loaded after) :
    loaded.Mirrors geometry (disk.image partition) := by
  have valid := Geometry.blockSize_of_check accepted
  obtain ⟨reached, rfl, _⟩ := (ends_load measured valid).of_ok loads
  have full (block : Nat) : (disk.image partition block).length = geometry.blockSize :=
    (Partition.length_image _ _).trans reached.same
  exact mirrors_stored valid reached.room full

/-- A volume of which the second bitmap block has bits of six blocks only. -/
def Sample.uneven : Geometry := { blockSize := 512, blockCount := 4070 }

/-- The uneven volume is a whole device. -/
def Sample.unevenPartition : Partition :=
  { blockSize := 512, sectorSize := 512, offset := 0, size := 2083840 }

/-- The content of the second bitmap block: the last of the six bits is set, and so are the two
behind it and all bits of the next byte. -/
def Sample.lastBits : Bytes := Bytes.padTo [0x01, 0x02, 0x03, 0x04, 0xE0, 0xFF] 512

/-- The disk of the uneven volume. -/
def Sample.unevenDisk : Disk Store where
  device :=
    { shape := { blockSize := 512, sectorSize := 512, totalBlocks := 4070 }
      start := fun _ => 0
      effects := [Sample.unevenPartition.blockWrite 4064 Sample.lastBits] }

/-- On the uneven volume the last block is in use and the one before it is free. Their bits lie in
the second bitmap block, whose other bits and checksum are those of no volume. -/
theorem load_mirrors_disk_sample : ∃ loaded after,
    load Sample.unevenPartition Sample.uneven Sample.unevenDisk = .ok loaded after ∧
    loaded.occupied 4069 1 = true ∧ loaded.occupied 4068 1 = false ∧
    loaded.sums[1]? = some 0x04030201 ∧
    ∃ run, loaded.geometry.regionOf 4069 = .ok run ∧ ∀ other,
      (other < 4070 ∧ Sample.uneven.bitmapBlock (other / Sample.uneven.bitsPerBlock) = 4064) ↔
        run.start ≤ other ∧ other < run.start + run.length := by
  have accepted : Sample.uneven.check = .ok () := rfl
  have sectored : Sample.unevenPartition.Sectored := ⟨by decide, by decide⟩
  have measured : Sample.unevenPartition.MeasuredBy Sample.unevenDisk.device.shape :=
    ⟨sectored, rfl, rfl⟩
  have room : Bitmap.checkRoom Sample.uneven.blockCount = .ok () := rfl
  have reaches : ∀ index < Sample.uneven.bitmapBlocks, Sample.unevenPartition.Reaches
      Sample.unevenDisk.device.shape (Sample.uneven.bitmapBlock index) := by
    intro index within
    have two : Sample.uneven.bitmapBlocks = 2 := by decide
    have known : index = 0 ∨ index = 1 := by omega
    cases known with
    | inl first => exact first ▸ ⟨by decide, by decide⟩
    | inr second => exact second ▸ ⟨by decide, by decide⟩
  have sound : Sample.unevenDisk.device.Sound := ⟨fun _ _ => rfl⟩
  obtain ⟨after, loads⟩ := exists_load measured (Geometry.blockSize_of_check accepted)
    ⟨rfl, room, reaches⟩ sound
  refine ⟨_, after, loads, ?_⟩
  have mirrors := load_mirrors_disk accepted measured loads
  have image : Sample.unevenDisk.image Sample.unevenPartition = Function.update
      (fun _ => List.replicate 512 0) 4064 Sample.lastBits := by
    refine (Partition.image_after_blockWrite sectored (by decide +kernel)).trans ?_
    rw [show Sample.unevenDisk.device.start = fun _ => 0 from rfl, Partition.image_zeros]
    rfl
  rw [image] at mirrors ⊢
  refine ⟨?_, ?_, ?_, ?_⟩
  · rw [mirrors.occupied 4069 (by decide)]
    decide +kernel
  · rw [mirrors.occupied 4068 (by decide)]
    decide +kernel
  · rw [mirrors.recorded 1 (by decide)]
    decide +kernel
  · exact mirrors.region 4069 (by decide)

end Allocator

end JournaledVolume
