import JournaledVolume.Proofs.Occupancy

/-!
# Export and import of allocators

Importing what was exported gives back the allocator, and leaves what follows it in the stream. An
export that is cut short is refused. Exporting what was imported gives back the bytes that were
read, but for the bytes of the last record that lie behind the end of the bitmap: these are ones in
every export.
-/

namespace JournaledVolume

open JournaledVolume.Action

/-- Where memory has room for a bitmap, a word holds its number of blocks. -/
theorem Bitmap.lt_of_room {total : Nat} (room : checkRoom total = .ok ()) : total < 2 ^ 64 := by
  by_contra huge
  have full : memoryLimit ≤ byteCount total := by
    rw [memoryLimit, byteCount]
    omega
  rw [checkRoom, if_pos full] at room
  cases room

namespace Geometry

variable {geometry : Geometry} {image : Image} {count total index : Nat}

/-- Every bitmap block holds bytes of the bitmap. -/
theorem segmentStart_lt (valid : geometry.blockSize ∈ blockSizes)
    (within : index < geometry.bitmapBlocks) :
    index * geometry.bytesPerBlock < Bitmap.byteCount geometry.blockCount := by
  have positive : 0 < geometry.bitsPerBlock := Nat.zero_lt_of_lt (bitmapStart_lt valid)
  have before : index * geometry.bitsPerBlock < geometry.blockCount := by
    have room := (Nat.le_div_iff_mul_le positive).1 (Nat.succ_le_of_lt within)
    rw [Nat.succ_mul] at room
    omega
  rw [bitsPerBlock, ← Nat.mul_assoc] at before
  rw [Bitmap.byteCount]
  omega

/-- All bitmap blocks but the last are full. -/
theorem segmentSize_of_not_last (valid : geometry.blockSize ∈ blockSizes)
    (before : index + 1 < geometry.bitmapBlocks) :
    geometry.segmentSize (Bitmap.byteCount geometry.blockCount) index = geometry.bytesPerBlock := by
  have more := segmentStart_lt valid before
  rw [Nat.succ_mul] at more
  rw [segmentSize, segmentStart]
  omega

/-- The first bitmap blocks hold the first bytes of the bitmap. -/
theorem segmentsOn_prefix (geometry : Geometry) (image : Image) (within : count ≤ total) :
    geometry.segmentsOn image count <+: geometry.segmentsOn image total := by
  induction within with
  | refl => exact List.prefix_rfl
  | step _ ih =>
    refine ih.trans ?_
    rw [segmentsOn, segmentsOn, List.range_succ, List.flatMap_append]
    exact List.prefix_append _ _

/-- A segment of the bytes that the bitmap blocks hold is what its bitmap block holds. -/
theorem segment_segmentsOn (valid : geometry.blockSize ∈ blockSizes)
    (full : ∀ block, (image block).length = geometry.blockSize)
    (within : index < geometry.bitmapBlocks) :
    geometry.segment ⟨(geometry.segmentsOn image geometry.bitmapBlocks).toArray⟩ index =
      geometry.segmentOfBlock (Bitmap.byteCount geometry.blockCount) index
        (image (geometry.bitmapBlock index)) := by
  let bytes := geometry.segmentsOn image geometry.bitmapBlocks
  have start := segmentStart_lt valid within
  have before : (geometry.segmentsOn image index).length = index * geometry.bytesPerBlock := by
    rw [length_segmentsOn full, Nat.min_eq_left (Nat.le_of_lt start)]
  have front : bytes.take (index * geometry.bytesPerBlock + geometry.bytesPerBlock) =
      geometry.segmentsOn image (index + 1) := by
    have first := List.prefix_iff_eq_take.1 (geometry.segmentsOn_prefix image within)
    rw [length_segmentsOn full, ← length_segmentsOn_all valid full, ← List.take_eq_take_min,
      Nat.succ_mul] at first
    exact first.symm
  have next : geometry.segmentsOn image (index + 1) = geometry.segmentsOn image index ++
      geometry.segmentOfBlock (Bitmap.byteCount geometry.blockCount) index
        (image (geometry.bitmapBlock index)) := by
    rw [segmentsOn, List.range_succ, List.flatMap_append, List.flatMap_singleton]
    rfl
  rw [segment_eq, List.take_drop, front, next, List.drop_left' before]

/-- The room that the bitmap leaves in its blocks. -/
def padding (geometry : Geometry) : Nat :=
  geometry.bitmapBlocks * geometry.bytesPerBlock - Bitmap.byteCount geometry.blockCount

/-- A volume that is not refused has a bitmap block. -/
theorem exists_last (accepted : geometry.check = .ok ()) :
    ∃ last, geometry.bitmapBlocks = last + 1 := by
  have valid := blockSize_of_check accepted
  have positive : 0 < geometry.bitsPerBlock := Nat.zero_lt_of_lt (bitmapStart_lt valid)
  have blocks : geometry.blockCount ≠ 0 := by
    intro none
    rw [check, checkBlockSize, if_pos valid, if_pos none] at accepted
    cases accepted
  have one : 0 < geometry.bitmapBlocks := Nat.div_pos (by omega) positive
  exact ⟨geometry.bitmapBlocks - 1, by omega⟩

/-- The room is in the last bitmap block. -/
theorem segmentSize_add_padding (valid : geometry.blockSize ∈ blockSizes)
    (count : geometry.bitmapBlocks = index + 1) :
    geometry.segmentSize (Bitmap.byteCount geometry.blockCount) index + geometry.padding =
      geometry.bytesPerBlock := by
  have start := segmentStart_lt valid (by omega : index < geometry.bitmapBlocks)
  have fits := byteCount_le valid
  rw [count, Nat.succ_mul] at fits
  rw [segmentSize, segmentStart, padding, count, Nat.succ_mul]
  omega

/-- The last bitmap block is not empty. -/
theorem padding_lt (accepted : geometry.check = .ok ()) :
    geometry.padding < geometry.bytesPerBlock := by
  have valid := blockSize_of_check accepted
  obtain ⟨last, count⟩ := exists_last accepted
  have start := segmentStart_lt valid (by omega : last < geometry.bitmapBlocks)
  have whole := segmentSize_add_padding valid count
  have positive := bitmapStart_lt valid
  rw [bitsPerBlock] at positive
  rw [segmentSize, segmentStart] at whole
  omega

end Geometry

namespace Allocator

variable {allocator imported : Allocator} {geometry : Geometry}
  {records stream suffix rest : Bytes} {blockSize count index : Nat}

/-- The record of a segment in a packed allocator. -/
def record (allocator : Allocator) (index : Nat) : Bytes :=
  LittleEndian.encode32 (allocator.recordedSum index) ++ allocator.payload index

/-- A record has the size of a block. -/
theorem length_record (valid : allocator.geometry.blockSize ∈ blockSizes) (index : Nat) :
    (allocator.record index).length = allocator.geometry.blockSize := by
  rw [record, List.length_append, LittleEndian.length_encode32, length_payload]
  exact Geometry.checksumSize_add_bytesPerBlock valid

/-- A packed allocator is the number of blocks and the records. -/
theorem pack_eq (allocator : Allocator) :
    allocator.pack = LittleEndian.encode64 (UInt64.ofNat allocator.geometry.blockCount) ++
      allocator.segments.flatMap allocator.record := by
  rw [pack, Item.encodeAll, packedItems, List.flatMap_cons, List.flatMap_assoc]
  simp only [List.flatMap_cons, List.flatMap_nil, List.append_nil, Item.encode]
  rfl

/-- The size of a packed allocator. -/
theorem length_pack (valid : allocator.geometry.blockSize ∈ blockSizes) :
    allocator.pack.length = packedSize allocator.geometry := by
  rw [pack_eq, List.length_append, LittleEndian.length_encode64, segments,
    length_flatMap_range (length_record valid), packedSize]

/-- A stream that starts like a packed allocator is for the same volume. -/
theorem packedVolume_of_take (room : Bitmap.checkRoom geometry.blockCount = .ok ())
    (starts : stream.take 8 = LittleEndian.encode64 (UInt64.ofNat geometry.blockCount)) :
    packedVolume geometry.blockSize stream = geometry := by
  have read : LittleEndian.decode64 stream = UInt64.ofNat geometry.blockCount := by
    rw [← List.take_append_drop 8 stream, starts, LittleEndian.decode64_encode64_append]
  rw [packedVolume, read, UInt64.toNat_ofNat_of_lt' (Bitmap.lt_of_room room)]

/-- The recorded checksums, in order. -/
theorem map_recordedSum (sized : allocator.sums.size = count) :
    ((List.range count).map allocator.recordedSum).toArray = allocator.sums := by
  subst sized
  refine Array.ext (by simp) fun index _ within => ?_
  simp [recordedSum, within]

/-- The records of a well formed allocator hold it. -/
theorem WellFormed.unpacked_records (formed : allocator.WellFormed) (suffix : Bytes) :
    unpacked allocator.geometry (allocator.segments.flatMap allocator.record ++ suffix) =
      { allocator with dirty := true } := by
  have uniform := length_record formed.valid
  have written (index : Nat) (within : index < allocator.geometry.bitmapBlocks) :
      allocator.geometry.recordImage (allocator.segments.flatMap allocator.record ++ suffix)
        (allocator.geometry.bitmapBlock index) = allocator.record index := by
    rw [Geometry.recordImage_bitmapBlock formed.valid, segments,
      take_drop_flatMap_range uniform within]
    rw [List.length_append, segments, length_flatMap_range uniform]
    have fits := Nat.mul_le_mul_right allocator.geometry.blockSize (Nat.succ_le_of_lt within)
    exact Nat.le_add_right_of_le fits
  rw [unpacked, stored_of_sums formed written, map_recordedSum formed.sums]

/-- A well formed allocator is unpacked as it was packed. -/
theorem WellFormed.unpack_pack (formed : allocator.WellFormed)
    (accepted : allocator.geometry.check = .ok ()) (suffix : Bytes) :
    unpack allocator.geometry.blockSize (allocator.pack ++ suffix) =
      .ok { allocator with dirty := true } suffix := by
  have size := length_pack formed.valid
  have starts : (allocator.pack ++ suffix).take 8 =
      LittleEndian.encode64 (UInt64.ofNat allocator.geometry.blockCount) := by
    rw [pack_eq, List.append_assoc, List.take_left' (LittleEndian.length_encode64 _)]
  have volume := packedVolume_of_take formed.room starts
  have opens : Opens allocator.geometry.blockSize (allocator.pack ++ suffix) := by
    have enough : packedSize allocator.geometry ≤ (allocator.pack ++ suffix).length := by
      rw [List.length_append, size]
      omega
    have counted : 8 ≤ packedSize allocator.geometry := Nat.le_add_right _ _
    refine ⟨counted.trans enough, ?_, ?_, ?_⟩
    · rw [volume]
      exact accepted
    · rw [volume]
      exact formed.room
    · rw [volume]
      exact enough
  obtain ⟨_, _, unpacks, _, rfl, rfl⟩ :=
    (ends_unpack_records _ _).exists_ok fun _ _ fails => fails.1 opens
  rw [unpacks, volume, List.drop_left' size, pack_eq, List.append_assoc,
    LittleEndian.drop_encode64_append, formed.unpacked_records]

/-- A packed allocator that is cut short is refused as corrupted. -/
theorem WellFormed.unpack_take (formed : allocator.WellFormed)
    (accepted : allocator.geometry.check = .ok ()) (short : count < allocator.pack.length) :
    ∃ error rest, unpack allocator.geometry.blockSize (allocator.pack.take count) =
      .error error rest ∧ error.kind = .corrupted := by
  let stream := allocator.pack.take count
  have size : stream.length < packedSize allocator.geometry := by
    rw [← length_pack formed.valid]
    exact (List.length_take_le _ _).trans_lt short
  have volume (counted : 8 ≤ stream.length) :
      packedVolume allocator.geometry.blockSize stream = allocator.geometry := by
    refine packedVolume_of_take formed.room ?_
    have enough : 8 ≤ count := counted.trans (List.length_take_le _ _)
    rw [List.take_take, Nat.min_eq_left enough, pack_eq,
      List.take_left' (LittleEndian.length_encode64 _)]
  have never : ¬ Opens allocator.geometry.blockSize stream := by
    intro opens
    have enough := opens.enough
    rw [volume opens.counted] at enough
    omega
  obtain ⟨error, rest, fails, _, reason⟩ :=
    (ends_unpack_records _ stream).exists_error fun _ _ returns => never returns.1
  refine ⟨error, rest, fails, ?_⟩
  rcases reason with rfl | ⟨counted, refused⟩
  · rfl
  · rw [volume counted, accepted, formed.room] at refused
    rcases refused with refused | refused
    · exact nomatch refused
    · exact nomatch refused

/-- The checksum of a record is recorded. -/
theorem recordedSum_unpacked (records : Bytes) (within : index < geometry.bitmapBlocks) :
    (unpacked geometry records).recordedSum index =
      LittleEndian.decode32 (geometry.recordImage records (geometry.bitmapBlock index)) := by
  simp [recordedSum, unpacked, stored, Geometry.sumsOn, within]

/-- The payload of a record is kept as far as it belongs to the bitmap. -/
theorem payload_unpacked (records : Bytes) (valid : geometry.blockSize ∈ blockSizes)
    (within : index < geometry.bitmapBlocks) :
    (unpacked geometry records).payload index =
      geometry.segmentOfBlock (Bitmap.byteCount geometry.blockCount) index
        (geometry.recordImage records (geometry.bitmapBlock index)) ++
      List.replicate (geometry.bytesPerBlock -
        geometry.segmentSize (Bitmap.byteCount geometry.blockCount) index) 0xFF := by
  have full := Geometry.length_recordImage geometry records
  have segment : (unpacked geometry records).geometry.segment
      (unpacked geometry records).bitmap.bits index =
        geometry.segmentOfBlock (Bitmap.byteCount geometry.blockCount) index
          (geometry.recordImage records (geometry.bitmapBlock index)) :=
    Geometry.segment_segmentsOn valid full within
  simp only [payload, segment, Geometry.length_segmentOfBlock (full _)]
  rfl

/-- A record is packed again as it was read, but for what lies behind the end of the bitmap. -/
theorem record_unpacked (valid : geometry.blockSize ∈ blockSizes)
    (within : index < geometry.bitmapBlocks)
    (enough : (index + 1) * geometry.blockSize ≤ records.length) :
    (unpacked geometry records).record index =
      (records.drop (index * geometry.blockSize)).take (Geometry.checksumSize +
        geometry.segmentSize (Bitmap.byteCount geometry.blockCount) index) ++
      List.replicate (geometry.bytesPerBlock -
        geometry.segmentSize (Bitmap.byteCount geometry.blockCount) index) 0xFF := by
  let size := geometry.segmentSize (Bitmap.byteCount geometry.blockCount) index
  let found := geometry.recordImage records (geometry.bitmapBlock index)
  have held : found = (records.drop (index * geometry.blockSize)).take geometry.blockSize :=
    Geometry.recordImage_bitmapBlock valid enough
  have whole := Geometry.checksumSize_add_bytesPerBlock valid
  have four : 4 ≤ found.length := by
    rw [Geometry.length_recordImage, ← whole]
    exact Nat.le_add_right _ _
  have fits : size ≤ geometry.bytesPerBlock := Nat.min_le_left _ _
  have front : found.take (Geometry.checksumSize + size) =
      (records.drop (index * geometry.blockSize)).take (Geometry.checksumSize + size) := by
    rw [held, List.take_take, Nat.min_eq_left]
    omega
  rw [record, recordedSum_unpacked records within, payload_unpacked records valid within,
    LittleEndian.encode32_decode32 four, ← List.append_assoc, ← front, List.take_add]
  rfl

/-- Only the last bitmap block has room left, so the records in front of it are packed as they
were. -/
theorem flatMap_record_unpacked (valid : geometry.blockSize ∈ blockSizes)
    (within : count < geometry.bitmapBlocks) (enough : count * geometry.blockSize ≤ records.length) :
    (List.range count).flatMap (unpacked geometry records).record =
      records.take (count * geometry.blockSize) := by
  have whole := Geometry.checksumSize_add_bytesPerBlock valid
  rw [← flatMap_take_drop]
  refine List.flatMap_congr fun index listed => ?_
  have before : index + 1 ≤ count := List.mem_range.1 listed
  have inside := Nat.mul_le_mul_right geometry.blockSize before
  rw [record_unpacked valid (by omega) (by omega),
    Geometry.segmentSize_of_not_last valid (by omega), whole, Nat.sub_self, List.replicate_zero,
    List.append_nil]

/-- The last record is packed with ones in the room that is left. -/
theorem record_last_unpacked (valid : geometry.blockSize ∈ blockSizes)
    (last : geometry.bitmapBlocks = index + 1)
    (enough : (index + 1) * geometry.blockSize ≤ records.length) :
    (unpacked geometry records).record index =
      (records.drop (index * geometry.blockSize)).take (geometry.blockSize - geometry.padding) ++
        List.replicate geometry.padding 0xFF := by
  have whole := Geometry.checksumSize_add_bytesPerBlock valid
  have filled := Geometry.segmentSize_add_padding valid last
  have kept : Geometry.checksumSize +
      geometry.segmentSize (Bitmap.byteCount geometry.blockCount) index =
        geometry.blockSize - geometry.padding := by omega
  have room : geometry.bytesPerBlock -
      geometry.segmentSize (Bitmap.byteCount geometry.blockCount) index = geometry.padding := by
    omega
  rw [record_unpacked valid (by omega) enough, kept, room]

/-- The exported allocator is the stream that was imported, with ones behind the end of the
bitmap. -/
theorem pack_unpacked (opens : Opens blockSize stream) :
    (unpacked (packedVolume blockSize stream) (stream.drop 8)).pack =
      stream.take (packedSize (packedVolume blockSize stream) -
        (packedVolume blockSize stream).padding) ++
      List.replicate (packedVolume blockSize stream).padding 0xFF := by
  let volume := packedVolume blockSize stream
  let records := stream.drop 8
  have valid : volume.blockSize ∈ blockSizes := Geometry.blockSize_of_check opens.accepted
  have enough : 8 + volume.bitmapBlocks * volume.blockSize ≤ stream.length := opens.enough
  have number : LittleEndian.encode64 (UInt64.ofNat volume.blockCount) = stream.take 8 := by
    rw [← LittleEndian.encode64_decode64 opens.counted]
    exact congrArg _ (UInt64.ofNat_toNat)
  obtain ⟨last, count⟩ : ∃ last, volume.bitmapBlocks = last + 1 :=
    Geometry.exists_last opens.accepted
  have whole := Geometry.checksumSize_add_bytesPerBlock valid
  have room : volume.padding < volume.bytesPerBlock := Geometry.padding_lt opens.accepted
  have size : records.length = stream.length - 8 := List.length_drop
  have next : (last + 1) * volume.blockSize = last * volume.blockSize + volume.blockSize :=
    Nat.succ_mul _ _
  rw [count] at enough
  have front : (List.range last).flatMap (unpacked volume records).record =
      records.take (last * volume.blockSize) :=
    flatMap_record_unpacked valid (by omega) (by omega)
  have back : (unpacked volume records).record last =
      (records.drop (last * volume.blockSize)).take (volume.blockSize - volume.padding) ++
        List.replicate volume.padding 0xFF :=
    record_last_unpacked valid count (by omega)
  have split : packedSize volume - volume.padding =
      8 + (last * volume.blockSize + (volume.blockSize - volume.padding)) := by
    rw [packedSize, count, next]
    omega
  have segments : (unpacked volume records).segments = List.range last ++ [last] := by
    rw [← List.range_succ]
    exact congrArg List.range count
  rw [pack_eq, segments, List.flatMap_append, List.flatMap_singleton, front, back, split,
    List.take_add, List.take_add, ← number]
  simp only [List.append_assoc]
  rfl

/-- Export and import of allocators are inverse. What was exported from an allocator of a valid
volume is imported unchanged, as something that is not on disk yet, and what follows it is left; cut
short, it is refused as corrupted. What was imported is exported as the bytes that were read, but
with ones in the room that the bitmap leaves in the last record. -/
theorem unpack_inverts_pack :
    (∀ allocator : Allocator, Reachable allocator → allocator.geometry.check = .ok () →
      (∀ suffix, unpack allocator.geometry.blockSize (allocator.pack ++ suffix) =
        .ok { allocator with dirty := true } suffix) ∧
      ∀ count < allocator.pack.length, ∃ error rest,
        unpack allocator.geometry.blockSize (allocator.pack.take count) = .error error rest ∧
          error.kind = .corrupted) ∧
    ∀ blockSize stream imported rest, unpack blockSize stream = .ok imported rest →
      ∃ consumed, stream = consumed ++ rest ∧
        imported.geometry.padding < imported.geometry.bytesPerBlock ∧
        imported.pack = consumed.take (consumed.length - imported.geometry.padding) ++
          List.replicate imported.geometry.padding 0xFF := by
  constructor
  · intro allocator reachable accepted
    have formed := reachable.consistent.wellFormed (Geometry.blockSize_of_check accepted)
    exact ⟨formed.unpack_pack accepted, fun _ => formed.unpack_take accepted⟩
  · intro blockSize stream imported rest unpacks
    obtain ⟨opens, rfl, rfl⟩ := (ends_unpack_records _ _).of_ok unpacks
    let volume := packedVolume blockSize stream
    refine ⟨stream.take (packedSize volume), (List.take_append_drop _ _).symm,
      Geometry.padding_lt opens.accepted, ?_⟩
    rw [List.length_take_of_le opens.enough, List.take_take, Nat.min_eq_left (Nat.sub_le _ _)]
    exact pack_unpacked opens

/-- An allocator of three blocks, packed with other bytes behind the end of the bitmap. -/
def Sample.unpadded : Bytes :=
  LittleEndian.encode64 3 ++ LittleEndian.encode32 0 ++ 0xF9 :: List.replicate 507 0x5A

/-- It is imported, exported with ones behind the end of the bitmap, and imported again. -/
theorem unpack_inverts_pack_sample :
    unpack 512 (Sample.unpadded ++ [7]) = .ok Sample.stray [7] ∧
    Sample.stray.pack = Sample.unpadded.take 13 ++ List.replicate 507 0xFF ∧
    unpack 512 (Sample.stray.pack ++ [7]) = .ok Sample.stray [7] ∧
    ∃ error rest, unpack 512 (Sample.stray.pack.take 519) = .error error rest ∧
      error.kind = .corrupted := by
  have outcome : (match unpack 512 (Sample.unpadded ++ [7]) with
      | .ok allocator rest => some (allocator, rest)
      | .error _ _ => none) = some (Sample.stray, [7]) := by decide +kernel
  have padding : Sample.stray.geometry.padding = 507 := by decide +kernel
  have read : Sample.unpadded.length = 520 := by decide +kernel
  have written : Sample.stray.pack.length = 520 := by decide +kernel
  cases imports : unpack 512 (Sample.unpadded ++ [7]) with
  | error error rest =>
    rw [imports] at outcome
    exact nomatch outcome
  | ok allocator rest =>
    rw [imports] at outcome
    cases outcome
    obtain ⟨faithful, canonical⟩ := unpack_inverts_pack
    obtain ⟨again, refused⟩ := faithful Sample.stray (.unpacked imports) rfl
    obtain ⟨consumed, same, _, packs⟩ := canonical _ _ _ _ imports
    obtain rfl := List.append_cancel_right same
    rw [padding, read] at packs
    exact ⟨rfl, packs, again [7], refused 519 (by omega)⟩

end Allocator

end JournaledVolume
