import JournaledVolume.Allocator.Archive
import JournaledVolume.Proofs.BitmapBlocks

/-!
# The records of a packed allocator

A packed allocator has one record of the size of a block for each bitmap block, and the record is
what the bitmap block would hold. Reading the records is therefore loading from a disk that has
them as its bitmap blocks, and `Allocator.unpacked` is the allocator stored on this disk.
-/

namespace JournaledVolume

open JournaledVolume.Action

namespace Geometry

variable {geometry : Geometry} {records : Bytes} {index : Nat}

/-- A bitmap block lies among the blocks that it describes. -/
theorem segmentOf_bitmapBlock (valid : geometry.blockSize ∈ blockSizes) (index : Nat) :
    geometry.segmentOf (geometry.bitmapBlock index) = index := by
  have first := bitmapStart_lt valid
  rw [segmentOf, bitmapBlock]
  by_cases zero : index = 0
  · rw [if_pos zero, Nat.div_eq_of_lt first, zero]
  · rw [if_neg zero, Nat.mul_div_cancel _ (Nat.zero_lt_of_lt first)]

/-- A disk that has records as its bitmap blocks. -/
def recordImage (geometry : Geometry) (records : Bytes) : Image := fun block =>
  let start := geometry.segmentOf block * geometry.blockSize
  Bytes.padTo ((records.drop start).take geometry.blockSize) geometry.blockSize

/-- Every block of the disk is full. -/
theorem length_recordImage (geometry : Geometry) (records : Bytes) (block : Nat) :
    (geometry.recordImage records block).length = geometry.blockSize :=
  Bytes.length_padTo (List.length_take_le _ _)

/-- A bitmap block of the disk is a record. -/
theorem recordImage_bitmapBlock (valid : geometry.blockSize ∈ blockSizes)
    (enough : (index + 1) * geometry.blockSize ≤ records.length) :
    geometry.recordImage records (geometry.bitmapBlock index) =
      (records.drop (index * geometry.blockSize)).take geometry.blockSize := by
  have size : ((records.drop (index * geometry.blockSize)).take geometry.blockSize).length =
      geometry.blockSize := by
    rw [Nat.succ_mul] at enough
    rw [List.length_take, List.length_drop]
    omega
  rw [recordImage, segmentOf_bitmapBlock valid, Bytes.padTo, size, Nat.sub_self,
    List.replicate_zero, List.append_nil]

end Geometry

namespace Allocator

variable {allocator : Allocator} {geometry : Geometry} {records stream unread : Bytes}
  {blockSize count : Nat}

/-- Reading a record adds what it holds, as if it came from a bitmap block. -/
theorem ends_unpackSegment (valid : allocator.geometry.blockSize ∈ blockSizes) (index : Nat)
    (unread : Bytes) :
    Ends (unpackSegment allocator index) unread
      (fun next rest => allocator.geometry.blockSize ≤ unread.length ∧
        next = allocator.absorb index (unread.take allocator.geometry.blockSize) ∧
        rest = unread.drop allocator.geometry.blockSize)
      fun error _ => error = ⟨.truncatedStream, none⟩ ∧
        unread.length < allocator.geometry.blockSize := by
  have size := Geometry.checksumSize_add_bytesPerBlock valid
  rw [Geometry.checksumSize] at size
  refine (Reader.ends_word32 unread).bind ?_ ?_
  · rintro _ _ ⟨four, rfl, rfl⟩
    refine (Reader.ends_take allocator.geometry.bytesPerBlock _).bind ?_ ?_
    · rintro _ _ ⟨enough, rfl, rfl⟩
      rw [List.length_drop] at enough
      refine ends_pure ⟨by omega, ?_, by rw [List.drop_drop, size]⟩
      have sum : LittleEndian.decode32 (unread.take allocator.geometry.blockSize) =
          LittleEndian.decode32 unread := by
        rw [LittleEndian.decode32, LittleEndian.decode32, List.take_take, Nat.min_eq_left]
        omega
      have behind : (unread.take allocator.geometry.blockSize).drop Geometry.checksumSize =
          (unread.drop 4).take allocator.geometry.bytesPerBlock := List.drop_take
      rw [absorb, sum, behind]
    · rintro error _ ⟨truncated, short⟩
      rw [List.length_drop] at short
      exact ⟨truncated, by omega⟩
  · rintro error _ ⟨truncated, short⟩
    exact ⟨truncated, by omega⟩

/-- The allocator that records hold. -/
def unpacked (geometry : Geometry) (records : Bytes) : Allocator :=
  { stored geometry (geometry.recordImage records) with dirty := true }

/-- Whether the first records were read. -/
structure Consumed (geometry : Geometry) (records : Bytes) (count : Nat) (allocator : Allocator)
    (unread : Bytes) : Prop where
  /-- There are as many. -/
  enough : count * geometry.blockSize ≤ records.length
  /-- What they hold is in memory. -/
  filled : allocator = { filled geometry (geometry.recordImage records) count with dirty := true }
  /-- The others are unread. -/
  unread_eq : unread = records.drop (count * geometry.blockSize)

/-- One more record is read, unless there is none. -/
theorem Consumed.ends_step (consumed : Consumed geometry records count allocator unread)
    (valid : geometry.blockSize ∈ blockSizes) :
    Ends (unpackSegment allocator count) unread (Consumed geometry records (count + 1))
      fun error _ => error = ⟨.truncatedStream, none⟩ ∧
        records.length < (count + 1) * geometry.blockSize := by
  obtain ⟨enough, rfl, rfl⟩ := consumed
  have next : (count + 1) * geometry.blockSize =
      count * geometry.blockSize + geometry.blockSize := Nat.succ_mul _ _
  refine (ends_unpackSegment valid count _).mono ?_ ?_
  · rintro _ _ ⟨one, rfl, rfl⟩
    replace one : geometry.blockSize ≤ (records.drop (count * geometry.blockSize)).length := one
    rw [List.length_drop] at one
    have more : (count + 1) * geometry.blockSize ≤ records.length := by omega
    refine ⟨more, ?_, ?_⟩
    · rw [← absorb_filled (Geometry.length_recordImage geometry records),
        Geometry.recordImage_bitmapBlock valid more]
      rfl
    · rw [next, ← List.drop_drop]
      rfl
  · rintro error _ ⟨truncated, short⟩
    replace short : (records.drop (count * geometry.blockSize)).length < geometry.blockSize := short
    rw [List.length_drop] at short
    exact ⟨truncated, by omega⟩

/-- All records are read, unless there are too few. -/
theorem ends_unpackSegments (valid : geometry.blockSize ∈ blockSizes)
    (begins : Consumed geometry records 0 allocator records) :
    Ends (allocator.segments.foldlM unpackSegment allocator) records
      (Consumed geometry records geometry.bitmapBlocks)
      fun error _ => error = ⟨.truncatedStream, none⟩ ∧
        records.length < geometry.bitmapBlocks * geometry.blockSize := by
  have count : allocator.geometry.bitmapBlocks = geometry.bitmapBlocks := by
    rw [begins.filled]
    rfl
  rw [segments, count]
  refine ends_foldlM_range begins fun index within _ _ consumed => ?_
  refine (consumed.ends_step valid).allow fun error _ => And.imp_right fun short => ?_
  exact Nat.lt_of_lt_of_le short (Nat.mul_le_mul_right _ within)

/-- The volume that a packed allocator is for. -/
def packedVolume (blockSize : Nat) (stream : Bytes) : Geometry where
  blockSize
  blockCount := (LittleEndian.decode64 stream).toNat

/-- The bytes of a packed allocator. -/
def packedSize (geometry : Geometry) : Nat := 8 + geometry.bitmapBlocks * geometry.blockSize

/-- Whether a stream starts with a packed allocator. -/
structure Opens (blockSize : Nat) (stream : Bytes) : Prop where
  /-- It names a number of blocks. -/
  counted : 8 ≤ stream.length
  /-- A volume has this size. -/
  accepted : (packedVolume blockSize stream).check = .ok ()
  /-- Memory has room for the bitmap. -/
  room : Bitmap.checkRoom (packedVolume blockSize stream).blockCount = .ok ()
  /-- All records are there. -/
  enough : packedSize (packedVolume blockSize stream) ≤ stream.length

/-- Unpacking returns the allocator that the records hold and leaves what follows them; or the
stream does not start with a packed allocator, and the error says that it is too short, or that
there can be no such volume. -/
theorem ends_unpack_records (blockSize : Nat) (stream : Bytes) :
    Ends (unpack blockSize) stream
      (fun allocator rest => Opens blockSize stream ∧
        allocator = unpacked (packedVolume blockSize stream) (stream.drop 8) ∧
        rest = stream.drop (packedSize (packedVolume blockSize stream)))
      fun error _ => ¬ Opens blockSize stream ∧
        (error = ⟨.truncatedStream, none⟩ ∨
          8 ≤ stream.length ∧ ((packedVolume blockSize stream).check = .error error ∨
            Bitmap.checkRoom (packedVolume blockSize stream).blockCount = .error error)) := by
  let volume := packedVolume blockSize stream
  have records : (stream.drop 8).length = stream.length - 8 := List.length_drop
  refine (Reader.ends_word64 stream).bind ?_ ?_
  · rintro _ _ ⟨counted, rfl, rfl⟩
    refine ends_ofExcept (fun _ accepted => ?_) fun error refused => ⟨fun opens => ?_, ?_⟩
    · have valid : volume.blockSize ∈ blockSizes := Geometry.blockSize_of_check accepted
      refine ends_ofExcept (fun bitmap zeros => ?_) fun error full => ⟨fun opens => ?_, ?_⟩
      · have room : Bitmap.checkRoom volume.blockCount = .ok () := Bitmap.room_of_zeros zeros
        cases (Bitmap.zeros_of_room room).symm.trans zeros
        refine (ends_unpackSegments valid ⟨by omega, ?_, ?_⟩).bind ?_ ?_
        · simp [filled, Bits.zeros, Geometry.segmentsOn, Geometry.sumsOn]
          rfl
        · rw [Nat.zero_mul, List.drop_zero]
        · rintro _ _ ⟨enough, rfl, rfl⟩
          refine ends_pure ⟨⟨counted, accepted, room, ?_⟩, ?_, ?_⟩
          · show 8 + volume.bitmapBlocks * volume.blockSize ≤ _
            omega
          · rw [unpacked, ← recount_filled valid (Geometry.length_recordImage _ _)]
          · rw [List.drop_drop]
            rfl
        · rintro error _ ⟨truncated, short⟩
          refine ⟨fun opens => ?_, .inl truncated⟩
          have enough : 8 + volume.bitmapBlocks * volume.blockSize ≤ _ := opens.enough
          omega
      · cases full.symm.trans (Bitmap.zeros_of_room opens.room)
      · exact .inr ⟨counted, .inr (Bitmap.full_of_zeros full)⟩
    · cases refused.symm.trans opens.accepted
    · exact .inr ⟨counted, .inl refused⟩
  · rintro error _ ⟨truncated, short⟩
    exact ⟨fun opens => Nat.not_lt.2 opens.counted short, .inl truncated⟩

end Allocator

end JournaledVolume
