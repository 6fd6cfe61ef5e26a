import JournaledVolume.Proofs.Agreement
import JournaledVolume.Proofs.ChecksumDistance
import JournaledVolume.Proofs.PackedAllocator

/-!
# Bitmap blocks that carry their checksum

The checksum of a segment is computed without the ones that fill up its bitmap block: they are fed
in chunks to a checksum that goes on from its word. It is the checksum of the whole payload all the
same. So every bitmap block that a sync hands to the device is sealed: the word in front of it is
the checksum of all that is behind it. A record of an export is sealed where the recorded checksum
is that of the segment.
-/

namespace JournaledVolume

open JournaledVolume.Action

namespace Adler32

namespace Sums

variable {sums : Sums}

/-- Whether both sums are reduced modulo the modulus. -/
structure Reduced (sums : Sums) : Prop where
  /-- The low sum is. -/
  low : sums.low < modulus
  /-- The high sum is. -/
  high : sums.high < modulus

/-- Sums stay reduced with further bytes. -/
theorem Reduced.foldl (reduced : sums.Reduced) (bytes : Bytes) : (bytes.foldl add sums).Reduced := by
  induction bytes generalizing sums with
  | nil => exact reduced
  | cons byte bytes ih => exact ih ⟨Nat.mod_lt _ (by decide), Nat.mod_lt _ (by decide)⟩

/-- Reduced sums are told by their residues. -/
theorem Reduced.eq_val (reduced : sums.Reduced) {low high : ZMod modulus} (lows : sums.low = low)
    (highs : sums.high = high) : sums = ⟨low.val, high.val⟩ := by
  rw [← lows, ← highs, ZMod.val_cast_of_lt reduced.low, ZMod.val_cast_of_lt reduced.high]

end Sums

/-- The checksum by its definition: the sum of the bytes and one more in the lower half of the word,
and in its upper half the number of the bytes and their weighted sum. -/
def closedForm (bytes : Bytes) : UInt32 :=
  Sums.pack ⟨(1 + total bytes).val, (bytes.length + weighted bytes).val⟩

/-- One pass over the bytes computes what the definition says. -/
theorem checksum_eq_closedForm (bytes : Bytes) : checksum bytes = closedForm bytes := by
  have start : Sums.unpack 1 = ⟨1, 0⟩ := by decide
  have reduced : (Sums.unpack 1).Reduced := by
    rw [start]
    exact ⟨by decide, by decide⟩
  have low := low_foldl_add (Sums.unpack 1) bytes
  have high := high_foldl_add (Sums.unpack 1) bytes
  rw [start] at low high
  simp only [Nat.cast_one, Nat.cast_zero, mul_one, zero_add] at low high
  rw [checksum, resume, closedForm, (reduced.foldl bytes).eq_val (start ▸ low) (start ▸ high)]

end Adler32

/-- Whether the word in front of a block is the checksum of all that is behind it. -/
def Bytes.Sealed (block : Bytes) : Prop :=
  LittleEndian.decode32 block = Adler32.checksum (block.drop Geometry.checksumSize)

/-- A payload behind a word is sealed exactly if the word is its checksum. -/
theorem Bytes.sealed_append {sum : UInt32} {payload : Bytes} :
    Sealed (LittleEndian.encode32 sum ++ payload) ↔ sum = Adler32.checksum payload := by
  have behind : (LittleEndian.encode32 sum ++ payload).drop Geometry.checksumSize = payload :=
    LittleEndian.drop_encode32_append _ _
  rw [Sealed, behind, LittleEndian.decode32_encode32_append]

namespace Allocator

variable {allocator : Allocator} {partition : Partition} {state between : Attached Allocator Store}
  {count total index : Nat}

/-- The checksum of a segment is that of the whole payload of its bitmap block. -/
theorem segmentSum_eq_checksum (allocator : Allocator) (index : Nat) :
    allocator.segmentSum index = Adler32.checksum (allocator.payload index) := by
  rw [segmentSum, Geometry.segmentSum, Adler32.padded_eq, payload, Geometry.length_segment]

/-- A bitmap block is written with the checksum of its payload. -/
theorem sealed_blockImage (allocator : Allocator) (index : Nat) :
    (allocator.blockImage index).Sealed :=
  Bytes.sealed_append.2 (allocator.segmentSum_eq_checksum index)

/-- A record is sealed exactly if the recorded checksum is that of the segment. -/
theorem sealed_record_iff : (allocator.record index).Sealed ↔
    allocator.recordedSum index = allocator.segmentSum index := by
  rw [segmentSum_eq_checksum]
  exact Bytes.sealed_append

/-- The records of a packed allocator lie one behind the other. -/
theorem take_drop_pack (valid : allocator.geometry.blockSize ∈ blockSizes)
    (within : index < allocator.geometry.bitmapBlocks) :
    (allocator.pack.drop (8 + index * allocator.geometry.blockSize)).take
      allocator.geometry.blockSize = allocator.record index := by
  have found := take_drop_flatMap_range (length_record valid) within []
  rw [List.append_nil] at found
  rw [pack_eq, ← List.drop_drop, LittleEndian.drop_encode64_append]
  exact found

/-- The writes of the first bitmap blocks, in order. -/
def blockWrites (allocator : Allocator) (partition : Partition) (count : Nat) : List Effect :=
  (List.range count).map fun index =>
    partition.blockWrite (allocator.geometry.bitmapBlock index) (allocator.blockImage index)

/-- One more bitmap block is written behind those before it. -/
theorem blockWrites_succ (allocator : Allocator) (partition : Partition) (count : Nat) :
    allocator.blockWrites partition (count + 1) = allocator.blockWrites partition count ++
      [partition.blockWrite (allocator.geometry.bitmapBlock count)
        (allocator.blockImage count)] := by
  rw [blockWrites, List.range_succ, List.map_append]
  rfl

/-- Other bitmap blocks are written behind the first ones. -/
theorem exists_later_writes (allocator : Allocator) (partition : Partition)
    (within : count ≤ total) : ∃ later,
      allocator.blockWrites partition total = allocator.blockWrites partition count ++ later := by
  obtain ⟨more, rfl⟩ := Nat.exists_eq_add_of_le within
  rw [blockWrites, List.range_add, List.map_append]
  exact ⟨_, rfl⟩

/-- Bitmap blocks that were written are on the device. -/
theorem image_after_blockWrites (sectored : partition.Sectored)
    (valid : allocator.geometry.blockSize ∈ blockSizes)
    (same : partition.blockSize = allocator.geometry.blockSize) (content : Content)
    (within : index < count) :
    partition.image (content.afterAll (allocator.blockWrites partition count))
      (allocator.geometry.bitmapBlock index) = allocator.blockImage index := by
  have full (index : Nat) : (allocator.blockImage index).length = partition.blockSize :=
    (length_blockImage valid index).trans same.symm
  induction count with
  | zero => exact absurd within (Nat.not_lt_zero index)
  | succ count ih =>
    rw [blockWrites_succ, Content.afterAll_append, Content.afterAll_cons, Content.afterAll_nil,
      Partition.image_after_blockWrite sectored (full count)]
    rcases Nat.lt_succ_iff_lt_or_eq.1 within with early | rfl
    · rw [Function.update_of_ne]
      · exact ih early
      · exact fun shared => Nat.ne_of_lt early (Geometry.bitmapBlock_injective valid shared)
    · exact Function.update_self _ _ _

/-- Whether only the first bitmap blocks were written. -/
structure Issued (partition : Partition) (before : Attached Allocator Store) (count : Nat)
    (after : Attached Allocator Store) : Prop extends Resummed before after where
  /-- Nothing else has reached the device. -/
  added : before.disk.device.Added after.disk.device (before.memory.blockWrites partition count)

/-- One more bitmap block is written, or a part of it. -/
theorem Issued.ends_step (issued : Issued partition state count between)
    (measured : partition.MeasuredBy state.disk.device.shape)
    (valid : state.memory.geometry.blockSize ∈ blockSizes)
    (same : partition.blockSize = state.memory.geometry.blockSize) :
    Ends (writeSegment partition count) between
      (fun _ after => Issued partition state (count + 1) after)
      fun _ after =>
        state.disk.device.Cut after.disk.device
          (state.memory.blockWrites partition (count + 1)) := by
  obtain ⟨memory, disk⟩ := between
  obtain ⟨sums, rfl⟩ : ∃ sums, memory = { state.memory with sums } := ⟨_, issued.memory⟩
  have shape : disk.device.shape = state.disk.device.shape := issued.shape
  have current : partition.MeasuredBy disk.device.shape := measured.of_shape shape
  have full : (state.memory.blockImage count).length = partition.blockSize :=
    (length_blockImage valid count).trans same.symm
  have writes := DiskM.ends_writeBlock_measured current
    (state.memory.geometry.bitmapBlock count) full
  rw [blockWrites_succ]
  refine ends_get (AttachedM.ends_onDisk_andThen (writes.mono ?_ ?_))
  · rintro _ after ⟨_, ran⟩
    have added := issued.added.trans ran.added
    rw [← blockWrites_succ] at added
    exact ⟨⟨rfl, Array.size_setIfInBounds.trans issued.size, ran.shape.trans shape⟩, added⟩
  · exact fun _ after cut => issued.added.cut_append cut

/-- The writes of a sync: those of every bitmap block, if the allocator has changed. -/
def syncWrites (allocator : Allocator) (partition : Partition) : List Effect :=
  if allocator.dirty then allocator.blockWrites partition allocator.geometry.bitmapBlocks else []

/-- A sync of a changed allocator writes every bitmap block, or breaks off somewhere in these
writes. -/
theorem ends_sync_issued (valid : state.memory.geometry.blockSize ∈ blockSizes)
    (measured : partition.MeasuredBy state.disk.device.shape) (dirty : state.memory.dirty = true) :
    Ends (sync partition) state
      (fun _ after => partition.blockSize = state.memory.geometry.blockSize ∧
        state.disk.device.Added after.disk.device
          (state.memory.blockWrites partition state.memory.geometry.bitmapBlocks))
      fun _ after => state.disk.device.Cut after.disk.device
        (state.memory.blockWrites partition state.memory.geometry.bitmapBlocks) := by
  refine ends_get ?_
  show Ends (if state.memory.dirty then _ else _) _ _ _
  rw [if_pos dirty]
  refine ends_ofExcept (fun _ accepted => ?_) fun _ _ => (Store.Added.nothing _).cut
  have same := same_of_checkPartition accepted
  have begins : Issued partition state 0 state := ⟨⟨rfl, rfl, rfl⟩, .nothing _⟩
  refine Ends.andThen (ends_forM_range begins fun index within _ issued => ?_) ?_
  · refine (issued.ends_step measured valid same).allow fun _ _ cut => ?_
    obtain ⟨later, split⟩ := state.memory.exists_later_writes partition (Nat.succ_le_of_lt within)
    exact split ▸ cut.append
  · exact fun _ wrote issued => ⟨same, issued.added⟩

/-- A sync of an allocator that has not changed does nothing. -/
theorem ends_sync_unchanged (clean : ¬ state.memory.dirty = true) :
    Ends (sync partition) state (fun _ after => after = state) fun _ _ => False := by
  refine ends_get ?_
  show Ends (if state.memory.dirty then _ else _) _ _ _
  rw [if_neg clean]
  exact ends_pure rfl

/-- A sync hands sealed bitmap blocks to the device, and once that of a changed allocator has
returned, all bitmap blocks on the device are sealed. -/
theorem ends_sync_sealed (valid : state.memory.geometry.blockSize ∈ blockSizes)
    (measured : partition.MeasuredBy state.disk.device.shape) :
    Ends (sync partition) state
      (fun _ after =>
        state.disk.device.Added after.disk.device (state.memory.syncWrites partition) ∧
        (state.memory.dirty = true → ∀ index < state.memory.geometry.bitmapBlocks,
          (after.disk.image partition (state.memory.geometry.bitmapBlock index)).Sealed))
      fun _ after =>
        state.disk.device.Cut after.disk.device (state.memory.syncWrites partition) := by
  rw [syncWrites]
  by_cases dirty : state.memory.dirty = true
  · rw [if_pos dirty]
    refine (ends_sync_issued valid measured dirty).mono ?_ fun _ _ cut => cut
    rintro _ after ⟨same, added⟩
    refine ⟨added, fun _ index within => ?_⟩
    rw [Disk.image, added.content,
      image_after_blockWrites measured.toSectored valid same _ within]
    exact state.memory.sealed_blockImage index
  · rw [if_neg dirty]
    refine (ends_sync_unchanged dirty).mono ?_ fun _ _ never => never.elim
    rintro _ _ rfl
    exact ⟨.nothing _, fun changed => absurd changed dirty⟩

/-- The checksum of a padded payload, computed without the padding, is that of all bytes in one
pass; and one pass computes the checksum by its definition, from the start or from any word on. So
the checksum of a segment is that of everything behind the checksum in its bitmap block, and every
bitmap block that a sync writes carries the checksum of its own payload: if the allocator has
changed, the sync hands such blocks to the device in order, all of them or those up to where it
breaks off. A record of an export carries the checksum of its own payload exactly if the recorded
checksum is that of the segment. -/
theorem checksums_cover_blocks :
    (∀ bytes, Adler32.checksum bytes = Adler32.closedForm bytes) ∧
    (∀ front behind, Adler32.resume (Adler32.checksum front) behind =
      Adler32.checksum (front ++ behind)) ∧
    (∀ payload pad, Adler32.padded payload pad =
      Adler32.checksum (payload ++ List.replicate pad 0xFF)) ∧
    ∀ allocator : Allocator, allocator.geometry.check = .ok () →
      (∀ index, (allocator.blockImage index).length = allocator.geometry.blockSize ∧
        allocator.segmentSum index =
          Adler32.checksum ((allocator.blockImage index).drop Geometry.checksumSize) ∧
        (allocator.blockImage index).Sealed) ∧
      (∀ (partition : Partition) (disk : Disk Store), partition.MeasuredBy disk.device.shape →
        Ends (sync partition) { memory := allocator, disk }
          (fun _ after =>
            disk.device.Added after.disk.device (allocator.syncWrites partition) ∧
            (allocator.dirty = true → ∀ index < allocator.geometry.bitmapBlocks,
              (after.disk.image partition (allocator.geometry.bitmapBlock index)).Sealed))
          fun _ after => disk.device.Cut after.disk.device (allocator.syncWrites partition)) ∧
      ∀ index < allocator.geometry.bitmapBlocks,
        Bytes.Sealed ((allocator.pack.drop (8 + index * allocator.geometry.blockSize)).take
          allocator.geometry.blockSize) ↔
        allocator.recordedSum index = allocator.segmentSum index := by
  refine ⟨Adler32.checksum_eq_closedForm, fun front behind => ?_, Adler32.padded_eq,
    fun allocator accepted => ?_⟩
  · exact (Adler32.resume_append 1 front behind).symm
  have valid := Geometry.blockSize_of_check accepted
  refine ⟨fun index => ⟨length_blockImage valid index, ?_, allocator.sealed_blockImage index⟩,
    fun partition disk measured => ends_sync_sealed valid measured,
    fun index within => ?_⟩
  · rw [blockImage, segmentSum_eq_checksum]
    exact congrArg Adler32.checksum (LittleEndian.drop_encode32_append _ _).symm
  · rw [take_drop_pack valid within]
    exact sealed_record_iff

/-- On the small volume the checksum of the only segment covers the bytes of the bitmap and the ones
behind them. A sync writes it in front of them. An export writes the recorded one there, which is
that of the new volume, but not that of a volume with another checksum. -/
theorem checksums_cover_blocks_sample :
    Sample.start.memory.segmentSum 0 =
      Adler32.checksum (List.replicate 25 0x00 ++ List.replicate 483 0xFF) ∧
    (∃ after, sync Sample.whole
        { memory := Sample.start.memory, disk := Sample.start.disk.repaired } = .ok () after ∧
      (after.disk.image Sample.whole 130).Sealed) ∧
    Bytes.Sealed ((Sample.start.memory.pack.drop 8).take 512) ∧
    ¬ Bytes.Sealed (({ Sample.start.memory with sums := #[7] }.pack.drop 8).take 512) := by
  have accepted : Sample.start.memory.geometry.check = .ok () := rfl
  have measured : Sample.whole.MeasuredBy Sample.start.disk.repaired.device.shape :=
    ⟨⟨by decide, by decide⟩, rfl, rfl⟩
  have dirty : Sample.start.memory.dirty = true := rfl
  have returns : EStateM.Result.casesOn (sync Sample.whole
      { memory := Sample.start.memory, disk := Sample.start.disk.repaired })
      (fun _ _ => true) (fun _ _ => false) = true := by decide +kernel
  have payload : (Sample.start.memory.blockImage 0).drop Geometry.checksumSize =
      List.replicate 25 0x00 ++ List.replicate 483 0xFF := by decide +kernel
  obtain ⟨_, _, _, allocators⟩ := checksums_cover_blocks
  obtain ⟨images, syncs, records⟩ := allocators Sample.start.memory accepted
  obtain ⟨_, _, others⟩ := allocators { Sample.start.memory with sums := #[7] } accepted
  have carried (disk : Disk Store) (shape : Sample.whole.MeasuredBy disk.device.shape)
      {after : Attached Allocator Store}
      (ran : sync Sample.whole { memory := Sample.start.memory, disk } = .ok () after) :
      (after.disk.image Sample.whole 130).Sealed :=
    ((syncs Sample.whole disk shape).of_ok ran).2 dirty 0 (by decide)
  refine ⟨?_, ?_, (records 0 (by decide)).2 rfl, fun carries => ?_⟩
  · rw [← payload]
    exact (images 0).2.1
  · cases ran : sync Sample.whole
        { memory := Sample.start.memory, disk := Sample.start.disk.repaired } with
    | ok _ after => exact ⟨after, rfl, carried _ measured ran⟩
    | error error after =>
      rw [ran] at returns
      exact absurd returns Bool.false_ne_true
  · have same := (others 0 (by decide)).1 carries
    revert same
    decide +kernel

end Allocator

end JournaledVolume
