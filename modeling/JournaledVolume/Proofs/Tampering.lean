import JournaledVolume.Proofs.ChecksumDistance
import JournaledVolume.Proofs.PackedAllocator
import JournaledVolume.Proofs.Verdicts

/-!
# Bitmap blocks that were tampered with

A sync leaves every bitmap block with the checksum of its segment. When few bytes of a segment are
changed on disk, or the checksum is, the block vouches for itself no longer: the allocator that is
loaded names exactly the blocks that were changed. What lies behind the end of the bitmap is not
read at all.
-/

namespace JournaledVolume

open JournaledVolume.Action

/-- Whether bytes differ from others in `count` bytes from `first` on only. -/
structure Bytes.ChangedWithin (first count : Nat) (old new : Bytes) : Prop where
  /-- The bytes in front are the same. -/
  front : new.take first = old.take first
  /-- The bytes behind are the same. -/
  behind : new.drop (first + count) = old.drop (first + count)

/-- Bytes that do not differ in the place where they may are the same. -/
theorem Bytes.ChangedWithin.eq_of_middle {first count : Nat} {old new : Bytes}
    (within : ChangedWithin first count old new)
    (middle : (new.drop first).take count = (old.drop first).take count) : new = old := by
  have split (bytes : Bytes) : bytes =
      bytes.take first ++ ((bytes.drop first).take count ++ bytes.drop (first + count)) := by
    rw [← List.drop_drop, List.take_append_drop, List.take_append_drop]
  rw [split new, split old, within.front, middle, within.behind]

namespace Geometry

variable {geometry : Geometry} {index other size : Nat} {old new : Bytes} {image before : Image}

/-- The bitmap blocks whose content differs between two images, in order. -/
def changedBlocks (geometry : Geometry) (before after : Image) : List Nat :=
  ((List.range geometry.bitmapBlocks).map geometry.bitmapBlock).filter fun block =>
    after block ≠ before block

/-- The number of changed bytes in a bitmap block that its checksum is certain to show. -/
def certainChanges (geometry : Geometry) : Nat := if geometry.blockSize = 65536 then 1 else 2

/-- How the content of a bitmap block may have been changed for its checksum to show it, in a bitmap
of `size` bytes. -/
inductive Tampered (geometry : Geometry) (size index : Nat) (old new : Bytes) : Prop where
  /-- Few bytes of the segment were changed. -/
  | segment
    (within : Bytes.ChangedWithin checksumSize (geometry.segmentSize size index) old new)
    (few : old.distance new ≤ geometry.certainChanges)
  /-- The checksum was changed. -/
  | checksum (within : Bytes.ChangedWithin 0 checksumSize old new)

/-- Whether a bitmap block holds the checksum of its segment, in a bitmap of `size` bytes. -/
def Vouches (geometry : Geometry) (size index : Nat) (content : Bytes) : Prop :=
  Adler32.padded (geometry.segmentOfBlock size index content)
    (geometry.bytesPerBlock - geometry.segmentSize size index) = LittleEndian.decode32 content

instance {content : Bytes} : Decidable (geometry.Vouches size index content) :=
  inferInstanceAs (Decidable (_ = _))

/-- The checksum of a segment is certain to show as many changes. -/
theorem separates (valid : geometry.blockSize ∈ blockSizes) {count : Nat}
    (few : count ≤ geometry.certainChanges) : Adler32.Separates geometry.bytesPerBlock count := by
  rw [certainChanges] at few
  by_cases large : geometry.blockSize = 65536
  · rw [if_pos large] at few
    exact .inl few
  · rw [if_neg large] at few
    simp only [blockSizes, List.mem_cons, List.not_mem_nil, or_false] at valid
    refine .inr ⟨few, ?_⟩
    simp only [bytesPerBlock, checksumSize, Adler32.modulus]
    omega

/-- Few changes in its segment that leave a bitmap block vouching for itself are none. -/
theorem Vouches.eq_of_segment (vouches : geometry.Vouches size index new)
    (vouched : geometry.Vouches size index old) (valid : geometry.blockSize ∈ blockSizes)
    (full : old.length = geometry.blockSize) (same : new.length = geometry.blockSize)
    (within : Bytes.ChangedWithin checksumSize (geometry.segmentSize size index) old new)
    (few : old.distance new ≤ geometry.certainChanges) : new = old := by
  have sums : LittleEndian.decode32 new = LittleEndian.decode32 old :=
    congrArg (fun front => UInt32.ofNat (LittleEndian.decode front)) within.front
  have agree := vouched.trans (sums.symm.trans vouches.symm)
  have lengths : (geometry.segmentOfBlock size index old).length =
      (geometry.segmentOfBlock size index new).length := by
    rw [length_segmentOfBlock full, length_segmentOfBlock same]
  have places : Bytes.distance (geometry.segmentOfBlock size index old)
      (geometry.segmentOfBlock size index new) ≤ geometry.certainChanges :=
    ((Bytes.distance_take_le _).trans (Bytes.distance_drop_le _)).trans few
  have room : (geometry.segmentOfBlock size index old).length +
      (geometry.bytesPerBlock - geometry.segmentSize size index) = geometry.bytesPerBlock := by
    rw [length_segmentOfBlock full]
    exact Nat.add_sub_cancel' (Nat.min_le_left _ _)
  have separates := separates valid places
  rw [← room] at separates
  exact within.eq_of_middle (Adler32.eq_of_padded lengths separates agree).symm

/-- A change of its checksum that leaves a bitmap block vouching for itself is none. -/
theorem Vouches.eq_of_checksum (vouches : geometry.Vouches size index new)
    (vouched : geometry.Vouches size index old) (valid : geometry.blockSize ∈ blockSizes)
    (full : old.length = geometry.blockSize) (same : new.length = geometry.blockSize)
    (within : Bytes.ChangedWithin 0 checksumSize old new) : new = old := by
  have four : 4 ≤ geometry.blockSize :=
    (checksumSize_add_bytesPerBlock valid).symm ▸ Nat.le_add_right _ _
  have behind : new.drop checksumSize = old.drop checksumSize := by
    simpa only [Nat.zero_add] using within.behind
  have segments : geometry.segmentOfBlock size index new =
      geometry.segmentOfBlock size index old := by
    rw [segmentOfBlock, segmentOfBlock, behind]
  have sums : LittleEndian.decode32 new = LittleEndian.decode32 old := by
    rw [← vouches, ← vouched, segments]
  have fronts : new.take checksumSize = old.take checksumSize := by
    have encoded := congrArg LittleEndian.encode32 sums
    rwa [LittleEndian.encode32_decode32 (same ▸ four),
      LittleEndian.encode32_decode32 (full ▸ four)] at encoded
  exact within.eq_of_middle fronts

/-- A bitmap block that vouched for itself still does after it was tampered with only if nothing has
changed. -/
theorem Tampered.vouches_iff (tampered : geometry.Tampered size index old new)
    (vouched : geometry.Vouches size index old) (valid : geometry.blockSize ∈ blockSizes)
    (full : old.length = geometry.blockSize) (same : new.length = geometry.blockSize) :
    geometry.Vouches size index new ↔ new = old := by
  constructor
  · intro vouches
    cases tampered with
    | segment within few => exact vouches.eq_of_segment vouched valid full same within few
    | checksum within => exact vouches.eq_of_checksum vouched valid full same within
  · intro unchanged
    rw [unchanged]
    exact vouched

/-- What lies behind the segment of a bitmap block belongs neither to its segment nor to its
checksum. -/
theorem read_of_padding
    (within : Bytes.ChangedWithin (checksumSize + geometry.segmentSize size index)
      (geometry.bytesPerBlock - geometry.segmentSize size index) old new) :
    geometry.segmentOfBlock size index new = geometry.segmentOfBlock size index old ∧
      LittleEndian.decode32 new = LittleEndian.decode32 old := by
  constructor
  · have front := congrArg (List.drop checksumSize) within.front
    rwa [List.drop_take, List.drop_take, Nat.add_sub_cancel_left] at front
  · have front := congrArg (List.take checksumSize) within.front
    rw [List.take_take, List.take_take, Nat.min_eq_left (Nat.le_add_right _ _)] at front
    exact congrArg (fun front => UInt32.ofNat (LittleEndian.decode front)) front

end Geometry

namespace Allocator

variable {partition : Partition} {geometry : Geometry} {allocator : Allocator}
  {image before : Image} {index : Nat}

/-- Bad bitmap blocks are named in order. -/
theorem pairwise_badBlocks (valid : allocator.geometry.blockSize ∈ blockSizes) :
    allocator.badBlocks.Pairwise (· < ·) := by
  rw [badBlocks_eq, List.pairwise_map]
  have ordered : allocator.segments.Pairwise (· < ·) := List.pairwise_lt_range
  exact (ordered.filter _).imp fun earlier => Geometry.bitmapBlock_lt valid earlier

/-- A segment of a stored allocator has the recorded checksum if its bitmap block vouches for
itself. -/
theorem segmentSum_stored (valid : geometry.blockSize ∈ blockSizes)
    (full : ∀ block, (image block).length = geometry.blockSize)
    (within : index < geometry.bitmapBlocks) :
    (stored geometry image).segmentSum index = (stored geometry image).recordedSum index ↔
      geometry.Vouches (Bitmap.byteCount geometry.blockCount) index
        (image (geometry.bitmapBlock index)) := by
  have recorded : (stored geometry image).recordedSum index =
      LittleEndian.decode32 (image (geometry.bitmapBlock index)) := by
    simp [recordedSum, stored, Geometry.sumsOn, within]
  have size : (stored geometry image).bitmap.bits.bytes.size =
      Bitmap.byteCount geometry.blockCount := by
    simp [stored, Bitmap.recount, Geometry.length_segmentsOn_all valid full]
  have segment : geometry.segment (stored geometry image).bitmap.bits index = _ :=
    Geometry.segment_segmentsOn valid full within
  rw [recorded, Geometry.Vouches, ← segment, ← size]
  rfl

/-- The bad blocks of a stored allocator are those that do not vouch for themselves. -/
theorem badBlocks_stored (valid : geometry.blockSize ∈ blockSizes)
    (full : ∀ block, (image block).length = geometry.blockSize) :
    (stored geometry image).badBlocks = ((List.range geometry.bitmapBlocks).filter fun index =>
      ¬ geometry.Vouches (Bitmap.byteCount geometry.blockCount) index
        (image (geometry.bitmapBlock index))).map geometry.bitmapBlock := by
  rw [badBlocks_eq]
  refine congrArg (List.map geometry.bitmapBlock) (List.filter_congr fun index listed => ?_)
  have right := segmentSum_stored valid full (List.mem_range.1 listed)
  simp [right]

/-- A stored allocator whose bitmap blocks all vouch for themselves has no bad block. -/
theorem badBlocks_stored_of_vouched (valid : geometry.blockSize ∈ blockSizes)
    (full : ∀ block, (image block).length = geometry.blockSize)
    (vouched : ∀ index < geometry.bitmapBlocks, geometry.Vouches
      (Bitmap.byteCount geometry.blockCount) index (image (geometry.bitmapBlock index))) :
    (stored geometry image).badBlocks = [] := by
  rw [badBlocks_stored valid full, List.map_eq_nil_iff, List.filter_eq_nil_iff]
  intro index listed
  simp [vouched index (List.mem_range.1 listed)]

/-- A stored allocator whose bitmap blocks all vouched for themselves before they were tampered with
names those that were changed. -/
theorem badBlocks_stored_of_tampered (valid : geometry.blockSize ∈ blockSizes)
    (full : ∀ block, (image block).length = geometry.blockSize)
    (same : ∀ block, (before block).length = geometry.blockSize)
    (vouched : ∀ index < geometry.bitmapBlocks, geometry.Vouches
      (Bitmap.byteCount geometry.blockCount) index (before (geometry.bitmapBlock index)))
    (tampered : ∀ index < geometry.bitmapBlocks, geometry.Tampered
      (Bitmap.byteCount geometry.blockCount) index (before (geometry.bitmapBlock index))
      (image (geometry.bitmapBlock index))) :
    (stored geometry image).badBlocks = geometry.changedBlocks before image := by
  rw [badBlocks_stored valid full, Geometry.changedBlocks, List.filter_map]
  refine congrArg (List.map geometry.bitmapBlock) (List.filter_congr fun index listed => ?_)
  have within : index < geometry.bitmapBlocks := List.mem_range.1 listed
  have shows := (tampered index within).vouches_iff (vouched index within) valid (same _) (full _)
  simp [shows]

/-- What lies behind the segments of the bitmap blocks is not stored. -/
theorem stored_of_padding
    (padded : ∀ index < geometry.bitmapBlocks, Bytes.ChangedWithin
      (Geometry.checksumSize +
        geometry.segmentSize (Bitmap.byteCount geometry.blockCount) index)
      (geometry.bytesPerBlock -
        geometry.segmentSize (Bitmap.byteCount geometry.blockCount) index)
      (before (geometry.bitmapBlock index)) (image (geometry.bitmapBlock index))) :
    stored geometry image = stored geometry before := by
  have segments : geometry.segmentsOn image geometry.bitmapBlocks =
      geometry.segmentsOn before geometry.bitmapBlocks :=
    List.flatMap_congr fun index listed =>
      (Geometry.read_of_padding (padded index (List.mem_range.1 listed))).1
  have sums : geometry.sumsOn image geometry.bitmapBlocks =
      geometry.sumsOn before geometry.bitmapBlocks :=
    List.map_congr_left fun index listed =>
      (Geometry.read_of_padding (padded index (List.mem_range.1 listed))).2
  rw [stored, stored, segments, sums]

/-- A bitmap block as it is written vouches for itself. -/
theorem WellFormed.vouches_blockImage (formed : allocator.WellFormed) (index : Nat) :
    allocator.geometry.Vouches (Bitmap.byteCount allocator.geometry.blockCount) index
      (allocator.blockImage index) := by
  rw [Geometry.Vouches, ← formed.size, blockImage, segmentOfBlock_append,
    LittleEndian.decode32_encode32_append]
  rfl

/-- A sync of a changed allocator leaves the shape of the device, and writes every bitmap block. -/
theorem of_sync {state synced : Attached Allocator Store} (formed : state.memory.WellFormed)
    (measured : partition.MeasuredBy state.disk.device.shape) (dirty : state.memory.dirty = true)
    (syncs : sync partition state = .ok () synced) :
    synced.disk.device.shape = state.disk.device.shape ∧
      ∀ index < state.memory.geometry.bitmapBlocks,
        synced.disk.image partition (state.memory.geometry.bitmapBlock index) =
          state.memory.blockImage index := by
  obtain ⟨_, wrote, writing, _, device⟩ := (ends_sync_writing formed measured dirty).of_ok syncs
  have shape : synced.disk.device.shape = wrote.disk.device.shape := congrArg Store.shape device
  have image : synced.disk.image partition = wrote.disk.image partition :=
    congrArg (fun device : Store => partition.image device.content) device
  refine ⟨shape.trans writing.shape, fun index within => ?_⟩
  rw [image]
  exact writing.written index within

/-- An allocator that was just written, and another content of the device. Where few bytes of the
segments or the checksums of bitmap blocks differ, the allocator is loaded, and the bad blocks that
it names are those that differ, in order; the first of them fails its verification. Where only bytes
behind the end of the bitmap differ, the same allocator is loaded, and no block is bad. -/
theorem load_shows_tampering {state synced : Attached Allocator Store} {altered : Disk Store}
    (reachable : Reachable state.memory) (accepted : state.memory.geometry.check = .ok ())
    (dirty : state.memory.dirty = true)
    (measured : partition.MeasuredBy state.disk.device.shape)
    (syncs : sync partition state = .ok () synced)
    (shape : altered.device.shape = synced.disk.device.shape) (sound : altered.device.Sound) :
    let geometry := state.memory.geometry
    let size := Bitmap.byteCount geometry.blockCount
    let before := synced.disk.image partition
    let image := altered.image partition
    ((∀ index < geometry.bitmapBlocks, geometry.Tampered size index
        (before (geometry.bitmapBlock index)) (image (geometry.bitmapBlock index))) →
      ∃ loaded after, load partition geometry altered = .ok loaded after ∧
        loaded.badBlocks = geometry.changedBlocks before image ∧
        loaded.badBlocks.Pairwise (· < ·) ∧
        ∀ first rest, loaded.badBlocks = first :: rest → ∃ error,
          loaded.verify = .error error ∧ error.kind = .corrupted ∧ error.block = some first) ∧
    ((∀ index < geometry.bitmapBlocks, Bytes.ChangedWithin
        (Geometry.checksumSize + geometry.segmentSize size index)
        (geometry.bytesPerBlock - geometry.segmentSize size index)
        (before (geometry.bitmapBlock index)) (image (geometry.bitmapBlock index))) →
      ∃ after, load partition geometry altered = .ok synced.memory after ∧
        synced.memory.badBlocks = []) := by
  intro geometry size before image
  have valid : geometry.blockSize ∈ blockSizes := Geometry.blockSize_of_check accepted
  have formed := reachable.consistent.wellFormed valid
  obtain ⟨reached, _, kept⟩ := (ends_sync formed measured dirty).of_ok syncs
  obtain ⟨units, written⟩ := of_sync formed measured dirty syncs
  have vouched (index : Nat) (within : index < geometry.bitmapBlocks) :
      geometry.Vouches size index (before (geometry.bitmapBlock index)) := by
    rw [show before _ = _ from written index within]
    exact formed.vouches_blockImage index
  have same (block : Nat) : (before block).length = geometry.blockSize :=
    (Partition.length_image _ _).trans reached.same
  have full (block : Nat) : (image block).length = geometry.blockSize :=
    (Partition.length_image _ _).trans reached.same
  have measures : partition.MeasuredBy altered.device.shape :=
    measured.of_shape (shape.trans units)
  rw [← shape] at reached
  obtain ⟨after, loads⟩ := exists_load measures valid reached sound
  constructor
  · intro tampered
    have bad := badBlocks_stored_of_tampered valid full same vouched tampered
    refine ⟨_, after, loads, bad, pairwise_badBlocks valid, fun first rest names => ?_⟩
    have fails : (stored geometry image).verify = .error (.atBlock .bitmapChecksum first) := by
      rw [verify, names]
    exact ⟨_, fails, rfl, rfl⟩
  · intro padded
    have unread : stored geometry image = synced.memory := (stored_of_padding padded).trans kept
    have good := badBlocks_stored_of_vouched valid same vouched
    rw [show stored geometry before = synced.memory from kept] at good
    rw [show stored state.memory.geometry (altered.image partition) = _ from unread] at loads
    exact ⟨after, loads, good⟩

/-- The small volume is new, and its device serves every request. -/
def Sample.ready : Attached Allocator Store :=
  { Sample.start with disk := Sample.start.disk.repaired }

/-- A disk for the small volume that holds a content of its bitmap block. -/
def Sample.holding (content : Bytes) : Disk Store where
  device :=
    { shape := Sample.ready.disk.device.shape
      start := fun _ => 0
      effects := [Sample.whole.blockWrite (Sample.ready.memory.geometry.bitmapBlock 0) content] }

/-- The bitmap block of the small volume, with two bytes of the segment changed. -/
def Sample.flipped : Bytes := ((Sample.ready.memory.blockImage 0).set 10 0x30).set 20 0x07

/-- The bitmap block of the small volume, with a byte behind the end of the bitmap changed. -/
def Sample.scratched : Bytes := (Sample.ready.memory.blockImage 0).set 100 0x30

/-- The bitmap block of the small volume has the content that it was given. -/
theorem Sample.image_holding {content : Bytes} (full : content.length = 512) :
    (Sample.holding content).image Sample.whole
      (Sample.ready.memory.geometry.bitmapBlock 0) = content := by
  have sectored : Sample.whole.Sectored := ⟨by decide, by decide⟩
  have written : Sample.whole.image ((Sample.holding []).device.start.after
      (Sample.whole.blockWrite (Sample.ready.memory.geometry.bitmapBlock 0) content)) = _ :=
    Partition.image_after_blockWrite sectored full
  exact (congrFun written _).trans (Function.update_self _ _ _)

/-- A sync of the small volume returns. -/
theorem Sample.exists_sync : ∃ synced, sync Sample.whole Sample.ready = .ok () synced := by
  have returns : EStateM.Result.casesOn (sync Sample.whole Sample.ready) (fun _ _ => true)
      (fun _ _ => false) = true := by decide +kernel
  cases syncs : sync Sample.whole Sample.ready with
  | ok _ synced => exact ⟨synced, rfl⟩
  | error error synced =>
    rw [syncs] at returns
    exact absurd returns Bool.false_ne_true

/-- The allocator of the small volume is new. -/
theorem Sample.reachable_ready : Reachable Sample.ready.memory := by
  have creates : create Sample.volume = .ok Sample.ready.memory := rfl
  exact .created creates

/-- On the small volume two bytes of the segment are changed, and the bitmap block is bad. When a
byte behind the end of the bitmap is changed, nothing is. -/
theorem load_shows_tampering_sample : ∃ synced loaded after later,
    sync Sample.whole Sample.ready = .ok () synced ∧
    load Sample.whole Sample.volume (Sample.holding Sample.flipped) = .ok loaded after ∧
    loaded.badBlocks = [130] ∧
    (∃ error, loaded.verify = .error error ∧ error.kind = .corrupted ∧ error.block = some 130) ∧
    load Sample.whole Sample.volume (Sample.holding Sample.scratched) =
      .ok synced.memory later := by
  have reachable := Sample.reachable_ready
  have accepted : Sample.ready.memory.geometry.check = .ok () := rfl
  have dirty : Sample.ready.memory.dirty = true := rfl
  have measured : Sample.whole.MeasuredBy Sample.ready.disk.device.shape :=
    ⟨⟨by decide, by decide⟩, rfl, rfl⟩
  have formed := reachable.consistent.wellFormed (Geometry.blockSize_of_check accepted)
  have one : Sample.ready.memory.geometry.bitmapBlocks = 1 := by decide
  obtain ⟨synced, syncs⟩ := Sample.exists_sync
  obtain ⟨shape, written⟩ := of_sync formed measured dirty syncs
  have wrote := written 0 (one.symm ▸ Nat.zero_lt_one)
  have sound (content : Bytes) : (Sample.holding content).device.Sound := ⟨fun _ _ => rfl⟩
  have flipped := Sample.image_holding (show Sample.flipped.length = 512 by decide +kernel)
  have scratched := Sample.image_holding (show Sample.scratched.length = 512 by decide +kernel)
  have tampered : Sample.ready.memory.geometry.Tampered
      (Bitmap.byteCount Sample.ready.memory.geometry.blockCount) 0
      (Sample.ready.memory.blockImage 0) Sample.flipped :=
    .segment ⟨by decide +kernel, by decide +kernel⟩ (by decide +kernel)
  have padded : Bytes.ChangedWithin
      (Geometry.checksumSize + Sample.ready.memory.geometry.segmentSize
        (Bitmap.byteCount Sample.ready.memory.geometry.blockCount) 0)
      (Sample.ready.memory.geometry.bytesPerBlock - Sample.ready.memory.geometry.segmentSize
        (Bitmap.byteCount Sample.ready.memory.geometry.blockCount) 0)
      (Sample.ready.memory.blockImage 0) Sample.scratched :=
    ⟨by decide +kernel, by decide +kernel⟩
  rw [← flipped, ← wrote] at tampered
  rw [← scratched, ← wrote] at padded
  have alike (content : Bytes) :
      (Sample.holding content).device.shape = synced.disk.device.shape := shape.symm
  obtain ⟨shows, _⟩ := load_shows_tampering reachable accepted dirty measured syncs
    (alike Sample.flipped) (sound Sample.flipped)
  obtain ⟨_, hides⟩ := load_shows_tampering reachable accepted dirty measured syncs
    (alike Sample.scratched) (sound Sample.scratched)
  rw [one] at shows hides
  obtain ⟨loaded, after, loads, bad, _, fails⟩ :=
    shows (Nat.forall_lt_succ_right.2 ⟨nofun, tampered⟩)
  obtain ⟨later, again, _⟩ := hides (Nat.forall_lt_succ_right.2 ⟨nofun, padded⟩)
  have changed : (Sample.holding Sample.flipped).image Sample.whole
      (Sample.ready.memory.geometry.bitmapBlock 0) ≠
        synced.disk.image Sample.whole (Sample.ready.memory.geometry.bitmapBlock 0) := by
    rw [flipped, wrote]
    decide +kernel
  have names : loaded.badBlocks = [130] := by
    rw [bad, Geometry.changedBlocks, one]
    exact List.filter_cons_of_pos (decide_eq_true changed)
  exact ⟨synced, loaded, after, later, syncs, loads, names, fails _ _ names, again⟩

end Allocator

end JournaledVolume
