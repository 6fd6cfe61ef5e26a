import JournaledVolume.Proofs.Requests
import JournaledVolume.Proofs.Transfers
import Mathlib.Data.List.Perm.Basic

/-!
# Runs of blocks

The blocks of a run lie one behind the other on the device, in sectors of their own, wherever the
partition starts. So a run is written by writing its blocks in any order, and read by reading them
in turn. A request for a run that succeeds on a store moved all its bytes; one that fails may have
changed the bytes of the run, and no others.
-/

namespace JournaledVolume

open JournaledVolume.Action

namespace Content

variable {content : Content} {first second : Effect} {offset skip size total : Nat}

/-- A part of a slice is a slice. -/
theorem take_drop_slice (fits : skip + size ≤ total) :
    ((content.slice offset total).drop skip).take size = content.slice (offset + skip) size := by
  obtain ⟨rest, rfl⟩ := Nat.exists_eq_add_of_le fits
  rw [Nat.add_assoc, slice_append, List.drop_left' length_slice, slice_append,
    List.take_left' length_slice]

/-- A write may be split in two. -/
theorem after_write_append (content : Content) (offset : Nat) (front behind : Bytes) :
    content.after (.write offset (front ++ behind)) =
      (content.after (.write offset front)).after (.write (offset + front.length) behind) := by
  funext place
  by_cases late : offset + front.length ≤ place
  · have early : offset ≤ place := Nat.le_of_add_right_le late
    have beyond : front.length ≤ place - offset := by omega
    have rest : place - offset - front.length = place - (offset + front.length) := by omega
    simp only [after, if_pos late, if_pos early, List.getD_append_right _ _ _ _ beyond, rest,
      List.getD_eq_default _ _ beyond]
  · by_cases early : offset ≤ place
    · have within : place - offset < front.length := by omega
      simp only [after, if_neg late, if_pos early, List.getD_append _ _ _ _ within]
    · simp only [after, if_neg late, if_neg early]

/-- Effects that decide different places may come in either order. -/
theorem after_comm (apart : ∀ place, first.Covers place → ¬ second.Covers place) :
    (content.after first).after second = (content.after second).after first := by
  funext place
  by_cases one : first.Covers place
  · rw [after_of_not_covers (apart place one)]
    exact after_of_covers one
  · rw [after_of_not_covers one]
    by_cases two : second.Covers place
    · exact after_of_covers two
    · rw [after_of_not_covers two, after_of_not_covers two, after_of_not_covers one]

end Content

namespace Partition

variable {partition : Partition} {shape : Shape} {block count index other : Nat} {buffer : Bytes}

/-- Whether a partition has the blocks of a run and the device has their sectors. -/
structure ReachesRun (partition : Partition) (shape : Shape) (block count : Nat) : Prop where
  /-- The run lies in the partition. -/
  inside : block + count ≤ partition.length
  /-- Its sectors lie within the capacity. -/
  within : partition.sectorOf block + count * partition.sectorsPerBlock ≤
    shape.totalBlocks * shape.blockSize / shape.sectorSize

/-- The sectors of a block follow those of the blocks before it. -/
theorem sectorOf_add (sectored : partition.Sectored) (block index : Nat) :
    partition.sectorOf (block + index) =
      partition.sectorOf block + index * partition.sectorsPerBlock := by
  have positive := sectored.sector_pos
  have split : (block + index) * partition.blockSize + partition.offset =
      block * partition.blockSize + partition.offset +
        partition.sectorSize * (index * partition.sectorsPerBlock) := by
    rw [← sectorsPerBlock_mul sectored]
    ring
  rw [sectorOf, sectorOf, split, Nat.add_mul_div_left _ _ positive]

/-- Every block of a run is reached. -/
theorem ReachesRun.reaches (run : partition.ReachesRun shape block count)
    (sectored : partition.Sectored) (among : index < count) :
    partition.Reaches shape (block + index) := by
  have inside := run.inside
  have upTo : (index + 1) * partition.sectorsPerBlock ≤ count * partition.sectorsPerBlock :=
    Nat.mul_le_mul_right _ among
  rw [Nat.succ_mul] at upTo
  refine ⟨by omega, ?_⟩
  rw [sectorOf_add sectored]
  exact Nat.le_trans (by omega) run.within

/-- A block is a run. -/
theorem Reaches.run (reaches : partition.Reaches shape block) :
    partition.ReachesRun shape block 1 := by
  refine ⟨reaches.inside, ?_⟩
  rw [Nat.one_mul]
  exact reaches.within

/-- The sectors of a run hold as many bytes as its blocks. -/
theorem MeasuredBy.sectors_mul (measured : partition.MeasuredBy shape) (count : Nat) :
    count * partition.sectorsPerBlock * shape.sectorSize = count * partition.blockSize := by
  rw [← measured.sectorSize_eq, Nat.mul_assoc, sectorsPerBlock_mul measured.toSectored]

/-- The blocks of a run fill its sectors. -/
theorem MeasuredBy.blocks_div (measured : partition.MeasuredBy shape) (count : Nat) :
    count * partition.blockSize / shape.sectorSize = count * partition.sectorsPerBlock := by
  rw [← measured.sectorSize_eq, Nat.mul_div_assoc _ measured.sector_dvd, sectorsPerBlock]

/-- The bytes of a buffer that are the content of a block of a run. -/
def portion (partition : Partition) (buffer : Bytes) (index : Nat) : Bytes :=
  (buffer.drop (index * partition.blockSize)).take partition.blockSize

/-- A buffer that is large enough for a run has a block's bytes for each block. -/
theorem length_portion (enough : count * partition.blockSize ≤ buffer.length)
    (among : index < count) : (partition.portion buffer index).length = partition.blockSize := by
  have upTo : (index + 1) * partition.blockSize ≤ count * partition.blockSize :=
    Nat.mul_le_mul_right _ among
  rw [Nat.succ_mul] at upTo
  rw [portion, List.length_take, List.length_drop]
  omega

/-- Different blocks have different bytes on the device. -/
theorem blockWrite_apart (sectored : partition.Sectored) {data more : Bytes}
    (full : data.length = partition.blockSize) (also : more.length = partition.blockSize)
    (differs : block ≠ other) (place : Nat)
    (covers : (partition.blockWrite block data).Covers place) :
    ¬ (partition.blockWrite other more).Covers place := by
  simp only [blockWrite, Effect.Covers, full, also] at covers ⊢
  rcases Nat.lt_or_gt_of_ne differs with before | behind
  · have apart := offsetOf_add_le sectored (show block + 1 ≤ other from before)
    omega
  · have apart := offsetOf_add_le sectored (show other + 1 ≤ block from behind)
    omega

/-- The writes of the blocks of a run, in some order. -/
def portionWrites (partition : Partition) (block : Nat) (buffer : Bytes) (order : List Nat) :
    List Effect :=
  order.map fun index => partition.blockWrite (block + index) (partition.portion buffer index)

/-- Writing the blocks of a run in order is writing the run. -/
theorem afterAll_portionWrites (sectored : partition.Sectored)
    (enough : count * partition.blockSize ≤ buffer.length) (content : Content) :
    content.afterAll (partition.portionWrites block buffer (List.range count)) =
      content.after (.write (partition.offsetOf block)
        (buffer.take (count * partition.blockSize))) := by
  induction count with
  | zero => rw [Nat.zero_mul, List.take_zero, Content.after_write_nil]; rfl
  | succ count ih =>
    rw [Nat.succ_mul] at enough
    have room := Nat.le_of_add_right_le enough
    rw [portionWrites, List.range_succ, List.map_append, Content.afterAll_append,
      ← portionWrites, ih room, Nat.succ_mul, List.take_add, Content.after_write_append,
      List.length_take_of_le room, ← offsetOf_add sectored]
    rfl

/-- The order in which the blocks of a run are written does not matter. -/
theorem afterAll_portionWrites_of_perm (sectored : partition.Sectored)
    (enough : count * partition.blockSize ≤ buffer.length) {order : List Nat}
    (perm : order.Perm (List.range count)) (content : Content) :
    content.afterAll (partition.portionWrites block buffer order) =
      content.afterAll (partition.portionWrites block buffer (List.range count)) := by
  have sized (index : Nat) (known : index ∈ order) :
      (partition.portion buffer index).length = partition.blockSize :=
    length_portion enough (List.mem_range.1 (perm.mem_iff.1 known))
  -- Two writes of the run are the same, or of blocks that lie apart.
  refine (perm.map _).foldl_eq' ?_ content
  intro first early second late between
  obtain ⟨index, known, rfl⟩ := List.mem_map.1 early
  obtain ⟨other, also, rfl⟩ := List.mem_map.1 late
  by_cases same : index = other
  · rw [same]
  · have differs : block + index ≠ block + other := by omega
    exact Content.after_comm
      (blockWrite_apart sectored (sized index known) (sized other also) differs)

/-- After a run was written, each of its blocks is its portion of the buffer. -/
theorem image_after_run (sectored : partition.Sectored)
    (enough : count * partition.blockSize ≤ buffer.length) (among : index < count)
    (content : Content) :
    partition.image (content.after (.write (partition.offsetOf block)
      (buffer.take (count * partition.blockSize)))) (block + index) =
      partition.portion buffer index := by
  have upTo : (index + 1) * partition.blockSize ≤ count * partition.blockSize :=
    Nat.mul_le_mul_right _ among
  rw [Nat.succ_mul] at upTo
  have whole := @Content.slice_after_write content (partition.offsetOf block)
    (buffer.take (count * partition.blockSize))
  rw [List.length_take_of_le enough] at whole
  rw [image, offsetOf_add sectored, ← Content.take_drop_slice upTo, whole, portion,
    List.drop_take, List.take_take, Nat.min_eq_left (by omega)]

/-- Writing a run leaves the other blocks. -/
theorem image_after_run_of_outside (sectored : partition.Sectored)
    (outside : other < block ∨ block + count ≤ other) (content : Content) :
    partition.image (content.after (.write (partition.offsetOf block)
      (buffer.take (count * partition.blockSize)))) other = partition.image content other := by
  have size := List.length_take_le (count * partition.blockSize) buffer
  apply Content.slice_after_of_apart
  rcases outside with before | behind
  · have apart := offsetOf_add_le sectored (show other + 1 ≤ block from before)
    omega
  · have apart := offsetOf_add_le sectored behind
    omega

/-- The blocks of a run, one behind the other, are what the device holds there. -/
theorem flatten_image (sectored : partition.Sectored) (content : Content) (block count : Nat) :
    ((List.range count).map fun index => partition.image content (block + index)).flatten =
      content.slice (partition.offsetOf block) (count * partition.blockSize) := by
  induction count with
  | zero => rw [Nat.zero_mul]; rfl
  | succ count ih =>
    rw [List.range_succ, List.map_append, List.flatten_append, ih, Nat.succ_mul,
      Content.slice_append, ← offsetOf_add sectored]
    simp [image]

end Partition

namespace Torn

variable {reached : Nat} {whole part : List Effect}

/-- What breaks off decides no place that the whole would not decide. -/
theorem not_covers {place : Nat} (torn : Torn reached whole part)
    (apart : ∀ effect ∈ whole, ¬ effect.Covers place) : ∀ effect ∈ part, ¬ effect.Covers place := by
  induction torn with
  | nothing whole => exact nofun
  | last effect rest =>
    have whole := apart effect List.mem_cons_self
    rw [List.forall_mem_singleton]
    cases effect with
    | flush => exact id
    | write offset data =>
      simp only [Effect.cut, Effect.Covers, List.length_take] at whole ⊢
      omega
  | step effect _ ih =>
    obtain ⟨first, later⟩ := List.forall_mem_cons.1 apart
    exact List.forall_mem_cons.2 ⟨first, ih later⟩

end Torn

namespace Store

variable {store after : Store} {first count moved : Nat} {data : Bytes} {whole : List Effect}

/-- A call that met a fault leaves the places that it would not decide. -/
theorem Struck.content (struck : store.Struck after whole) {place : Nat}
    (apart : ∀ effect ∈ whole, ¬ effect.Covers place) :
    after.content place = store.content place := by
  obtain ⟨fault, part, _, rfl, torn⟩ := struck
  rw [content_advance]
  exact Content.afterAll_of_not_covers (torn.not_covers apart)

/-- A device that answers every request meets no fault. -/
theorem Struck.not_sound (struck : store.Struck after whole) : ¬ store.Sound := by
  obtain ⟨fault, _, planned, _⟩ := struck
  intro sound
  rw [sound.answers _ (Nat.le_refl _)] at planned
  exact nomatch planned

/-- Whether a device is what a call left of another, and holds a content. -/
structure Left (store after : Store) (content : Content) : Prop where
  /-- The device is the same, but for the call and its effects. -/
  advanced : ∃ effects, after = store.advance 1 effects
  /-- What it holds. -/
  content : after.content = content

/-- A call leaves the units and the capacity. -/
theorem Left.shape {content : Content} (left : store.Left after content) :
    after.shape = store.shape := by
  obtain ⟨_, rfl⟩ := left.advanced
  rfl

/-- A device that answers every request does so after a call. -/
theorem Left.sound {content : Content} (left : store.Left after content) (sound : store.Sound) :
    after.Sound := by
  obtain ⟨_, rfl⟩ := left.advanced
  exact sound.advance

/-- A device takes writes after a call if it did before. -/
theorem Left.readOnly {content : Content} (left : store.Left after content) :
    after.readOnly = store.readOnly := by
  obtain ⟨_, rfl⟩ := left.advanced
  rfl

/-- A write that takes all bytes lies within the capacity, and the device holds them. -/
theorem left_of_writeSectors
    (called : (BlockDevice.writeSectors first data : Action Store Nat) store = .ok moved after)
    (full : data.length ≤ moved) :
    first + data.length / store.shape.sectorSize ≤ store.sectorCount ∧
      store.Left after (store.content.after (.write (first * store.shape.sectorSize) data)) := by
  by_cases inside : first + data.length / store.shape.sectorSize ≤ store.sectorCount
  · refine ⟨inside, ?_⟩
    rcases (ends_writeSectors store inside).of_ok called with ⟨_, _, rfl⟩ | ⟨short, struck⟩
    · exact ⟨⟨_, rfl⟩, content_advance⟩
    -- A fault goes unnoticed only if there was nothing to write.
    · obtain rfl : data = [] := List.length_eq_zero_iff.1 (by omega)
      have same : after.content = store.content := by
        funext place
        refine struck.content ?_
        rw [List.forall_mem_singleton, Effect.Covers, List.length_nil]
        omega
      obtain ⟨_, part, _, rfl, _⟩ := struck
      refine ⟨⟨part, rfl⟩, ?_⟩
      rw [same, Content.after_write_nil]
  · have outside := Nat.lt_of_not_le inside
    exact ((ends_writeSectors_of_outside store outside).of_ok called).elim

/-- A read that delivers all bytes lies within the capacity, and the bytes are those of the
device. -/
theorem left_of_readSectors
    (called : (BlockDevice.readSectors first count : Action Store Bytes) store = .ok data after)
    (full : count * store.shape.sectorSize ≤ data.length) :
    first + count ≤ store.sectorCount ∧ store.Left after store.content ∧
      data = store.content.slice (first * store.shape.sectorSize)
        (count * store.shape.sectorSize) := by
  by_cases inside : first + count ≤ store.sectorCount
  · refine ⟨inside, ?_⟩
    rcases (ends_readSectors store inside).of_ok called with ⟨bytes, _, rfl⟩ | ⟨short, struck⟩
    · exact ⟨⟨⟨_, rfl⟩, content_advance⟩, bytes⟩
    · have none : count * store.shape.sectorSize = 0 := by omega
      have same : after.content = store.content := funext fun place => struck.content nofun
      obtain ⟨_, part, _, rfl, _⟩ := struck
      refine ⟨⟨⟨part, rfl⟩, same⟩, ?_⟩
      rw [none]
      exact List.length_eq_zero_iff.1 (by omega)
  · have outside := Nat.lt_of_not_le inside
    exact ((ends_readSectors_of_outside store outside).of_ok called).elim

end Store

namespace DiskM

variable {partition : Partition} {disk after : Disk Store} {block count written : Nat}
  {buffer data : Bytes}

/-- A successful write of blocks stores the front of the buffer in the sectors of the run. -/
theorem left_of_writeBlocks (measured : partition.MeasuredBy disk.device.shape)
    (ran : writeBlocks partition block count buffer disk = .ok written after) :
    partition.ReachesRun disk.device.shape block count ∧
      count * partition.blockSize ≤ buffer.length ∧ disk.device.readOnly = false ∧
      written = count * partition.blockSize ∧ after.writes = disk.writes + count ∧
      disk.device.Left after.device (disk.device.content.after
        (.write (partition.offsetOf block) (buffer.take (count * partition.blockSize)))) := by
  have admitted : ¬ (buffer.length < count * partition.blockSize ∨
      partition.length < block + count ∨ BlockDevice.readOnly disk.device = true) :=
    fun refused => (ends_writeBlocks_refused disk refused).of_ok ran
  rw [not_or, not_or, Nat.not_lt, Nat.not_lt, Bool.not_eq_true] at admitted
  obtain ⟨enough, inside, writable⟩ := admitted
  obtain ⟨counted, size, moved, called, full⟩ :=
    (ends_writeBlocks enough inside disk writable).of_ok ran
  have length := List.length_take_of_le enough
  obtain ⟨within, left⟩ := Store.left_of_writeSectors called (length.le.trans full)
  rw [length, measured.blocks_div] at within
  rw [← measured.sectorSize_eq] at left
  exact ⟨⟨inside, within⟩, enough, writable, size, congrArg Disk.writes counted, left⟩

/-- A successful read of blocks returns what the device holds in the sectors of the run. -/
theorem left_of_readBlocks (measured : partition.MeasuredBy disk.device.shape)
    (ran : readBlocks partition block count disk = .ok data after) :
    partition.ReachesRun disk.device.shape block count ∧
      data = disk.device.content.slice (partition.offsetOf block) (count * partition.blockSize) ∧
      after.reads = disk.reads + count ∧ disk.device.Left after.device disk.device.content := by
  have inside : block + count ≤ partition.length :=
    Nat.le_of_not_lt fun outside => (ends_readBlocks_refused disk outside).of_ok ran
  obtain ⟨counted, moved, called, full, rfl⟩ := (ends_readBlocks inside disk).of_ok ran
  have size := measured.sectors_mul count
  obtain ⟨within, left, bytes⟩ := Store.left_of_readSectors called (size.le.trans full)
  rw [size, ← measured.sectorSize_eq] at bytes
  refine ⟨⟨inside, within⟩, ?_, congrArg Disk.reads counted, left⟩
  rw [bytes]
  exact List.take_of_length_le Content.length_slice.le

/-- A device that answers every request takes a run that is reached. -/
theorem not_fallsShort_sectorWrite (measured : partition.MeasuredBy disk.device.shape)
    (sound : disk.device.Sound) (run : partition.ReachesRun disk.device.shape block count)
    (enough : count * partition.blockSize ≤ buffer.length) (after : Store) :
    ¬ FallsShort (sectorWrite partition block count buffer) id (count * partition.blockSize)
      disk.device after := by
  have length := List.length_take_of_le enough
  have within : partition.sectorOf block +
      (buffer.take (count * partition.blockSize)).length / disk.device.shape.sectorSize ≤
        disk.device.sectorCount := by
    rw [length, measured.blocks_div]
    exact run.within
  have answers := Store.ends_writeSectors disk.device within
  rintro (⟨failure, failed⟩ | ⟨moved, called, short⟩)
  · exact (answers.of_error failed).not_sound sound
  · rcases answers.of_ok called with ⟨all, _, _⟩ | ⟨_, struck⟩
    · rw [all, length] at short
      exact absurd short (Nat.lt_irrefl _)
    · exact struck.not_sound sound

/-- A device that answers every request delivers a run that is reached. -/
theorem not_fallsShort_sectorRead (measured : partition.MeasuredBy disk.device.shape)
    (sound : disk.device.Sound) (run : partition.ReachesRun disk.device.shape block count)
    (after : Store) :
    ¬ FallsShort (sectorRead partition block count) List.length (count * partition.blockSize)
      disk.device after := by
  have size := measured.sectors_mul count
  have answers := Store.ends_readSectors disk.device run.within
  rintro (⟨failure, failed⟩ | ⟨moved, called, short⟩)
  · exact (answers.of_error failed).not_sound sound
  · rcases answers.of_ok called with ⟨all, _, _⟩ | ⟨_, struck⟩
    · rw [all, Content.length_slice, size] at short
      exact absurd short (Nat.lt_irrefl _)
    · exact struck.not_sound sound

/-- Unless a fault comes, a run that is reached is written. -/
theorem exists_writeBlocks (measured : partition.MeasuredBy disk.device.shape)
    (sound : disk.device.Sound) (writable : disk.device.readOnly = false)
    (run : partition.ReachesRun disk.device.shape block count)
    (enough : count * partition.blockSize ≤ buffer.length) :
    ∃ written after, writeBlocks partition block count buffer disk = .ok written after := by
  have ends := ends_writeBlocks enough run.inside disk writable
  obtain ⟨written, after, ran, _⟩ := ends.exists_ok fun _ after failed =>
    not_fallsShort_sectorWrite measured sound run enough after.device failed.short
  exact ⟨written, after, ran⟩

/-- Unless a fault comes, a run that is reached is read. -/
theorem exists_readBlocks (measured : partition.MeasuredBy disk.device.shape)
    (sound : disk.device.Sound) (run : partition.ReachesRun disk.device.shape block count) :
    ∃ data after, readBlocks partition block count disk = .ok data after := by
  have ends := ends_readBlocks run.inside disk
  obtain ⟨data, after, ran, _⟩ := ends.exists_ok fun _ after failed =>
    not_fallsShort_sectorRead measured sound run after.device failed.short
  exact ⟨data, after, ran⟩

end DiskM

end JournaledVolume
