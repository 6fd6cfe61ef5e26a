import JournaledVolume.Proofs.BlockArray
import JournaledVolume.Proofs.Keeping
import Mathlib.Logic.Relation

/-!
# Which bytes a partition may change

A block starts in the sector in which its first byte lies. Where a partition starts with a sector,
its blocks are its own bytes, and no write leaves it, whatever the device does. Where it starts
within a sector, all its blocks lie as many bytes too early, and a write of the first block changes
bytes that lie before the partition. No write changes a byte behind a partition.
-/

namespace JournaledVolume

open JournaledVolume.Action DiskM

/-- Whether all bytes that differ between two devices lie between two offsets. -/
structure Store.Within (start stop : Nat) (before after : Store) : Prop where
  /-- The units and the capacity are the same. -/
  shape : after.shape = before.shape
  /-- The other bytes are the same. -/
  content : ∀ place, place < start ∨ stop ≤ place → after.content place = before.content place

namespace Store.Within

variable {start stop first last : Nat} {before between after : Store}

/-- Nothing differs between a device and itself. -/
theorem refl (store : Store) : Within start stop store store := ⟨rfl, fun _ _ => rfl⟩

/-- Bytes that two changes leave differ nowhere. -/
theorem trans (early : Within start stop before between) (late : Within start stop between after) :
    Within start stop before after :=
  ⟨late.shape.trans early.shape,
    fun place beyond => (late.content place beyond).trans (early.content place beyond)⟩

/-- Bytes that lie between two offsets lie between offsets further apart. -/
theorem mono (within : Within first last before after) (front : start ≤ first)
    (behind : last ≤ stop) : Within start stop before after := by
  refine ⟨within.shape, fun place beyond => within.content place ?_⟩
  omega

end Store.Within

/-- A write of sectors changes their bytes at most, however the device answers. -/
theorem Store.ends_writeSectors_within (store : Store) (first : Nat) (data : Bytes) :
    Ends (BlockDevice.writeSectors first data : Action Store Nat) store
      (fun _ after => Within (first * store.shape.sectorSize)
        (first * store.shape.sectorSize + data.length) store after)
      fun _ after => Within (first * store.shape.sectorSize)
        (first * store.shape.sectorSize + data.length) store after := by
  have apart (place : Nat) (beyond : place < first * store.shape.sectorSize ∨
      first * store.shape.sectorSize + data.length ≤ place) :
      ∀ effect ∈ [Effect.write (first * store.shape.sectorSize) data], ¬ effect.Covers place := by
    rw [List.forall_mem_singleton, Effect.Covers]
    omega
  have stricken (after : Store)
      (struck : store.Struck after [.write (first * store.shape.sectorSize) data]) :
      Within (first * store.shape.sectorSize)
        (first * store.shape.sectorSize + data.length) store after := by
    refine ⟨?_, fun place beyond => struck.content (apart place beyond)⟩
    obtain ⟨_, _, _, rfl, _⟩ := struck
    rfl
  by_cases inside : first + data.length / store.shape.sectorSize ≤ store.sectorCount
  · refine (ends_writeSectors store inside).mono ?_ fun _ after => stricken after
    rintro moved after (⟨_, _, rfl⟩ | ⟨_, struck⟩)
    · refine ⟨rfl, fun place beyond => ?_⟩
      rw [content_advance]
      exact Content.afterAll_of_not_covers (apart place beyond)
    · exact stricken after struck
  · have refused := ends_writeSectors_of_outside store (Nat.lt_of_not_le inside)
    refine refused.mono (fun _ _ => False.elim) ?_
    rintro _ after rfl
    refine ⟨rfl, fun _ _ => ?_⟩
    rw [content_advance, Content.afterAll_nil]

namespace Partition

variable {partition : Partition} {block count : Nat}

/-- The first byte of the sector in which a partition starts. -/
def sectorStart (partition : Partition) : Nat :=
  partition.offset / partition.sectorSize * partition.sectorSize

/-- The blocks of a partition lie one behind the other from there. -/
theorem run_bounds (sectored : partition.Sectored) (inside : block + count ≤ partition.length) :
    partition.sectorStart ≤ partition.offsetOf block ∧
      partition.offsetOf block + count * partition.blockSize ≤
        partition.sectorStart + partition.length * partition.blockSize := by
  have upTo : (block + count) * partition.blockSize ≤ partition.length * partition.blockSize :=
    Nat.mul_le_mul_right _ inside
  rw [Nat.add_mul] at upTo
  rw [offsetOf_eq sectored, ← sectorStart]
  omega

/-- Whether all bytes that differ between two devices are those of the blocks of a partition. -/
def Encloses (partition : Partition) (before after : Store) : Prop :=
  Store.Within partition.sectorStart
    (partition.sectorStart + partition.length * partition.blockSize) before after

end Partition

variable {partition : Partition} {first : Store} {disk before after : Disk Store} {block : Nat}

namespace DiskM

/-- A write of blocks changes bytes of the blocks of the partition at most. -/
theorem keeps_writeBlocks (measured : partition.MeasuredBy first.shape) (block count : Nat)
    (buffer : Bytes) :
    (writeBlocks partition block count buffer).Keeps (partition.Encloses first ·.device)
      (partition.Encloses first ·.device) := by
  intro disk enclosed
  by_cases refused : buffer.length < count * partition.blockSize ∨
      partition.length < block + count ∨ BlockDevice.readOnly disk.device = true
  · refine (ends_writeBlocks_refused disk refused).mono (fun _ _ => False.elim) ?_
    rintro _ after rfl
    exact enclosed
  · rw [not_or, not_or, Nat.not_lt, Nat.not_lt, Bool.not_eq_true] at refused
    obtain ⟨enough, inside, writable⟩ := refused
    have changes := disk.device.ends_writeSectors_within (partition.sectorOf block)
      (buffer.take (count * partition.blockSize))
    obtain ⟨front, behind⟩ := Partition.run_bounds measured.toSectored inside
    rw [List.length_take_of_le enough, enclosed.shape, ← measured.sectorSize_eq] at changes
    refine (ends_writeBlocks enough inside disk writable).mono ?_ ?_
    · intro _ after ⟨_, _, moved, called, _⟩
      exact enclosed.trans ((changes.of_ok called).mono front behind)
    · rintro _ after ⟨_, _, ⟨failure, failed⟩ | ⟨moved, called, _⟩⟩
      · exact enclosed.trans ((changes.of_error failed).mono front behind)
      · exact enclosed.trans ((changes.of_ok called).mono front behind)

/-- Unless a fault comes, a block that is reached is filled with a byte and starts with it. -/
theorem exists_fill (measured : partition.MeasuredBy disk.device.shape)
    (sound : disk.device.Sound) (writable : disk.device.readOnly = false)
    (reaches : partition.Reaches disk.device.shape block) (value : UInt8) :
    ∃ written after, writeBlocks partition block 1 (List.replicate partition.blockSize value) disk =
        .ok written after ∧ after.device.content (partition.offsetOf block) = value := by
  have positive : 0 < partition.blockSize := Partition.blockSize_pos reaches.inside
  have enough : 1 * partition.blockSize ≤ (List.replicate partition.blockSize value).length := by
    rw [Nat.one_mul, List.length_replicate]
  obtain ⟨written, after, ran⟩ := exists_writeBlocks measured sound writable reaches.run enough
  obtain ⟨_, _, _, _, _, left⟩ := left_of_writeBlocks measured ran
  refine ⟨written, after, ran, ?_⟩
  rw [left.content, Nat.one_mul, List.take_replicate, Nat.min_self]
  simp only [Content.after, Nat.le_refl, if_true, Nat.sub_self]
  exact List.getD_replicate _ positive

end DiskM

/-- Whether a request to write blocks of a partition leads from one disk to another, whatever
became of the request. -/
inductive Writes (partition : Partition) (before after : Disk Store) : Prop where
  /-- Several blocks were to be written. -/
  | run (block count : Nat) (buffer : Bytes)
    (leaves : (writeBlocks partition block count buffer).Leaves before after)
  /-- One block was to be written. -/
  | single (block : Nat) (buffer : Bytes)
    (leaves : (writeBlock partition block buffer).Leaves before after)

/-- A write request changes bytes of the blocks of the partition at most. -/
theorem Writes.encloses (writes : Writes partition before after)
    (measured : partition.MeasuredBy first.shape)
    (enclosed : partition.Encloses first before.device) :
    partition.Encloses first after.device := by
  cases writes with
  | run block count buffer leaves =>
    exact (keeps_writeBlocks measured block count buffer before enclosed).of_leaves leaves
  | single block buffer leaves =>
    have keeps := (keeps_writeBlocks measured block 1 buffer).bind fun _ => keeps_pure ()
    exact (keeps before enclosed).of_leaves leaves

/-- Any number of write requests change bytes of the blocks of the partition at most. -/
theorem Writes.encloses_all (run : Relation.ReflTransGen (Writes partition) before after)
    (measured : partition.MeasuredBy before.device.shape) :
    partition.Encloses before.device after.device := by
  induction run with
  | refl => exact .refl _
  | tail _ writes ih => exact writes.encloses measured ih

/-- Where a partition starts within a sector, filling its first block changes a byte before it. -/
theorem exists_write_before {shape : Shape} (lies : partition.LiesOn shape)
    (some : 0 < partition.length) (within : ¬ partition.sectorSize ∣ partition.offset) :
    ∃ before after : Disk Store, before.device.shape = shape ∧ Writes partition before after ∧
      ∃ place < partition.offset, after.device.content place ≠ before.device.content place := by
  have sectored := lies.toSectored
  let before : Disk Store := { device := { shape, start := fun _ => 0 } }
  have measured : partition.MeasuredBy before.device.shape := lies.measuredBy
  obtain ⟨written, after, ran, changed⟩ :=
    exists_fill measured ⟨fun _ _ => rfl⟩ rfl (lies.reaches some) 1
  -- The first block starts where its sector does.
  have early : partition.offsetOf 0 < partition.offset := by
    have start := Nat.div_mul_le_self partition.offset partition.sectorSize
    have unequal : partition.offset / partition.sectorSize * partition.sectorSize ≠
        partition.offset := fun whole => within ⟨_, (Nat.mul_comm _ _).trans whole |>.symm⟩
    rw [Partition.offsetOf_eq sectored, Nat.zero_mul, Nat.zero_add]
    omega
  refine ⟨before, after, rfl, .run 0 1 _ (.inl ⟨written, ran⟩), partition.offsetOf 0, early, ?_⟩
  rw [changed]
  exact (by decide : (1 : UInt8) ≠ 0)

/-- Write requests of any number and outcome change no byte behind a partition, and none before the
sector in which it starts. So they change no byte outside a partition that starts with a sector. On
a device that holds it, this is needed: if a partition with a block starts within a sector, a write
changes a byte before it. -/
theorem writes_confined {shape : Shape} {all : Partition} {offset size : Nat}
    (accepted : Partition.whole shape = .ok all) (part : partition = all.restrict offset size) :
    (∀ before after : Disk Store, before.device.shape = shape →
      Relation.ReflTransGen (Writes partition) before after →
      ∀ place, place < offset / shape.sectorSize * shape.sectorSize ∨
          offset / shape.sectorSize * shape.sectorSize + partition.length * shape.blockSize ≤ place →
        after.device.content place = before.device.content place) ∧
    (shape.sectorSize ∣ offset → ∀ before after : Disk Store, before.device.shape = shape →
      Relation.ReflTransGen (Writes partition) before after →
      ∀ place, place < offset ∨ offset + size ≤ place →
        after.device.content place = before.device.content place) ∧
    (offset + size ≤ shape.totalBlocks * shape.blockSize → 0 < partition.length →
      ¬ shape.sectorSize ∣ offset → ∃ before after : Disk Store, before.device.shape = shape ∧
        Writes partition before after ∧
        ∃ place < offset, after.device.content place ≠ before.device.content place) := by
  subst part
  have measured := Partition.measuredBy_of_whole accepted offset size
  have sector := measured.sectorSize_eq
  have block := measured.blockSize_eq
  have bounded : ∀ before after : Disk Store, before.device.shape = shape →
      Relation.ReflTransGen (Writes (all.restrict offset size)) before after →
      ∀ place, place < offset / shape.sectorSize * shape.sectorSize ∨
          offset / shape.sectorSize * shape.sectorSize +
            (all.restrict offset size).length * shape.blockSize ≤ place →
        after.device.content place = before.device.content place := by
    rintro before after rfl run place beyond
    rw [← sector, ← block] at beyond
    exact (Writes.encloses_all run measured).content place beyond
  refine ⟨bounded, ?aligned, ?unaligned⟩
  case aligned =>
    intro whole before after same run place beyond
    have start : offset / shape.sectorSize * shape.sectorSize = offset := Nat.div_mul_cancel whole
    have stop : (all.restrict offset size).length * shape.blockSize ≤ size := by
      rw [← block]
      exact Nat.div_mul_le_self _ _
    refine bounded before after same run place ?_
    rw [start]
    omega
  case unaligned =>
    intro inside some within
    have lies : (all.restrict offset size).LiesOn shape :=
      ⟨measured.toSectored, block, sector, inside⟩
    rw [← sector] at within
    exact exists_write_before lies some within

/-- A partition of two blocks that starts with the third sector. -/
def Sample.apart : Partition :=
  { blockSize := 512, sectorSize := 512, offset := 1024, size := 1024 }

/-- A write to a partition that starts with a sector stores its bytes there and nowhere else. -/
theorem writes_confined_sample : ∃ after : Disk Store,
    Writes Sample.apart Sample.empty after ∧ after.device.content 1024 = 7 ∧
      ∀ place, place < 1024 ∨ 1024 + 1024 ≤ place →
        after.device.content place = Sample.empty.device.content place := by
  have measured : Sample.apart.MeasuredBy Sample.empty.device.shape :=
    @Partition.measuredBy_of_whole ⟨512, 512, 8⟩ _ rfl 1024 1024
  have reaches : Sample.apart.Reaches Sample.empty.device.shape 0 := ⟨by decide, by decide⟩
  obtain ⟨written, after, ran, stored⟩ := exists_fill measured ⟨fun _ _ => rfl⟩ rfl reaches 7
  obtain ⟨_, confined, _⟩ := @writes_confined Sample.apart ⟨512, 512, 8⟩ _ 1024 1024 rfl rfl
  have writes : Writes Sample.apart Sample.empty after := .run 0 1 _ (.inl ⟨written, ran⟩)
  exact ⟨after, writes, stored, confined (by decide) _ after rfl (.single writes)⟩

/-- A write to a partition that starts with byte 100 changes byte 0. -/
theorem write_before_partition :
    (∃ all, Partition.whole Sample.empty.device.shape = .ok all ∧
      Sample.within = all.restrict 100 1024) ∧
    Sample.within.offset + Sample.within.size ≤ 8 * 512 ∧
    ∃ written after,
      writeBlocks Sample.within 0 1 (List.replicate 512 0xaa) Sample.empty = .ok written after ∧
        Sample.empty.device.content 0 = 0 ∧ after.device.content 0 = 0xaa := by
  have measured : Sample.within.MeasuredBy Sample.empty.device.shape :=
    @Partition.measuredBy_of_whole ⟨512, 512, 8⟩ _ rfl 100 1024
  have reaches : Sample.within.Reaches Sample.empty.device.shape 0 := ⟨by decide, by decide⟩
  obtain ⟨written, after, ran, stored⟩ := exists_fill measured ⟨fun _ _ => rfl⟩ rfl reaches 0xaa
  exact ⟨⟨_, rfl, rfl⟩, by decide, written, after, ran, rfl, stored⟩

end JournaledVolume
