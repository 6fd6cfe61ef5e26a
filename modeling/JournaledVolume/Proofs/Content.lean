import JournaledVolume.Disk
import Mathlib.Logic.Function.Basic
import Mathlib.Data.List.GetD
import Mathlib.Tactic.Ring

/-!
# What a device holds

The content of a device is the byte at each offset. What reaches a device changes its content:
`Effect` is one such event, and a run of an operation is, for the device, a list of effects.

The last write to a place decides what it holds. Hence a list of effects that follows a part of
itself leaves the same content as it does alone (`Content.afterAll_absorb`), which is why work
that was interrupted can be started over.
-/

namespace JournaledVolume

/-- What a device holds: the byte at each offset. -/
abbrev Content := Nat → UInt8

/-- The content of each block of a partition. -/
abbrev Image := Nat → Bytes

/-- Something that reaches a device. -/
inductive Effect where
  /-- Bytes replace those from an offset on. -/
  | write (offset : Nat) (data : Bytes)
  /-- Everything written so far becomes stable. -/
  | flush
deriving DecidableEq, Repr

namespace Effect

/-- Whether an effect decides what a place holds. -/
def Covers (place : Nat) : Effect → Prop
  | write offset data => offset ≤ place ∧ place < offset + data.length
  | flush => False

/-- An effect of which only the first bytes reach the device. -/
def cut (reached : Nat) : Effect → Effect
  | write offset data => write offset (data.take reached)
  | flush => flush

end Effect

namespace Content

/-- The bytes from an offset on. -/
def slice (content : Content) (offset size : Nat) : Bytes := (List.range' offset size).map content

/-- The content after an effect. -/
def after (content : Content) : Effect → Content
  | .write offset data => fun place =>
    if offset ≤ place then data.getD (place - offset) (content place) else content place
  | .flush => content

/-- The content after effects in order. -/
def afterAll (content : Content) (effects : List Effect) : Content := effects.foldl after content

variable {content other : Content} {effect : Effect} {effects part : List Effect}
  {place offset size start : Nat} {data : Bytes}

/-- A slice has as many bytes as were asked for. -/
@[simp]
theorem length_slice : (content.slice offset size).length = size := by simp [slice]

/-- Without effects the content stays. -/
@[simp]
theorem afterAll_nil : content.afterAll [] = content := rfl

/-- Effects are applied list after list. -/
@[simp]
theorem afterAll_append :
    content.afterAll (effects ++ part) = (content.afterAll effects).afterAll part :=
  List.foldl_append

/-- The first effect is applied first. -/
@[simp]
theorem afterAll_cons :
    content.afterAll (effect :: effects) = (content.after effect).afterAll effects := rfl

/-- A place that an effect does not decide keeps its byte. -/
theorem after_of_not_covers (apart : ¬ effect.Covers place) :
    content.after effect place = content place := by
  cases effect with
  | write offset data =>
    simp only [Effect.Covers, not_and, not_lt] at apart
    simp only [after]
    split
    · next behind =>
      have beyond : data.length ≤ place - offset := by
        have past := apart behind
        omega
      rw [List.getD_eq_default _ _ beyond]
    · rfl
  | flush => rfl

/-- Writing no bytes changes nothing. -/
theorem after_write_nil (offset : Nat) : content.after (.write offset []) = content := by
  funext place
  simp only [after, List.getD_nil, ite_self]

/-- What a place holds that an effect decides does not depend on what it held. -/
theorem after_of_covers (covers : effect.Covers place) :
    content.after effect place = other.after effect place := by
  cases effect with
  | write offset data =>
    obtain ⟨behind, within⟩ := covers
    have inside : place - offset < data.length := by omega
    simp only [after, behind, if_true, List.getD_eq_getElem _ _ inside]
  | flush => exact covers.elim

/-- The last effect that decides a place decides it whatever it held before. -/
theorem afterAll_congr
    (decided : (∃ effect ∈ effects, effect.Covers place) ∨ content place = other place) :
    content.afterAll effects place = other.afterAll effects place := by
  induction effects generalizing content other with
  | nil => simpa using decided
  | cons effect effects ih =>
    apply ih
    by_cases covers : effect.Covers place
    · exact .inr (after_of_covers covers)
    · rw [after_of_not_covers covers, after_of_not_covers covers]
      simpa [covers] using decided

/-- A place that no effect decides keeps its byte. -/
theorem afterAll_of_not_covers (apart : ∀ effect ∈ effects, ¬ effect.Covers place) :
    content.afterAll effects place = content place := by
  induction effects generalizing content with
  | nil => rfl
  | cons effect effects ih =>
    rw [afterAll_cons, ih fun later member => apart later (List.mem_cons_of_mem _ member),
      after_of_not_covers (apart effect List.mem_cons_self)]

/-- Effects hide what was done before them to the places that they decide. -/
theorem afterAll_absorb
    (hidden : ∀ early ∈ part, ∀ place, early.Covers place → ∃ late ∈ effects, late.Covers place) :
    (content.afterAll part).afterAll effects = content.afterAll effects := by
  funext place
  apply afterAll_congr
  by_cases decided : ∃ late ∈ effects, late.Covers place
  · exact .inl decided
  · refine .inr (afterAll_of_not_covers fun early member covers => decided ?_)
    exact hidden early member place covers

/-- A slice is its front with what is behind it. -/
theorem slice_append (content : Content) (offset size rest : Nat) :
    content.slice offset (size + rest) =
      content.slice offset size ++ content.slice (offset + size) rest := by
  rw [slice, slice, slice, ← List.map_append, List.range'_append_1]

/-- Two contents with the same bytes in a range have the same slice. -/
theorem slice_congr
    (same : ∀ place, offset ≤ place → place < offset + size → content place = other place) :
    content.slice offset size = other.slice offset size := by
  simp only [slice, List.map_inj_left, List.mem_range'_1]
  exact fun place inside => same place inside.1 inside.2

/-- Bytes that were written are read back. -/
theorem slice_after_write :
    (content.after (.write offset data)).slice offset data.length = data := by
  apply List.ext_getElem length_slice
  intro index inside within
  simp only [slice, after, List.getElem_map, List.getElem_range', Nat.one_mul, Nat.le_add_right,
    if_true, Nat.add_sub_cancel_left, List.getD_eq_getElem _ _ within]

/-- A write elsewhere leaves a slice. -/
theorem slice_after_of_apart (apart : offset + data.length ≤ start ∨ start + size ≤ offset) :
    (content.after (.write offset data)).slice start size = content.slice start size := by
  apply slice_congr
  intro place behind within
  apply after_of_not_covers
  simp only [Effect.Covers]
  omega

end Content

namespace Partition

/-- Whether the blocks of a partition are whole sectors. -/
structure Sectored (partition : Partition) : Prop where
  /-- Sectors hold something. -/
  sector_pos : 0 < partition.sectorSize
  /-- A block is a number of sectors. -/
  sector_dvd : partition.sectorSize ∣ partition.blockSize

/-- The offset on the device at which a block starts. -/
def offsetOf (partition : Partition) (block : Nat) : Nat :=
  partition.sectorOf block * partition.sectorSize

/-- What the blocks of a partition hold on a device with a content. -/
def image (partition : Partition) (content : Content) : Image := fun block =>
  content.slice (partition.offsetOf block) partition.blockSize

/-- The effect of writing a block. -/
def blockWrite (partition : Partition) (block : Nat) (data : Bytes) : Effect :=
  .write (partition.offsetOf block) data

variable {partition : Partition}

/-- Blocks lie one behind the other, from the sector in which the partition starts. -/
theorem offsetOf_eq (sectored : partition.Sectored) (block : Nat) :
    partition.offsetOf block = block * partition.blockSize +
      partition.offset / partition.sectorSize * partition.sectorSize := by
  obtain ⟨count, whole⟩ := sectored.sector_dvd
  have split : (block * (partition.sectorSize * count) + partition.offset) / partition.sectorSize =
      block * count + partition.offset / partition.sectorSize := by
    rw [show block * (partition.sectorSize * count) + partition.offset =
        partition.offset + partition.sectorSize * (block * count) by ring]
    rw [Nat.add_mul_div_left _ _ sectored.sector_pos]
    omega
  rw [offsetOf, sectorOf, whole, split]
  ring

/-- The bytes of a block follow those of the blocks before it. -/
theorem offsetOf_add (sectored : partition.Sectored) (block index : Nat) :
    partition.offsetOf (block + index) = partition.offsetOf block + index * partition.blockSize := by
  rw [offsetOf_eq sectored, offsetOf_eq sectored]
  ring

/-- A run ends where the blocks behind it start, or before. -/
theorem offsetOf_add_le (sectored : partition.Sectored) {block count other : Nat}
    (before : block + count ≤ other) :
    partition.offsetOf block + count * partition.blockSize ≤ partition.offsetOf other := by
  obtain ⟨rest, rfl⟩ := Nat.exists_eq_add_of_le before
  rw [offsetOf_add sectored (block + count), offsetOf_add sectored block]
  exact Nat.le_add_right _ _

/-- The sectors of a block hold as many bytes as the block. -/
theorem sectorsPerBlock_mul (sectored : partition.Sectored) :
    partition.sectorsPerBlock * partition.sectorSize = partition.blockSize :=
  Nat.div_mul_cancel sectored.sector_dvd

/-- Writing at most a block leaves every other block. -/
theorem image_after_blockWrite_of_ne (sectored : partition.Sectored) {content : Content}
    {block other : Nat} {data : Bytes} (fits : data.length ≤ partition.blockSize)
    (differs : other ≠ block) :
    partition.image (content.after (partition.blockWrite block data)) other =
      partition.image content other := by
  apply Content.slice_after_of_apart
  rcases Nat.lt_or_gt_of_ne differs with before | behind
  · have apart := offsetOf_add_le sectored (show other + 1 ≤ block from before)
    omega
  · have apart := offsetOf_add_le sectored (show block + 1 ≤ other from behind)
    omega

/-- Writing the front of a block leaves what is behind it. -/
theorem image_after_blockWrite_self {content : Content} {block : Nat} {data : Bytes}
    (fits : data.length ≤ partition.blockSize) :
    partition.image (content.after (partition.blockWrite block data)) block =
      data ++ (partition.image content block).drop data.length := by
  obtain ⟨rest, size⟩ := Nat.exists_eq_add_of_le fits
  rw [image, image, blockWrite, size, Content.slice_append, Content.slice_append,
    Content.slice_after_write, Content.slice_after_of_apart (.inl le_rfl),
    List.drop_left' Content.length_slice]

/-- Writing a block changes what this block holds, and no other. -/
theorem image_after_blockWrite (sectored : partition.Sectored) {content : Content} {block : Nat}
    {data : Bytes} (full : data.length = partition.blockSize) :
    partition.image (content.after (partition.blockWrite block data)) =
      Function.update (partition.image content) block data := by
  funext other
  by_cases same : other = block
  · subst same
    rw [Function.update_self, image, blockWrite, ← full, Content.slice_after_write]
  · rw [Function.update_of_ne same, image_after_blockWrite_of_ne sectored full.le same]

/-- Writing blocks in order changes what these blocks hold, and no others. -/
theorem image_after_blockWrites (sectored : partition.Sectored) {content : Content}
    {writes : List (Nat × Bytes)}
    (full : ∀ write ∈ writes, write.2.length = partition.blockSize) :
    partition.image (content.afterAll
        (writes.map fun write => partition.blockWrite write.1 write.2)) =
      writes.foldl (fun image write => Function.update image write.1 write.2)
        (partition.image content) := by
  induction writes generalizing content with
  | nil => rfl
  | cons write writes ih =>
    obtain ⟨first, later⟩ := List.forall_mem_cons.1 full
    rw [List.map_cons, Content.afterAll_cons, ih later, image_after_blockWrite sectored first,
      List.foldl_cons]

/-- Every block of a device that holds zeros is zero. -/
theorem image_zeros :
    partition.image (fun _ => 0) = fun _ => List.replicate partition.blockSize 0 := by
  funext block
  rw [image, Content.slice, List.map_const', List.length_range']

/-- A block as the device holds it has the size of a block. -/
@[simp]
theorem length_image (content : Content) (block : Nat) :
    (partition.image content block).length = partition.blockSize :=
  Content.length_slice

end Partition

end JournaledVolume
