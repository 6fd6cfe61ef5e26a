import JournaledVolume.Proofs.Copying
import JournaledVolume.Proofs.Keeping
import JournaledVolume.Proofs.Pointers

/-!
# Copies that spare blocks

A replay that meets a fault may have copied any number of blocks, and a part of one more. What it
has not touched are the blocks that no entry of its log names as a home. The log is read while
blocks are overwritten, and nothing is known of it here but that no log record on the disk names
such a home; since a copy moves a whole block, this stays so until the copy that breaks off.
-/

namespace JournaledVolume

open JournaledVolume.Action

namespace Torn

variable {reached : Nat} {whole part : List Effect} {partition : Partition} {kept : List Address}

/-- What breaks off leaves blocks when all effects do, also in part. -/
theorem spares (torn : Torn reached whole part)
    (spare : ∀ effect ∈ whole, effect.Spares partition kept)
    (cut : ∀ effect ∈ whole, ∀ size, (effect.cut size).Spares partition kept) :
    ∀ effect ∈ part, effect.Spares partition kept := by
  induction torn with
  | nothing => exact nofun
  | last effect rest => exact List.forall_mem_singleton.2 (cut _ List.mem_cons_self _)
  | step effect _ ih =>
    obtain ⟨first, later⟩ := List.forall_mem_cons.1 spare
    obtain ⟨_, parts⟩ := List.forall_mem_cons.1 cut
    exact List.forall_mem_cons.2 ⟨first, ih later parts⟩

end Torn

/-- Whether effects have changed a device that leave what blocks of a partition hold. -/
def Store.Spared (partition : Partition) (kept : List Address) (first last : Store) : Prop :=
  ∃ effects, first.Added last effects ∧ ∀ effect ∈ effects, effect.Spares partition kept

namespace Store.Spared

variable {partition : Partition} {kept : List Address} {first between last : Store}
  {effects : List Effect}

/-- A device that was asked for nothing. -/
theorem nothing (store : Store) : Spared partition kept store store :=
  ⟨[], .nothing store, nofun⟩

/-- Effects after effects. -/
theorem trans (early : Spared partition kept first between)
    (late : Spared partition kept between last) : Spared partition kept first last := by
  obtain ⟨effects, added, spare⟩ := early
  obtain ⟨more, further, others⟩ := late
  exact ⟨effects ++ more, added.trans further, List.forall_mem_append.2 ⟨spare, others⟩⟩

/-- The units and the capacity are the same. -/
theorem shape (spared : Spared partition kept first last) : last.shape = first.shape := by
  obtain ⟨_, added, _⟩ := spared
  exact added.shape

/-- The blocks hold what they held. -/
theorem image (spared : Spared partition kept first last) :
    ∀ block ∈ kept, partition.image last.content block.toNat =
      partition.image first.content block.toNat := by
  obtain ⟨effects, added, spare⟩ := spared
  rw [added.content]
  exact Effect.image_afterAll spare

end Store.Spared

namespace Partition

variable {partition : Partition} {image : Image} {kept : List Address} {block : Address}
  {record : LogRecord}

/-- Whether no log record names some blocks as homes. -/
def LogsSpare (partition : Partition) (kept : List Address) (image : Image) : Prop :=
  ∀ block record, partition.recordAt image block = some record →
    ∀ entry ∈ record.entries, entry.home ∉ kept

/-- A pointer leads to a log record where it may lead and finds one. -/
theorem recordAt_eq_some : partition.recordAt image block = some record ↔
    (block ≠ 0 ∧ block.toNat < partition.length) ∧
      LogRecord.decode? (image block.toNat) = some record := by
  unfold recordAt follow
  split
  · next outside => exact iff_of_false nofun fun found => not_outside.2 found.1 outside
  · next named => exact ⟨fun found => ⟨not_outside.1 named, found⟩, fun found => found.2⟩

/-- The blocks of the partition decide whether log records spare blocks. -/
theorem logsSpare_of_all (all : ∀ number < partition.length,
    ((LogRecord.decode? (image number)).elim [] LogRecord.entries).all
      fun entry => entry.home ∉ kept) : partition.LogsSpare kept image := by
  intro block record found entry listed
  obtain ⟨⟨_, inside⟩, holds⟩ := recordAt_eq_some.1 found
  have spare := all block.toNat inside
  rw [holds] at spare
  simpa using List.all_eq_true.1 spare entry listed

/-- Where a log record is copied to, it names what it named before. -/
theorem LogsSpare.copy (spare : partition.LogsSpare kept image) (home : Address)
    {wandered : Address} (named : wandered ≠ 0 ∧ wandered.toNat < partition.length) :
    partition.LogsSpare kept
      (Function.update image home.toNat (image wandered.toNat)) := by
  intro block record found
  obtain ⟨leads, holds⟩ := recordAt_eq_some.1 found
  by_cases same : block.toNat = home.toNat
  · rw [same, Function.update_self] at holds
    exact spare wandered record (recordAt_eq_some.2 ⟨named, holds⟩)
  · rw [Function.update_of_ne same] at holds
    exact spare block record (recordAt_eq_some.2 ⟨leads, holds⟩)

end Partition

/-- Whether effects have changed a device that leave blocks, and no log record names these blocks as
homes. -/
structure Store.Sparing (partition : Partition) (kept : List Address) (first last : Store) :
    Prop where
  /-- The effects leave the blocks. -/
  spared : Store.Spared partition kept first last
  /-- No log record names them. -/
  logs : partition.LogsSpare kept (partition.image last.content)

namespace Store

variable {partition : Partition} {kept : List Address} {first : Store}

/-- What spares blocks does not depend on the number of calls. -/
theorem lasting_sparing :
    Lasting (Sparing partition kept first) (Spared partition kept first) := by
  constructor
  · intro store requests known
    have asked : Spared partition kept store (store.advance requests []) :=
      ⟨[], ⟨requests, rfl⟩, nofun⟩
    refine ⟨known.spared.trans asked, ?_⟩
    rw [content_advance]
    exact known.logs
  · exact fun store known => known.spared

end Store

namespace DiskM

variable {partition : Partition} {disk : Disk Store} {block : Address}

/-- What follows the check of a pointer may rely on where it leads. -/
theorem ends_checkPointer_andThen {β : Type} {next : Unit → DiskM Store β}
    {last : β → Disk Store → Prop} {stopped : Error → Disk Store → Prop}
    (continues : block ≠ 0 ∧ block.toNat < partition.length → Ends (next ()) disk last stopped)
    (stops : ∀ error, stopped error disk) :
    Ends (checkPointer partition block >>= next) disk last stopped := by
  unfold checkPointer
  split
  · exact Ends.stop (ends_throw (stops _))
  · next named => exact continues (Partition.not_outside.1 named)

/-- The block that a pointer leads to is read as the disk holds it, or not at all. -/
theorem ends_readPointer_measured (measured : partition.MeasuredBy disk.device.shape)
    (block : Address) :
    Ends (readPointer partition block) disk
      (fun content _ => partition.follow (disk.image partition) block = some content)
      fun _ _ => True := by
  unfold readPointer
  refine ends_checkPointer_andThen (fun named => ?_) fun _ => trivial
  refine (ends_readBlock_measured measured block.toNat).mono ?_ fun _ _ _ => trivial
  rintro content after ⟨_, rfl, _⟩
  exact if_neg (Partition.not_outside.2 named)

end DiskM

/-- A step along log records finds one that the disk holds, or none. -/
theorem RecordWalk.ends_step_measured {partition : Partition} {disk : Disk Store}
    (measured : partition.MeasuredBy disk.device.shape) (walk : RecordWalk) :
    Ends (walk.step partition) disk
      (fun found _ => ∀ next ∈ found,
        partition.recordAt (disk.image partition) next.1.1 = some next.1.2)
      fun _ _ => True := by
  cases walk with
  | ended => exact ends_pure nofun
  | walking address id next visited =>
    rw [RecordWalk.step]
    split
    · exact ends_pure nofun
    · split
      · exact DiskM.ends_refuse.allow fun _ _ _ => trivial
      · have reads : Ends (RecordWalk.readRecord partition next) disk
            (fun record _ => partition.recordAt (disk.image partition) next = some record)
            fun _ _ => True := by
          refine (DiskM.ends_readPointer_measured measured next).andThen ?_
          intro content after found
          cases decoded : LogRecord.decode? content with
          | none => exact ends_throw trivial
          | some record =>
            refine ends_pure ?_
            rw [Partition.recordAt, found, Option.bind_some, decoded]
        refine (DiskM.ends_orReport reads).andThen fun record after found => ends_pure ?_
        intro item held
        cases held
        exact found

namespace Transaction

variable {partition : Partition} {kept : List Address} {first : Store}

/-- Copying a block to a home that is not kept spares the blocks that are, also when it breaks
off. -/
theorem keeps_copyBlock (measured : partition.MeasuredBy first.shape) (transaction : Transaction)
    {entry : WanderEntry} (apart : entry.home ∉ kept) :
    (copyBlock partition transaction entry : AttachedM Nat Store Unit).Keeps
      (Store.Sparing partition kept first ·.disk.device)
      (Store.Spared partition kept first ·.disk.device) := by
  have lasting : Lasting (Store.Sparing partition kept first) (Store.Spared partition kept first) :=
    Store.lasting_sparing
  rintro ⟨copied, disk⟩ known
  refine AttachedM.ends_onDisk_andThen ?_
  refine DiskM.ends_checkPointer_andThen (fun wandered => ?_) fun _ => known.spared
  refine DiskM.ends_checkPointer_andThen (fun home => ?_) fun _ => known.spared
  have units : partition.MeasuredBy disk.device.shape := measured.of_shape known.spared.shape
  have reads := (DiskM.ends_readBlock_measured units entry.wandered.toNat).and
    (lasting.keeps_readBlocks partition entry.wandered.toNat 1 disk known)
  refine reads.bind ?_ fun _ _ failed => failed.2
  rintro content between ⟨⟨_, rfl, read⟩, still⟩
  have later : partition.MeasuredBy between.device.shape := units.of_shape read.shape
  have full : (disk.image partition entry.wandered.toNat).length = partition.blockSize :=
    Partition.length_image _ _
  have spares (size : Nat) : (partition.blockWrite entry.home.toNat
      ((disk.image partition entry.wandered.toNat).take size)).Spares partition _ :=
    Effect.spares_blockWrite measured.toSectored ((List.length_take_le' _ _).trans full.le) apart
  have whole := spares (disk.image partition entry.wandered.toNat).length
  rw [List.take_length] at whole
  refine (DiskM.ends_writeBlock_measured later entry.home.toNat full).mono ?_ ?_
  · rintro _ after ⟨_, wrote⟩
    have same : partition.image between.device.content = disk.image partition := read.image rfl
    have moved := still.logs.copy entry.home wandered
    rw [same] at moved
    refine ⟨still.spared.trans ⟨_, wrote.added, List.forall_mem_singleton.2 whole⟩, ?_⟩
    rw [wrote.content, Content.afterAll_cons, Content.afterAll_nil,
      Partition.image_after_blockWrite measured.toSectored full, same]
    exact moved
  · rintro _ after ⟨reached, part, torn, added⟩
    refine still.spared.trans ⟨part, added, torn.spares ?_ ?_⟩
    · exact List.forall_mem_singleton.2 whole
    · exact List.forall_mem_singleton.2 spares

/-- Replaying a transaction spares the blocks that no log record names, also when it breaks off. -/
theorem keeps_replay (measured : partition.MeasuredBy first.shape) (transaction : Transaction)
    (copied : Nat) :
    (transaction.replay partition copied : DiskM Store Nat).Keeps
      (Store.Sparing partition kept first ·.device)
      (Store.Spared partition kept first ·.device) := by
  have lasting : Lasting (Store.Sparing partition kept first) (Store.Spared partition kept first) :=
    Store.lasting_sparing
  have visits (item : Address × LogRecord) (fine : ∀ entry ∈ item.2.entries, entry.home ∉ kept) :
      (item.2.entries.forM (copyBlock partition transaction) : AttachedM Nat Store Unit).Keeps
        (Store.Sparing partition kept first ·.disk.device)
        (Store.Spared partition kept first ·.disk.device) :=
    keeps_forM fun entry listed => keeps_copyBlock measured transaction (fine entry listed)
  refine DiskM.keeps_accumulate (Walk.keeps_forEach_of_good _ (fun walk disk known => ?_) visits _)
  have units : partition.MeasuredBy disk.device.shape := measured.of_shape known.spared.shape
  refine ((lasting.keeps_recordStep partition walk disk known).and
    (RecordWalk.ends_step_measured units walk)).mono ?_ fun _ _ failed => failed.1
  rintro found after ⟨still, finds⟩
  -- The step read a record that the disk held before it, which names no block that is kept.
  exact ⟨still, fun next held => known.logs _ _ (finds next held)⟩

/-- Replaying transactions spares the blocks that no log record names, also when it breaks off. -/
theorem keeps_replayAll (measured : partition.MeasuredBy first.shape)
    (transactions : List Transaction) (copied : Nat) :
    (transactions.foldlM
      (fun copied transaction =>
        DiskM.orReport (.replayFailed transaction.header.id transaction.address)
          (transaction.replay partition copied))
      copied : DiskM Store Nat).Keeps (Store.Sparing partition kept first ·.device)
        (Store.Spared partition kept first ·.device) :=
  keeps_foldlM copied transactions fun _ transaction =>
    DiskM.keeps_orReport _ (keeps_replay measured transaction _)

end Transaction

end JournaledVolume
