import JournaledVolume.Journal.Replay
import JournaledVolume.Proofs.Pending

/-!
# Copying the blocks of transactions

A replay reads the log of a transaction while it overwrites blocks of the same device. It works as
if the log were read beforehand, as long as no copy overwrites a block that is still to be read. A
disk is `Steady` while it holds such blocks as it did at first.

What a replay does is spelled by the traces below: the requests, the blocks written and the copies
reported, in order.
-/

namespace JournaledVolume

open JournaledVolume.Action

/-- Whether an effect leaves what blocks of a partition hold. -/
def Effect.Spares (partition : Partition) (kept : List Address) (effect : Effect) : Prop :=
  ∀ (content : Content), ∀ block ∈ kept,
    partition.image (content.after effect) block.toNat = partition.image content block.toNat

namespace Effect

variable {partition : Partition} {kept : List Address} {effects : List Effect} {content : Content}
  {block : Address} {data : Bytes}

/-- Writing at most a block leaves all others. -/
theorem spares_blockWrite (sectored : partition.Sectored) {home : Address}
    (fits : data.length ≤ partition.blockSize) (apart : home ∉ kept) :
    (partition.blockWrite home.toNat data).Spares partition kept := by
  intro content block known
  apply Partition.image_after_blockWrite_of_ne sectored fits
  intro same
  exact apart (UInt64.toNat_inj.1 same ▸ known)

/-- A flush leaves all blocks. -/
theorem spares_flush : Effect.flush.Spares partition kept := fun _ _ _ => rfl

/-- Effects that leave blocks one by one leave them together. -/
theorem image_afterAll (spare : ∀ effect ∈ effects, effect.Spares partition kept) :
    ∀ block ∈ kept, partition.image (content.afterAll effects) block.toNat =
      partition.image content block.toNat := by
  induction effects generalizing content with
  | nil => exact fun _ _ => rfl
  | cons effect effects ih =>
    obtain ⟨first, later⟩ := List.forall_mem_cons.1 spare
    intro block known
    rw [Content.afterAll_cons, ih later block known, first content block known]

/-- A block that effects leave or write the same data to holds this data once it is written. -/
theorem image_afterAll_of_write (sectored : partition.Sectored)
    (full : data.length = partition.blockSize)
    (each : ∀ effect ∈ effects, effect ≠ partition.blockWrite block.toNat data →
      effect.Spares partition [block]) :
    partition.image (content.afterAll effects) block.toNat =
      if partition.blockWrite block.toNat data ∈ effects then data
      else partition.image content block.toNat := by
  induction effects generalizing content with
  | nil => rfl
  | cons effect effects ih =>
    obtain ⟨first, later⟩ := List.forall_mem_cons.1 each
    rw [Content.afterAll_cons, ih later]
    by_cases same : effect = partition.blockWrite block.toNat data
    · rw [same, Partition.image_after_blockWrite sectored full, Function.update_self, ite_self,
        if_pos List.mem_cons_self]
    · have spared := first same content block (List.mem_singleton_self block)
      rw [spared]
      simp only [List.mem_cons, Ne.symm same, false_or]

end Effect

/-- Whether a disk can be worked on and holds blocks as an image does. -/
structure Steady (partition : Partition) (image : Image) (kept : List Address)
    (disk : Disk Store) : Prop where
  /-- The partition lies on the device. -/
  lies : partition.LiesOn disk.device.shape
  /-- The device takes writes. -/
  writable : disk.device.readOnly = false
  /-- The blocks hold what they should. -/
  same : ∀ block ∈ kept, disk.image partition block.toNat = image block.toNat

namespace Steady

variable {partition : Partition} {image : Image} {kept : List Address}
  {disk after : Disk Store} {trace : Trace}

/-- A disk stays steady while no effect touches the blocks. -/
theorem ran (steady : Steady partition image kept disk) (ran : disk.Ran after trace)
    (spare : ∀ effect ∈ trace.effects, effect.Spares partition kept) :
    Steady partition image kept after := by
  refine ⟨ran.lies steady.lies, ran.writable steady.writable, ?_⟩
  intro block known
  rw [Disk.image, ran.content, Effect.image_afterAll spare block known]
  exact steady.same block known

/-- A disk stays steady while it is read. -/
theorem read (steady : Steady partition image kept disk) {count : Nat}
    (read : disk.Ran after (.reads count)) : Steady partition image kept after :=
  steady.ran read nofun

/-- Blocks that a disk holds have the size of a block. -/
theorem length_image (steady : Steady partition image kept disk) {block : Address}
    (known : block ∈ kept) : (image block.toNat).length = partition.blockSize := by
  rw [← steady.same block known]
  exact Partition.length_image _ _

end Steady

/-- Whether an entry can be replayed without touching blocks: it may be named, its wandered block is
one of them and its home block is not. -/
structure WanderEntry.Sane (length : Nat) (kept : List Address) (entry : WanderEntry) : Prop where
  /-- The wandered block may be named. -/
  wandered : entry.wandered ≠ 0 ∧ entry.wandered.toNat < length
  /-- The home block may be named. -/
  home : entry.home ≠ 0 ∧ entry.home.toNat < length
  /-- The wandered block is kept. -/
  known : entry.wandered ∈ kept
  /-- The home block is not. -/
  apart : entry.home ∉ kept

namespace Transaction

/-- What copying one block does. -/
def copyTrace (partition : Partition) (image : Image) (transaction : Transaction) (copied : Nat)
    (entry : WanderEntry) : Trace where
  requests := 2
  effects := [partition.blockWrite entry.home.toNat (image entry.wandered.toNat)]
  copies :=
    [{ txId := transaction.header.id
       txAddress := transaction.address
       wandered := entry.wandered
       home := entry.home
       copied := copied + 1 }]

/-- What copying blocks does. -/
def copiesTrace (partition : Partition) (image : Image) (transaction : Transaction) :
    (copied : Nat) → List WanderEntry → Trace
  | _, [] => {}
  | copied, entry :: entries =>
    copyTrace partition image transaction copied entry ++
      copiesTrace partition image transaction (copied + 1) entries

/-- What reading log records and copying their blocks does. -/
def recordsTrace (partition : Partition) (image : Image) (transaction : Transaction) :
    (copied : Nat) → List (Address × LogRecord) → Trace
  | _, [] => {}
  | copied, record :: records =>
    (.reads 1 ++ copiesTrace partition image transaction copied record.2.entries) ++
      recordsTrace partition image transaction (copied + record.2.entries.length) records

variable {partition : Partition} {image : Image} {kept : List Address} {disk : Disk Store}
  {transaction : Transaction} {copied : Nat} {entry : WanderEntry}

/-- Copying a block leaves the blocks that are kept. -/
theorem copyTrace_spares (steady : Steady partition image kept disk)
    (sane : entry.Sane partition.length kept) :
    ∀ effect ∈ (copyTrace partition image transaction copied entry).effects,
      effect.Spares partition kept := by
  have full : (image entry.wandered.toNat).length = partition.blockSize :=
    steady.length_image sane.known
  exact List.forall_mem_singleton.2
    (Effect.spares_blockWrite steady.lies.toSectored full.le sane.apart)

/-- A block is moved to another, or this breaks off. -/
theorem ends_moveBlock (steady : Steady partition image kept disk)
    (sane : entry.Sane partition.length kept) :
    Ends (do
        DiskM.checkPointer partition entry.wandered
        DiskM.checkPointer partition entry.home
        let content ← DiskM.readBlock partition entry.wandered.toNat
        DiskM.writeBlock partition entry.home.toNat content) disk
      (fun _ after => disk.Ran after
        { requests := 2
          effects := [partition.blockWrite entry.home.toNat (image entry.wandered.toNat)] })
      fun _ after => disk.Broke after
        [partition.blockWrite entry.home.toNat (image entry.wandered.toNat)] := by
  simp only [DiskM.checkPointer_of_named sane.wandered, DiskM.checkPointer_of_named sane.home,
    pure_bind]
  refine Ends.bind (DiskM.ends_readBlock steady.lies sane.wandered.2) ?_
    fun _ _ => Disk.Broke.of_nil
  rintro content between ⟨rfl, ran⟩
  rw [steady.same _ sane.known]
  have later := steady.read ran
  have full := steady.length_image sane.known
  refine (DiskM.ends_writeBlock later.lies later.writable sane.home.2 full).mono ?_ ?_
  · exact fun _ _ wrote => ran.trans wrote
  · exact fun _ _ broke => ran.broke broke

/-- A block is copied, or the copy breaks off. -/
theorem ends_copyBlock (steady : Steady partition image kept disk)
    (sane : entry.Sane partition.length kept) :
    Ends (copyBlock partition transaction entry) { memory := copied, disk }
      (fun _ after => after.memory = copied + 1 ∧
        disk.Ran after.disk (copyTrace partition image transaction copied entry))
      fun _ after =>
        disk.Broke after.disk (copyTrace partition image transaction copied entry).effects := by
  have moves := ends_moveBlock steady sane
  refine AttachedM.ends_onDisk_andThen (moves.mono ?_ fun _ _ broke => broke)
  intro _ after ran
  exact ⟨rfl, ran.trans (after.ran_report _)⟩

/-- Blocks are copied in order, or this breaks off. -/
theorem ends_copyBlocks (entries : List WanderEntry)
    (steady : Steady partition image kept disk)
    (sane : ∀ entry ∈ entries, entry.Sane partition.length kept) :
    Ends (entries.forM (copyBlock partition transaction)) { memory := copied, disk }
      (fun _ after => after.memory = copied + entries.length ∧
        disk.Ran after.disk (copiesTrace partition image transaction copied entries))
      fun _ after =>
        disk.Broke after.disk (copiesTrace partition image transaction copied entries).effects := by
  induction entries generalizing copied disk with
  | nil => exact ends_pure ⟨rfl, .nothing rfl rfl⟩
  | cons entry entries ih =>
    obtain ⟨first, later⟩ := List.forall_mem_cons.1 sane
    refine Ends.bind (ends_copyBlock steady first) ?_ fun _ _ broke => broke.append
    rintro _ ⟨_, between⟩ ⟨rfl, ran⟩
    have still := steady.ran ran (copyTrace_spares steady first)
    refine (ih still later).mono ?_ ?_
    · rintro _ after ⟨counted, rest⟩
      refine ⟨?_, ran.trans rest⟩
      rw [counted, List.length_cons]
      omega
    · exact fun _ _ broke => ran.broke broke

/-- Copying blocks leaves the blocks that are kept. -/
theorem copiesTrace_spares (entries : List WanderEntry)
    (steady : Steady partition image kept disk)
    (sane : ∀ entry ∈ entries, entry.Sane partition.length kept) :
    ∀ effect ∈ (copiesTrace partition image transaction copied entries).effects,
      effect.Spares partition kept := by
  induction entries generalizing copied with
  | nil => exact nofun
  | cons entry entries ih =>
    obtain ⟨first, later⟩ := List.forall_mem_cons.1 sane
    exact List.forall_mem_append.2 ⟨copyTrace_spares steady first, ih later⟩

/-- The log records of a transaction are read and their blocks copied, or this breaks off. -/
theorem ends_copyRecords {walk : RecordWalk} {records : List (Address × LogRecord)}
    (trail : Walk.Trail partition image walk records)
    (steady : Steady partition image kept disk)
    (known : ∀ record ∈ records, record.1 ∈ kept)
    (sane : ∀ record ∈ records, ∀ entry ∈ record.2.entries, entry.Sane partition.length kept) :
    Ends (Walk.forEach partition (fun (record : Address × LogRecord) =>
        record.2.entries.forM (copyBlock partition transaction)) walk) { memory := copied, disk }
      (fun _ after =>
        after.memory = copied + (records.flatMap fun record => record.2.entries).length ∧
        disk.Ran after.disk (recordsTrace partition image transaction copied records))
      fun _ after => disk.Broke after.disk
        (recordsTrace partition image transaction copied records).effects := by
  induction trail generalizing copied disk with
  | ended seen =>
    exact Walk.ends_forEach_over steady.lies (RecordWalk.look_transfer le_rfl seen nofun)
  | @step walk rest record records seen trail ih =>
    obtain ⟨here, behind⟩ := List.forall_mem_cons.1 known
    obtain ⟨first, later⟩ := List.forall_mem_cons.1 sane
    -- The block of the record is kept, so the disk shows the record that the image shows.
    have shown : Walk.look partition (disk.image partition) walk = some (some (record, rest)) := by
      refine RecordWalk.look_transfer le_rfl seen fun next held => ?_
      cases held
      exact steady.same _ here
    refine Walk.ends_forEach_item steady.lies shown ?_ fun _ _ => Disk.Broke.of_nil
    intro between read
    have still := steady.read read
    refine Ends.bind (ends_copyBlocks record.2.entries still first) ?_ ?_
    · rintro _ ⟨_, copiedDisk⟩ ⟨rfl, ran⟩
      have after := still.ran ran (copiesTrace_spares _ still first)
      refine (ih after behind later).mono ?_ ?_
      · rintro _ last ⟨counted, rest⟩
        refine ⟨?_, (read.trans ran).trans rest⟩
        rw [counted, List.flatMap_cons, List.length_append]
        omega
      · exact fun _ _ broke => (read.trans ran).broke broke
    · intro _ _ broke
      exact (read.broke broke).append

/-- Reading and copying leaves the blocks that are kept. -/
theorem recordsTrace_spares {records : List (Address × LogRecord)}
    (steady : Steady partition image kept disk)
    (sane : ∀ record ∈ records, ∀ entry ∈ record.2.entries, entry.Sane partition.length kept) :
    ∀ effect ∈ (recordsTrace partition image transaction copied records).effects,
      effect.Spares partition kept := by
  induction records generalizing copied with
  | nil => exact nofun
  | cons record records ih =>
    obtain ⟨first, later⟩ := List.forall_mem_cons.1 sane
    exact List.forall_mem_append.2 ⟨copiesTrace_spares _ steady first, ih later⟩

end Transaction

end JournaledVolume
