import JournaledVolume.Proofs.Interruption
import JournaledVolume.Proofs.Sparing
import JournaledVolume.Proofs.Transfers

/-!
# Devices that take no writes

A device that is read-only refuses every write before it is asked for one. Whatever is replayed on
such a device, however this ends, no block write reaches it.
-/

namespace JournaledVolume

open JournaledVolume.Action

/-- Whether a device takes no writes, and none has reached it since an earlier state. -/
structure Store.Unwritten (first last : Store) : Prop where
  /-- The device takes no writes. -/
  readOnly : last.readOnly = true
  /-- What has reached it are no writes. -/
  quiet : ∃ effects, first.Added last effects ∧ ∀ effect ∈ effects, effect.isWrite = false

namespace Store.Unwritten

variable {first last : Store}

/-- A device that takes no writes was not written before it was asked for anything. -/
theorem nothing (readOnly : first.readOnly = true) : first.Unwritten first :=
  ⟨readOnly, [], .nothing first, nofun⟩

/-- Calls whose effects are no writes leave it unwritten. -/
theorem advance {requests : Nat} {effects : List Effect} (unwritten : first.Unwritten last)
    (quiet : ∀ effect ∈ effects, effect.isWrite = false) :
    first.Unwritten (last.advance requests effects) := by
  obtain ⟨readOnly, earlier, added, silent⟩ := unwritten
  have further : last.Added (last.advance requests effects) effects := ⟨requests, rfl⟩
  have still : ∀ effect ∈ earlier ++ effects, effect.isWrite = false :=
    List.forall_mem_append.2 ⟨silent, quiet⟩
  exact ⟨readOnly, earlier ++ effects, added.trans further, still⟩

/-- Being unwritten does not depend on the number of calls. -/
theorem lasting (first : Store) : Lasting first.Unwritten first.Unwritten :=
  ⟨fun _ _ unwritten => unwritten.advance nofun, fun _ unwritten => unwritten⟩

end Store.Unwritten

variable {partition : Partition} {first : Store}

namespace DiskM

/-- A write of a block is refused. -/
theorem keeps_writeBlock (partition : Partition) (block : Nat) (content : Bytes) :
    (writeBlock partition block content).Keeps (first.Unwritten ·.device)
      (first.Unwritten ·.device) := by
  intro disk unwritten
  have refused : BlockDevice.readOnly disk.device = true := unwritten.readOnly
  have untouched : Ends (writeBlocks partition block 1 content) disk (fun _ _ => False)
      fun _ after => after = disk := ends_writeBlocks_refused disk (.inr (.inr refused))
  refine Ends.stop (untouched.mono (fun _ _ never => never) ?_)
  rintro _ after rfl
  exact unwritten

/-- A flush writes nothing. -/
theorem keeps_flush :
    (flush : DiskM Store Unit).Keeps (first.Unwritten ·.device) (first.Unwritten ·.device) := by
  intro disk unwritten
  refine ends_flush.mono ?_ ?_
  · rintro _ after ran
    show first.Unwritten after.device
    rw [ran.device]
    exact unwritten.advance (List.forall_mem_singleton.2 rfl)
  · rintro _ after ⟨requests, fault, part, device, _, _, torn⟩
    show first.Unwritten after.device
    rw [device]
    refine unwritten.advance ?_
    cases torn with
    | nothing => exact nofun
    | last => exact List.forall_mem_singleton.2 rfl
    | step _ rest =>
      cases rest
      exact List.forall_mem_singleton.2 rfl

end DiskM

namespace Transaction

/-- Copying a block writes nothing. -/
theorem keeps_copyBlock_unwritten (transaction : Transaction) (entry : WanderEntry) :
    (copyBlock partition transaction entry : AttachedM Nat Store Unit).Keeps
      (first.Unwritten ·.disk.device) (first.Unwritten ·.disk.device) := by
  rintro ⟨copied, disk⟩ unwritten
  refine AttachedM.ends_onDisk_andThen ?_
  refine DiskM.ends_checkPointer_andThen (fun _ => ?_) fun _ => unwritten
  refine DiskM.ends_checkPointer_andThen (fun _ => ?_) fun _ => unwritten
  have reads := (Store.Unwritten.lasting first).keeps_readBlocks partition entry.wandered.toNat 1
  refine (reads.bind fun content => ?_) disk unwritten
  exact DiskM.keeps_writeBlock partition entry.home.toNat content

/-- Replaying transactions writes nothing. -/
theorem keeps_replayAll_unwritten (transactions : List Transaction) (copied : Nat) :
    (transactions.foldlM
      (fun copied transaction =>
        DiskM.orReport (.replayFailed transaction.header.id transaction.address)
          (transaction.replay partition copied))
      copied : DiskM Store Nat).Keeps (first.Unwritten ·.device) (first.Unwritten ·.device) := by
  have steps := (Store.Unwritten.lasting first).keeps_recordStep partition
  refine keeps_foldlM copied transactions fun _ transaction => DiskM.keeps_orReport _ ?_
  refine DiskM.keeps_accumulate (Walk.keeps_forEach steps (fun item => ?_) _)
  exact keeps_forM fun entry _ => keeps_copyBlock_unwritten transaction entry

end Transaction

namespace Journal

/-- A sync writes nothing. -/
theorem keeps_sync_unwritten (journal : Journal) :
    (journal.sync partition).Keeps (first.Unwritten ·.device) (first.Unwritten ·.device) := by
  have weaker (disk : Disk Store) (known : first.Unwritten disk.device) :
      first.Unwritten disk.device := known
  have writes : (journal.write partition).Keeps (first.Unwritten ·.device)
      (first.Unwritten ·.device) := by
    refine (keeps_ofExcept weaker _).bind fun _ => ?_
    dsimp only
    split
    · exact Keeps.bind (keeps_throw weaker _) fun _ => (DiskM.keeps_writeBlock _ _ _).bind fun _ =>
        (DiskM.keeps_writeBlock _ _ _).bind fun _ => DiskM.keeps_emit _
    · exact (DiskM.keeps_writeBlock _ _ _).bind fun _ =>
        (DiskM.keeps_writeBlock _ _ _).bind fun _ => DiskM.keeps_emit _
  unfold sync
  split
  · exact writes.bind fun _ => keeps_pure _
  · exact keeps_pure _

/-- A replay writes nothing. -/
theorem keeps_replay_unwritten (journal : Journal) :
    (journal.replay partition).Keeps (first.Unwritten ·.device) (first.Unwritten ·.device) := by
  have pends := (Store.Unwritten.lasting first).keeps_pending partition journal
  refine pends.bind fun transactions => ?_
  refine (Transaction.keeps_replayAll_unwritten transactions 0).bind fun _ => ?_
  exact (keeps_sync_unwritten _).bind fun _ => DiskM.keeps_flush.bind fun _ => keeps_pure _

end Journal

/-- No block write of a replay reaches a device that takes none. -/
theorem Mount.written_of_readOnly {mount : Mount} {disk : Disk Store} {after : Attached Mount Store}
    (readOnly : disk.device.readOnly = true)
    (leaves : (Mount.replay partition).Leaves { memory := mount, disk } after) :
    disk.written after.disk = [] := by
  have keeps : Ends (Mount.replay partition) { memory := mount, disk }
      (fun _ after => disk.device.Unwritten after.disk.device)
      fun _ after => disk.device.Unwritten after.disk.device := by
    have before : disk.device.Unwritten disk.device := .nothing readOnly
    refine ends_get ?_
    show Ends (if mount.journal.isEmpty then _ else _) _ _ _
    split
    · exact ends_pure before
    · refine AttachedM.ends_onDisk_andThen ?_
      exact mount.journal.keeps_replay_unwritten disk before
  obtain ⟨_, effects, added, quiet⟩ := keeps.of_leaves leaves
  rw [Disk.written_of_added added, List.filter_eq_nil_iff]
  simpa using quiet

end JournaledVolume
