import JournaledVolume.Proofs.Interruption

/-!
# Resuming a replay

A replay that meets a fault fails, whichever call the fault is at. Started over, from the handle in
memory or from the one on disk, it leaves what it leaves when nothing goes wrong.
-/

namespace JournaledVolume

open JournaledVolume.Action

namespace Mount

variable {partition : Partition} {older : List Logged} {newest : Logged} {content : Content}
  {disk : Disk Store}

/-- Nothing happens when an empty journal is replayed. -/
theorem replay_of_empty {mount : Mount} (empty : mount.journal.state = .empty) :
    replay partition { memory := mount, disk } = .ok {} { memory := mount, disk } := by
  have isEmpty : mount.journal.isEmpty = true := by rw [Journal.isEmpty, empty]; rfl
  show (if mount.journal.isEmpty then _ else _ : AttachedM Mount Store ReplayReport) _ = _
  rw [if_pos isEmpty]
  rfl

/-- A replay that starts after any of the block writes of another leaves what that would have
left. -/
theorem replay_after_part (mount : Mount) {part : List Effect}
    (shielded : mount.journal.Shielded partition (partition.image content) older newest)
    (lies : partition.LiesOn disk.device.shape) (serves : disk.device.Serves)
    (early : part ⊆ mount.journal.replayWrites partition (partition.image content) older newest)
    (cut : disk.device.content = content.afterAll part) :
    ∃ after, replay partition { memory := mount, disk } =
        .ok { transactions := older.length + 1
              blocks := ((older ++ [newest]).flatMap Logged.entries).length } after ∧
      after.memory = mount.accept (mount.journal.replayed newest) ∧
      after.disk.device.content = content.afterAll
        (mount.journal.replayWrites partition (partition.image content) older newest) ∧
      disk.Ran after.disk
        (mount.journal.replayTrace partition (partition.image content) older newest) := by
  have steady := shielded.steady_of_part lies serves.writable early cut
  have ends := ends_replay shielded.pending shielded.toReady steady
  obtain ⟨_, after, ran, rfl, memory, did⟩ :=
    ends.exists_ok fun _ _ broke => broke.2.not_sound serves.toSound
  refine ⟨after, ran, memory, ?_, did⟩
  rw [did.content, Journal.effects_replayTrace, Content.afterAll_append, cut,
    Content.afterAll_absorb fun effect known _ covers => ⟨effect, early known, covers⟩]
  rfl

/-- A replay that starts after the first block writes of another leaves what that would have
left. -/
theorem replay_after_take (mount : Mount) (count : Nat)
    (shielded : mount.journal.Shielded partition (partition.image content) older newest)
    (lies : partition.LiesOn disk.device.shape) (serves : disk.device.Serves)
    (cut : disk.device.content = content.afterAll
      ((mount.journal.replayWrites partition (partition.image content) older newest).take count)) :
    ∃ after, replay partition { memory := mount, disk } =
        .ok { transactions := older.length + 1
              blocks := ((older ++ [newest]).flatMap Logged.entries).length } after ∧
      after.memory = mount.accept (mount.journal.replayed newest) ∧
      after.disk.device.content = content.afterAll
        (mount.journal.replayWrites partition (partition.image content) older newest) ∧
      disk.Ran after.disk
        (mount.journal.replayTrace partition (partition.image content) older newest) :=
  replay_after_part mount shielded lies serves (List.take_subset _ _) cut

/-- A replay meets a fault at any of its calls and fails, and what it leaves is what its first block
writes leave. -/
theorem replay_withFault (mount : Mount) {number : Nat} {fault : Fault}
    (shielded : mount.journal.Shielded partition (disk.image partition) older newest)
    (lies : partition.LiesOn disk.device.shape) (writable : disk.device.readOnly = false)
    (ahead : disk.device.calls ≤ number)
    (within : number < disk.device.calls +
      (mount.journal.replayTrace partition (disk.image partition) older newest).requests)
    (atomic : fault.Atomic partition.blockSize) :
    ∃ error broken, replay partition { memory := mount, disk := disk.withFault number fault } =
        .error error broken ∧ broken.memory = mount ∧
      partition.LiesOn broken.disk.device.shape ∧ broken.disk.device.readOnly = false ∧
      ∃ count, broken.disk.device.content = disk.device.content.afterAll
        ((mount.journal.replayWrites partition (disk.image partition) older newest).take
          count) := by
  have steady : Steady partition (disk.image partition) ((older ++ [newest]).flatMap Logged.blocks)
      (disk.withFault number fault) := ⟨lies, writable, fun _ _ => rfl⟩
  have ends := ends_replay shielded.pending shielded.toReady steady
  obtain ⟨error, broken, failed, same, broke⟩ := ends.exists_error fun _ _ returned => by
    have past := returned.2.2.lt_of_withFault ahead
    omega
  obtain ⟨requests, part, device, torn⟩ := broke.of_withFault
  obtain ⟨count, left⟩ := torn.exists_take atomic shielded.trace_spans disk.device.content
  rw [Journal.filter_replayTrace] at left
  refine ⟨error, broken, failed, same, ?_, ?_, count, ?_⟩
  · rw [device]
    exact lies
  · rw [device]
    exact writable
  · rw [device, Store.content_advance]
    exact left

/-- A handle that is loaded after the first block writes of a replay can be replayed, and leaves
what that replay would have left. -/
theorem load_replay_after_take {journal : Journal} {count : Nat} (superblock : Superblock)
    (objectIds : ObjectIds)
    (shielded : journal.Shielded partition (partition.image content) older newest)
    (lies : partition.LiesOn disk.device.shape) (serves : disk.device.Serves)
    (cut : disk.device.content = content.afterAll
      ((journal.replayWrites partition (partition.image content) older newest).take count)) :
    ∃ reopened loaded report again,
      Journal.load partition journal.area disk = .ok reopened loaded ∧
      replay partition
          { memory := { journal := reopened, superblock, objectIds }, disk := loaded } =
        .ok report again ∧
      again.disk.device.content = content.afterAll
        (journal.replayWrites partition (partition.image content) older newest) := by
  rcases Nat.lt_or_ge count (((older ++ [newest]).flatMap Logged.entries).length + 2)
    with early | late
  · have stored : Journal.stored partition journal.area (disk.image partition) = journal := by
      rw [Disk.image, cut]
      exact shielded.stored_of_take lies.toSectored (Nat.le_of_lt_succ early)
    obtain ⟨loaded, ran, read⟩ := Journal.exists_load shielded.fits stored lies serves
    have lying : partition.LiesOn loaded.device.shape := read.lies lies
    have same : loaded.device.content = disk.device.content := read.content
    obtain ⟨again, replays, _, left, _⟩ := replay_after_take
      { journal, superblock, objectIds } count shielded lying (read.serves serves)
      (same.trans cut)
    exact ⟨journal, loaded, _, again, ran, replays, left⟩
  · rw [List.take_of_length_le (Journal.length_replayWrites.trans_le late)] at cut
    have stored : Journal.stored partition journal.area (disk.image partition) =
        journal.replayed newest := by
      rw [Disk.image, cut]
      exact shielded.stored_replayed lies.toSectored
    obtain ⟨loaded, ran, read⟩ := Journal.exists_load shielded.fits_replayed stored lies serves
    have same : loaded.device.content = disk.device.content := read.content
    exact ⟨_, loaded, _, _, ran, replay_of_empty shielded.empty_replayed, same.trans cut⟩

variable {area : JournalArea} {fixed : Bitmap} {journal handle : Journal}
  {inspection : Inspection} {opening opened checked : Disk Store}

/-- A replay can be resumed wherever it is interrupted. Take a pending journal that was just loaded
and that an inspection finds nothing bad in, with the journal pointers on fixed blocks that are no
home blocks. A fault at any one call of its replay makes the replay fail. Once the fault is gone,
replaying the same handle and loading the journal anew to replay that both succeed, and leave what
the replay leaves when nothing goes wrong. -/
theorem replay_resumes (superblock : Superblock) (objectIds : ObjectIds)
    (lies : partition.LiesOn opening.device.shape)
    (loaded : Journal.load partition area opening = .ok journal opened)
    (pending : journal.state = .pending)
    (checks : journal.check partition fixed .check opened = .ok (inspection, handle) checked)
    (clean : inspection.bad = none) (headerFixed : fixed.test area.header.toNat = true)
    (footerFixed : fixed.test area.footer.toNat = true)
    (kept : ∀ logged, journal.Pends partition (checked.image partition) logged →
      ∀ home ∈ logged.flatMap Logged.homes, home ≠ area.header ∧ home ≠ area.footer)
    (serves : checked.device.Serves) :
    ∃ report done,
      replay partition { memory := { journal := handle, superblock, objectIds }, disk := checked } =
        .ok report done ∧
      ∀ number fault, checked.device.calls ≤ number → number < done.disk.device.calls →
        fault.Atomic partition.blockSize →
        ∃ error broken,
          replay partition
              { memory := { journal := handle, superblock, objectIds }
                disk := checked.withFault number fault } = .error error broken ∧
          (∃ again, replay partition { broken with disk := broken.disk.repaired } =
              .ok report again ∧
            again.memory = done.memory ∧
            again.disk.device.content = done.disk.device.content) ∧
          ∀ superblock objectIds, ∃ reopened between later again,
            Journal.load partition area broken.disk.repaired = .ok reopened between ∧
            replay partition
                { memory := { journal := reopened, superblock, objectIds }, disk := between } =
              .ok later again ∧
            again.disk.device.content = done.disk.device.content := by
  obtain ⟨rfl, rfl, checkedLies, older, newest, shielded⟩ := Journal.shielded_of_check lies loaded
    pending checks clean headerFixed footerFixed kept
  let mount : Mount := { journal := handle, superblock, objectIds }
  obtain ⟨done, ran, memory, left, did⟩ := replay_after_take mount 0 shielded checkedLies
    serves rfl
  refine ⟨_, done, ran, ?_⟩
  intro number fault ahead before atomic
  rw [did.device, Store.calls_advance] at before
  obtain ⟨error, broken, failed, same, brokenLies, writable, count, cut⟩ :=
    replay_withFault mount shielded checkedLies serves.writable ahead before atomic
  have lying : partition.LiesOn broken.disk.repaired.device.shape := brokenLies
  have mended : broken.disk.repaired.device.Serves := ⟨broken.disk.sound_repaired, writable⟩
  refine ⟨error, broken, failed, ?_, ?_⟩
  · obtain ⟨again, replays, accepted, restored, _⟩ := replay_after_take mount count shielded
      lying mended cut
    rw [same]
    exact ⟨again, replays, accepted.trans memory.symm, restored.trans left.symm⟩
  · intro superblock objectIds
    obtain ⟨reopened, between, later, again, loads, replays, same⟩ :=
      load_replay_after_take superblock objectIds shielded lying mended cut
    exact ⟨reopened, between, later, again, loads, replays, same.trans left.symm⟩

/-- On the volume where two transactions wait that have a home block in common, a fault keeps the
replay from writing the block of the newer one over that of the older one. The replay fails, and can
be resumed. -/
theorem replay_resumes_sample : ∃ checked report done,
    replay Sample.Twice.partition
        { memory :=
            { journal := Sample.Twice.journal, superblock := .fresh 512 16, objectIds := {} }
          disk := checked } = .ok report done ∧
    ∃ error broken again,
      replay Sample.Twice.partition
          { memory :=
              { journal := Sample.Twice.journal, superblock := .fresh 512 16, objectIds := {} }
            disk := checked.withFault (checked.device.calls + 7) {} } = .error error broken ∧
      replay Sample.Twice.partition { broken with disk := broken.disk.repaired } =
        .ok report again ∧
      again.disk.device.content = done.disk.device.content := by
  obtain ⟨opened, checked, loads, checks, serves, same⟩ := Sample.Twice.exists_checked
  have kept := Sample.Twice.homes_kept same
  have header : Sample.Twice.fixed.test Sample.area.header.toNat = true := by decide
  have footer : Sample.Twice.fixed.test Sample.area.footer.toNat = true := by decide
  obtain ⟨report, done, replays, resumes⟩ := replay_resumes (.fresh 512 16) {}
    Sample.Twice.lies loads rfl checks rfl header footer kept serves
  obtain ⟨_, _, lies, older, newest, shielded⟩ := Journal.shielded_of_check Sample.Twice.lies loads
    rfl checks rfl header footer kept
  obtain ⟨after, ran, _, _, did⟩ := replay_after_take
    { journal := Sample.Twice.journal, superblock := .fresh 512 16, objectIds := {} } 0 shielded
    lies serves rfl
  cases replays.symm.trans ran
  have pends := shielded.pends
  rw [same] at pends
  have both : older ++ [newest] = [Sample.logged] ++ [Sample.Twice.newer] :=
    pends.unique Sample.Twice.pends
  obtain ⟨rfl, rfl⟩ := List.append_singleton_inj.1 both
  have asked (image : Image) : (Sample.Twice.journal.replayTrace Sample.Twice.partition image
      [Sample.logged] Sample.Twice.newer).requests = 13 := rfl
  have asks : checked.device.calls + 7 < done.disk.device.calls := by
    rw [did.device, Store.calls_advance]
    exact Nat.add_lt_add_left ((asked _).symm ▸ by decide) _
  obtain ⟨error, broken, failed, ⟨again, resumed, _, restored⟩, _⟩ :=
    resumes (checked.device.calls + 7) {} (Nat.le_add_right _ _) asks (.inl rfl)
  exact ⟨checked, _, _, replays, error, broken, again, failed, resumed, restored⟩

end Mount

end JournaledVolume
