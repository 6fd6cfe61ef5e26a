import JournaledVolume.Proofs.Retirement

/-!
# Losing power during an activation

An activation writes the journal pointers twice: behind the replay, and then as zeros. The header
and the footer are two writes each time. After the first header both pointers are as before; after
the second one the newest committed transaction is none, but the newest replayed one is still named,
and the next activation takes the journal for pending and fails. Losing power at any other moment
does no harm.
-/

namespace JournaledVolume

open JournaledVolume.Action

namespace Disk

/-- The disk as it comes up after power was lost, when these effects had reached it. -/
def survivor (disk : Disk Store) (effects : List Effect) : Disk Store where
  device :=
    { shape := disk.device.shape
      start := disk.device.content.afterAll effects }

/-- A disk that came up again serves every request. -/
theorem serves_survivor (disk : Disk Store) (effects : List Effect) :
    (disk.survivor effects).device.Serves := ⟨⟨fun _ _ => rfl⟩, rfl⟩

end Disk

namespace Mount

variable {partition : Partition} {disk : Disk Store}

/-- Whether a volume can be brought into service from what is on disk: the journal is loaded and
activated, which leaves its pointers zero on disk and all other blocks as in an image. -/
def Recovers (partition : Partition) (area : JournalArea) (image : Image) (disk : Disk Store) :
    Prop :=
  ∀ superblock objectIds, ∃ journal loaded report after,
    Journal.load partition area disk = .ok journal loaded ∧
    activate partition { memory := { journal, superblock, objectIds }, disk := loaded } =
      .ok report after ∧
    (Journal.stored partition area (after.disk.image partition)).Zeroed ∧
    ∀ block, block ≠ area.header.toNat → block ≠ area.footer.toNat →
      after.disk.image partition block = image block

/-- Whether a volume cannot be brought into service from what is on disk: the journal is loaded, but
its activation fails at block zero. -/
def Stuck (partition : Partition) (area : JournalArea) (disk : Disk Store) : Prop :=
  ∀ superblock objectIds, ∃ journal loaded failed,
    Journal.load partition area disk = .ok journal loaded ∧
    activate partition { memory := { journal, superblock, objectIds }, disk := loaded } =
      .error (Defect.outOfRange 0).toError failed

variable {older : List Logged} {newest : Logged} {content : Content} {count : Nat}
  {journal : Journal} {image other : Image}

/-- Blocks of the pointers do not matter for a recovery. -/
theorem Recovers.congr {area : JournalArea} (recovers : Recovers partition area image disk)
    (same : ∀ block, block ≠ area.header.toNat → block ≠ area.footer.toNat →
      image block = other block) : Recovers partition area other disk := by
  intro superblock objectIds
  obtain ⟨journal, loaded, report, after, loads, activates, zeroed, restored⟩ :=
    recovers superblock objectIds
  refine ⟨journal, loaded, report, after, loads, activates, zeroed, ?_⟩
  intro block header footer
  rw [restored block header footer, same block header footer]

/-- A volume recovers from an empty journal. -/
theorem recovers_of_empty (empty : journal.state = .empty) (fits : journal.Fits partition)
    (stored : Journal.stored partition journal.area (disk.image partition) = journal)
    (lies : partition.LiesOn disk.device.shape) (serves : disk.device.Serves) :
    Recovers partition journal.area (disk.image partition) disk := by
  intro superblock objectIds
  obtain ⟨loaded, loads, read⟩ := Journal.exists_load fits stored lies serves
  have clean : journal.dirty = false := by
    rw [← stored]
    rfl
  obtain ⟨report, after, activates, _, left⟩ := activate_of_empty
    { journal, superblock, objectIds } empty clean fits (read.lies lies)
    (read.serves serves)
  have content : after.disk.device.content =
      disk.device.content.afterAll (journal.retireWrites partition) := by
    rw [left, read.content]
    rfl
  refine ⟨journal, loaded, report, after, loads, activates, ?_, ?_⟩
  · rw [Disk.image, content]
    exact Journal.zeroed_after_retireWrites lies.toSectored fits stored.symm
  · intro block header footer
    rw [Disk.image, content]
    exact Journal.image_after_retire _ lies.toSectored fits header footer

/-- A volume recovers from the first block writes of a replay. -/
theorem recovers_of_take
    (shielded : journal.Shielded partition (partition.image content) older newest)
    (lies : partition.LiesOn disk.device.shape) (serves : disk.device.Serves)
    (early : count ≤ ((older ++ [newest]).flatMap Logged.entries).length + 1)
    (cut : disk.device.content = content.afterAll
      ((journal.replayWrites partition (partition.image content) older newest).take count)) :
    Recovers partition journal.area (partition.image (content.afterAll
      (journal.replayWrites partition (partition.image content) older newest))) disk := by
  intro superblock objectIds
  have stored : Journal.stored partition journal.area (disk.image partition) = journal := by
    rw [Disk.image, cut]
    exact shielded.stored_of_take lies.toSectored early
  obtain ⟨loaded, loads, read⟩ := Journal.exists_load shielded.fits stored lies serves
  have same : loaded.device.content = disk.device.content := read.content
  obtain ⟨report, after, activates, _, left⟩ := activate_after_take
    { journal, superblock, objectIds } count shielded (read.lies lies) (read.serves serves)
    (same.trans cut)
  refine ⟨journal, loaded, report, after, loads, activates, ?_, ?_⟩
  · rw [Disk.image, left]
    exact Journal.zeroed_after_retireWrites lies.toSectored shielded.fits_replayed
      (shielded.stored_replayed lies.toSectored).symm
  · intro block header footer
    rw [Disk.image, left]
    exact Journal.image_after_retire _ lies.toSectored shielded.fits_replayed header footer

/-- The walk over the transactions fails at once where only the committed pointer is zero. -/
theorem ends_pending_of_zero {returns : List Transaction → Disk Store → Prop}
    (committed : journal.header.lastCommitted = 0) (flushed : journal.footer.lastFlushed ≠ 0) :
    Ends (journal.pending partition) disk returns
      fun error _ => error = (Defect.outOfRange 0).toError := by
  have stepped : Walk.step partition journal.chain disk =
      .error (Defect.outOfRange 0).toError disk := by
    show ChainWalk.step partition
      (.walking journal.header.lastCommitted journal.footer.lastFlushed []) disk = _
    rw [committed]
    simp only [ChainWalk.step, if_neg flushed.symm, List.not_mem_nil, if_false]
    rfl
  have collected : Walk.collect partition journal.chain disk =
      .error (Defect.outOfRange 0).toError disk := by
    apply bind_of_error
    simp only [DiskM.accumulate, Walk.forEach_of_error stepped]
  exact ends_of_error (bind_of_error collected) rfl

/-- A volume is stuck where only the committed pointer is zero. -/
theorem stuck_of_zero {area : JournalArea}
    (stored : Journal.stored partition area (disk.image partition) = journal)
    (committed : journal.header.lastCommitted = 0) (flushed : journal.footer.lastFlushed ≠ 0)
    (fits : journal.Fits partition) (lies : partition.LiesOn disk.device.shape)
    (serves : disk.device.Serves) : Stuck partition area disk := by
  intro superblock objectIds
  obtain ⟨loaded, loads, _⟩ := Journal.exists_load fits stored lies serves
  have full : ¬ journal.isEmpty = true := by
    have differs : ¬ journal.header.lastCommitted = journal.footer.lastFlushed := by
      rw [committed]
      exact flushed.symm
    rw [Journal.isEmpty, Journal.state, if_neg differs]
    decide
  have ends : Ends (activate partition)
      { memory := { journal, superblock, objectIds }, disk := loaded } (fun _ _ => False)
      fun error _ => error = (Defect.outOfRange 0).toError := by
    refine Ends.stop (ends_get ?_)
    dsimp only
    rw [if_neg full]
    exact AttachedM.ends_onDisk_andThen (ends_pending_of_zero committed flushed).stop
  obtain ⟨_, failed, activates, rfl⟩ := ends.exists_error fun _ _ impossible => impossible
  exact ⟨journal, loaded, failed, loads, activates⟩

/-- A volume is stuck between the two writes that retire an empty journal, if they go to two
blocks. -/
theorem stuck_of_retire_take (journal : Journal) (empty : journal.state = .empty)
    (fits : journal.Fits partition)
    (stored : journal = Journal.stored partition journal.area (partition.image content))
    (serves : disk.device.Serves) (lies : partition.LiesOn disk.device.shape)
    (last : count + 1 = (journal.retireWrites partition).length)
    (apart : journal.area.header ≠ journal.area.footer)
    (cut : disk.device.content = content.afterAll ((journal.retireWrites partition).take count)) :
    Stuck partition journal.area disk := by
  have named := Journal.named_of_lt_length (Nat.lt_of_succ_le last.le)
  obtain rfl : count = 1 := by
    rw [Journal.length_retireWrites partition named] at last
    exact Nat.succ.inj last
  have found := Journal.stored_between_retireWrites lies.toSectored fits stored named apart
  rw [← cut] at found
  have flushed : journal.footer.lastFlushed ≠ 0 :=
    fun zero => named (Journal.zeroed_of_empty empty zero)
  have fitting : ({ journal with header.lastCommitted := 0 } : Journal).Fits partition :=
    fits.moved rfl rfl
  exact stuck_of_zero found rfl flushed fitting lies serves

/-- A volume recovers from all other moments while an empty journal is retired. -/
theorem recovers_of_retire_take (journal : Journal) (empty : journal.state = .empty)
    (fits : journal.Fits partition)
    (stored : journal = Journal.stored partition journal.area (partition.image content))
    (serves : disk.device.Serves) (lies : partition.LiesOn disk.device.shape)
    (harmless : count + 1 = (journal.retireWrites partition).length →
      journal.area.header = journal.area.footer)
    (cut : disk.device.content = content.afterAll ((journal.retireWrites partition).take count)) :
    Recovers partition journal.area (partition.image content) disk := by
  have still : (Journal.stored partition journal.area (disk.image partition)).state = .empty := by
    rw [Disk.image, cut]
    rcases Nat.eq_zero_or_pos count with rfl | positive
    · rw [List.take_zero, Content.afterAll_nil, ← stored]
      exact empty
    · rcases Nat.lt_or_ge count (journal.retireWrites partition).length with early | late
      · have named := Journal.named_of_lt_length early
        rw [Journal.length_retireWrites partition named] at early harmless
        obtain rfl : count = 1 := by omega
        exact (Journal.zeroed_between_retireWrites lies.toSectored fits named (harmless rfl)).state
      · rw [List.take_of_length_le late]
        exact (Journal.zeroed_after_retireWrites lies.toSectored fits stored).state
  refine (recovers_of_empty still fits.stored rfl lies serves).congr ?_
  intro block header footer
  rw [Disk.image, cut]
  exact Journal.image_after_retire_take _ lies.toSectored fits count header footer

/-- A volume is stuck when only the last write of the activation of a pending journal is missing. -/
theorem stuck_of_activate_take
    (shielded : journal.Shielded partition (partition.image content) older newest)
    (serves : disk.device.Serves) (lies : partition.LiesOn disk.device.shape)
    (last : count + 1 = (journal.replayWrites partition (partition.image content) older newest ++
      (journal.replayed newest).retireWrites partition).length)
    (cut : disk.device.content = content.afterAll
      ((journal.replayWrites partition (partition.image content) older newest ++
        (journal.replayed newest).retireWrites partition).take count)) :
    Stuck partition journal.area disk := by
  have retires := Journal.length_retireWrites partition shielded.pends.named_replayed
  rw [List.length_append] at last
  have late : (journal.replayWrites partition (partition.image content) older newest).length ≤
      count := by omega
  obtain ⟨more, rfl⟩ := Nat.exists_eq_add_of_le late
  rw [List.take_length_add_append, Content.afterAll_append] at cut
  exact stuck_of_retire_take (journal.replayed newest) shielded.empty_replayed
    shielded.fits_replayed (shielded.stored_replayed lies.toSectored).symm serves lies (by omega)
    shielded.header_ne_footer cut

/-- A volume recovers from all other moments of the activation of a pending journal. -/
theorem recovers_of_activate_take
    (shielded : journal.Shielded partition (partition.image content) older newest)
    (serves : disk.device.Serves) (lies : partition.LiesOn disk.device.shape)
    (early : count + 1 ≠ (journal.replayWrites partition (partition.image content) older newest ++
      (journal.replayed newest).retireWrites partition).length)
    (cut : disk.device.content = content.afterAll
      ((journal.replayWrites partition (partition.image content) older newest ++
        (journal.replayed newest).retireWrites partition).take count)) :
    Recovers partition journal.area (partition.image (content.afterAll
      (journal.replayWrites partition (partition.image content) older newest))) disk := by
  rcases Nat.lt_or_ge count (journal.replayWrites partition (partition.image content) older
    newest).length with copying | late
  · rw [List.take_append_of_le_length copying.le] at cut
    rw [Journal.length_replayWrites] at copying
    exact recovers_of_take shielded lies serves (Nat.le_of_lt_succ copying) cut
  · obtain ⟨more, rfl⟩ := Nat.exists_eq_add_of_le late
    rw [List.take_length_add_append, Content.afterAll_append] at cut
    rw [List.length_append] at early
    exact recovers_of_retire_take (journal.replayed newest) shielded.empty_replayed
      shielded.fits_replayed (shielded.stored_replayed lies.toSectored).symm serves lies
      (fun last => (early (by omega)).elim) cut

variable {area : JournalArea} {fixed : Bitmap} {handle : Journal} {inspection : Inspection}
  {opening opened checked : Disk Store}

/-- What power loss during an activation comes to. Take a journal that was just loaded and that an
inspection finds nothing bad in, with the journal pointers on fixed blocks that are no home blocks.
Its activation succeeds on a device that serves all requests. Let power be lost when only the first
of its block writes have reached the device. If only the last write is missing, and the pointers lie
in two blocks, the volume cannot be brought into service any more. Otherwise a new activation
succeeds, zeroes the pointers on disk, and leaves each other block as the undisturbed activation
does. -/
theorem activate_after_power_loss (superblock : Superblock) (objectIds : ObjectIds)
    (lies : partition.LiesOn opening.device.shape)
    (loaded : Journal.load partition area opening = .ok journal opened)
    (checks : journal.check partition fixed .check opened = .ok (inspection, handle) checked)
    (clean : inspection.bad = none) (headerFixed : fixed.test area.header.toNat = true)
    (footerFixed : fixed.test area.footer.toNat = true)
    (kept : ∀ logged, journal.Pends partition (checked.image partition) logged →
      ∀ home ∈ logged.flatMap Logged.homes, home ≠ area.header ∧ home ≠ area.footer)
    (serves : checked.device.Serves) :
    ∃ report done,
      activate partition
          { memory := { journal := handle, superblock, objectIds }, disk := checked } =
        .ok report done ∧
      ∀ count ≤ (checked.written done.disk).length,
        if count + 1 = (checked.written done.disk).length ∧ area.header ≠ area.footer then
          Stuck partition area (checked.survivor ((checked.written done.disk).take count))
        else
          Recovers partition area (done.disk.image partition)
            (checked.survivor ((checked.written done.disk).take count)) := by
  cases standing : journal.state with
  | empty =>
    obtain ⟨rfl, rfl⟩ := Journal.of_check_of_empty standing checks
    obtain ⟨stored, fits, opens⟩ := Journal.of_load lies loaded
    obtain rfl : handle.area = area := congrArg Journal.area stored
    have lying : partition.LiesOn checked.device.shape := opens.lies lies
    rw [← opens.image rfl] at stored
    have undirty : handle.dirty = false := by
      rw [stored]
      rfl
    let mount : Mount := { journal := handle, superblock, objectIds }
    obtain ⟨report, done, activates, written, left⟩ :
        ∃ report after, activate partition { memory := mount, disk := checked } = .ok report after ∧
          checked.written after.disk = handle.retireWrites partition ∧
          after.disk.device.content =
            checked.device.content.afterAll (handle.retireWrites partition) :=
      activate_of_empty mount standing undirty fits lying serves
    refine ⟨report, done, activates, ?_⟩
    rw [written]
    intro count within
    have lives := checked.serves_survivor ((handle.retireWrites partition).take count)
    split
    · next torn =>
      exact stuck_of_retire_take handle standing fits stored lives lying torn.1 torn.2 rfl
    · next whole =>
      refine (recovers_of_retire_take handle standing fits stored lives lying ?_ rfl).congr ?_
      · exact fun last => by_contra fun apart => whole ⟨last, apart⟩
      · intro block header footer
        rw [Disk.image, left]
        exact (Journal.image_after_retire _ lying.toSectored fits header footer).symm
  | pending =>
    obtain ⟨rfl, rfl, lying, older, newest, shielded⟩ := Journal.shielded_of_check lies loaded
      standing checks clean headerFixed footerFixed kept
    obtain ⟨report, done, activates, written, left⟩ := activate_after_take
      { journal := handle, superblock, objectIds } 0 shielded lying serves rfl
    refine ⟨report, done, activates, ?_⟩
    rw [written]
    intro count within
    split
    · next torn =>
      exact stuck_of_activate_take shielded (checked.serves_survivor _) lying torn.1 rfl
    · next whole =>
      refine (recovers_of_activate_take shielded (checked.serves_survivor _) lying ?_ rfl).congr ?_
      · exact fun last => whole ⟨last, shielded.header_ne_footer⟩
      · intro block header footer
        rw [Disk.image, left]
        exact (Journal.image_after_retire _ lying.toSectored shielded.fits_replayed header
          footer).symm

/-- The small volume is activated with five block writes, and stuck when the last one is missing. -/
theorem exists_activated_sample : ∃ opened checked report done,
    Journal.load Sample.partition Sample.area Sample.disk = .ok Sample.journal opened ∧
    Sample.journal.check Sample.partition Sample.fixed .check opened =
      .ok ({ valid := 1, commitPoint := 3 }, Sample.journal) checked ∧
    checked.device.Serves ∧ checked.image Sample.partition = Sample.disk.image Sample.partition ∧
    activate Sample.partition
        { memory := { journal := Sample.journal, superblock := .fresh 512 8, objectIds := {} }
          disk := checked } = .ok report done ∧
    (checked.written done.disk).length = 5 ∧
    Stuck Sample.partition Sample.area
      (checked.survivor ((checked.written done.disk).take 4)) := by
  obtain ⟨opened, checked, loads, checks, serves, same⟩ := Sample.exists_checked
  obtain ⟨_, _, lies, older, newest, shielded⟩ := Journal.shielded_of_check Sample.lies loads rfl
    checks rfl (by decide) (by decide) (Sample.homes_kept same)
  obtain ⟨report, done, activates, written, _⟩ := activate_after_take
    { journal := Sample.journal, superblock := .fresh 512 8, objectIds := {} } 0 shielded lies
    serves rfl
  have all : older ++ [newest] = [Sample.logged] := by
    have pends := shielded.pends
    rw [same] at pends
    exact pends.unique Sample.pends
  have five : (checked.written done.disk).length = 5 := by
    rw [written, List.length_append, Journal.length_replayWrites, all,
      Journal.length_retireWrites _ shielded.pends.named_replayed]
    rfl
  refine ⟨opened, checked, report, done, loads, checks, serves, same, activates, five, ?_⟩
  rw [written] at five ⊢
  exact stuck_of_activate_take shielded (checked.serves_survivor _) lies five.symm rfl

/-- A volume that is stuck does not recover. -/
theorem Stuck.not_recovers {area : JournalArea} {image : Image}
    (stuck : Stuck partition area disk) : ¬ Recovers partition area image disk := by
  intro recovers
  obtain ⟨_, _, _, loads, fails⟩ := stuck (.fresh 512 8) {}
  obtain ⟨_, _, _, _, loaded, activates, _⟩ := recovers (.fresh 512 8) {}
  cases loads.symm.trans loaded
  exact nomatch fails.symm.trans activates

/-- The small volume is stuck when only the last write of its activation is missing, and recovers
when only its first two have reached the device. -/
theorem activate_after_power_loss_sample : ∃ checked report done,
    activate Sample.partition
        { memory := { journal := Sample.journal, superblock := .fresh 512 8, objectIds := {} }
          disk := checked } = .ok report done ∧
    Stuck Sample.partition Sample.area
      (checked.survivor ((checked.written done.disk).take 4)) ∧
    Recovers Sample.partition Sample.area (done.disk.image Sample.partition)
      (checked.survivor ((checked.written done.disk).take 2)) := by
  obtain ⟨opened, checked, _, _, loads, checks, serves, same, ran, five, _⟩ :=
    exists_activated_sample
  obtain ⟨report, done, activates, outcome⟩ := activate_after_power_loss (.fresh 512 8) {}
    Sample.lies loads checks rfl (by decide) (by decide) (Sample.homes_kept same) serves
  cases activates.symm.trans ran
  rw [five] at outcome
  exact ⟨checked, _, _, activates, outcome 4 (by decide), outcome 2 (by decide)⟩

/-- Not every moment of power loss is harmless: a journal that an inspection accepts, whose pointers
lie on fixed blocks that are no home blocks, is activated on a device that serves all requests, but
after some number of block writes the volume does not recover. -/
theorem power_loss_not_harmless : ∃ opened checked report done,
    Journal.load Sample.partition Sample.area Sample.disk = .ok Sample.journal opened ∧
    Sample.journal.check Sample.partition Sample.fixed .check opened =
      .ok ({ valid := 1, commitPoint := 3 }, Sample.journal) checked ∧
    Sample.fixed.test Sample.area.header.toNat = true ∧
    Sample.fixed.test Sample.area.footer.toNat = true ∧
    (∀ logged, Sample.journal.Pends Sample.partition (checked.image Sample.partition) logged →
      ∀ home ∈ logged.flatMap Logged.homes,
        home ≠ Sample.area.header ∧ home ≠ Sample.area.footer) ∧
    checked.device.Serves ∧
    activate Sample.partition
        { memory := { journal := Sample.journal, superblock := .fresh 512 8, objectIds := {} }
          disk := checked } = .ok report done ∧
    ∃ count ≤ (checked.written done.disk).length,
      ¬ Recovers Sample.partition Sample.area (done.disk.image Sample.partition)
        (checked.survivor ((checked.written done.disk).take count)) := by
  obtain ⟨opened, checked, report, done, loads, checks, serves, same, activates, five, stuck⟩ :=
    exists_activated_sample
  refine ⟨opened, checked, report, done, loads, checks, by decide, by decide,
    Sample.homes_kept same, serves, activates, 4, ?_, stuck.not_recovers⟩
  rw [five]
  decide

end Mount

end JournaledVolume
