import JournaledVolume.Proofs.Resumption

/-!
# Retiring a journal

An activation replays the journal and then retires it: unless both pointers are zero already, the
header and the footer are written once more, with zero pointers.
-/

namespace JournaledVolume

open JournaledVolume.Action

namespace Journal

variable {partition : Partition} {area : JournalArea} {journal : Journal} {content : Content}

/-- Whether both journal pointers are zero. -/
def Zeroed (journal : Journal) : Prop :=
  journal.header.lastCommitted = 0 ∧ journal.footer.lastFlushed = 0

instance (journal : Journal) : Decidable journal.Zeroed := inferInstanceAs (Decidable (_ ∧ _))

/-- A journal with zero pointers has nothing to replay. -/
theorem Zeroed.state (zeroed : journal.Zeroed) : journal.state = .empty :=
  if_pos (zeroed.1.trans zeroed.2.symm)

/-- An invalidated journal has zero pointers. -/
theorem zeroed_invalidate (journal : Journal) : journal.invalidate.Zeroed := ⟨rfl, rfl⟩

/-- The pointers of an empty journal are equal, so both are zero if one is. -/
theorem zeroed_of_empty (empty : journal.state = .empty) (zero : journal.footer.lastFlushed = 0) :
    journal.Zeroed :=
  ⟨(state_eq_empty.1 empty).trans zero, zero⟩

/-- The pointers of a replayed journal are not zero. -/
theorem Pends.named_replayed {image : Image} {older : List Logged} {newest : Logged}
    (pends : journal.Pends partition image (older ++ [newest])) :
    ¬ (journal.replayed newest).Zeroed := by
  rintro ⟨_, zero⟩
  have address : newest.transaction.address = 0 := zero
  have listed : newest.transaction ∈ ((older ++ [newest]).map Logged.transaction).reverse := by
    simp
  have found := pends.chain.found _ listed
  rw [address] at found
  exact nomatch found

/-- The block writes that retire a replayed journal: none if its pointers are zero, or else those of
zero pointers. -/
def retireWrites (partition : Partition) (journal : Journal) : List Effect :=
  if journal.Zeroed then [] else journal.invalidate.writes partition

/-- Pointers that are not zero take two writes. -/
theorem length_retireWrites (partition : Partition) (named : ¬ journal.Zeroed) :
    (journal.retireWrites partition).length = 2 := by
  rw [retireWrites, if_neg named]
  rfl

/-- Only pointers that are not zero take any writes. -/
theorem named_of_lt_length {count : Nat}
    (more : count < (journal.retireWrites partition).length) : ¬ journal.Zeroed := by
  intro zeroed
  rw [retireWrites, if_pos zeroed] at more
  exact nomatch more

/-- Only writes are written when a journal is retired. -/
theorem filter_retireWrites :
    (journal.retireWrites partition).filter Effect.isWrite = journal.retireWrites partition := by
  unfold retireWrites
  split <;> rfl

/-- A journal that fits does so with zero pointers. -/
theorem Fits.invalidate (fits : journal.Fits partition) : journal.invalidate.Fits partition :=
  fits.moved rfl rfl

/-- What the blocks of an area hold fits where a handle for this area does. -/
theorem Fits.stored {image : Image} (fits : journal.Fits partition) :
    (Journal.stored partition journal.area image).Fits partition := by
  have valid : partition.blockSize ∈ blockSizes := by
    rw [fits.same]
    exact fits.valid
  exact ⟨valid, rfl, fits.header, fits.footer⟩

/-- Retiring a journal leaves all blocks but those of the pointers. -/
theorem image_after_retire_take (content : Content) (sectored : partition.Sectored)
    (fits : journal.Fits partition) (count : Nat) {block : Nat}
    (header : block ≠ journal.area.header.toNat) (footer : block ≠ journal.area.footer.toNat) :
    partition.image (content.afterAll ((journal.retireWrites partition).take count)) block =
      partition.image content block := by
  have after : journal.invalidate.Fits partition := fits.invalidate
  unfold retireWrites
  split
  · rw [List.take_nil, Content.afterAll_nil]
  · rcases count with _ | _ | count
    · rfl
    · refine (congrFun (Partition.image_after_blockWrite sectored after.length_header)
        block).trans ?_
      exact Function.update_of_ne header _ _
    · rw [List.take_of_length_le (Nat.le_add_left 2 count)]
      exact image_after_writes_of_ne sectored after header footer

/-- A journal that is retired has all other blocks as before. -/
theorem image_after_retire (content : Content) (sectored : partition.Sectored)
    (fits : journal.Fits partition) {block : Nat} (header : block ≠ journal.area.header.toNat)
    (footer : block ≠ journal.area.footer.toNat) :
    partition.image (content.afterAll (journal.retireWrites partition)) block =
      partition.image content block := by
  have kept := image_after_retire_take content sectored fits
    (journal.retireWrites partition).length header footer
  rwa [List.take_length] at kept

/-- When both pointers share a block, they are read from the same bytes. -/
theorem zeroed_stored_of_shared {image : Image} (shared : area.header = area.footer)
    (zero : (JournalHeader.decode (image area.header.toNat)).lastCommitted = 0) :
    (stored partition area image).Zeroed := by
  refine ⟨zero, ?_⟩
  show (JournalHeader.decode (image area.footer.toNat)).lastCommitted = 0
  rw [← shared, zero]

/-- Once zero pointers are written, they are found, also when both share a block. -/
theorem zeroed_after_writes (zeroed : journal.Zeroed) (sectored : partition.Sectored)
    (fits : journal.Fits partition) :
    (stored partition journal.area (partition.image
      (content.afterAll (journal.writes partition)))).Zeroed := by
  rw [stored_after_writes journal sectored fits (.inr zeroed.state)]
  exact zeroed

/-- Once pointers that are not zero are retired, both are zero. -/
theorem zeroed_after_retireWrites_of_named (sectored : partition.Sectored)
    (fits : journal.Fits partition) (named : ¬ journal.Zeroed) :
    (stored partition journal.area (partition.image
      (content.afterAll (journal.retireWrites partition)))).Zeroed := by
  rw [retireWrites, if_neg named]
  exact zeroed_after_writes journal.zeroed_invalidate sectored fits.invalidate

/-- Once a journal is retired, both pointers are zero. -/
theorem zeroed_after_retireWrites (sectored : partition.Sectored) (fits : journal.Fits partition)
    (stored : journal = stored partition journal.area (partition.image content)) :
    (Journal.stored partition journal.area (partition.image
      (content.afterAll (journal.retireWrites partition)))).Zeroed := by
  by_cases zeroed : journal.Zeroed
  · rw [retireWrites, if_pos zeroed, Content.afterAll_nil, ← stored]
    exact zeroed
  · exact zeroed_after_retireWrites_of_named sectored fits zeroed

/-- Between the two writes the pointers are zero if they share a block. -/
theorem zeroed_between_retireWrites (sectored : partition.Sectored) (fits : journal.Fits partition)
    (named : ¬ journal.Zeroed) (shared : journal.area.header = journal.area.footer) :
    (Journal.stored partition journal.area (partition.image
      (content.afterAll ((journal.retireWrites partition).take 1)))).Zeroed := by
  apply zeroed_stored_of_shared shared
  have held : partition.image (content.afterAll ((journal.retireWrites partition).take 1))
      journal.area.header.toNat = journal.invalidate.header.encode journal.blockSize := by
    rw [retireWrites, if_neg named]
    refine (congrFun (Partition.image_after_blockWrite sectored fits.invalidate.length_header)
      _).trans ?_
    exact Function.update_self _ _ _
  rw [held, JournalHeader.decode_encode]
  rfl

/-- Between the two writes only the header is zero if the pointers lie in two blocks. -/
theorem stored_between_retireWrites (sectored : partition.Sectored) (fits : journal.Fits partition)
    (stored : journal = stored partition journal.area (partition.image content))
    (named : ¬ journal.Zeroed) (apart : journal.area.header ≠ journal.area.footer) :
    Journal.stored partition journal.area (partition.image
      (content.afterAll ((journal.retireWrites partition).take 1))) =
      { journal with header.lastCommitted := 0 } := by
  rw [retireWrites, if_neg named]
  refine (stored_after_header journal.invalidate sectored fits.invalidate apart).trans ?_
  exact congrArg (fun found : Journal => { found with header.lastCommitted := 0 }) stored.symm

end Journal

namespace Mount

variable {partition : Partition} {mount : Mount} {disk : Disk Store} {report : ReplayReport}

/-- What an activation does behind the replay. -/
def retire {δ : Type} [BlockDevice δ] (partition : Partition) (report : ReplayReport) :
    AttachedM Mount δ ReplayReport := do
  let journal := (← AttachedM.memory).journal
  if journal.header.lastCommitted ≠ 0 ∨ journal.footer.lastFlushed ≠ 0 then invalidate
  sync partition
  return report

/-- An activation replays the journal and retires it. -/
theorem activate_eq {δ : Type} [BlockDevice δ] (partition : Partition) :
    (activate partition : AttachedM Mount δ ReplayReport) =
      replay partition >>= retire partition := rfl

/-- A journal that is retired already stays as it is. -/
theorem retire_of_zeroed (zeroed : mount.journal.Zeroed) (clean : mount.journal.dirty = false) :
    retire partition report { memory := mount, disk } = .ok report { memory := mount, disk } := by
  obtain ⟨⟨area, blockSize, ⟨committed⟩, ⟨flushed, counters⟩, dirty⟩, superblock, objectIds⟩ :=
    mount
  obtain ⟨rfl, rfl⟩ := zeroed
  cases clean
  rfl

/-- Setting the pointers to zero asks nothing of the device. -/
theorem ends_invalidate {fails : Error → Attached Mount Store → Prop} :
    Ends invalidate { memory := mount, disk }
      (fun _ after => after.memory = { mount with journal := mount.journal.invalidate } ∧
        disk.Ran after.disk {}) fails :=
  ⟨rfl, disk.ran_report .journalInvalidated⟩

/-- The pointers of a changed journal are written, or this breaks off. -/
theorem ends_sync (dirty : mount.journal.dirty = true) (fits : mount.journal.Fits partition)
    (lies : partition.LiesOn disk.device.shape) (writable : disk.device.readOnly = false) :
    Ends (sync partition) { memory := mount, disk }
      (fun _ after => disk.Ran after.disk
        { requests := 2, effects := mount.journal.writes partition })
      fun _ after => disk.Broke after.disk (mount.journal.writes partition) := by
  refine ends_get (AttachedM.ends_onDisk_andThen
    ((Journal.ends_sync dirty fits lies writable).mono ?_ fun _ _ broke => broke))
  rintro _ after ⟨rfl, ran⟩
  exact ran

/-- A journal with pointers that are not zero is retired, or this breaks off. -/
theorem ends_retire (mount : Mount) (report : ReplayReport) (named : ¬ mount.journal.Zeroed)
    (fits : mount.journal.Fits partition) (lies : partition.LiesOn disk.device.shape)
    (writable : disk.device.readOnly = false) :
    Ends (retire partition report) { memory := mount, disk }
      (fun value after => value = report ∧ disk.Ran after.disk
        { requests := 2, effects := mount.journal.retireWrites partition })
      fun _ after => disk.Broke after.disk (mount.journal.retireWrites partition) := by
  have nonzero : mount.journal.header.lastCommitted ≠ 0 ∨ mount.journal.footer.lastFlushed ≠ 0 := by
    rw [← not_and_or]
    exact named
  rw [Journal.retireWrites, if_neg named]
  unfold retire
  refine ends_get ?_
  dsimp only
  rw [if_pos nonzero]
  refine ends_invalidate.andThen ?_
  rintro _ ⟨_, between⟩ ⟨rfl, told⟩
  have lying : partition.LiesOn between.device.shape := told.lies lies
  have takes : between.device.readOnly = false := told.writable writable
  refine Ends.bind (ends_sync rfl fits.invalidate lying takes) ?_ fun _ _ broke => told.broke broke
  intro _ after wrote
  exact ends_pure ⟨rfl, told.trans wrote⟩

/-- An activation of a journal that is retired already does nothing. -/
theorem activate_of_zeroed (zeroed : mount.journal.Zeroed) (clean : mount.journal.dirty = false) :
    activate partition { memory := mount, disk } = .ok {} { memory := mount, disk } := by
  rw [activate_eq, bind_of_ok (replay_of_empty zeroed.state)]
  exact retire_of_zeroed zeroed clean

/-- An activation of an empty journal retires it. -/
theorem activate_of_empty (mount : Mount) (empty : mount.journal.state = .empty)
    (clean : mount.journal.dirty = false) (fits : mount.journal.Fits partition)
    (lies : partition.LiesOn disk.device.shape) (serves : disk.device.Serves) :
    ∃ report after, activate partition { memory := mount, disk } = .ok report after ∧
      disk.written after.disk = mount.journal.retireWrites partition ∧
      after.disk.device.content =
        disk.device.content.afterAll (mount.journal.retireWrites partition) := by
  by_cases zeroed : mount.journal.Zeroed
  · have still : disk.Ran disk {} := .nothing rfl rfl
    have nothing : disk.written disk = mount.journal.retireWrites partition := by
      rw [still.written, Journal.retireWrites, if_pos zeroed]
      rfl
    refine ⟨_, _, activate_of_zeroed zeroed clean, nothing, ?_⟩
    rw [← nothing]
    exact still.content_written
  · have ends := ends_retire mount {} zeroed fits lies serves.writable
    obtain ⟨report, after, retires, _, ran⟩ :=
      ends.exists_ok fun _ _ broke => broke.not_sound serves.toSound
    have wrote : disk.written after.disk = mount.journal.retireWrites partition := by
      rw [ran.written, Journal.filter_retireWrites]
    refine ⟨report, after, ?_, wrote, ?_⟩
    · rw [activate_eq, bind_of_ok (replay_of_empty empty)]
      exact retires
    · rw [← wrote]
      exact ran.content_written

variable {older : List Logged} {newest : Logged} {content : Content}

/-- A journal that is ready is activated on a device that serves all requests. Its transactions and
their entries are counted, all blocks but those of the pointers are restored, and the pointers are
zero. -/
theorem exists_activate (mount : Mount) (pending : mount.journal.state = .pending)
    (ready : mount.journal.Ready partition (disk.image partition) older newest)
    (lies : partition.LiesOn disk.device.shape) (serves : disk.device.Serves) :
    ∃ after, activate partition { memory := mount, disk } =
        .ok { transactions := older.length + 1
              blocks := ((older ++ [newest]).flatMap Logged.entries).length } after ∧
      partition.LiesOn after.disk.device.shape ∧ after.disk.device.Serves ∧
      (Journal.stored partition mount.journal.area (after.disk.image partition)).Zeroed ∧
      ∀ block, block ≠ mount.journal.area.header.toNat →
        block ≠ mount.journal.area.footer.toNat →
        after.disk.image partition block = Image.restore (disk.image partition)
          ((older ++ [newest]).flatMap Logged.entries) block := by
  have steady : Steady partition (disk.image partition)
      ((older ++ [newest]).flatMap Logged.blocks) disk := ⟨lies, serves.writable, fun _ _ => rfl⟩
  obtain ⟨report, ⟨_, between⟩, replays, rfl, rfl, did⟩ :=
    (ends_replay pending ready steady).exists_ok fun _ _ broke =>
      broke.2.not_sound serves.toSound
  have lying : partition.LiesOn between.device.shape := did.lies lies
  have still : between.device.Serves := did.serves serves
  have fits : (mount.journal.replayed newest).Fits partition := ready.fits.moved rfl rfl
  have named := ready.pends.named_replayed
  obtain ⟨_, after, retires, rfl, ran⟩ :=
    (ends_retire (mount.accept (mount.journal.replayed newest)) _ named fits lying
      still.writable).exists_ok fun _ _ broke => broke.not_sound still.toSound
  refine ⟨after, ?_, ran.lies lying, ran.serves still, ?_, fun block header footer => ?_⟩
  · rw [activate_eq, bind_of_ok replays]
    exact retires
  · rw [Disk.image, ran.content]
    exact Journal.zeroed_after_retireWrites_of_named lies.toSectored fits named
  · rw [Disk.image, ran.content]
    refine (Journal.image_after_retire _ lies.toSectored fits header footer).trans ?_
    rw [did.content]
    exact Journal.image_after_replay_of_ne lies.toSectored ready.fits header footer

/-- An activation that starts after the first block writes of a replay leaves what it would have
left from the start. -/
theorem activate_after_take (mount : Mount) (count : Nat)
    (shielded : mount.journal.Shielded partition (partition.image content) older newest)
    (lies : partition.LiesOn disk.device.shape) (serves : disk.device.Serves)
    (cut : disk.device.content = content.afterAll
      ((mount.journal.replayWrites partition (partition.image content) older newest).take count)) :
    ∃ report after, activate partition { memory := mount, disk } = .ok report after ∧
      disk.written after.disk =
        mount.journal.replayWrites partition (partition.image content) older newest ++
          (mount.journal.replayed newest).retireWrites partition ∧
      after.disk.device.content = (content.afterAll
        (mount.journal.replayWrites partition (partition.image content) older newest)).afterAll
          ((mount.journal.replayed newest).retireWrites partition) := by
  obtain ⟨⟨_, between⟩, replays, rfl, left, did⟩ :=
    replay_after_take mount count shielded lies serves cut
  have lying : partition.LiesOn between.device.shape := did.lies lies
  have still := did.serves serves
  have ends := ends_retire (mount.accept (mount.journal.replayed newest))
    { transactions := older.length + 1
      blocks := ((older ++ [newest]).flatMap Logged.entries).length }
    shielded.pends.named_replayed shielded.fits_replayed lying still.writable
  obtain ⟨report, after, retires, _, ran⟩ :=
    ends.exists_ok fun _ _ broke => broke.not_sound still.toSound
  refine ⟨report, after, ?_, ?_, ?_⟩
  · rw [activate_eq, bind_of_ok replays]
    exact retires
  · rw [(did.trans ran).written, Trace.effects_append, List.filter_append,
      Journal.filter_replayTrace]
    exact congrArg _ Journal.filter_retireWrites
  · rw [ran.content, left]
    rfl

end Mount

end JournaledVolume
