import JournaledVolume.Proofs.Cleanliness
import JournaledVolume.Proofs.CommittedAllocator

/-!
# An activation settles a journal

A replay that returns has settled the journal, whatever the disk holds. The transactions may be
damaged, their homes may be blocks of the journal or of its pointers, and each copy may change what
is read after it: the pending transactions are collected before the first copy, the newest of them
is the one that the header names, and the pointers are written behind the last copy. So a second
replay finds nothing to do, and neither does an activation after an activation.
-/

namespace JournaledVolume

open JournaledVolume.Action

namespace Walk

variable {κ α δ : Type} [Walk κ α] [BlockDevice δ] {partition : Partition}

/-- While items are collected, those collected before stay in front. -/
theorem ends_forEach_push (walk : κ) (items : Array α) (disk : Disk δ) :
    Ends (forEach partition (fun item => AttachedM.revise fun items => items.push item) walk)
      { memory := items, disk } (fun _ after => items.toList <+: after.memory.toList)
      fun _ _ => True := by
  induction walk using room_induction κ partition generalizing items disk with
  | smaller walk ih =>
    unfold Ends
    cases stepped : step partition walk disk with
    | error error after =>
      rw [forEach_of_error stepped]
      trivial
    | ok found after =>
      cases found with
      | none => rw [forEach_of_end stepped]
      | some found =>
        rw [forEach_of_item stepped]
        have rest := ih found.2 (step_room stepped) (items.push found.1) after
        refine rest.mono (fun _ last kept => ?_) fun _ _ _ => trivial
        rw [Array.toList_push] at kept
        exact (List.prefix_append _ _).trans kept

end Walk

/-- A walk along the transaction chain starts with the transaction that it is told to start with. -/
theorem ChainWalk.ends_first_step {partition : Partition} {newest stop : Address}
    (differs : newest ≠ stop) (disk : Disk Store) :
    Ends ((ChainWalk.start newest stop).step partition) disk
      (fun found _ => ∃ first rest, found = some (first, rest) ∧ first.address = newest)
      fun _ _ => True := by
  rw [start, step, if_neg differs, if_neg List.not_mem_nil]
  refine (ends_anyhow (DiskM.readPointer partition newest) disk).andThen fun content _ _ => ?_
  cases TxHeader.decode? content with
  | none => exact DiskM.ends_refuse.allow fun _ _ _ => trivial
  | some header => exact DiskM.ends_emit_andThen (ends_pure ⟨_, _, rfl, rfl⟩)

namespace Journal

variable {partition : Partition} {area : JournalArea} {journal : Journal} {disk : Disk Store}

/-- The newest transaction collected from a pending journal is the one that the header names. -/
theorem ends_pending_newest (disk : Disk Store) (pending : journal.state = .pending) :
    Ends (journal.pending partition) disk
      (fun transactions _ => ∃ older newest, transactions = older ++ [newest] ∧
        newest.address = journal.header.lastCommitted)
      fun _ _ => True := by
  have differs : journal.header.lastCommitted ≠ journal.footer.lastFlushed :=
    differs_of_pending pending
  have gathers : Ends (DiskM.accumulate #[] (Walk.forEach partition
        (fun item => AttachedM.revise fun items => items.push item) journal.chain)) disk
      (fun items _ => ∃ newest behind, items.toList = newest :: behind ∧
        newest.address = journal.header.lastCommitted) fun _ _ => True := by
    apply DiskM.ends_accumulate
    have steps : Ends (Walk.step partition journal.chain) disk
        (fun found _ => ∃ first rest, found = some (first, rest) ∧
          first.address = journal.header.lastCommitted)
        fun _ _ => True := ChainWalk.ends_first_step differs disk
    unfold Ends
    cases stepped : Walk.step partition journal.chain disk with
    | error error after =>
      rw [Walk.forEach_of_error stepped]
      trivial
    | ok found after =>
      obtain ⟨first, rest, rfl, named⟩ := steps.of_ok stepped
      rw [Walk.forEach_of_item stepped]
      refine (Walk.ends_forEach_push rest #[first] after).mono ?_ fun _ _ _ => trivial
      rintro _ last ⟨behind, spelled⟩
      exact ⟨first, behind, spelled.symm, named⟩
  have collects : Ends (Walk.collect partition journal.chain) disk
      (fun items _ => ∃ newest behind, items = newest :: behind ∧
        newest.address = journal.header.lastCommitted) fun _ _ => True :=
    gathers.andThen fun _ _ held => ends_pure held
  refine collects.andThen ?_
  rintro _ _ ⟨newest, behind, rfl, named⟩
  exact ends_pure ⟨behind.reverse, newest, List.reverse_cons, named⟩

/-- A handle that matches the disk when it is clean does so after a sync. -/
theorem ends_sync_onDisk (measured : partition.MeasuredBy disk.device.shape)
    (storable : journal.Storable) (known : journal.dirty = false → journal.OnDisk partition disk) :
    Ends (journal.sync partition) disk
      (fun synced after => synced = { journal with dirty := false } ∧
        after.device.shape = disk.device.shape ∧ synced.OnDisk partition after)
      fun _ _ => True := by
  refine (ends_sync_measured journal measured).mono ?_ fun _ _ _ => trivial
  rintro _ after ⟨rfl, did⟩
  exact ⟨rfl, onDisk_of_sync measured storable known did⟩

/-- A replay of a pending journal that returns has moved the footer to the header, and has left the
handle on disk. Nothing is known of what the copies overwrite. -/
theorem ends_replay_anyhow (measured : partition.MeasuredBy disk.device.shape)
    (storable : journal.Storable) (pending : journal.state = .pending) :
    Ends (journal.replay partition) disk
      (fun result after => after.device.shape = disk.device.shape ∧
        (∃ counters, result.2 =
          { journal with
            footer := { lastFlushed := journal.header.lastCommitted, counters }
            dirty := false }) ∧
        result.2.OnDisk partition after)
      fun _ _ => True := by
  have apart : journal.area.header ≠ journal.area.footer :=
    storable.resolve_right fun empty => nomatch empty.symm.trans pending
  -- To spare no block at all asks nothing of the log records.
  have lasting : Lasting (Store.Sparing partition [] disk.device)
      (Store.Spared partition [] disk.device) := Store.lasting_sparing
  have begins : Store.Sparing partition [] disk.device disk.device :=
    ⟨.nothing _, fun _ _ _ _ _ => List.not_mem_nil⟩
  have collects := (ends_pending_newest disk pending).and
    (lasting.keeps_pending partition journal disk begins)
  unfold replay
  refine collects.bind ?_ fun _ _ _ => trivial
  rintro _ read ⟨⟨older, newest, rfl, named⟩, reading⟩
  have copies := Transaction.keeps_replayAll measured (older ++ [newest]) 0 read reading
  refine copies.bind ?_ fun _ _ _ => trivial
  intro blocks copied copying
  have units : partition.MeasuredBy copied.device.shape := measured.of_shape copying.spared.shape
  have advanced : (older ++ [newest]).foldl advance journal = journal.advance newest :=
    foldl_advance older newest
  rw [advanced]
  have holds : (journal.advance newest).Storable := .inl apart
  refine (ends_sync_onDisk units holds nofun).bind ?_ fun _ _ _ => trivial
  rintro _ between ⟨rfl, shape, onDisk⟩
  refine DiskM.ends_flush.bind ?_ fun _ _ _ => trivial
  intro _ after flushed
  have spared : Store.Spared partition journal.area.blocks between.device after.device :=
    ⟨_, flushed.added, List.forall_mem_singleton.2 Effect.spares_flush⟩
  refine ends_pure ⟨?_, ⟨newest.header.counters, ?_⟩, onDisk.of_spared spared⟩
  · rw [spared.shape, shape, copying.spared.shape]
  · rw [← named]
    rfl

end Journal

namespace Mount

variable {partition : Partition} {area : JournalArea} {journal : Journal}
  {state : Attached Mount Store} {opening opened : Disk Store}

/-- Whether the journal of a mount is settled. -/
structure Settled (partition : Partition) (area : JournalArea) (state : Attached Mount Store) :
    Prop where
  /-- The footer names the transaction that the header names. -/
  flushed : state.memory.journal.footer.lastFlushed = state.memory.journal.header.lastCommitted
  /-- The handle is clean. -/
  clean : state.memory.journal.dirty = false
  /-- Without faults the same handle is loaded. -/
  reloads : ∃ last, Journal.load partition area state.disk.repaired = .ok state.memory.journal last
  /-- Whatever calls go wrong, no other handle is loaded. -/
  reloaded : ∀ found last, Journal.load partition area state.disk = .ok found last →
    found = state.memory.journal
  /-- A replay asks nothing of the device and changes nothing. -/
  replays : replay partition state = .ok {} state

/-- Whether the handle of a mount agrees with its disk, is clean, and has nothing to replay. -/
structure Rests (partition : Partition) (area : JournalArea) (state : Attached Mount Store) :
    Prop extends Agrees partition area state where
  /-- The handle is clean. -/
  clean : state.memory.journal.dirty = false
  /-- It has nothing to replay. -/
  empty : state.memory.journal.state = .empty

/-- A journal at rest is settled. -/
theorem Rests.settled (rests : Rests partition area state) : Settled partition area state := by
  have onDisk := rests.onDisk rests.clean
  have located := rests.located
  have repaired : state.memory.journal.OnDisk partition state.disk.repaired :=
    ⟨onDisk.placed, onDisk.held⟩
  refine ⟨(Journal.state_eq_empty.1 rests.empty).symm, rests.clean, ?_, fun found last loads => ?_,
    replay_of_empty rests.empty⟩
  · rw [← located]
    exact repaired.exists_load rests.measured state.disk.sound_repaired
  · obtain ⟨same, _, _⟩ := (Journal.ends_load_measured rests.measured).of_ok loads
    rw [same, ← located]
    exact onDisk.held

/-- A replay that returns brings a handle that is on disk to rest. -/
theorem ends_replay_rests (agrees : Agrees partition area state)
    (clean : state.memory.journal.dirty = false) :
    Ends (replay partition) state (fun _ after => Rests partition area after)
      fun _ _ => True := by
  obtain ⟨mount, disk⟩ := state
  cases state : mount.journal.state with
  | empty => exact ends_of_ok (replay_of_empty state) ⟨agrees, clean, state⟩
  | pending =>
    have full : ¬ mount.journal.isEmpty = true := by
      rw [Journal.isEmpty, state]
      decide
    refine ends_get ?_
    show Ends (if mount.journal.isEmpty then _ else _) _ _ _
    rw [if_neg full]
    have replays := Journal.ends_replay_anyhow agrees.measured agrees.storable state
    refine AttachedM.ends_onDisk_andThen (replays.mono ?_ fun _ _ _ => trivial)
    rintro ⟨report, _⟩ after ⟨shape, ⟨counters, rfl⟩, onDisk⟩
    have units : partition.MeasuredBy after.device.shape := agrees.measured.of_shape shape
    exact ⟨⟨agrees.located, units, onDisk.storable, fun _ => onDisk.of_spared (.nothing _)⟩, rfl,
      Journal.state_eq_empty.2 rfl⟩

/-- A sync of a handle that agrees with its disk makes it clean and changes nothing else of it. -/
theorem Agrees.ends_sync_clean (agrees : Agrees partition area state) :
    Ends (sync partition) state
      (fun _ after => Agrees partition area after ∧
        after.memory.journal = { state.memory.journal with dirty := false })
      fun _ _ => True := by
  obtain ⟨mount, disk⟩ := state
  have syncs := Journal.ends_sync_onDisk agrees.measured agrees.storable agrees.onDisk
  refine ends_get (AttachedM.ends_onDisk_andThen (syncs.mono ?_ fun _ _ _ => trivial))
  rintro _ after ⟨rfl, shape, onDisk⟩
  have units : partition.MeasuredBy after.device.shape := agrees.measured.of_shape shape
  exact ⟨⟨agrees.located, units, agrees.storable, fun _ => onDisk⟩, rfl⟩

/-- A journal at rest that is retired has zero pointers and is at rest. -/
theorem Rests.ends_retire (rests : Rests partition area state) (report : ReplayReport) :
    Ends (retire partition report) state
      (fun _ after => Rests partition area after ∧ after.memory.journal.Zeroed)
      fun _ _ => True := by
  obtain ⟨mount, disk⟩ := state
  by_cases zeroed : mount.journal.Zeroed
  · exact ends_of_ok (retire_of_zeroed zeroed rests.clean) ⟨rests, zeroed⟩
  · have nonzero : mount.journal.header.lastCommitted ≠ 0 ∨
        mount.journal.footer.lastFlushed ≠ 0 := by
      rw [← not_and_or]
      exact zeroed
    unfold retire
    refine ends_get ?_
    dsimp only
    rw [if_pos nonzero]
    refine ends_invalidate.andThen ?_
    rintro _ ⟨_, between⟩ ⟨rfl, told⟩
    have units : partition.MeasuredBy between.device.shape := rests.measured.of_shape told.shape
    have zero : mount.journal.invalidate.Zeroed := mount.journal.zeroed_invalidate
    have agrees : Agrees partition area
        { memory := { mount with journal := mount.journal.invalidate }, disk := between } :=
      ⟨rests.located, units, .inr zero.state, nofun⟩
    refine agrees.ends_sync_clean.andThen ?_
    rintro _ ⟨⟨journal, superblock, objectIds⟩, after⟩ ⟨stays, same⟩
    obtain rfl : journal = { mount.journal.invalidate with dirty := false } := same
    exact ends_pure ⟨⟨stays, rfl, zero.state⟩, zero⟩

/-- A journal handle that was just loaded from a disk with any content, and a device of which any
call may go wrong. A replay that returns has settled the journal. An activation that returns has
settled it with zero pointers, and any other activation of the handle, in whatever state the device
is, asks nothing of the device and changes nothing. -/
theorem activation_settles (superblock : Superblock) (objectIds : ObjectIds)
    (measured : partition.MeasuredBy opening.device.shape)
    (loaded : Journal.load partition area opening = .ok journal opened) :
    (∀ report after,
      replay partition { memory := { journal, superblock, objectIds }, disk := opened } =
        .ok report after → Settled partition area after) ∧
    ∀ report after,
      activate partition { memory := { journal, superblock, objectIds }, disk := opened } =
        .ok report after →
      Settled partition area after ∧ after.memory.journal.Zeroed ∧
        ∀ (mount : Mount) (disk : Disk Store), mount.journal = after.memory.journal →
          activate partition { memory := mount, disk } = .ok {} { memory := mount, disk } := by
  obtain ⟨located, units, onDisk⟩ := Journal.onDisk_of_load measured loaded
  have clean : journal.dirty = false := (congrArg Journal.dirty onDisk.held).symm
  have agrees : Agrees partition area
      { memory := { journal, superblock, objectIds }, disk := opened } :=
    ⟨located, units, onDisk.storable, fun _ => onDisk⟩
  have replays := ends_replay_rests agrees clean
  have activates := replays.andThen fun report _ rests => rests.ends_retire report
  refine ⟨fun report after ran => (replays.of_ok ran).settled, fun report after ran => ?_⟩
  obtain ⟨rests, zeroed⟩ := activates.of_ok ran
  refine ⟨rests.settled, zeroed, fun mount disk same => ?_⟩
  rw [← same] at zeroed
  apply activate_of_zeroed zeroed
  rw [same]
  exact rests.clean

/-- On the sample volume the first copy overwrites the journal header. Both a replay and an
activation settle the journal all the same. -/
theorem activation_settles_sample : ∃ opened report replayed summary activated,
    Journal.load Sample.Committed.partition Sample.Committed.geometry.journalArea
      Sample.Committed.disk = .ok Sample.Committed.journal opened ∧
    replay Sample.Committed.partition
        { memory :=
            { journal := Sample.Committed.journal, superblock := .fresh 512 200, objectIds := {} }
          disk := opened } = .ok report replayed ∧
    Settled Sample.Committed.partition Sample.Committed.geometry.journalArea replayed ∧
    activate Sample.Committed.partition
        { memory :=
            { journal := Sample.Committed.journal, superblock := .fresh 512 200, objectIds := {} }
          disk := opened } = .ok summary activated ∧
    Settled Sample.Committed.partition Sample.Committed.geometry.journalArea activated ∧
    activated.memory.journal.Zeroed ∧
    activate Sample.Committed.partition activated = .ok {} activated := by
  obtain ⟨opened, _, loads, checks, _, _⟩ := Sample.Committed.exists_checked
  obtain ⟨_, fits, opens⟩ := Journal.of_load Sample.Committed.lies loads
  have lies : Sample.Committed.partition.LiesOn opened.device.shape :=
    opens.lies Sample.Committed.lies
  obtain ⟨_, _, older, newest, ready, _⟩ := Journal.ready_of_check lies fits rfl checks rfl
  obtain ⟨activated, activates, _⟩ :=
    exists_activate ⟨Sample.Committed.journal, .fresh 512 200, {}⟩ rfl ready lies
      (opens.serves Sample.Committed.serves)
  obtain ⟨report, replayed, replays, _⟩ := of_bind_ok activates
  obtain ⟨afterReplay, afterActivation⟩ :=
    activation_settles (.fresh 512 200) {} Sample.Committed.lies.measuredBy loads
  obtain ⟨settled, zeroed, again⟩ := afterActivation _ activated activates
  exact ⟨opened, report, replayed, _, activated, loads, replays,
    afterReplay report replayed replays, activates, settled, zeroed,
    again activated.memory activated.disk rfl⟩

end Mount

end JournaledVolume
