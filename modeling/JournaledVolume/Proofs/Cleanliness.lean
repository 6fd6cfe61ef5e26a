import JournaledVolume.Journal.Archive
import JournaledVolume.Journal.Inspection
import JournaledVolume.Proofs.Handover
import JournaledVolume.Proofs.Sparing

/-!
# A clean journal handle matches its disk

A handle that is not dirty claims that its pointers are on disk. Loading them, creating, unpacking
and every operation on the handle keep this claim, whatever faults the device meets: an operation
that changes the handle makes it dirty, and only a sync that has written both blocks makes it clean
again.

A replay is the exception. It writes the new footer before the last step that can fail, and when
that step fails it leaves the handle as it was. A handle that was clean then `FallsBehind` its disk.
It does so in no other way under two conditions. The area can hold the handle (`Storable`): a loaded
or new handle always meets this one, and of an unpacked one it is asked. And at each request no log
record that any block of the partition holds names a block of the pointers as a home (`LogsSpare`),
whether or not the record belongs to a transaction that waits, for a replay may bring the block of a
home over one that is read as a record later.
-/

namespace JournaledVolume

open JournaledVolume.Action

/-- The blocks of the journal pointers. -/
def JournalArea.blocks (area : JournalArea) : List Address := [area.header, area.footer]

namespace Journal

variable {partition : Partition} {area : JournalArea} {journal moved : Journal}
  {disk before after : Disk Store}

/-- Whether the blocks of a handle can be read and hold it. -/
structure OnDisk (partition : Partition) (disk : Disk Store) (journal : Journal) : Prop where
  /-- The blocks are within reach. -/
  placed : journal.Placed partition disk.device.shape
  /-- They hold the handle. -/
  held : stored partition journal.area (disk.image partition) = journal

/-- No area holds a handle that it cannot hold. -/
theorem OnDisk.storable (onDisk : journal.OnDisk partition disk) : journal.Storable := by
  by_cases shared : journal.area.header = journal.area.footer
  · refine .inr (state_eq_empty.2 ?_)
    -- Both pointers are read from the front of the one block.
    have header : journal.header = JournalHeader.decode _ :=
      (congrArg Journal.header onDisk.held).symm
    have footer : journal.footer = JournalFooter.decode _ :=
      (congrArg Journal.footer onDisk.held).symm
    rw [header, footer, shared]
    rfl
  · exact .inl shared

/-- A handle on disk is loaded from it. -/
theorem OnDisk.exists_load (onDisk : journal.OnDisk partition disk)
    (measured : partition.MeasuredBy disk.device.shape) (sound : disk.device.Sound) :
    ∃ after, load partition journal.area disk = .ok journal after := by
  obtain ⟨after, loads, _⟩ := exists_load_of_placed onDisk.placed onDisk.held measured sound
  exact ⟨after, loads⟩

/-- A handle on disk stays there while its blocks are spared. -/
theorem OnDisk.of_spared (onDisk : journal.OnDisk partition before)
    (spared : Store.Spared partition journal.area.blocks before.device after.device) :
    journal.OnDisk partition after := by
  have header := spared.image journal.area.header List.mem_cons_self
  have footer := spared.image journal.area.footer (List.mem_cons_of_mem _ List.mem_cons_self)
  refine ⟨?_, ?_⟩
  · rw [spared.shape]
    exact onDisk.placed
  · rw [stored, Disk.image, header, footer]
    exact onDisk.held

/-- A handle that was loaded is on disk. -/
theorem onDisk_of_load (measured : partition.MeasuredBy disk.device.shape)
    (loads : load partition area disk = .ok journal after) :
    journal.area = area ∧ partition.MeasuredBy after.device.shape ∧
      journal.OnDisk partition after := by
  obtain ⟨rfl, placed, ran⟩ := (ends_load_measured measured).of_ok loads
  rw [← ran.shape] at measured placed
  refine ⟨rfl, measured, placed, ?_⟩
  rw [ran.image rfl]
  rfl

/-- What a sync has done leaves the handle on disk. -/
theorem onDisk_of_sync (measured : partition.MeasuredBy before.device.shape)
    (storable : journal.Storable) (known : journal.dirty = false → journal.OnDisk partition before)
    (did : (journal.dirty = true ∧ journal.Placed partition before.device.shape ∧
        before.Ran after { requests := 2, effects := journal.writes partition }) ∨
      (journal.dirty = false ∧ after = before)) :
    after.device.shape = before.device.shape ∧
      OnDisk partition after { journal with dirty := false } := by
  rcases did with ⟨_, placed, ran⟩ | ⟨clean, rfl⟩
  · refine ⟨ran.shape, ⟨?_, ?_⟩⟩
    · rw [ran.shape]
      exact ⟨placed.valid, placed.same, placed.header, placed.footer⟩
    · show stored partition journal.area _ = _
      rw [Disk.image, ran.content]
      exact stored_after_writes journal measured.toSectored placed.fits storable
  · have same : { journal with dirty := false } = journal := by rw [← clean]
    refine ⟨rfl, ?_⟩
    rw [same]
    exact known clean

/-- A handle on disk stays there when the write of a handle with another footer breaks off, unless
something of this footer has reached the device. -/
theorem OnDisk.of_torn {reached : Nat} {part : List Effect} {footer : JournalFooter}
    (onDisk : journal.OnDisk partition before) (sectored : partition.Sectored)
    (apart : journal.area.header ≠ journal.area.footer)
    (torn : Torn reached (writes partition { journal with footer, dirty := true }) part)
    (added : before.device.Added after.device part) :
    journal.OnDisk partition after ∨
      ∃ data, data ≠ [] ∧ partition.blockWrite journal.area.footer.toNat data ∈ part := by
  have fits : Fits partition { journal with footer, dirty := true } :=
    onDisk.placed.fits.moved rfl rfl
  rcases stored_of_torn journal torn sectored fits apart onDisk.held rfl with held | reached
  · refine .inl ⟨?_, ?_⟩
    · rw [added.shape]
      exact onDisk.placed
    · rw [Disk.image, added.content]
      exact held
  · exact .inr reached

/-- A replay moves nothing of a handle but the footer, and makes it dirty. -/
theorem foldl_advance_eq (transactions : List Transaction) (journal : Journal) :
    transactions.foldl advance journal = journal ∨
      ∃ footer, transactions.foldl advance journal = { journal with footer, dirty := true } := by
  induction transactions generalizing journal with
  | nil => exact .inl rfl
  | cons transaction transactions ih =>
    rw [List.foldl_cons]
    rcases ih (journal.advance transaction) with same | ⟨footer, same⟩
    · exact .inr ⟨_, same⟩
    · exact .inr ⟨footer, same⟩

/-- Whether something of a new footer has reached the device. -/
def FooterReached (partition : Partition) (area : JournalArea) (before after : Disk Store) : Prop :=
  ∃ data, data ≠ [] ∧ partition.blockWrite area.footer.toNat data ∈ before.written after

/-- The last part of a replay: writing the handle that has moved, and a flush. When it breaks off,
the handle from before the replay is still on disk, if it was, or something of the new footer has
reached the device. -/
theorem ends_publish (report : ReplayReport) (measured : partition.MeasuredBy disk.device.shape)
    (apart : journal.area.header ≠ journal.area.footer)
    (known : journal.dirty = false → journal.OnDisk partition disk)
    (advanced : moved = journal ∨ ∃ footer, moved = { journal with footer, dirty := true }) :
    Ends (do
        let replayed ← moved.sync partition
        DiskM.flush
        return (report, replayed)) disk
      (fun result after => after.device.shape = disk.device.shape ∧
        result.2.area = journal.area ∧ result.2.OnDisk partition after)
      fun _ after => ∃ effects, disk.device.Added after.device effects ∧
        (journal.dirty = false → journal.OnDisk partition after ∨
          ∃ data, data ≠ [] ∧ partition.blockWrite journal.area.footer.toNat data ∈ effects) := by
  have located : moved.area = journal.area := by
    rcases advanced with rfl | ⟨footer, rfl⟩
    · rfl
    · rfl
  have standing (clean : moved.dirty = false) : moved = journal := by
    rcases advanced with same | ⟨footer, rfl⟩
    · exact same
    · exact nomatch clean
  have storable : moved.Storable := .inl (by rwa [located])
  have current (clean : moved.dirty = false) : moved.OnDisk partition disk := by
    obtain rfl := standing clean
    exact known clean
  refine (ends_sync_measured moved measured).bind ?_ ?_
  · rintro _ between ⟨rfl, did⟩
    obtain ⟨shape, onDisk⟩ := onDisk_of_sync measured storable current did
    refine DiskM.ends_flush.bind ?_ ?_
    · intro _ after flushed
      have spared : Store.Spared partition moved.area.blocks between.device after.device :=
        ⟨_, flushed.added, List.forall_mem_singleton.2 Effect.spares_flush⟩
      exact ends_pure ⟨spared.shape.trans shape, located, onDisk.of_spared spared⟩
    · intro _ after broke
      obtain ⟨reached, part, torn, added⟩ := broke.cut
      have spares : ∀ effect ∈ part, effect.Spares partition journal.area.blocks :=
        torn.spares (List.forall_mem_singleton.2 Effect.spares_flush)
          (List.forall_mem_singleton.2 fun _ => Effect.spares_flush)
      rcases did with ⟨_, placed, ran⟩ | ⟨clean, rfl⟩
      · refine ⟨moved.writes partition ++ part, ran.added.trans added, fun _ => .inr ?_⟩
        rw [← located]
        exact ⟨_, placed.fits.footer_ne_nil,
          List.mem_append_left _ (List.mem_cons_of_mem _ List.mem_cons_self)⟩
      · refine ⟨part, added, fun _ => .inl ?_⟩
        obtain rfl := standing clean
        exact (known clean).of_spared ⟨part, added, spares⟩
  · rintro _ after ⟨dirty, reached, part, torn, added⟩
    refine ⟨part, added, fun clean => ?_⟩
    obtain ⟨footer, rfl⟩ : ∃ footer, moved = { journal with footer, dirty := true } := by
      rcases advanced with rfl | changed
      · exact nomatch dirty.symm.trans clean
      · exact changed
    exact (known clean).of_torn measured.toSectored apart torn added

/-- A replay leaves the handle that it returns on disk. When it breaks off, the handle from before
is still on disk, if it was, or something of the new footer has reached the device. -/
theorem ends_replay_measured (measured : partition.MeasuredBy disk.device.shape)
    (apart : journal.area.header ≠ journal.area.footer)
    (spare : partition.LogsSpare journal.area.blocks (disk.image partition))
    (known : journal.dirty = false → journal.OnDisk partition disk) :
    Ends (journal.replay partition) disk
      (fun result after => after.device.shape = disk.device.shape ∧
        result.2.area = journal.area ∧ result.2.OnDisk partition after)
      fun _ after => after.device.shape = disk.device.shape ∧
        (journal.dirty = false → journal.OnDisk partition after ∨
          FooterReached partition journal.area disk after) := by
  have lasting : Lasting (Store.Sparing partition journal.area.blocks disk.device)
      (Store.Spared partition journal.area.blocks disk.device) := Store.lasting_sparing
  have begins : Store.Sparing partition journal.area.blocks disk.device disk.device :=
    ⟨.nothing _, spare⟩
  have still (after : Disk Store)
      (spared : Store.Spared partition journal.area.blocks disk.device after.device) :
      after.device.shape = disk.device.shape ∧
        (journal.dirty = false → journal.OnDisk partition after ∨
          FooterReached partition journal.area disk after) :=
    ⟨spared.shape, fun clean => .inl ((known clean).of_spared spared)⟩
  unfold replay
  refine (lasting.keeps_pending partition journal disk begins).bind ?_ fun _ => still
  intro transactions read reading
  refine (Transaction.keeps_replayAll measured transactions 0 read reading).bind ?_
    fun _ => still
  intro blocks copied copying
  have spared := copying.spared
  have units : partition.MeasuredBy copied.device.shape := measured.of_shape spared.shape
  have kept (clean : journal.dirty = false) : journal.OnDisk partition copied :=
    (known clean).of_spared spared
  refine (ends_publish _ units apart kept (foldl_advance_eq transactions journal)).mono ?_ ?_
  · rintro result after ⟨shape, published⟩
    exact ⟨shape.trans spared.shape, published⟩
  · rintro _ after ⟨effects, added, left⟩
    obtain ⟨early, copies, _⟩ := spared
    refine ⟨added.shape.trans copies.shape, fun clean => (left clean).imp_right ?_⟩
    rintro ⟨data, some, wrote⟩
    refine ⟨data, some, ?_⟩
    rw [Disk.written_of_added (copies.trans added)]
    exact List.mem_filter.2 ⟨List.mem_append_right _ wrote, rfl⟩

/-- A check leaves a handle, or moves the commit point of one that is pending. -/
theorem ends_check_handle (fixed : Bitmap) (mode : CheckMode) :
    Ends (journal.check partition fixed mode) disk
      (fun result _ => result.2 = journal ∨
        (journal.state = .pending ∧ ∃ address, result.2 = journal.commitAt address))
      fun _ _ => True := by
  unfold check
  dsimp only
  split
  · exact ends_pure (.inl rfl)
  · next full =>
    have pending : journal.state = .pending := by
      cases state : journal.state with
      | pending => rfl
      | empty =>
        rw [isEmpty, state] at full
        exact absurd rfl full
    refine ends_ofExcept (fun _ _ => ?_) fun _ _ => trivial
    refine (ends_anyhow (journal.examine partition fixed) disk).andThen fun found between _ => ?_
    cases found.2 with
    | none => exact ends_pure (.inl rfl)
    | some fault =>
      refine DiskM.ends_emit_andThen ?_
      split
      · exact DiskM.ends_emit_andThen (ends_pure (.inr ⟨pending, _, rfl⟩))
      · exact ends_pure (.inl rfl)

end Journal

namespace Mount

/-- What the journal of a mount can be asked for. -/
inductive Request where
  /-- Writing the pointers, if they have changed. -/
  | sync
  /-- Setting the pointers to zero. -/
  | invalidate
  /-- A check of the pending transactions. -/
  | check (fixed : Bitmap) (mode : CheckMode)
  /-- A replay. -/
  | replay
  /-- A replay that leaves the journal without transactions. -/
  | activate
deriving DecidableEq, Repr

/-- Serves a request. -/
def serve {δ : Type} [BlockDevice δ] (partition : Partition) : Request → AttachedM Mount δ Unit
  | .sync => sync partition
  | .invalidate => invalidate
  | .check fixed mode => do
    let journal := (← AttachedM.memory).journal
    let (_, journal) ← AttachedM.onDisk (journal.check partition fixed mode)
    AttachedM.revise fun mount => { mount with journal }
  | .replay => do
    let _ ← replay partition
  | .activate => do
    let _ ← activate partition

variable {partition : Partition} {area : JournalArea} {mount : Mount} {disk : Disk Store}
  {state before after last : Attached Mount Store}

/-- Whether a state is one in which a journal handle was just made. -/
inductive Started (partition : Partition) : (area : JournalArea) → Attached Mount Store → Prop where
  /-- The journal was loaded from the disk. -/
  | loaded {area : JournalArea} {mount : Mount} {disk after : Disk Store}
    (measured : partition.MeasuredBy disk.device.shape)
    (loads : Journal.load partition area disk = .ok mount.journal after) :
    Started partition area { memory := mount, disk := after }
  /-- The journal is new. -/
  | created {area : JournalArea} {blockSize : Nat} {mount : Mount} {disk : Disk Store}
    (measured : partition.MeasuredBy disk.device.shape)
    (creates : mount.journal = Journal.create area blockSize) :
    Started partition area { memory := mount, disk }
  /-- The journal was unpacked from a stream, and its area can hold it. -/
  | unpacked {blockSize : Nat} {stream rest : Bytes} {mount : Mount} {disk : Disk Store}
    (measured : partition.MeasuredBy disk.device.shape)
    (unpacks : Journal.unpack blockSize stream = .ok mount.journal rest)
    (storable : mount.journal.Storable) :
    Started partition mount.journal.area { memory := mount, disk }

/-- Whether the journal handle of a mount is for an area that can hold it and, when it is clean, is
on disk. -/
structure Agrees (partition : Partition) (area : JournalArea) (state : Attached Mount Store) :
    Prop where
  /-- The handle is for the area. -/
  located : state.memory.journal.area = area
  /-- The partition has the units of the device. -/
  measured : partition.MeasuredBy state.disk.device.shape
  /-- The area can hold the handle. -/
  storable : state.memory.journal.Storable
  /-- When the handle is clean, it is on disk. -/
  onDisk : state.memory.journal.dirty = false → state.memory.journal.OnDisk partition state.disk

/-- A handle that was just made agrees with its disk. -/
theorem Started.agrees (started : Started partition area state) :
    Agrees partition area state := by
  cases started with
  | loaded measured loads =>
    obtain ⟨located, units, onDisk⟩ := Journal.onDisk_of_load measured loads
    exact ⟨located, units, onDisk.storable, fun _ => onDisk⟩
  | @created _ blockSize mount _ measured creates =>
    have empty : mount.journal.state = .empty := by
      rw [creates]
      rfl
    refine ⟨congrArg Journal.area creates, measured, .inr empty, fun clean => ?_⟩
    rw [creates] at clean
    exact nomatch clean
  | @unpacked blockSize stream _ mount _ measured unpacks storable =>
    have dirty : Ends (Journal.unpack blockSize) stream (fun journal _ => journal.dirty = true)
        fun _ _ => True := by
      unfold Journal.unpack
      refine ends_ofExcept (fun _ _ => ?_) fun _ _ => trivial
      refine (ends_anyhow _ _).andThen fun _ _ _ => ?_
      exact (ends_anyhow _ _).andThen fun _ _ _ => ends_pure rfl
    exact ⟨rfl, measured, storable, fun clean => nomatch clean.symm.trans (dirty.of_ok unpacks)⟩

/-- Whether a replay of a clean handle has failed although something of the new footer has reached
the device. -/
def FallsBehind (partition : Partition) (before after : Attached Mount Store) : Prop :=
  before.memory.journal.dirty = false ∧ (∃ error, replay partition before = .error error after) ∧
    Journal.FooterReached partition before.memory.journal.area before.disk after.disk

/-- A sync keeps a handle in agreement. -/
theorem Agrees.ends_sync (agrees : Agrees partition area state) :
    Ends (sync partition) state (fun _ after => Agrees partition area after)
      fun _ after => Agrees partition area after := by
  obtain ⟨mount, disk⟩ := state
  refine ends_get (AttachedM.ends_onDisk_andThen ?_)
  refine (Journal.ends_sync_measured mount.journal agrees.measured).mono ?_ ?_
  · rintro _ after ⟨rfl, did⟩
    obtain ⟨shape, onDisk⟩ :=
      Journal.onDisk_of_sync agrees.measured agrees.storable agrees.onDisk did
    have measured : partition.MeasuredBy after.device.shape := agrees.measured.of_shape shape
    exact ⟨agrees.located, measured, agrees.storable, fun _ => onDisk⟩
  · rintro _ after ⟨dirty, cut⟩
    have measured : partition.MeasuredBy after.device.shape := agrees.measured.of_shape cut.shape
    exact ⟨agrees.located, measured, agrees.storable,
      fun clean => nomatch clean.symm.trans dirty⟩

/-- Setting the pointers to zero keeps a handle in agreement. -/
theorem Agrees.ends_invalidate (agrees : Agrees partition area state) :
    Ends invalidate state (fun _ after => Agrees partition area after)
      fun _ after => Agrees partition area after := by
  obtain ⟨mount, disk⟩ := state
  refine Mount.ends_invalidate.mono ?_ fun _ _ kept => kept
  rintro _ ⟨_, after⟩ ⟨rfl, ran⟩
  have measured : partition.MeasuredBy after.device.shape := agrees.measured.of_shape ran.shape
  exact ⟨agrees.located, measured, .inr rfl, nofun⟩

/-- A check keeps a handle in agreement. -/
theorem Agrees.ends_check (agrees : Agrees partition area state) (fixed : Bitmap)
    (mode : CheckMode) :
    Ends (serve partition (.check fixed mode)) state (fun _ after => Agrees partition area after)
      fun _ after => Agrees partition area after := by
  obtain ⟨mount, disk⟩ := state
  have lasting : Lasting (disk.device.Added · []) (disk.device.Added · []) :=
    ⟨fun _ requests added => added.trans ⟨requests, rfl⟩, fun _ added => added⟩
  have still {after : Disk Store} (added : disk.device.Added after.device []) :
      Agrees partition area { memory := mount, disk := after } := by
    refine ⟨agrees.located, ?_, agrees.storable, fun clean => ?_⟩
    · rw [added.shape]
      exact agrees.measured
    · exact (agrees.onDisk clean).of_spared ⟨[], added, nofun⟩
  rw [serve]
  refine ends_get (AttachedM.ends_onDisk_andThen ?_)
  refine ((lasting.keeps_check fixed mode mount.journal disk (.nothing _)).and
    (Journal.ends_check_handle fixed mode)).mono ?_ fun _ _ failed => still failed.1
  rintro ⟨_, handle⟩ after ⟨added, same | ⟨pending, address, same⟩⟩
  · obtain rfl : handle = mount.journal := same
    exact still added
  · obtain rfl : handle = mount.journal.commitAt address := same
    -- A pending journal is storable since its blocks differ, which the commit point leaves.
    have apart : mount.journal.area.header ≠ mount.journal.area.footer :=
      agrees.storable.resolve_right fun empty => nomatch empty.symm.trans pending
    exact ⟨agrees.located, (still added).measured, .inl apart, nofun⟩

/-- A replay keeps a handle in agreement, unless it lets the handle fall behind. -/
theorem Agrees.ends_replay (agrees : Agrees partition area state)
    (spare : partition.LogsSpare area.blocks (state.disk.image partition)) :
    Ends (replay partition) state (fun _ after => Agrees partition area after)
      fun _ after => Agrees partition area after ∨ FallsBehind partition state after := by
  obtain ⟨mount, disk⟩ := state
  cases state : mount.journal.state with
  | empty => exact ends_of_ok (replay_of_empty state) agrees
  | pending =>
    have apart : mount.journal.area.header ≠ mount.journal.area.footer :=
      agrees.storable.resolve_right fun empty => nomatch empty.symm.trans state
    rw [← agrees.located] at spare
    have replays := Journal.ends_replay_measured agrees.measured apart spare agrees.onDisk
    have full : ¬ mount.journal.isEmpty = true := by
      rw [Journal.isEmpty, state]
      decide
    have ends : Ends (replay partition) { memory := mount, disk }
        (fun _ after => Agrees partition area after)
        fun _ after => after.memory = mount ∧ after.disk.device.shape = disk.device.shape ∧
          (mount.journal.dirty = false → mount.journal.OnDisk partition after.disk ∨
            Journal.FooterReached partition mount.journal.area disk after.disk) := by
      refine ends_get ?_
      show Ends (if mount.journal.isEmpty then _ else _) _ _ _
      rw [if_neg full]
      refine AttachedM.ends_onDisk_andThen (replays.mono ?_ fun _ _ failed => ⟨rfl, failed⟩)
      rintro ⟨report, replayed⟩ after ⟨shape, located, onDisk⟩
      have measured : partition.MeasuredBy after.device.shape := agrees.measured.of_shape shape
      have storable : replayed.Storable := by
        refine .inl ?_
        rw [show replayed.area = mount.journal.area from located]
        exact apart
      exact ⟨Eq.trans located agrees.located, measured, storable,
        fun _ => onDisk.of_spared (.nothing _)⟩
    refine (ends.and (ends_run _ _)).mono (fun _ _ returned => returned.1) ?_
    rintro error ⟨kept, after⟩ ⟨⟨same, shape, left⟩, failed⟩
    obtain rfl : mount = kept := same.symm
    have measured : partition.MeasuredBy after.device.shape :=
      agrees.measured.of_shape shape
    by_cases behind :
        FallsBehind partition { memory := mount, disk } { memory := mount, disk := after }
    · exact .inr behind
    · refine .inl ⟨agrees.located, measured, agrees.storable, fun clean => ?_⟩
      rcases left clean with onDisk | reached
      · exact onDisk
      · exact (behind ⟨clean, ⟨error, failed⟩, reached⟩).elim

/-- Retiring a journal keeps a handle in agreement. -/
theorem Agrees.ends_retire (agrees : Agrees partition area state) (report : ReplayReport) :
    Ends (retire partition report) state (fun _ after => Agrees partition area after)
      fun _ after => Agrees partition area after := by
  refine ends_get ?_
  dsimp only
  split
  · refine agrees.ends_invalidate.andThen fun _ _ zeroed => ?_
    exact zeroed.ends_sync.andThen fun _ _ synced => ends_pure synced
  · exact agrees.ends_sync.andThen fun _ _ synced => ends_pure synced

/-- A request keeps a handle in agreement, unless its replay lets the handle fall behind. -/
theorem Agrees.ends_serve (agrees : Agrees partition area state)
    (spare : partition.LogsSpare area.blocks (state.disk.image partition)) (request : Request) :
    Ends (serve partition request) state
      (fun _ after => Agrees partition area after ∨ FallsBehind partition state after)
      fun _ after => Agrees partition area after ∨ FallsBehind partition state after := by
  cases request with
  | sync => exact agrees.ends_sync.mono (fun _ _ => .inl) fun _ _ => .inl
  | invalidate => exact agrees.ends_invalidate.mono (fun _ _ => .inl) fun _ _ => .inl
  | check fixed mode => exact (agrees.ends_check fixed mode).mono (fun _ _ => .inl) fun _ _ => .inl
  | replay =>
    rw [serve]
    exact (agrees.ends_replay spare).andThen fun _ _ replayed => ends_pure (.inl replayed)
  | activate =>
    rw [serve, activate_eq]
    have activates : Ends (replay partition >>= retire partition) state
        (fun _ after => Agrees partition area after)
        fun _ after => Agrees partition area after ∨ FallsBehind partition state after := by
      refine (agrees.ends_replay spare).andThen fun report between replayed => ?_
      exact (replayed.ends_retire report).allow fun _ _ => .inl
    exact activates.andThen fun _ _ activated => ends_pure (.inl activated)

/-- Whether serving a request leaves a state, where no log record names a block of the pointers as a
home, and the handle does not fall behind. -/
structure Step (partition : Partition) (before after : Attached Mount Store) : Prop where
  /-- No log record names a block of the pointers. -/
  spare : partition.LogsSpare before.memory.journal.area.blocks (before.disk.image partition)
  /-- A request was served, or has failed. -/
  served : ∃ request, (serve partition request).Leaves before after
  /-- No replay has failed behind its new footer. -/
  current : ¬ FallsBehind partition before after

/-- A run of requests keeps a handle in agreement. -/
theorem Agrees.run (agrees : Agrees partition area state)
    (run : Relation.ReflTransGen (Step partition) state last) : Agrees partition area last := by
  induction run with
  | refl => exact agrees
  | @tail between _ _ step ih =>
    obtain ⟨request, leaves⟩ := step.served
    have spare := step.spare
    rw [ih.located] at spare
    exact ((ih.ends_serve spare request).of_leaves leaves).resolve_right step.current

/-- A journal handle that was loaded, created or unpacked, and any requests to it, whichever calls
to the device go wrong. If the handle was unpacked, its area can hold it: the blocks of its pointers
differ, or it has nothing pending. And at each request no log record in any block of the partition
names a block of the pointers as a home, also none that no transaction leads to. Unless a replay
fails behind its new footer, the handle matches the disk whenever it is clean: loading without
faults gives the same handle. -/
theorem clean_matches_disk (started : Started partition area state)
    (run : Relation.ReflTransGen (Step partition) state last)
    (clean : last.memory.journal.dirty = false) :
    ∃ after, Journal.load partition area last.disk.repaired =
      .ok last.memory.journal after := by
  have agrees := started.agrees.run run
  have onDisk : last.memory.journal.OnDisk partition last.disk.repaired :=
    ⟨(agrees.onDisk clean).placed, (agrees.onDisk clean).held⟩
  rw [← agrees.located]
  exact onDisk.exists_load agrees.measured last.disk.sound_repaired

/-- A mount that took its journal up has just loaded it. -/
theorem started_of_takeUp (loads : takeUp partition area state = .ok () after)
    (measured : partition.MeasuredBy state.disk.device.shape) : Started partition area after := by
  obtain ⟨mount, disk⟩ := state
  have ends : Ends (takeUp partition area) { memory := mount, disk }
      (fun _ after => Started partition area after) fun _ _ => True := by
    refine AttachedM.ends_onDisk_andThen ?_
    refine (ends_run (Journal.load partition area) disk).mono ?_ fun _ _ _ => trivial
    intro journal opened ran
    have taken : Started partition area { memory := { mount with journal }, disk := opened } :=
      .loaded measured ran
    exact taken
  exact ends.of_ok loads

/-- What a replay leaves that a fault at a call cuts short after the journal was taken up: whether
the handle is dirty, where block writes began, the footer in memory, and the footer that is loaded
from the disk. -/
def failedReplay (partition : Partition) (area : JournalArea) (start : Attached Mount Store)
    (number : Nat) : Option (Bool × List Nat × JournalFooter × JournalFooter) :=
  match takeUp partition area { start with disk := start.disk.planned (failAt number) } with
  | .error _ _ => none
  | .ok _ loaded =>
    match replay partition loaded with
    | .ok _ _ => none
    | .error _ after =>
      match Journal.load partition area after.disk.repaired with
      | .error _ _ => none
      | .ok found _ =>
        some (after.memory.journal.dirty,
          (loaded.disk.written after.disk).filterMap fun effect =>
            match effect with
            | .write offset _ => some offset
            | .flush => none,
          after.memory.journal.footer, found.footer)

/-- The states behind what a replay leaves. -/
theorem exists_failedReplay {start : Attached Mount Store} {number : Nat} {dirty : Bool}
    {offsets : List Nat} {footer loads : JournalFooter}
    (left : failedReplay partition area start number = some (dirty, offsets, footer, loads)) :
    ∃ loaded error after found reopened,
      takeUp partition area { start with disk := start.disk.planned (failAt number) } =
        .ok () loaded ∧
      replay partition loaded = .error error after ∧ after.memory.journal.dirty = dirty ∧
      (∀ offset data, Effect.write offset data ∈ loaded.disk.written after.disk →
        offset ∈ offsets) ∧
      after.memory.journal.footer = footer ∧
      Journal.load partition area after.disk.repaired = .ok found reopened ∧
      found.footer = loads := by
  rw [failedReplay] at left
  split at left
  · exact nomatch left
  · next loaded taken =>
    split at left
    · exact nomatch left
    · next error after failed =>
      split at left
      · exact nomatch left
      · next found reopened loads =>
        cases left
        refine ⟨loaded, error, after, found, reopened, taken, failed, rfl, ?_, rfl, loads, rfl⟩
        exact fun offset data wrote => List.mem_filterMap.2 ⟨_, wrote, rfl⟩

/-- When the header cannot be written, the footer on disk is the one in memory. -/
theorem Sample.failedReplay_header : failedReplay Sample.partition Sample.area Sample.start 6 =
    some (false, [3072, 512], {}, {}) := by
  simp only [failedReplay, takeUp, replay, Journal.replay, Journal.pending, Walk.collect,
    Transaction.replay, Walk.forEach_eq_unrolled 3]
  decide +kernel

/-- When the flush fails, it is not. -/
theorem Sample.failedReplay_flush : failedReplay Sample.partition Sample.area Sample.start 8 =
    some (false, [3072, 512, 1024], {}, { lastFlushed := 3 }) := by
  simp only [failedReplay, takeUp, replay, Journal.replay, Journal.pending, Walk.collect,
    Transaction.replay, Walk.forEach_eq_unrolled 3]
  decide +kernel

/-- The log record of the small volume names no block of the pointers. -/
theorem Sample.logsSpare : Sample.partition.LogsSpare Sample.area.blocks
    (Sample.disk.image Sample.partition) :=
  Partition.logsSpare_of_all (by decide +kernel)

/-- The small volume has just been loaded when its journal was taken up, and its log record names no
block of the pointers. -/
theorem Sample.started {plan : Nat → Option Fault} {loaded : Attached Mount Store}
    (loads : takeUp Sample.partition Sample.area
      { Sample.start with disk := Sample.start.disk.planned plan } = .ok () loaded) :
    Started Sample.partition Sample.area loaded ∧
      loaded.memory.journal.area = Sample.area ∧
      Sample.partition.LogsSpare Sample.area.blocks (loaded.disk.image Sample.partition) := by
  have lies : Sample.partition.LiesOn (Sample.start.disk.planned plan).device.shape := Sample.lies
  have fits : Sample.journal.Fits Sample.partition := ⟨by decide, rfl, by decide, by decide⟩
  obtain ⟨taken, took⟩ := (ends_takeUp Sample.start.memory _ lies fits.stored).of_ok loads
  refine ⟨started_of_takeUp loads lies.measuredBy, ?_, ?_⟩
  · rw [taken]
    rfl
  · rw [took.image]
    exact Sample.logsSpare

/-- On the small volume a replay fails to write the header. The handle is clean, and is loaded from
the disk. -/
theorem clean_matches_disk_sample : ∃ loaded error after reopened,
    takeUp Sample.partition Sample.area
      { Sample.start with disk := Sample.start.disk.planned (failAt 6) } = .ok () loaded ∧
    replay Sample.partition loaded = .error error after ∧
    Journal.load Sample.partition Sample.area after.disk.repaired =
      .ok after.memory.journal reopened := by
  obtain ⟨loaded, error, after, _, _, loads, failed, clean, offsets, _⟩ :=
    exists_failedReplay Sample.failedReplay_header
  obtain ⟨started, located, spare⟩ := Sample.started loads
  have current : ¬ FallsBehind Sample.partition loaded after := by
    rintro ⟨_, _, data, _, wrote⟩
    have offset := offsets _ data wrote
    rw [located] at offset
    exact absurd offset (by decide)
  have served : ∃ request, (serve Sample.partition request).Leaves loaded after :=
    ⟨.replay, .inr ⟨error, bind_of_error failed⟩⟩
  have step : Step Sample.partition loaded after := ⟨located ▸ spare, served, current⟩
  obtain ⟨reopened, again⟩ := clean_matches_disk started (.single step) clean
  exact ⟨loaded, error, after, reopened, loads, failed, again⟩

/-- A clean handle does not always match the disk: after a replay that a failing flush cuts short,
the handle is clean, but another footer is loaded. -/
theorem failed_replay_not_on_disk : ∃ loaded after found reopened,
    Started Sample.partition Sample.area loaded ∧
    Sample.partition.LogsSpare Sample.area.blocks (loaded.disk.image Sample.partition) ∧
    (serve Sample.partition .replay).Leaves loaded after ∧
    after.memory.journal.dirty = false ∧
    Journal.load Sample.partition Sample.area after.disk.repaired = .ok found reopened ∧
    found.footer ≠ after.memory.journal.footer := by
  obtain ⟨loaded, error, after, found, reopened, taken, failed, clean, _, footer, loads, other⟩ :=
    exists_failedReplay Sample.failedReplay_flush
  obtain ⟨started, _, spare⟩ := Sample.started taken
  refine ⟨loaded, after, found, reopened, started, spare, .inr ⟨error, bind_of_error failed⟩, clean,
    loads, ?_⟩
  rw [other, footer]
  decide

end Mount

end JournaledVolume
