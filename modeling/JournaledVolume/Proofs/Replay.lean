import JournaledVolume.Mount
import JournaledVolume.Proofs.Copying
import JournaledVolume.Proofs.Inspection
import JournaledVolume.Proofs.Pointers

/-!
# Replaying a journal

A replay of pending transactions whose blocks are in order either does everything that it should, or
breaks off at a fault with a part of it done. What it should do is a trace that depends on the
blocks which the journal occupies only.
-/

namespace JournaledVolume

open JournaledVolume.Action

/-- Whether a transaction can be replayed while blocks are kept: its records lead from its header,
and are among these blocks, and so are the wandered blocks of its entries; its home blocks are
not. -/
structure Logged.Replayable (partition : Partition) (image : Image) (kept : List Address)
    (logged : Logged) : Prop where
  /-- The records are those that the header leads to. -/
  read : logged.Read partition image
  /-- The header is kept. -/
  header : logged.transaction.address ∈ kept
  /-- The records are kept. -/
  known : ∀ record ∈ logged.records, record.1 ∈ kept
  /-- The entries can be copied. -/
  sane : ∀ record ∈ logged.records, ∀ entry ∈ record.2.entries, entry.Sane partition.length kept

/-- Transactions in order can be replayed while all their blocks are kept. -/
theorem InOrder.replayable {partition : Partition} {image : Image} {fixed : Bitmap}
    {all : List Logged} (ordered : InOrder fixed partition.length all)
    (read : ∀ logged ∈ all, logged.Read partition image) :
    ∀ logged ∈ all, logged.Replayable partition image (all.flatMap Logged.blocks) := by
  intro logged listed
  have block {address : Address} (known : address ∈ logged.blocks) :
      address ∈ all.flatMap Logged.blocks := List.mem_flatMap.2 ⟨logged, listed, known⟩
  have header : logged.transaction.address ∈ all.flatMap Logged.blocks :=
    block Logged.address_mem_blocks
  have records : ∀ record ∈ logged.records, record.1 ∈ all.flatMap Logged.blocks :=
    fun record known => block (Logged.record_mem_blocks known)
  have sane : ∀ record ∈ logged.records, ∀ entry ∈ record.2.entries,
      entry.Sane partition.length (all.flatMap Logged.blocks) := by
    intro record known entry held
    have entered : entry ∈ logged.entries := List.mem_flatMap.2 ⟨record, known, held⟩
    have home : entry.home ∈ all.flatMap Logged.homes :=
      Logged.home_mem_homes (List.mem_flatMap.2 ⟨logged, listed, entered⟩)
    have wandered := block (Logged.wandered_mem_blocks entered)
    exact ⟨ordered.named _ wandered, ordered.homes_named _ home, wandered, ordered.apart _ home⟩
  exact ⟨read logged listed, header, records, sane⟩

namespace Transaction

variable {partition : Partition} {image : Image} {kept : List Address} {disk : Disk Store}
  {copied : Nat}

/-- What replaying transactions does, after `copied` blocks. -/
def replayTrace (partition : Partition) (image : Image) : (copied : Nat) → List Logged → Trace
  | _, [] => {}
  | copied, logged :: newer =>
    recordsTrace partition image logged.transaction copied logged.records ++
      replayTrace partition image (copied + logged.entries.length) newer

/-- A transaction is replayed, or the replay breaks off. -/
theorem ends_replay {logged : Logged} (steady : Steady partition image kept disk)
    (replayable : logged.Replayable partition image kept) :
    Ends (logged.transaction.replay partition copied) disk
      (fun total after => total = copied + logged.entries.length ∧
        disk.Ran after (recordsTrace partition image logged.transaction copied logged.records))
      fun _ after => disk.Broke after
        (recordsTrace partition image logged.transaction copied logged.records).effects := by
  have trail : Walk.Trail partition image (RecordWalk.start logged.transaction) logged.records :=
    RecordWalk.trail_iff.2 ⟨replayable.read, fun _ _ => List.not_mem_nil⟩
  exact DiskM.ends_accumulate
    (ends_copyRecords trail steady replayable.known replayable.sane)

/-- Transactions are replayed in order, or the replay breaks off. -/
theorem ends_replayAll (all : List Logged) (steady : Steady partition image kept disk)
    (replayable : ∀ logged ∈ all, logged.Replayable partition image kept) :
    Ends ((all.map Logged.transaction).foldlM
        (fun copied transaction =>
          DiskM.orReport (.replayFailed transaction.header.id transaction.address)
            (transaction.replay partition copied))
        copied) disk
      (fun total after => total = copied + (all.flatMap Logged.entries).length ∧
        disk.Ran after (replayTrace partition image copied all))
      fun _ after => disk.Broke after (replayTrace partition image copied all).effects := by
  induction all generalizing copied disk with
  | nil => exact ends_pure ⟨rfl, .nothing rfl rfl⟩
  | cons logged newer ih =>
    obtain ⟨first, later⟩ := List.forall_mem_cons.1 replayable
    rw [List.map_cons, List.foldlM_cons]
    refine Ends.bind (DiskM.ends_orReport_broke (ends_replay steady first)) ?_
      fun _ _ broke => broke.append
    rintro _ between ⟨rfl, ran⟩
    have after := steady.ran ran (recordsTrace_spares steady first.sane)
    refine (ih after later).mono ?_ fun _ _ broke => ran.broke broke
    rintro _ last ⟨rfl, rest⟩
    refine ⟨?_, ran.trans rest⟩
    rw [List.flatMap_cons, List.length_append, Nat.add_assoc]

/-- Replaying transactions leaves the blocks that are kept. -/
theorem replayTrace_spares (all : List Logged) (steady : Steady partition image kept disk)
    (replayable : ∀ logged ∈ all, logged.Replayable partition image kept) :
    ∀ effect ∈ (replayTrace partition image copied all).effects, effect.Spares partition kept := by
  induction all generalizing copied with
  | nil => exact nofun
  | cons logged newer ih =>
    obtain ⟨first, later⟩ := List.forall_mem_cons.1 replayable
    exact List.forall_mem_append.2 ⟨recordsTrace_spares steady first.sane, ih later⟩

end Transaction

namespace Journal

variable {partition : Partition} {image : Image} {journal : Journal} {disk : Disk Store}
  {older : List Logged} {newest : Logged}

/-- Whether a journal with pending transactions can be replayed. -/
structure Ready (partition : Partition) (image : Image) (journal : Journal) (older : List Logged)
    (newest : Logged) : Prop where
  /-- The handle belongs on the partition. -/
  fits : journal.Fits partition
  /-- The transactions are the pending ones. -/
  pends : journal.Pends partition image (older ++ [newest])
  /-- Each can be replayed while the blocks of all are kept. -/
  replayable : ∀ logged ∈ older ++ [newest],
    logged.Replayable partition image ((older ++ [newest]).flatMap Logged.blocks)

/-- The handle behind a replay. -/
def replayed (journal : Journal) (newest : Logged) : Journal :=
  { journal.advance newest.transaction with dirty := false }

/-- What replaying a journal does. -/
def replayTrace (partition : Partition) (image : Image) (journal : Journal) (older : List Logged)
    (newest : Logged) : Trace :=
  .reads (older.length + 1) ++ Transaction.replayTrace partition image 0 (older ++ [newest]) ++
    { requests := 2, effects := (journal.replayed newest).writes partition } ++
    { requests := 1, effects := [.flush] }

/-- Only the newest transaction shows in the handle. -/
theorem foldl_advance (transactions : List Transaction) (newest : Transaction) :
    (transactions ++ [newest]).foldl advance journal = journal.advance newest := by
  induction transactions generalizing journal with
  | nil => rfl
  | cons transaction transactions ih => exact ih

/-- The pending transactions of a journal on a steady disk are collected, or this breaks off. -/
theorem ends_pending_of_pends {logged : List Logged} (pends : journal.Pends partition image logged)
    (steady : Steady partition image (logged.flatMap Logged.blocks) disk) :
    Ends (journal.pending partition) disk
      (fun transactions after => transactions = logged.map Logged.transaction ∧
        disk.Ran after (.reads logged.length))
      fun _ after => disk.Broke after [] := by
  have held : journal.Pends partition (disk.image partition) logged :=
    pends.congr fun block known => (steady.same block known).symm
  refine (ends_pending steady.lies).mono ?_ ?_
  · rintro transactions after ⟨waits, ran⟩
    obtain rfl := waits.unique held.chain
    rw [List.length_map] at ran
    exact ⟨rfl, ran⟩
  · exact fun _ _ refused => refused.of_orderly ⟨_, held.chain⟩

/-- A journal that is ready is replayed, or the replay breaks off. -/
theorem ends_replay (ready : journal.Ready partition image older newest)
    (steady : Steady partition image ((older ++ [newest]).flatMap Logged.blocks) disk) :
    Ends (journal.replay partition) disk
      (fun result after => result =
        ({ transactions := older.length + 1
           blocks := ((older ++ [newest]).flatMap Logged.entries).length },
          journal.replayed newest) ∧
        disk.Ran after (journal.replayTrace partition image older newest))
      fun _ after =>
        disk.Broke after (journal.replayTrace partition image older newest).effects := by
  unfold replay
  refine Ends.bind (ends_pending_of_pends ready.pends steady) ?_ fun _ _ => Disk.Broke.of_nil
  rintro _ first ⟨rfl, read⟩
  have reading := steady.read read
  refine Ends.bind (Transaction.ends_replayAll _ reading ready.replayable) ?_
    fun _ _ broke => (read.broke broke).append.append
  rintro _ second ⟨rfl, copied⟩
  have copying := reading.ran copied (Transaction.replayTrace_spares _ reading ready.replayable)
  rw [List.map_append, List.map_singleton, foldl_advance]
  have fits : (journal.advance newest.transaction).Fits partition := ready.fits.moved rfl rfl
  refine Ends.bind (ends_sync rfl fits copying.lies copying.writable) ?_
    fun _ _ broke => ((read.trans copied).broke broke).append
  rintro _ third ⟨rfl, wrote⟩
  refine Ends.bind DiskM.ends_flush ?_
    fun _ _ broke => ((read.trans copied).trans wrote).broke broke
  intro _ last flushed
  refine ends_pure ⟨?_, ?_⟩
  · rw [Nat.zero_add, List.length_append, List.length_map, List.length_singleton]
    rfl
  · have ran := ((read.trans copied).trans wrote).trans flushed
    rw [List.length_append] at ran
    exact ran

/-- A pending journal that an inspection accepts is ready. -/
theorem ready_of_check {fixed : Bitmap} {mode : CheckMode} {inspection : Inspection}
    {handle : Journal} {after : Disk Store} (lies : partition.LiesOn disk.device.shape)
    (fits : journal.Fits partition) (pending : journal.state = .pending)
    (checked : journal.check partition fixed mode disk = .ok (inspection, handle) after)
    (clean : inspection.bad = none) :
    handle = journal ∧ (∃ count, disk.Ran after (.reads count)) ∧ ∃ older newest,
      journal.Ready partition (disk.image partition) older newest ∧
      InOrder fixed partition.length (older ++ [newest]) := by
  obtain ⟨good, bad, same, found⟩ := (ends_check pending lies).of_ok checked
  have answer : inspection = (journal.verdict mode good bad).1 := congrArg Prod.fst same
  have left : handle = (journal.verdict mode good bad).2 := congrArg Prod.snd same
  rw [answer, bad_verdict] at clean
  subst clean
  rcases found with ⟨examined, ran⟩ | ⟨_, known⟩
  · cases examined with
    | chain waits examined =>
      cases examined with
      | good holds =>
        obtain ⟨logged, rfl, read, ordered⟩ := holds
        have pends : journal.Pends partition (disk.image partition) logged := ⟨waits, read⟩
        obtain ⟨older, newest, rfl⟩ := pends.exists_newest pending
        exact ⟨left, ran, older, newest, ⟨fits, pends, ordered.replayable read⟩, ordered⟩
  · exact nomatch known

/-- A pending journal that was just loaded, and that an inspection accepts, is what the disk holds
behind the inspection, and is ready there. -/
theorem ready_of_loaded {area : JournalArea} {fixed : Bitmap} {mode : CheckMode}
    {inspection : Inspection} {handle : Journal} {opening opened checked : Disk Store}
    (lies : partition.LiesOn opening.device.shape)
    (loaded : load partition area opening = .ok journal opened)
    (pending : journal.state = .pending)
    (checks : journal.check partition fixed mode opened = .ok (inspection, handle) checked)
    (clean : inspection.bad = none) :
    handle = journal ∧ journal = stored partition area (checked.image partition) ∧
      partition.LiesOn checked.device.shape ∧ ∃ older newest,
        journal.Ready partition (checked.image partition) older newest ∧
        InOrder fixed partition.length (older ++ [newest]) := by
  obtain ⟨held, fits, opens⟩ := of_load lies loaded
  have openedLies : partition.LiesOn opened.device.shape := opens.lies lies
  obtain ⟨same, ⟨_, looked⟩, older, newest, ready, ordered⟩ :=
    ready_of_check openedLies fits pending checks clean
  rw [← opens.image rfl, ← looked.image rfl] at held
  rw [← looked.image rfl] at ready
  exact ⟨same, held, looked.lies openedLies, older, newest, ready, ordered⟩

end Journal

namespace Mount

variable {partition : Partition} {image : Image} {mount : Mount} {disk : Disk Store}
  {older : List Logged} {newest : Logged}

/-- A mount whose journal is ready takes the replayed journal over; when the replay breaks off it
stays as it was. -/
theorem ends_replay (pending : mount.journal.state = .pending)
    (ready : mount.journal.Ready partition image older newest)
    (steady : Steady partition image ((older ++ [newest]).flatMap Logged.blocks) disk) :
    Ends (replay partition) { memory := mount, disk }
      (fun report after => report =
          { transactions := older.length + 1
            blocks := ((older ++ [newest]).flatMap Logged.entries).length } ∧
        after.memory = mount.accept (mount.journal.replayed newest) ∧
        disk.Ran after.disk (mount.journal.replayTrace partition image older newest))
      fun _ after => after.memory = mount ∧
        disk.Broke after.disk (mount.journal.replayTrace partition image older newest).effects := by
  have full : ¬ mount.journal.isEmpty = true := by
    rw [Journal.isEmpty, pending]
    decide
  refine ends_get ?_
  show Ends (if mount.journal.isEmpty then _ else _) _ _ _
  rw [if_neg full]
  refine AttachedM.ends_onDisk_andThen ((Journal.ends_replay ready steady).mono ?_ ?_)
  · rintro _ after ⟨rfl, ran⟩
    exact ⟨rfl, rfl, ran.report rfl⟩
  · exact fun _ _ broke => ⟨rfl, broke⟩

end Mount

end JournaledVolume
