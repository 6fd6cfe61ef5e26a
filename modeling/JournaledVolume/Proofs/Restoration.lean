import JournaledVolume.Proofs.Replay
import Mathlib.Data.List.Induction

/-!
# What a replay restores

The replay of a journal that an inspection accepts succeeds on a device that serves it. Every home
block ends with the content that the last entry for it holds, and everything but the journal
pointers is otherwise as it was.
-/

namespace JournaledVolume

open JournaledVolume.Action

/-- What the blocks hold after entries were copied in order: the last entry for a block decides. -/
def Image.restore (image : Image) (entries : List WanderEntry) : Image := fun block =>
  match entries.reverse.find? fun entry => entry.home.toNat = block with
  | some entry => image entry.wandered.toNat
  | none => image block

/-- The effect of copying the block of an entry. -/
def WanderEntry.copyEffect (partition : Partition) (image : Image) (entry : WanderEntry) : Effect :=
  partition.blockWrite entry.home.toNat (image entry.wandered.toNat)

/-- The report of copying the block of an entry, as the one with this index. -/
def WanderEntry.copy (transaction : Transaction) (entry : WanderEntry) (index : Nat) : Copy where
  txId := transaction.header.id
  txAddress := transaction.address
  wandered := entry.wandered
  home := entry.home
  copied := index + 1

/-- The entries of transactions with the transaction of each: from old to new, and in the order of
the logs. -/
def Logged.steps (all : List Logged) : List (Transaction × WanderEntry) :=
  all.flatMap fun logged => logged.entries.map (Prod.mk logged.transaction)

/-- The entries of the oldest transaction come first. -/
theorem Logged.steps_cons (logged : Logged) (newer : List Logged) :
    Logged.steps (logged :: newer) =
      logged.entries.map (Prod.mk logged.transaction) ++ Logged.steps newer := List.flatMap_cons

/-- The reports of copying all blocks, numbered from one. -/
def Logged.copies (all : List Logged) : List Copy :=
  (Logged.steps all).zipIdx.map fun step => step.1.2.copy step.1.1 step.2

variable {partition : Partition} {image : Image} {content : Content}

/-- One more entry replaces what its home block holds. -/
theorem Image.restore_append_singleton (entries : List WanderEntry) (entry : WanderEntry) :
    image.restore (entries ++ [entry]) =
      Function.update (image.restore entries) entry.home.toNat (image entry.wandered.toNat) := by
  funext block
  rw [restore, List.reverse_append, List.reverse_singleton, List.singleton_append, List.find?_cons]
  by_cases same : entry.home.toNat = block
  · subst same
    simp
  · simp [same, Function.update_of_ne (Ne.symm same), restore]

/-- Copying entries in order restores their home blocks. -/
theorem image_after_copies (sectored : partition.Sectored) (entries : List WanderEntry) :
    partition.image (content.afterAll (entries.map
      (WanderEntry.copyEffect partition (partition.image content)))) =
      Image.restore (partition.image content) entries := by
  induction entries using List.reverseRecOn with
  | nil => rfl
  | append_singleton entries entry ih =>
    rw [List.map_append, Content.afterAll_append, List.map_singleton, Content.afterAll_cons,
      Content.afterAll_nil, WanderEntry.copyEffect,
      Partition.image_after_blockWrite sectored (Partition.length_image _ _), ih,
      Image.restore_append_singleton]

namespace Transaction

variable {transaction : Transaction} {copied : Nat}

/-- The blocks that copying writes. -/
theorem effects_copiesTrace (entries : List WanderEntry) :
    (copiesTrace partition image transaction copied entries).effects =
      entries.map (WanderEntry.copyEffect partition image) := by
  induction entries generalizing copied with
  | nil => rfl
  | cons entry entries ih => rw [copiesTrace, Trace.effects_append, ih]; rfl

/-- The reports of copying. -/
theorem copies_copiesTrace (entries : List WanderEntry) :
    (copiesTrace partition image transaction copied entries).copies =
      (entries.zipIdx copied).map fun step => step.1.copy transaction step.2 := by
  induction entries generalizing copied with
  | nil => rfl
  | cons entry entries ih => rw [copiesTrace, Trace.copies_append, ih]; rfl

/-- The blocks that copying from log records writes. -/
theorem effects_recordsTrace (records : List (Address × LogRecord)) :
    (recordsTrace partition image transaction copied records).effects =
      (records.flatMap fun record => record.2.entries).map
        (WanderEntry.copyEffect partition image) := by
  induction records generalizing copied with
  | nil => rfl
  | cons record records ih =>
    rw [recordsTrace, Trace.effects_append, Trace.effects_append, effects_copiesTrace, ih,
      Trace.effects_reads, List.nil_append, List.flatMap_cons, List.map_append]

/-- The reports of copying from log records. -/
theorem copies_recordsTrace (records : List (Address × LogRecord)) :
    (recordsTrace partition image transaction copied records).copies =
      ((records.flatMap fun record => record.2.entries).zipIdx copied).map
        fun step => step.1.copy transaction step.2 := by
  induction records generalizing copied with
  | nil => rfl
  | cons record records ih =>
    rw [recordsTrace, Trace.copies_append, Trace.copies_append, copies_copiesTrace, ih,
      Trace.copies_reads, List.nil_append, List.flatMap_cons, List.zipIdx_append, List.map_append]

/-- The blocks that replaying transactions writes. -/
theorem effects_replayTrace (all : List Logged) :
    (replayTrace partition image copied all).effects =
      (all.flatMap Logged.entries).map (WanderEntry.copyEffect partition image) := by
  induction all generalizing copied with
  | nil => rfl
  | cons logged newer ih =>
    rw [replayTrace, Trace.effects_append, effects_recordsTrace, ih, List.flatMap_cons,
      List.map_append]
    rfl

/-- The reports of replaying transactions. -/
theorem copies_replayTrace (all : List Logged) :
    (replayTrace partition image copied all).copies =
      ((Logged.steps all).zipIdx copied).map fun step => step.1.2.copy step.1.1 step.2 := by
  induction all generalizing copied with
  | nil => rfl
  | cons logged newer ih =>
    rw [replayTrace, Trace.copies_append, copies_recordsTrace, ih, Logged.steps_cons,
      List.zipIdx_append, List.zipIdx_map, List.map_append, List.map_map, List.length_map]
    rfl

end Transaction

namespace Journal

variable {journal : Journal} {older : List Logged} {newest : Logged}

/-- The block writes of a replay: the copies, and then the journal pointers. -/
def replayWrites (partition : Partition) (image : Image) (journal : Journal) (older : List Logged)
    (newest : Logged) : List Effect :=
  ((older ++ [newest]).flatMap Logged.entries).map (WanderEntry.copyEffect partition image) ++
    (journal.replayed newest).writes partition

/-- What reaches the device in a replay: the block writes, and a flush. -/
theorem effects_replayTrace : (journal.replayTrace partition image older newest).effects =
    journal.replayWrites partition image older newest ++ [.flush] := by
  rw [replayTrace, Trace.effects_append, Trace.effects_append, Trace.effects_append,
    Trace.effects_reads, List.nil_append, Transaction.effects_replayTrace]
  rfl

/-- The reports of a replay. -/
theorem copies_replayTrace : (journal.replayTrace partition image older newest).copies =
    Logged.copies (older ++ [newest]) := by
  rw [replayTrace, Trace.copies_append, Trace.copies_append, Trace.copies_append,
    Trace.copies_reads, List.nil_append, Transaction.copies_replayTrace, List.append_nil,
    List.append_nil]
  rfl

/-- What the blocks hold after the block writes of a replay: the home blocks are restored, and the
pointers are new. -/
theorem image_after_replayWrites (sectored : partition.Sectored) (fits : journal.Fits partition) :
    partition.image (content.afterAll
        (journal.replayWrites partition (partition.image content) older newest)) =
      Function.update
        (Function.update
          (Image.restore (partition.image content) ((older ++ [newest]).flatMap Logged.entries))
          journal.area.header.toNat (journal.header.encode journal.blockSize))
        journal.area.footer.toNat ((journal.replayed newest).footer.encode journal.blockSize) := by
  have after : (journal.replayed newest).Fits partition := fits.moved rfl rfl
  rw [replayWrites, Content.afterAll_append, image_after_writes sectored after,
    image_after_copies sectored]
  rfl

/-- What the blocks hold after a replay. -/
theorem image_after_replay (sectored : partition.Sectored) (fits : journal.Fits partition) :
    partition.image (content.afterAll
        (journal.replayTrace partition (partition.image content) older newest).effects) =
      Function.update
        (Function.update
          (Image.restore (partition.image content) ((older ++ [newest]).flatMap Logged.entries))
          journal.area.header.toNat (journal.header.encode journal.blockSize))
        journal.area.footer.toNat ((journal.replayed newest).footer.encode journal.blockSize) := by
  rw [effects_replayTrace, Content.afterAll_append]
  exact image_after_replayWrites sectored fits

/-- A replay restores all blocks but those of the pointers. -/
theorem image_after_replay_of_ne (sectored : partition.Sectored) (fits : journal.Fits partition)
    {block : Nat} (header : block ≠ journal.area.header.toNat)
    (footer : block ≠ journal.area.footer.toNat) :
    partition.image (content.afterAll
        (journal.replayTrace partition (partition.image content) older newest).effects) block =
      Image.restore (partition.image content) ((older ++ [newest]).flatMap Logged.entries)
        block := by
  rw [image_after_replay sectored fits, Function.update_of_ne footer, Function.update_of_ne header]

/-- A pending journal on disk, with transactions that are in order, is loaded and accepted on a
device that serves all requests. -/
theorem exists_checked {area : JournalArea} {fixed : Bitmap} {disk : Disk Store} {all : List Logged}
    (fits : journal.Fits partition)
    (held : stored partition area (disk.image partition) = journal)
    (pending : journal.state = .pending) (room : Bitmap.checkRoom partition.length = .ok ())
    (pends : journal.Pends partition (disk.image partition) all)
    (ordered : InOrder fixed partition.length all) (lies : partition.LiesOn disk.device.shape)
    (serves : disk.device.Serves) :
    ∃ opened checked, load partition area disk = .ok journal opened ∧
      journal.check partition fixed .check opened =
        .ok ({ valid := all.length, commitPoint := journal.header.lastCommitted }, journal) checked ∧
      checked.device.Serves ∧ checked.image partition = disk.image partition := by
  obtain ⟨opened, loads, opens⟩ := exists_load fits held lies serves
  rw [← opens.image rfl] at pends
  obtain ⟨checked, checks, _, looked⟩ := check_of_inOrder .check pending (opens.lies lies)
    (opens.serves serves).toSound room pends ordered
  refine ⟨opened, checked, loads, checks, looked.serves (opens.serves serves), ?_⟩
  rw [looked.image rfl, opens.image rfl]

end Journal

/-- The small volume is loaded, and its journal is accepted. -/
theorem Sample.exists_checked : ∃ opened checked,
    Journal.load Sample.partition Sample.area Sample.disk = .ok Sample.journal opened ∧
    Sample.journal.check Sample.partition Sample.fixed .check opened =
      .ok ({ valid := 1, commitPoint := 3 }, Sample.journal) checked ∧
    checked.device.Serves ∧
    checked.image Sample.partition = Sample.disk.image Sample.partition := by
  have stored : Journal.stored Sample.partition Sample.area (Sample.disk.image Sample.partition) =
      Sample.journal := by
    decide +kernel
  have fits : Sample.journal.Fits Sample.partition := ⟨by decide, rfl, by decide, by decide⟩
  exact Journal.exists_checked fits stored rfl rfl Sample.pends Sample.ordered Sample.lies
    Sample.serves

/-- The volume with two transactions is loaded, and its journal is accepted. -/
theorem Sample.Twice.exists_checked : ∃ opened checked,
    Journal.load Sample.Twice.partition Sample.area Sample.Twice.disk =
      .ok Sample.Twice.journal opened ∧
    Sample.Twice.journal.check Sample.Twice.partition Sample.Twice.fixed .check opened =
      .ok ({ valid := 2, commitPoint := 7 }, Sample.Twice.journal) checked ∧
    checked.device.Serves ∧
    checked.image Sample.Twice.partition = Sample.Twice.disk.image Sample.Twice.partition := by
  have stored : Journal.stored Sample.Twice.partition Sample.area
      (Sample.Twice.disk.image Sample.Twice.partition) = Sample.Twice.journal := by
    rw [Sample.Twice.image_eq]
    decide +kernel
  have fits : Sample.Twice.journal.Fits Sample.Twice.partition :=
    ⟨by decide, rfl, by decide, by decide⟩
  exact Journal.exists_checked fits stored rfl rfl Sample.Twice.pends Sample.Twice.ordered
    Sample.Twice.lies Sample.Twice.serves

namespace Mount

/-- Whether a replay did all that it should for the pending transactions, of which `newest` is the
newest. -/
structure Restored (partition : Partition) (all : List Logged) (newest : Transaction)
    (before after : Attached Mount Store) (report : ReplayReport) : Prop where
  /-- Every transaction is counted. -/
  transactions : report.transactions = all.length
  /-- Every entry is counted. -/
  blocks : report.blocks = (all.flatMap Logged.entries).length
  /-- The copies are reported, oldest transaction first and in the order of its log. -/
  copies : after.disk.copies = before.disk.copies ++ Logged.copies all
  /-- The copies reach the device in this order, then the journal pointers, then a flush. -/
  effects : after.disk.device.effects = before.disk.device.effects ++
    ((all.flatMap Logged.entries).map
        (WanderEntry.copyEffect partition (before.disk.image partition)) ++
      after.memory.journal.writes partition ++ [.flush])
  /-- Each block but those of the pointers holds what the last entry for it held, or is as it
  was. -/
  image : ∀ block, block ≠ before.memory.journal.area.header.toNat →
    block ≠ before.memory.journal.area.footer.toNat →
    after.disk.image partition block =
      Image.restore (before.disk.image partition) (all.flatMap Logged.entries) block
  /-- The handle is on disk, and nothing is pending. -/
  journal : after.memory.journal =
    { before.memory.journal with
      footer :=
        { lastFlushed := before.memory.journal.header.lastCommitted
          counters := newest.header.counters }
      dirty := false }
  /-- The superblock takes the counters of the newest transaction. -/
  superblock : after.memory.superblock =
    { before.memory.superblock with counters := newest.header.counters, dirty := true }
  /-- So does the allocator of object ids. -/
  objectIds : after.memory.objectIds =
    { next := newest.header.counters.nextObjectId, used := newest.header.counters.usedObjectIds }

variable {partition : Partition} {area : JournalArea} {fixed : Bitmap} {journal handle : Journal}
  {inspection : Inspection} {opening opened checked : Disk Store}

/-- A pending journal that was just loaded, and that an inspection finds nothing bad in, is replayed
completely on a device that serves all requests. -/
theorem replay_of_clean_check (superblock : Superblock) (objectIds : ObjectIds)
    (lies : partition.LiesOn opening.device.shape)
    (loaded : Journal.load partition area opening = .ok journal opened)
    (pending : journal.state = .pending)
    (checks : journal.check partition fixed .check opened = .ok (inspection, handle) checked)
    (clean : inspection.bad = none) (serves : checked.device.Serves) :
    ∃ older newest report after,
      journal.Pends partition (checked.image partition) (older ++ [newest]) ∧
      replay partition { memory := { journal := handle, superblock, objectIds }, disk := checked } =
        .ok report after ∧
      Restored partition (older ++ [newest]) newest.transaction
        { memory := { journal := handle, superblock, objectIds }, disk := checked } after
        report := by
  obtain ⟨_, fits, opens⟩ := Journal.of_load lies loaded
  have openedLies : partition.LiesOn opened.device.shape := opens.lies lies
  obtain ⟨rfl, ⟨count, ran⟩, older, newest, ready, _⟩ :=
    Journal.ready_of_check openedLies fits pending checks clean
  have checkedLies : partition.LiesOn checked.device.shape := ran.lies openedLies
  rw [← ran.image rfl] at ready
  have steady : Steady partition (checked.image partition)
      ((older ++ [newest]).flatMap Logged.blocks) checked :=
    ⟨checkedLies, serves.writable, fun _ _ => rfl⟩
  let mount : Mount := { journal := handle, superblock, objectIds }
  have state : mount.journal.state = .pending := pending
  have ends := ends_replay state ready steady
  obtain ⟨report, after, replays, rfl, memory, did⟩ :=
    ends.exists_ok fun _ _ broke => broke.2.not_sound serves.toSound
  have address := ready.pends.newest_address pending
  refine ⟨older, newest, _, after, ready.pends, replays, ?_⟩
  constructor
  · rw [List.length_append, List.length_singleton]
  · rfl
  · rw [did.copies, Journal.copies_replayTrace]
  · rw [did.device, Store.effects_advance, Journal.effects_replayTrace, memory]
    rfl
  · intro block header footer
    rw [Disk.image, did.content]
    exact Journal.image_after_replay_of_ne checkedLies.toSectored fits header footer
  · rw [memory, ← address]
    rfl
  · rw [memory]
    rfl
  · rw [memory]
    rfl

/-- On the volume where two transactions wait that have a home block in common, the replay brings
the block of the newer one home there. -/
theorem replay_of_clean_check_sample : ∃ checked report after,
    replay Sample.Twice.partition
        { memory :=
            { journal := Sample.Twice.journal, superblock := .fresh 512 16, objectIds := {} }
          disk := checked } = .ok report after ∧
    report.transactions = 2 ∧ report.blocks = 3 ∧
    after.disk.image Sample.Twice.partition 6 = List.replicate 512 43 ∧
    after.disk.image Sample.Twice.partition 10 = List.replicate 512 44 ∧
    after.memory.superblock.counters = Sample.Twice.newer.transaction.header.counters := by
  obtain ⟨opened, checked, loads, checks, serves, same⟩ := Sample.Twice.exists_checked
  obtain ⟨older, newest, report, after, pends, replays, restored⟩ := replay_of_clean_check
    (.fresh 512 16) {} Sample.Twice.lies loads rfl checks rfl serves
  rw [same] at pends
  have both : older ++ [newest] = [Sample.logged] ++ [Sample.Twice.newer] :=
    pends.unique Sample.Twice.pends
  obtain ⟨rfl, rfl⟩ := List.append_singleton_inj.1 both
  have last (image : Image) :
      image.restore (([Sample.logged] ++ [Sample.Twice.newer]).flatMap Logged.entries) 6 =
          image 9 ∧
        image.restore (([Sample.logged] ++ [Sample.Twice.newer]).flatMap Logged.entries) 10 =
          image 11 := ⟨rfl, rfl⟩
  have header : 6 ≠ Sample.area.header.toNat ∧ 10 ≠ Sample.area.header.toNat := by decide
  have footer : 6 ≠ Sample.area.footer.toNat ∧ 10 ≠ Sample.area.footer.toNat := by decide
  refine ⟨checked, report, after, replays, restored.transactions, restored.blocks, ?_, ?_, ?_⟩
  · rw [restored.image 6 header.1 footer.1, same, (last _).1, Sample.Twice.image_eq]
    rfl
  · rw [restored.image 10 header.2 footer.2, same, (last _).2, Sample.Twice.image_eq]
    rfl
  · rw [restored.superblock]

end Mount

end JournaledVolume
