import JournaledVolume.Proofs.Retirement

/-!
# What a repair leaves

A check in a mode that repairs cuts the pending transactions back to the good ones. What it leaves
is settled: the good transactions are the pending ones, a second check finds them good again, and an
activation replays exactly them. It brings the blocks of their entries home, the last one for each
home, and touches no other block but those of the pointers.
-/

namespace JournaledVolume

open JournaledVolume.Action

/-- Behind some of its transactions, a chain goes on as the chain of the others. -/
theorem TxChain.of_append {read : Address → Option TxHeader} {stop next : Address}
    {newer older : List Transaction} (chain : TxChain read stop next (newer ++ older)) :
    TxChain read stop ((older.head?.map Transaction.address).getD stop) older := by
  induction newer generalizing next with
  | nil =>
    cases chain with
    | stop => exact .stop
    | link differs found new chain => exact .link differs found new chain
  | cons transaction newer ih =>
    cases chain with
    | link _ _ _ chain => exact ih chain

/-- A chain without transactions is where it stops. -/
theorem TxChain.eq_of_nil {read : Address → Option TxHeader} {stop next : Address}
    (chain : TxChain read stop next []) : next = stop := by
  cases chain
  rfl

namespace Journal

variable {partition : Partition} {fixed : Bitmap} {image : Image} {journal handle : Journal}
  {disk after : Disk Store} {mode : CheckMode} {inspection : Inspection}

/-- The newest of transactions that a check found good, or where the chain stops. -/
def commitPoint (journal : Journal) (good : List Transaction) : Address :=
  (good.getLast?.map Transaction.address).getD journal.footer.lastFlushed

/-- When the commit point moves back to one of the transactions that wait, those up to it wait. -/
theorem Waits.commitAt {older newer : List Transaction}
    (waits : journal.Waits partition image (older ++ newer)) :
    (journal.commitAt (journal.commitPoint older)).Waits partition image older := by
  have chain : TxChain (partition.txHeaderAt image) journal.footer.lastFlushed
      journal.header.lastCommitted (newer.reverse ++ older.reverse) := by
    rw [← List.reverse_append]
    exact waits
  have behind := chain.of_append
  rw [List.head?_reverse] at behind
  exact behind

/-- Without transactions that wait, a journal is empty. -/
theorem Waits.state_of_nil (waits : journal.Waits partition image []) : journal.state = .empty :=
  if_pos (TxChain.eq_of_nil waits)

/-- A journal behind which transactions wait is pending. -/
theorem Waits.state_of_ne_nil {transactions : List Transaction}
    (waits : journal.Waits partition image transactions) (some : transactions ≠ []) :
    journal.state = .pending := by
  apply if_neg
  intro same
  have chain : TxChain (partition.txHeaderAt image) journal.footer.lastFlushed
      journal.header.lastCommitted transactions.reverse := waits
  rw [same] at chain
  have nothing : transactions.reverse = [] := ChainWalk.chain_unique chain .stop
  exact some (List.reverse_eq_nil_iff.1 nothing)

/-- An empty journal has no transactions that wait. -/
theorem waits_nil_of_empty (empty : journal.state = .empty) :
    journal.Waits partition image [] := by
  have same := state_eq_empty.1 empty
  show TxChain _ journal.footer.lastFlushed journal.header.lastCommitted []
  rw [same]
  exact .stop

/-- Whether a handle is what a repair makes of a journal, with the transactions that it kept. -/
structure Salvaged (partition : Partition) (fixed : Bitmap) (image : Image) (journal : Journal)
    (inspection : Inspection) (handle : Journal) (good : List Logged) : Prop where
  /-- The kept transactions are counted. -/
  valid : inspection.valid = good.length
  /-- The commit point may have moved. -/
  moved : handle.header.lastCommitted = inspection.commitPoint
  /-- All else in the handle is as it was. -/
  kept : handle.area = journal.area ∧ handle.blockSize = journal.blockSize ∧
    handle.footer = journal.footer
  /-- A handle that changed is dirty. -/
  dirty : handle.dirty = true ∨ handle = journal
  /-- The kept transactions are the pending ones. -/
  pends : handle.Pends partition image good
  /-- They are in order. -/
  ordered : InOrder fixed partition.length good
  /-- They are the oldest ones of those that were pending. -/
  oldest : ∀ transactions, journal.Waits partition image transactions →
    good.map Logged.transaction = transactions.take inspection.valid

/-- An empty journal is what a repair makes of it. -/
theorem salvaged_of_empty (empty : journal.state = .empty) :
    journal.Salvaged partition fixed image { commitPoint := journal.header.lastCommitted }
      journal [] := by
  have waits : journal.Waits partition image [] := waits_nil_of_empty empty
  refine ⟨rfl, rfl, ⟨rfl, rfl, rfl⟩, .inr rfl, ⟨waits, nofun⟩, Usage.inOrder_nil, ?_⟩
  intro transactions others
  exact (List.take_zero).symm

/-- A journal whose transactions can all be trusted stays as it is. -/
theorem salvaged_of_trusted {transactions : List Transaction}
    (waits : journal.Waits partition image transactions)
    (trusted : Trusted partition fixed image transactions) :
    ∃ good, journal.Salvaged partition fixed image (journal.verdict mode transactions none).1
      (journal.verdict mode transactions none).2 good := by
  obtain ⟨good, rfl, read, ordered⟩ := trusted
  refine ⟨good, List.length_map _, rfl, ⟨rfl, rfl, rfl⟩, .inr rfl, ⟨waits, read⟩, ordered, ?_⟩
  intro transactions others
  rw [valid_verdict, others.unique waits, List.take_length]

/-- The commit point moves to the newest of the transactions before a bad one. -/
theorem salvaged_of_fault {older : List Transaction} {fault : BadTransaction}
    (repairs : mode.repairs = true)
    (waits : (journal.commitAt (journal.commitPoint older)).Waits partition image older)
    (trusted : Trusted partition fixed image older)
    (oldest : ∀ transactions, journal.Waits partition image transactions →
      older = transactions.take older.length) :
    ∃ good, journal.Salvaged partition fixed image
      (journal.verdict mode older (some fault)).1 (journal.verdict mode older (some fault)).2
      good := by
  have cut : journal.verdict mode older (some fault) =
      ({ findings := { fixed := true }, valid := older.length, bad := some fault
         commitPoint := journal.commitPoint older },
        journal.commitAt (journal.commitPoint older)) := if_pos repairs
  rw [cut]
  obtain ⟨good, rfl, read, ordered⟩ := trusted
  exact ⟨good, List.length_map _, rfl, ⟨rfl, rfl, rfl⟩, .inl rfl, ⟨waits, read⟩, ordered, oldest⟩

/-- A repair that succeeds on a device which answers every request leaves a journal whose pending
transactions can be replayed. -/
theorem exists_salvaged (repairs : mode.repairs = true) (lies : partition.LiesOn disk.device.shape)
    (sound : disk.device.Sound)
    (checks : journal.check partition fixed mode disk = .ok (inspection, handle) after) :
    (∃ count, disk.Ran after (.reads count)) ∧
      ∃ good, journal.Salvaged partition fixed (disk.image partition) inspection handle good := by
  cases standing : journal.state with
  | empty =>
    have isEmpty : journal.isEmpty = true := by rw [isEmpty, standing]; rfl
    rw [check, if_pos isEmpty] at checks
    obtain ⟨same, rfl⟩ := of_pure_ok checks
    obtain ⟨rfl, rfl⟩ := Prod.mk.inj same
    exact ⟨⟨0, .nothing rfl rfl⟩, [], salvaged_of_empty standing⟩
  | pending =>
    obtain ⟨found, bad, same, ran⟩ := (ends_check standing lies).of_ok checks
    obtain rfl : inspection = (journal.verdict mode found bad).1 := congrArg Prod.fst same
    obtain rfl : handle = (journal.verdict mode found bad).2 := congrArg Prod.snd same
    rcases ran with ⟨examined, looked⟩ | ⟨broke, _⟩
    · refine ⟨looked, ?_⟩
      cases examined with
      -- Without a chain nothing is kept, and the commit point moves back to where replay stopped.
      | broken nowhere id =>
        have nothing : Trusted partition fixed (disk.image partition) [] :=
          ⟨[], rfl, fun _ none => (List.not_mem_nil none).elim, Usage.inOrder_nil⟩
        exact salvaged_of_fault repairs .stop nothing fun _ waits => (nowhere ⟨_, waits⟩).elim
      | chain waits examined =>
        cases examined with
        | good holds => exact salvaged_of_trusted waits holds
        | bad holds =>
          refine salvaged_of_fault repairs waits.commitAt holds ?_
          intro transactions others
          rw [others.unique waits, List.take_left]
    · exact (broke.not_sound sound).elim

/-- A check of a pending journal that succeeds found room in memory for its bitmaps. -/
theorem room_of_check (pending : journal.state = .pending)
    (checks : journal.check partition fixed mode disk = .ok (inspection, handle) after) :
    Bitmap.checkRoom partition.length = .ok () := by
  have full : ¬ journal.isEmpty = true := by
    rw [isEmpty, pending]
    decide
  rw [check, if_neg full] at checks
  obtain ⟨_, _, checked, _⟩ := of_bind_ok checks
  cases room : Bitmap.checkRoom partition.length with
  | ok => rfl
  | error error =>
    rw [room] at checked
    exact (throw_ne_ok checked).elim

namespace Salvaged

variable {good : List Logged}

/-- A handle that a repair left belongs on the partition. -/
theorem fits (salvaged : journal.Salvaged partition fixed image inspection handle good)
    (fits : journal.Fits partition) : handle.Fits partition := by
  obtain ⟨area, size, _⟩ := salvaged.kept
  refine ⟨?_, ?_, ?_, ?_⟩
  · rw [size]
    exact fits.valid
  · rw [size]
    exact fits.same
  · rw [area]
    exact fits.header
  · rw [area]
    exact fits.footer

/-- A check of what a repair left finds the same transactions good, and nothing bad. -/
theorem exists_recheck
    (salvaged : journal.Salvaged partition fixed (disk.image partition) inspection handle good)
    (room : handle.state = .pending → Bitmap.checkRoom partition.length = .ok ())
    (lies : partition.LiesOn disk.device.shape) (sound : disk.device.Sound) (again : CheckMode) :
    ∃ after, handle.check partition fixed again disk =
        .ok ({ valid := inspection.valid, commitPoint := inspection.commitPoint }, handle) after ∧
      ∃ count, disk.Ran after (.reads count) := by
  rw [salvaged.valid, ← salvaged.moved]
  cases standing : handle.state with
  | empty =>
    obtain rfl : good = [] :=
      List.map_eq_nil_iff.1 (salvaged.pends.chain.unique (waits_nil_of_empty standing))
    have isEmpty : handle.isEmpty = true := by rw [isEmpty, standing]; rfl
    refine ⟨disk, ?_, 0, .nothing rfl rfl⟩
    rw [check, if_pos isEmpty]
    rfl
  | pending =>
    exact check_of_inOrder again standing lies sound (room standing) salvaged.pends
      salvaged.ordered

end Salvaged

end Journal

namespace Mount

variable {partition : Partition} {fixed : Bitmap} {journal handle : Journal} {disk : Disk Store}
  {inspection : Inspection} {good : List Logged}

/-- A journal without transactions is retired on a device that serves all requests, also if it is
retired in memory but not yet on disk. All blocks but those of the pointers stay as they are. -/
theorem exists_retire (mount : Mount) (report : ReplayReport)
    (stored : mount.journal.Zeroed → mount.journal.dirty = false →
      (Journal.stored partition mount.journal.area (disk.image partition)).Zeroed)
    (fits : mount.journal.Fits partition) (lies : partition.LiesOn disk.device.shape)
    (serves : disk.device.Serves) :
    ∃ after trace, retire partition report { memory := mount, disk } = .ok report after ∧
      disk.Ran after.disk trace ∧
      (Journal.stored partition mount.journal.area (after.disk.image partition)).Zeroed ∧
      ∀ block, block ≠ mount.journal.area.header.toNat →
        block ≠ mount.journal.area.footer.toNat →
        after.disk.image partition block = disk.image partition block := by
  have never {whole : List Effect} (after : Attached Mount Store) :
      ¬ disk.Broke after.disk whole := fun broke => broke.not_sound serves.toSound
  by_cases zeroed : mount.journal.Zeroed
  · cases dirty : mount.journal.dirty with
    | false =>
      exact ⟨_, {}, retire_of_zeroed zeroed dirty, .nothing rfl rfl, stored zeroed dirty,
        fun _ _ _ => rfl⟩
    | true =>
      obtain ⟨_, after, syncs, ran⟩ :=
        (ends_sync dirty fits lies serves.writable).exists_ok fun _ => never
      have retired : ¬ (mount.journal.header.lastCommitted ≠ 0 ∨
          mount.journal.footer.lastFlushed ≠ 0) := by
        rw [← not_and_or, not_not]
        exact zeroed
      refine ⟨after, _, ?_, ran, ?_, fun block header footer => ?_⟩
      · show (if _ then _ else _ : AttachedM Mount Store ReplayReport) _ = _
        rw [if_neg retired, bind_of_ok syncs]
        rfl
      · rw [Disk.image, ran.content]
        exact Journal.zeroed_after_writes zeroed lies.toSectored fits
      · rw [Disk.image, ran.content]
        exact Journal.image_after_writes_of_ne lies.toSectored fits header footer
  · obtain ⟨_, after, retires, rfl, ran⟩ :=
      (ends_retire mount report zeroed fits lies serves.writable).exists_ok fun _ => never
    refine ⟨after, _, retires, ran, ?_, fun block header footer => ?_⟩
    · rw [Disk.image, ran.content]
      exact Journal.zeroed_after_retireWrites_of_named lies.toSectored fits zeroed
    · rw [Disk.image, ran.content]
      exact Journal.image_after_retire _ lies.toSectored fits header footer

/-- Whether an activation has brought transactions home and retired the journal of an area. -/
structure Concluded (partition : Partition) (area : JournalArea) (kept : List Logged)
    (before after : Disk Store) (report : ReplayReport) : Prop where
  /-- Every transaction is counted. -/
  transactions : report.transactions = kept.length
  /-- Every entry is counted. -/
  blocks : report.blocks = (kept.flatMap Logged.entries).length
  /-- Each block but those of the pointers holds what the last entry for it held, or is as it
  was. -/
  image : ∀ block, block ≠ area.header.toNat → block ≠ area.footer.toNat →
    after.image partition block =
      Image.restore (before.image partition) (kept.flatMap Logged.entries) block
  /-- The journal that is loaded then is empty, with zero pointers. -/
  retired : ∃ reopened loaded, Journal.load partition area after = .ok reopened loaded ∧
    reopened.state = .empty ∧ reopened.Zeroed

/-- Whether an activation of a handle brings these transactions home and retires the journal. -/
def Concludes (partition : Partition) (handle : Journal) (kept : List Logged) (disk : Disk Store) :
    Prop :=
  ∀ superblock objectIds, ∃ report after,
    activate partition { memory := { journal := handle, superblock, objectIds }, disk } =
      .ok report after ∧
    Concluded partition handle.area kept disk after.disk report

/-- A journal with zero pointers on disk is loaded as such. -/
theorem exists_load_of_zeroed {area : JournalArea} (lies : partition.LiesOn disk.device.shape)
    (serves : disk.device.Serves) (fits : journal.Fits partition) (located : journal.area = area)
    (zeroed : (Journal.stored partition area (disk.image partition)).Zeroed) :
    ∃ reopened loaded, Journal.load partition area disk = .ok reopened loaded ∧
      reopened.state = .empty ∧ reopened.Zeroed := by
  subst located
  obtain ⟨loaded, loads, _⟩ := Journal.exists_load fits.stored rfl lies serves
  exact ⟨_, loaded, loads, zeroed.state, zeroed⟩

/-- An activation after a repair replays the transactions that the repair kept. -/
theorem concludes_of_salvaged
    (salvaged : journal.Salvaged partition fixed (disk.image partition) inspection handle good)
    (fits : journal.Fits partition)
    (stored : journal = Journal.stored partition journal.area (disk.image partition))
    (lies : partition.LiesOn disk.device.shape) (serves : disk.device.Serves) :
    Concludes partition handle good disk := by
  intro superblock objectIds
  have fitting := salvaged.fits fits
  -- With nothing kept the activation only retires the journal, else it replays first.
  rcases List.eq_nil_or_concat good with rfl | ⟨older, newest, rfl⟩
  · have empty : handle.state = .empty := salvaged.pends.chain.state_of_nil
    have known : handle.Zeroed → handle.dirty = false →
        (Journal.stored partition handle.area (disk.image partition)).Zeroed := by
      intro zeroed clean
      rcases salvaged.dirty with dirty | rfl
      · exact nomatch clean.symm.trans dirty
      · rw [← stored]
        exact zeroed
    obtain ⟨after, _, retires, ran, zeroed, image⟩ :=
      exists_retire { journal := handle, superblock, objectIds } {} known fitting lies serves
    have reloads := exists_load_of_zeroed (ran.lies lies) (ran.serves serves) fitting rfl zeroed
    refine ⟨{}, after, ?_, ⟨rfl, rfl, image, reloads⟩⟩
    rw [activate_eq, bind_of_ok (replay_of_empty empty)]
    exact retires
  · rw [List.concat_eq_append] at salvaged ⊢
    have some : (older ++ [newest]).map Logged.transaction ≠ [] := by simp
    have pending : handle.state = .pending := salvaged.pends.chain.state_of_ne_nil some
    have ready : handle.Ready partition (disk.image partition) older newest :=
      ⟨fitting, salvaged.pends, salvaged.ordered.replayable salvaged.pends.records⟩
    obtain ⟨after, activates, lying, still, zeroed, image⟩ :=
      exists_activate { journal := handle, superblock, objectIds } pending ready lies serves
    have reloads := exists_load_of_zeroed lying still fitting rfl zeroed
    refine ⟨_, after, activates, ⟨?_, rfl, image, reloads⟩⟩
    rw [List.length_append, List.length_singleton]

/-- Whether a check of a handle finds nothing bad, counts these transactions, leaves the handle and
what the device holds, and can be followed by an activation that brings them home. -/
def Rechecks (partition : Partition) (fixed : Bitmap) (handle : Journal) (kept : List Logged)
    (mode : CheckMode) (disk : Disk Store) : Prop :=
  ∃ after, handle.check partition fixed mode disk =
      .ok ({ valid := kept.length, commitPoint := handle.header.lastCommitted }, handle) after ∧
    after.device.effects = disk.device.effects ∧ Concludes partition handle kept after

variable {area : JournalArea} {mode : CheckMode} {opening opened checked : Disk Store}

/-- A repair converges, and what it keeps can be recovered. Take a journal that was just loaded from
a device that serves all requests. When a check in a mode that repairs succeeds, it has written
nothing and left the footer. The commit point is the one that it answers, and the transactions
behind it are the oldest of those that waited, as many as were found good. A second check in any
mode finds the same ones good and changes nothing. An activation, with or without that second check,
replays exactly these transactions: it counts them and their entries, each block but those of the
pointers holds what the last of these entries for it held, or is as it was, and the journal is left
empty, with zero pointers. -/
theorem repair_converges (lies : partition.LiesOn opening.device.shape)
    (serves : opening.device.Serves)
    (loaded : Journal.load partition area opening = .ok journal opened) (repairs : mode ≠ .check)
    (checks : journal.check partition fixed mode opened = .ok (inspection, handle) checked) :
    checked.device.effects = opening.device.effects ∧
    handle.area = area ∧ handle.footer = journal.footer ∧
    handle.header.lastCommitted = inspection.commitPoint ∧
    ∃ kept, handle.Pends partition (checked.image partition) kept ∧
      kept.length = inspection.valid ∧
      (∀ transactions, journal.Waits partition (opened.image partition) transactions →
        kept.map Logged.transaction = transactions.take inspection.valid) ∧
      Concludes partition handle kept checked ∧
      ∀ again, Rechecks partition fixed handle kept again checked := by
  obtain ⟨stored, fits, opens⟩ := Journal.of_load lies loaded
  obtain rfl : journal.area = area := congrArg Journal.area stored
  have openedLies : partition.LiesOn opened.device.shape := opens.lies lies
  have openedServes := opens.serves serves
  have mends : mode.repairs = true := by
    cases mode with
    | check => exact (repairs rfl).elim
    | fix => rfl
    | build => rfl
  obtain ⟨⟨count, looked⟩, good, salvaged⟩ :=
    Journal.exists_salvaged mends openedLies openedServes.toSound checks
  have quiet : checked.device.effects = opening.device.effects := by
    rw [looked.device, opens.device]
    simp
  have lying : partition.LiesOn checked.device.shape := looked.lies openedLies
  have serving := looked.serves openedServes
  obtain ⟨located, _, footer⟩ := salvaged.kept
  have oldest := salvaged.oldest
  rw [← looked.image rfl] at salvaged
  rw [← opens.image rfl, ← looked.image rfl] at stored
  have concludes := concludes_of_salvaged salvaged fits stored lying serving
  refine ⟨quiet, located, footer, salvaged.moved, good, salvaged.pends, salvaged.valid.symm,
    oldest, concludes, fun again => ?_⟩
  have room : handle.state = .pending → Bitmap.checkRoom partition.length = .ok () := by
    intro pending
    cases standing : journal.state with
    | pending => exact Journal.room_of_check standing checks
    | empty =>
      obtain ⟨rfl, _⟩ := Journal.of_check_of_empty standing checks
      exact nomatch standing.symm.trans pending
  obtain ⟨after, rechecks, count, read⟩ :=
    salvaged.exists_recheck room lying serving.toSound again
  rw [← salvaged.moved, salvaged.valid] at rechecks
  refine ⟨after, rechecks, ?_, ?_⟩
  · rw [read.device, Store.effects_advance]
    exact List.append_nil _
  · rw [← read.image rfl] at salvaged stored
    exact concludes_of_salvaged salvaged fits stored (read.lies lying) (read.serves serving)

end Mount

/-! The small volume, with a newer transaction behind the one that waits, whose log cannot be
read. -/

namespace Sample

/-- The newer transaction leads to no log record. -/
def newer : Transaction := { address := 7, header := { id := 8, total := 1, previous := 3 } }

/-- The handle of the journal with both transactions. -/
def longJournal : Journal := { journal with header.lastCommitted := 7 }

/-- The newer transaction was written and committed behind the older one. -/
def longDisk : Disk Store where
  device := { disk.device with
    effects := disk.device.effects ++
      [partition.blockWrite 7 (newer.header.encode 512),
        partition.blockWrite 1 (longJournal.header.encode 512)] }

/-- Two blocks differ from those of the small volume. -/
theorem image_longDisk : longDisk.image partition =
    Function.update
      (Function.update (disk.image partition) 7 (newer.header.encode 512))
      1 (longJournal.header.encode 512) := by
  have sectored : partition.Sectored := lies.toSectored
  have transaction : (newer.header.encode 512).length = partition.blockSize := by decide +kernel
  have pointer : (longJournal.header.encode 512).length = partition.blockSize :=
    JournalHeader.length_encode (by decide) _
  show partition.image (Content.afterAll _ (_ ++ _)) = _
  rw [Content.afterAll_append, Content.afterAll_cons, Content.afterAll_cons, Content.afterAll_nil,
    Partition.image_after_blockWrite sectored pointer,
    Partition.image_after_blockWrite sectored transaction]
  rfl

/-- The older transaction is as it was. -/
theorem older_pends : journal.Pends partition (longDisk.image partition) [logged] := by
  refine pends.congr ?_
  rw [blocks_eq, image_longDisk]
  intro block known
  have apart : block.toNat ≠ 1 ∧ block.toNat ≠ 7 := by
    simp only [List.mem_cons, List.not_mem_nil, or_false] at known
    rcases known with rfl | rfl | rfl <;> decide
  rw [Function.update_of_ne apart.1, Function.update_of_ne apart.2]

/-- Both transactions wait. -/
theorem long_waits : longJournal.Waits partition (longDisk.image partition)
    [logged.transaction, newer] := by
  have newest : partition.txHeaderAt (longDisk.image partition) 7 = some newer.header := by
    rw [image_longDisk]
    decide +kernel
  have rest : TxChain (partition.txHeaderAt (longDisk.image partition)) 0 newer.header.previous
      [logged.transaction] := older_pends.chain
  show TxChain _ 0 7 [newer, logged.transaction]
  have new : (7 : Address) ∉ [logged.transaction].map Transaction.address := by decide
  exact .link (by decide) newest new rest

/-- The older transaction can be trusted. -/
theorem older_trusted :
    Trusted partition fixed (longDisk.image partition) [logged.transaction] :=
  ⟨[logged], rfl, older_pends.records, ordered⟩

/-- The newer transaction cannot be trusted. -/
theorem newer_not_trusted :
    ¬ Trusted partition fixed (longDisk.image partition) [logged.transaction, newer] := by
  rintro ⟨all, listed, read, _⟩
  obtain ⟨last, known, same⟩ : ∃ last ∈ all, last.transaction = newer := by
    rw [← List.mem_map, listed]
    exact List.mem_cons_of_mem _ List.mem_cons_self
  have chain := read last known
  rw [Logged.Read, same] at chain
  generalize last.records = records at chain
  have nowhere : partition.recordAt (longDisk.image partition) newer.header.firstRecord = none := by
    rw [Partition.recordAt, Partition.follow, if_pos (.inl rfl)]
    rfl
  cases chain with
  | last _ found _ => cases nowhere.symm.trans found
  | link _ found _ _ _ => cases nowhere.symm.trans found

end Sample

namespace Mount

/-- On the small volume a repair drops the transaction whose log cannot be read, and the other one
is replayed afterwards. -/
theorem repair_converges_sample : ∃ opened inspection handle checked,
    Journal.load Sample.partition Sample.area Sample.longDisk = .ok Sample.longJournal opened ∧
    Sample.longJournal.check Sample.partition Sample.fixed .fix opened =
      .ok (inspection, handle) checked ∧
    inspection.valid = 1 ∧ handle.header.lastCommitted = 3 ∧
    Concludes Sample.partition handle [Sample.logged] checked ∧
    Rechecks Sample.partition Sample.fixed handle [Sample.logged] .build checked := by
  have lies : Sample.partition.LiesOn Sample.longDisk.device.shape := Sample.lies
  have serves : Sample.longDisk.device.Serves := ⟨⟨fun _ _ => rfl⟩, rfl⟩
  have stored : Journal.stored Sample.partition Sample.area
      (Sample.longDisk.image Sample.partition) = Sample.longJournal := by
    rw [Sample.image_longDisk]
    decide +kernel
  have fits : Sample.longJournal.Fits Sample.partition := ⟨by decide, rfl, by decide, by decide⟩
  obtain ⟨opened, loads, opens⟩ := Journal.exists_load fits stored lies serves
  have lying : Sample.partition.LiesOn opened.device.shape := opens.lies lies
  have sound := (opens.serves serves).toSound
  have pending : Sample.longJournal.state = .pending := rfl
  obtain ⟨good, bad, checked, checks, _⟩ :=
    Journal.exists_check Sample.fixed .fix pending lying sound rfl
  generalize Sample.longJournal.verdict .fix good bad = answer at checks
  obtain ⟨inspection, handle⟩ := answer
  obtain ⟨_, salvages, _, content⟩ := Journal.check_decides lying sound rfl checks
  have same : opened.image Sample.partition = Sample.longDisk.image Sample.partition :=
    opens.image rfl
  rw [same] at salvages
  have salvaged := salvages _ Sample.long_waits
  obtain ⟨⟨most, trusted⟩, least⟩ := salvaged.longest
  have valid : inspection.valid = 1 := by
    have atLeast : 1 ≤ inspection.valid := least ⟨Nat.le_succ 1, Sample.older_trusted⟩
    have atMost : inspection.valid ≤ 2 := most
    have notBoth : inspection.valid ≠ 2 := by
      intro both
      rw [both] at trusted
      exact Sample.newer_not_trusted trusted
    omega
  have repairs : CheckMode.fix ≠ .check := by decide
  obtain ⟨_, _, _, moved, kept, pends, _, oldest, concludes, rechecks⟩ :=
    repair_converges lies serves loads repairs checks
  have older : kept.map Logged.transaction = [Sample.logged].map Logged.transaction := by
    rw [same, valid] at oldest
    exact oldest _ Sample.long_waits
  have left : checked.image Sample.partition = Sample.longDisk.image Sample.partition :=
    (congrArg Sample.partition.image content).trans same
  rw [left] at pends
  obtain rfl : kept = [Sample.logged] :=
    Logged.unique_of_read pends.records Sample.older_pends.records older
  refine ⟨opened, _, _, checked, loads, checks, valid, ?_, concludes, rechecks .build⟩
  rw [moved, salvaged.commitPoint, valid]
  rfl

end Mount

end JournaledVolume
