import JournaledVolume.Proofs.Cleanliness

/-!
# Replaying in place

A replay hands its handle over when it is through. It can be done in place as well: the footer in
memory moves behind every transaction that was replayed, a failure gives the footer and the dirty
flag back, and the counters are set one after another behind the last step that can fail. No step
that can fail touches anything else in memory, so the two agree, and a replay that fails leaves the
memory as it was.
-/

namespace JournaledVolume

open JournaledVolume.Action

/-- An action agrees with one that its runs are runs of. -/
theorem Action.Ends.run_eq {σ α : Type} {act other : Action σ α} {state : σ}
    (ends : Ends act state (fun value after => other state = .ok value after)
      fun error after => other state = .error error after) : act state = other state := by
  cases ran : act state with
  | ok value after => exact (ends.of_ok ran).symm
  | error error after => exact (ends.of_error ran).symm

namespace Mount

/-- The mount with the footer and the dirty flag of a saved handle. -/
def restore (mount : Mount) (saved : Journal) : Mount :=
  { mount with journal := { mount.journal with footer := saved.footer, dirty := saved.dirty } }

/-- The mount with its counters set one after another. -/
def setCounters (mount : Mount) (counters : Counters) : Mount :=
  { mount with
    superblock := ((mount.superblock.setFreeBlocks counters.freeBlocks).setUsedObjectIds
      counters.usedObjectIds).setNextObjectId counters.nextObjectId
    objectIds := (mount.objectIds.setNext counters.nextObjectId).setUsed counters.usedObjectIds }

variable {δ : Type}

/-- Runs an action, and gives the journal its saved footer and dirty flag back when it fails. -/
def restoring {α : Type} (saved : Journal) (act : AttachedM Mount δ α) : AttachedM Mount δ α :=
  tryCatch act fun error => do
    AttachedM.revise fun mount => mount.restore saved
    throw error

/-- When an action fails, the saved footer and dirty flag are back behind it. -/
theorem ends_restoring {α : Type} {saved : Journal} {act : AttachedM Mount δ α}
    {state : Attached Mount δ} {returns : α → Attached Mount δ → Prop}
    {fails : Error → Attached Mount δ → Prop}
    (ends : Ends act state returns fun error after =>
      fails error { after with memory := after.memory.restore saved }) :
    Ends (restoring saved act) state returns fails := by
  cases ran : act state with
  | ok value after =>
    refine ends_of_ok ?_ (ends.of_ok ran)
    simp only [restoring, tryCatch, tryCatchThe, MonadExceptOf.tryCatch, EStateM.tryCatch, ran]
  | error error after =>
    refine ends_of_error ?_ (ends.of_error ran)
    simp only [restoring, tryCatch, tryCatchThe, MonadExceptOf.tryCatch, EStateM.tryCatch, ran]
    rfl

variable [BlockDevice δ]

/-- Copies the blocks of a transaction, after `copied` others, and reports a failure. -/
def copyTransaction (partition : Partition) (copied : Nat) (transaction : Transaction) :
    DiskM δ Nat :=
  DiskM.orReport (.replayFailed transaction.header.id transaction.address)
    (transaction.replay partition copied)

/-- Replays one transaction, and moves the handle in memory behind it. -/
def replayTransaction (partition : Partition) (saved : Journal) (report : ReplayReport)
    (transaction : Transaction) : AttachedM Mount δ ReplayReport := do
  let blocks ← restoring saved <| AttachedM.onDisk <|
    copyTransaction partition report.blocks transaction
  AttachedM.revise fun mount => { mount with journal := mount.journal.advance transaction }
  return { transactions := report.transactions + 1, blocks }

/-- Replays the journal on the handle in memory. -/
def replayInPlace (partition : Partition) : AttachedM Mount δ ReplayReport := do
  let saved := (← AttachedM.memory).journal
  if saved.isEmpty then return {}
  let transactions ← AttachedM.onDisk (saved.pending partition)
  let report ← transactions.foldlM (replayTransaction partition saved) {}
  restoring saved do
    sync partition
    AttachedM.onDisk DiskM.flush
  let counters := (← AttachedM.memory).journal.footer.counters
  AttachedM.revise fun mount => mount.setCounters counters
  AttachedM.emit (.replayed report.transactions report.blocks)
  return report

variable {partition : Partition} {mount : Mount} {saved : Journal} {disk : Disk δ}

/-- A transaction that is replayed in place is replayed on the disk, and the handle moves behind it.
When that fails, the saved footer and dirty flag are back. -/
theorem ends_replayTransaction (report : ReplayReport) (transaction : Transaction) :
    Ends (replayTransaction partition saved report transaction) { memory := mount, disk }
      (fun next after =>
        after.memory = { mount with journal := mount.journal.advance transaction } ∧
        next.transactions = report.transactions + 1 ∧
        copyTransaction partition report.blocks transaction disk = .ok next.blocks after.disk)
      fun error after => after.memory = mount.restore saved ∧
        copyTransaction partition report.blocks transaction disk = .error error after.disk := by
  have copies : Ends
      (restoring saved (AttachedM.onDisk (copyTransaction partition report.blocks transaction)))
      { memory := mount, disk }
      (fun blocks after => after.memory = mount ∧
        copyTransaction partition report.blocks transaction disk = .ok blocks after.disk)
      fun error after => after.memory = mount.restore saved ∧
        copyTransaction partition report.blocks transaction disk = .error error after.disk :=
    ends_restoring (AttachedM.ends_onDisk ((ends_run _ _).mono
      (fun _ _ copied => ⟨rfl, copied⟩) fun _ _ failed => ⟨rfl, failed⟩))
  refine copies.andThen ?_
  rintro blocks ⟨_, between⟩ ⟨rfl, copied⟩
  exact ends_modify (ends_pure ⟨rfl, rfl, copied⟩)

/-- Transactions that are replayed in place are replayed on the disk, and the handle moves behind
each of them. When that fails, the saved footer and dirty flag are back. -/
theorem ends_replayTransactions (transactions : List Transaction) (report : ReplayReport) :
    Ends (transactions.foldlM (replayTransaction partition saved) report) { memory := mount, disk }
      (fun result after =>
        after.memory = { mount with journal := transactions.foldl Journal.advance mount.journal } ∧
        result.transactions = report.transactions + transactions.length ∧
        transactions.foldlM (copyTransaction partition) report.blocks disk =
          .ok result.blocks after.disk)
      fun error after => after.memory = mount.restore saved ∧
        transactions.foldlM (copyTransaction partition) report.blocks disk =
          .error error after.disk := by
  induction transactions generalizing mount disk report with
  | nil => exact ends_pure ⟨rfl, rfl, rfl⟩
  | cons transaction newer ih =>
    simp only [List.foldlM_cons]
    refine (ends_replayTransaction report transaction).bind ?_ ?_
    · rintro next ⟨_, between⟩ ⟨rfl, counted, copied⟩
      refine (ih next).mono ?_ ?_
      · rintro result after ⟨memory, total, rest⟩
        refine ⟨memory, ?_, (bind_of_ok copied).trans rest⟩
        rw [total, counted, List.length_cons]
        omega
      · rintro error after ⟨memory, failed⟩
        exact ⟨memory, (bind_of_ok copied).trans failed⟩
    · rintro error after ⟨memory, failed⟩
      exact ⟨memory, bind_of_error failed⟩

/-- A sync in place is a sync on the disk, behind which the handle is clean. When it fails it leaves
the mount. -/
theorem ends_syncInPlace :
    Ends (sync partition) { memory := mount, disk }
      (fun _ after =>
        after.memory = { mount with journal := { mount.journal with dirty := false } } ∧
        mount.journal.sync partition disk = .ok { mount.journal with dirty := false } after.disk)
      fun error after => after.memory = mount ∧
        mount.journal.sync partition disk = .error error after.disk := by
  have handle : Ends (mount.journal.sync partition) disk
      (fun journal _ => journal = { mount.journal with dirty := false }) fun _ _ => True := by
    rw [Journal.sync]
    dsimp only
    split
    · exact (ends_anyhow _ _).andThen fun _ _ _ => ends_pure rfl
    · exact ends_pure rfl
  refine ends_get (AttachedM.ends_onDisk_andThen (((ends_run _ _).and handle).mono ?_ ?_))
  · rintro _ after ⟨synced, rfl⟩
    exact ⟨rfl, synced⟩
  · exact fun _ _ failed => ⟨rfl, failed.1⟩

/-- The handle that moved in place is written and flushed as on the disk. When that fails, the saved
footer and dirty flag are back. -/
theorem ends_publishInPlace :
    Ends (restoring saved do
        sync partition
        AttachedM.onDisk DiskM.flush) { memory := mount, disk }
      (fun _ after => ∃ between,
        after.memory = { mount with journal := { mount.journal with dirty := false } } ∧
        mount.journal.sync partition disk = .ok { mount.journal with dirty := false } between ∧
        DiskM.flush between = .ok () after.disk)
      fun error after => after.memory = mount.restore saved ∧
        (mount.journal.sync partition disk = .error error after.disk ∨ ∃ between,
          mount.journal.sync partition disk = .ok { mount.journal with dirty := false } between ∧
          DiskM.flush between = .error error after.disk) := by
  refine ends_restoring (ends_syncInPlace.bind ?_ ?_)
  · rintro _ ⟨_, between⟩ ⟨rfl, synced⟩
    refine AttachedM.ends_onDisk ((ends_run _ _).mono ?_ ?_)
    · exact fun _ _ flushed => ⟨between, rfl, synced, flushed⟩
    · exact fun _ _ failed => ⟨rfl, .inr ⟨between, synced, failed⟩⟩
  · rintro error ⟨_, after⟩ ⟨rfl, failed⟩
    exact ⟨rfl, .inl failed⟩

/-- The saved footer and dirty flag undo what a replay moves in a handle. -/
theorem restore_foldl_advance (transactions : List Transaction) :
    restore { mount with journal := transactions.foldl Journal.advance mount.journal }
      mount.journal = mount := by
  rcases Journal.foldl_advance_eq transactions mount.journal with same | ⟨footer, same⟩
  · rw [same]
    rfl
  · rw [same]
    rfl

/-- A replay in place of pending transactions does what a replay on the disk does. Only when that is
through, the mount takes over what is on disk. -/
theorem ends_replayInPlace (full : mount.journal.isEmpty = false) :
    Ends (replayInPlace partition) { memory := mount, disk }
      (fun report after => ∃ replayed between,
        mount.journal.replay partition disk = .ok (report, replayed) between ∧
        after.memory = mount.accept replayed ∧
        after.disk =
          { between with log := between.log.push (.replayed report.transactions report.blocks) })
      fun error after => after.memory = mount ∧
        mount.journal.replay partition disk = .error error after.disk := by
  refine ends_get ?_
  show Ends (if mount.journal.isEmpty then _ else _) _ _ _
  rw [full, if_neg Bool.false_ne_true]
  refine AttachedM.ends_onDisk_andThen ((ends_run _ _).mono ?_ ?_)
  · intro transactions read pended
    refine (ends_replayTransactions transactions {}).bind ?_ ?_
    · rintro report ⟨_, copied⟩ ⟨rfl, total, copies⟩
      refine ends_publishInPlace.bind ?_ ?_
      · rintro _ ⟨_, flushed⟩ ⟨between, rfl, synced, flushes⟩
        have counted : report.transactions = transactions.length := total.trans (Nat.zero_add _)
        refine ends_get (ends_modify (ends_of_ok rfl ⟨_, flushed, ?_, rfl, rfl⟩))
        refine (bind_of_ok pended).trans ((bind_of_ok copies).trans ?_)
        refine (bind_of_ok synced).trans ((bind_of_ok flushes).trans ?_)
        rw [← counted]
        rfl
      · rintro error after ⟨memory, stopped⟩
        refine ⟨memory.trans (restore_foldl_advance transactions), ?_⟩
        refine (bind_of_ok pended).trans ((bind_of_ok copies).trans ?_)
        rcases stopped with unsynced | ⟨between, synced, unflushed⟩
        · exact bind_of_error unsynced
        · exact (bind_of_ok synced).trans (bind_of_error unflushed)
    · rintro error after ⟨memory, failed⟩
      exact ⟨memory, (bind_of_ok pended).trans (bind_of_error failed)⟩
  · exact fun error after failed => ⟨rfl, bind_of_error failed⟩

/-- When a replay on the disk returns, the mount takes over what is on disk. -/
theorem replay_of_ok {report : ReplayReport} {replayed : Journal} {after : Disk δ}
    (full : mount.journal.isEmpty = false)
    (replays : mount.journal.replay partition disk = .ok (report, replayed) after) :
    replay partition { memory := mount, disk } = .ok report
      { memory := mount.accept replayed
        disk := { after with
          log := after.log.push (.replayed report.transactions report.blocks) } } := by
  have ran : AttachedM.onDisk (mount.journal.replay partition) { memory := mount, disk } =
      .ok (report, replayed) { memory := mount, disk := after } := by
    simp only [AttachedM.onDisk, replays]
  show (if mount.journal.isEmpty then _ else _ : AttachedM Mount δ ReplayReport) _ = _
  rw [full, if_neg Bool.false_ne_true]
  exact bind_of_ok ran

/-- When a replay on the disk fails, the mount stays. -/
theorem replay_of_error {error : Error} {after : Disk δ} (full : mount.journal.isEmpty = false)
    (failed : mount.journal.replay partition disk = .error error after) :
    replay partition { memory := mount, disk } =
      .error error { memory := mount, disk := after } := by
  have ran : AttachedM.onDisk (mount.journal.replay partition) { memory := mount, disk } =
      .error error { memory := mount, disk := after } := by
    simp only [AttachedM.onDisk, failed]
  show (if mount.journal.isEmpty then _ else _ : AttachedM Mount δ ReplayReport) _ = _
  rw [full, if_neg Bool.false_ne_true]
  exact bind_of_error ran

/-- Replaying in place is replaying. -/
theorem replayInPlace_eq (partition : Partition) :
    (replayInPlace partition : AttachedM Mount δ ReplayReport) = replay partition := by
  funext ⟨mount, disk⟩
  cases full : mount.journal.isEmpty with
  | true =>
    show (if mount.journal.isEmpty then _ else _ : AttachedM Mount δ ReplayReport) _ =
      (if mount.journal.isEmpty then _ else _ : AttachedM Mount δ ReplayReport) _
    rw [full, if_pos rfl, if_pos rfl]
  | false =>
    refine ((ends_replayInPlace full).mono ?_ ?_).run_eq
    · rintro report ⟨_, _⟩ ⟨replayed, between, replays, rfl, rfl⟩
      exact replay_of_ok full replays
    · rintro error ⟨_, after⟩ ⟨rfl, failed⟩
      exact replay_of_error full failed

/-- A replay that fails leaves the mount. -/
theorem ends_replay_failed (state : Attached Mount δ) :
    Ends (replay partition) state (fun _ _ => True) fun _ after => after.memory = state.memory := by
  obtain ⟨mount, disk⟩ := state
  rw [← replayInPlace_eq]
  cases full : mount.journal.isEmpty with
  | true =>
    refine ends_get ?_
    show Ends (if mount.journal.isEmpty then _ else _) _ _ _
    rw [full, if_pos rfl]
    exact ends_pure trivial
  | false =>
    exact (ends_replayInPlace full).mono (fun _ _ _ => trivial) fun _ _ failed => failed.1

/-- A replay can be done in place. When it fails, the journal handle, the superblock and the
allocator of object ids are as they were, whatever the journal, the content of the disk and the
faults of the device are; and an activation fails there as well, before it zeroes the pointers. -/
theorem failed_replay_leaves_memory (partition : Partition) (state : Attached Mount δ) :
    replay partition state = replayInPlace partition state ∧
    ∀ error after, replay partition state = .error error after →
      after.memory = state.memory ∧ activate partition state = .error error after := by
  refine ⟨by rw [replayInPlace_eq], fun error after failed => ⟨?_, ?_⟩⟩
  · exact (ends_replay_failed state).of_error failed
  · rw [activate_eq]
    exact bind_of_error failed

/-- On the small volume the flush behind the pointers fails. The new footer is on disk, and the old
one in memory. -/
theorem failed_replay_leaves_memory_sample : ∃ loaded error after found reopened,
    takeUp Sample.partition Sample.area
      { Sample.start with disk := Sample.start.disk.planned (failAt 8) } = .ok () loaded ∧
    replay Sample.partition loaded = .error error after ∧
    Journal.load Sample.partition Sample.area after.disk.repaired = .ok found reopened ∧
    found.footer = { lastFlushed := 3 } ∧ loaded.memory.journal.footer = {} ∧
    after.memory = loaded.memory ∧ activate Sample.partition loaded = .error error after := by
  obtain ⟨loaded, error, after, found, reopened, taken, failed, _, _, old, loads, new⟩ :=
    exists_failedReplay Sample.failedReplay_flush
  obtain ⟨memory, activated⟩ :=
    (failed_replay_leaves_memory Sample.partition loaded).2 error after failed
  rw [memory] at old
  exact ⟨loaded, error, after, found, reopened, taken, failed, loads, new, old, memory, activated⟩

end Mount

end JournaledVolume
