import JournaledVolume.Proofs.Inspection
import JournaledVolume.Proofs.Watching

/-!
# Failed reads in an inspection

An inspection reads the journal, and any of its reads may fail in the device. It takes errors for
damage by their class: an error of the class of damage is a finding, and every other error makes the
inspection fail. Errors of the device pass through the same test. So a failed read makes the
inspection fail, with the error of the device and the block that was read, and leaves the handle as
it was, unless the device calls the failure damage. In that case the inspection finds a transaction
bad that it could not read, and a repair drops it.
-/

namespace JournaledVolume

open JournaledVolume.Action

namespace Error

/-- Whether an error is what makes the first bad transaction bad. -/
def ShownBy (error : Error) (bad : Option BadTransaction) : Prop :=
  ∃ fault ∈ bad, error.damage? = some (fault.block, fault.cause)

/-- An error that names its block is damage if it is of that class. -/
theorem damage?_withBlock (error : Error) (block : Nat) :
    (error.withBlock block).damage? =
      if error.kind = .corrupted then some (error.block.getD block, error.cause) else none := by
  have same : (error.withBlock block).kind = error.kind := rfl
  rw [damage?, same]
  cases named : error.block <;> simp [withBlock, named]

end Error

variable {δ : Type} [BlockDevice δ] {partition : Partition} {fixed : Bitmap}

/-- Finding the pending transactions fails when the device fails. -/
theorem Journal.reports_pending (journal : Journal) :
    (journal.pending partition : DiskM (Watched δ) (List Transaction)).Reports partition
      (journal.pending partition : DiskM δ (List Transaction)) := by
  have visits (item : Transaction) :
      (AttachedM.revise fun items => items.push item :
        AttachedM (Array Transaction) (Watched δ) Unit).Reports partition
          (AttachedM.revise fun items => items.push item) :=
    (AttachedM.quiet_revise _).tells
  have collects := DiskM.reports_accumulate #[]
    (Walk.reports_forEach ChainWalk.reports_step visits journal.chain)
  have lists : (Walk.collect partition journal.chain :
      DiskM (Watched δ) (List Transaction)).Reports partition
        (Walk.collect partition journal.chain) := collects.andThen fun items => tells_pure _
  exact lists.andThen fun newest => tells_pure _

namespace Transaction

/-- Examining a transaction fails when the device fails. -/
theorem reports_examine (transaction : Transaction) (usage : Usage) :
    (transaction.examine partition fixed usage : DiskM (Watched δ) Usage).Reports partition
      (transaction.examine partition fixed usage : DiskM δ Usage) := by
  apply DiskM.reports_accumulate
  apply (AttachedM.reports_tryRevise _).andThen
  intro _
  apply (Walk.reports_forEach RecordWalk.reports_step
    (fun _ => AttachedM.reports_tryRevise _) _).andThen
  intro _
  exact AttachedM.reports_tryRevise _

/-- Examining transactions shows in the first bad one what a failed read was taken for. -/
theorem tells_examineAll (transactions : List Transaction) (usage : Usage) :
    (examineAll partition fixed transactions usage :
      DiskM (Watched δ) (List Transaction × Option BadTransaction)).Tells partition
        (examineAll partition fixed transactions usage)
        (fun found told => told.ShownBy found.2) fun error => error.damage? = none := by
  induction transactions generalizing usage with
  | nil => exact tells_pure _
  | cons transaction newer ih =>
    apply DiskM.tells_findDamage_andThen (reports_examine transaction usage)
    · intro after
      exact (ih after).bind fun result => .inr (quiet_pure fun _ shows => shows)
    · intro damage
      exact quiet_pure fun _ known => ⟨_, rfl, known⟩

end Transaction

namespace Journal

variable (partition) (fixed) (mode : CheckMode) (journal : Journal)

/-- Examining the pending transactions shows what a failed read was taken for. -/
theorem tells_examine :
    (journal.examine partition fixed :
      DiskM (Watched δ) (List Transaction × Option BadTransaction)).Tells partition
        (journal.examine partition fixed)
        (fun found told => told.ShownBy found.2) fun error => error.damage? = none := by
  apply DiskM.tells_findDamage_andThen (reports_pending journal)
  · exact fun transactions => Transaction.tells_examineAll transactions {}
  · exact fun damage => quiet_pure fun _ known => ⟨_, rfl, known⟩

/-- A check shows what a failed read was taken for, and a repair drops the transaction. -/
theorem tells_check :
    (journal.check partition fixed mode : DiskM (Watched δ) (Inspection × Journal)).Tells partition
      (journal.check partition fixed mode)
      (fun result told => told.ShownBy result.1.bad ∧
        result.2 = if mode.repairs then journal.commitAt result.1.commitPoint else journal)
      fun error => error.damage? = none := by
  unfold check
  by_cases empty : journal.isEmpty
  · simp only [empty, if_true]
    exact tells_pure _
  simp only [empty, Bool.false_eq_true, if_false]
  have rooms : (Action.ofExcept (Bitmap.checkRoom partition.length) :
      DiskM (Watched δ) Unit).Tells partition (Action.ofExcept (Bitmap.checkRoom partition.length))
        (fun _ _ => False) fun error => error.damage? = none := tells_ofExcept _
  apply rooms.andThen
  intro _
  apply (tells_examine partition fixed journal).bind
  rintro ⟨good, bad⟩
  -- Nothing is read behind the examination.
  right
  cases bad with
  | none => exact quiet_pure fun _ shows => nomatch shows.choose_spec.1
  | some fault =>
    apply (DiskM.quiet_emit _).bind
    intro _ _
    by_cases repairs : mode.repairs
    · simp only [repairs, if_true]
      exact (DiskM.quiet_emit _).bind fun _ _ => quiet_pure fun _ shows => ⟨shows, rfl⟩
    · simp only [repairs, Bool.false_eq_true, if_false]
      exact quiet_pure fun _ shows => ⟨shows, rfl⟩

/-- Checks the handle in memory. -/
def checkInPlace {δ : Type} [BlockDevice δ] (partition : Partition) (fixed : Bitmap)
    (mode : CheckMode) : AttachedM Journal δ Inspection := do
  let journal ← AttachedM.memory
  let (inspection, checked) ← AttachedM.onDisk (journal.check partition fixed mode)
  AttachedM.revise fun _ => checked
  return inspection

/-- A check in place puts the checked handle in memory. When it fails, the handle stays. -/
theorem checkInPlace_eq (disk : Disk δ) :
    checkInPlace partition fixed mode { memory := journal, disk } =
      match journal.check partition fixed mode disk with
      | .ok result after => .ok result.1 { memory := result.2, disk := after }
      | .error error after => .error error { memory := journal, disk := after } := by
  cases ran : journal.check partition fixed mode disk with
  | ok result after =>
    have checked : (AttachedM.onDisk (journal.check partition fixed mode) :
        AttachedM Journal δ (Inspection × Journal)) { memory := journal, disk } =
          .ok result { memory := journal, disk := after } := by
      simp only [AttachedM.onDisk, ran]
    show (AttachedM.onDisk _ >>= _) _ = _
    exact bind_of_ok checked
  | error error after =>
    have failed : (AttachedM.onDisk (journal.check partition fixed mode) :
        AttachedM Journal δ (Inspection × Journal)) { memory := journal, disk } =
          .error error { memory := journal, disk := after } := by
      simp only [AttachedM.onDisk, ran]
    show (AttachedM.onDisk _ >>= _) _ = _
    exact bind_of_error failed

/-- An inspection does not lose a failed read, whatever the device is, holds and answers. When it
fails, the handle is as it was, and either no read failed or one did, which the device did not call
damage: the inspection fails with its error, which names the block that was read if it named none.
When it returns, either no read failed or one did, and the device called that damage: then this is
what is wrong with the first bad transaction, and a repair moves the commit point in front of it. -/
theorem failed_reads_told (disk : Disk δ) :
    Ends (checkInPlace partition fixed mode) { memory := journal, disk := disk.watched }
      (fun inspection after =>
        checkInPlace partition fixed mode { memory := journal, disk } =
          .ok inspection (bare after) ∧
        (failures after = [] ∨ ∃ failure block, failures after = [failure] ∧
          partition.sectorOf block = failure.first ∧ failure.error.kind = .corrupted ∧
          (∃ fault ∈ inspection.bad, fault.block = failure.error.block.getD block ∧
            fault.cause = failure.error.cause) ∧
          after.memory =
            if mode.repairs then journal.commitAt inspection.commitPoint else journal))
      fun error after =>
        checkInPlace partition fixed mode { memory := journal, disk } = .error error (bare after) ∧
        after.memory = journal ∧
        (failures after = [] ∨ ∃ failure block, failures after = [failure] ∧
          partition.sectorOf block = failure.first ∧ failure.error.kind ≠ .corrupted ∧
          error = failure.error.withBlock block) := by
  have ends := tells_check partition fixed mode journal disk.watched
  have inside : bare disk.watched = disk := rfl
  rw [inside] at ends
  unfold Ends
  rw [checkInPlace_eq, checkInPlace_eq]
  cases ran : journal.check partition fixed mode disk.watched with
  | ok result after =>
    obtain ⟨plain, told⟩ := ends.of_ok ran
    refine ⟨by rw [plain]; rfl, ?_⟩
    rcases told with nothing | ⟨failure, _, new, ⟨block, first, rfl⟩, shown, handle⟩
    · exact .inl nothing
    · obtain ⟨fault, known, damaged⟩ := shown
      rw [Error.damage?_withBlock] at damaged
      by_cases corrupted : failure.error.kind = .corrupted
      · rw [if_pos corrupted] at damaged
        obtain ⟨named, caused⟩ := Prod.mk.inj (Option.some.inj damaged)
        exact .inr ⟨failure, block, new, first, corrupted,
          ⟨fault, known, named.symm, caused.symm⟩, handle⟩
      · rw [if_neg corrupted] at damaged
        exact nomatch damaged
  | error error after =>
    obtain ⟨plain, told⟩ := ends.of_error ran
    refine ⟨by rw [plain]; rfl, rfl, ?_⟩
    rcases told with nothing | ⟨failure, _, new, ⟨block, first, rfl⟩, rfl, harmless⟩
    · exact .inl nothing
    · rw [Error.damage?_withBlock] at harmless
      have other : failure.error.kind ≠ .corrupted := by
        intro corrupted
        rw [if_pos corrupted] at harmless
        exact nomatch harmless
      exact .inr ⟨failure, block, new, first, other, rfl⟩

end Journal

namespace Sample

/-- The error of a device that calls a failed read this. -/
def unread (kind : ErrorKind) : Error := ⟨.reported kind "injected failure", none⟩

/-- The small volume on a device whose first read fails. -/
def unreadable (kind : ErrorKind) : Disk Store where
  device := { disk.device with
    plan := fun number => if number = 0 then some { error := unread kind } else none }

/-- Finding the pending transaction fails there. -/
theorem exists_pending_unreadable (kind : ErrorKind) : ∃ after,
    journal.pending Sample.partition (unreadable kind).watched =
      .error (.atBlock (.reported kind "injected failure") 3) after ∧
    failures after = [⟨3, unread kind⟩] := by
  have stepped : ∃ after, Walk.step Sample.partition journal.chain (unreadable kind).watched =
      .error (.atBlock (.reported kind "injected failure") 3) after ∧
      failures after = [⟨3, unread kind⟩] := by
    cases kind <;> exact ⟨_, rfl, rfl⟩
  obtain ⟨after, stepped, failed⟩ := stepped
  refine ⟨after, bind_of_error (bind_of_error ?_), failed⟩
  simp only [DiskM.accumulate, Walk.forEach_of_error stepped]

end Sample

namespace Journal

/-- On the small volume a repair fails when the header of the pending transaction cannot be read,
and keeps the transaction. -/
theorem failed_reads_told_sample : ∃ after,
    checkInPlace Sample.partition Sample.fixed .fix
      { memory := Sample.journal, disk := (Sample.unreadable .io).watched } =
        .error (.atBlock (.reported .io "injected failure") 3) after ∧
    failures after = [⟨3, Sample.unread .io⟩] ∧ after.memory = Sample.journal := by
  obtain ⟨between, pends, failed⟩ := Sample.exists_pending_unreadable .io
  have passed : DiskM.findDamage (Sample.journal.pending Sample.partition)
      (Sample.unreadable .io).watched =
        .error (.atBlock (.reported .io "injected failure") 3) between := by
    simp only [DiskM.findDamage, pends]
    rfl
  have examines : Sample.journal.examine Sample.partition Sample.fixed
      (Sample.unreadable .io).watched =
        .error (.atBlock (.reported .io "injected failure") 3) between := bind_of_error passed
  have fails : Sample.journal.check Sample.partition Sample.fixed .fix
      (Sample.unreadable .io).watched =
        .error (.atBlock (.reported .io "injected failure") 3) between :=
    (bind_of_ok rfl).trans (bind_of_error examines)
  have ran : checkInPlace Sample.partition Sample.fixed .fix
      { memory := Sample.journal, disk := (Sample.unreadable .io).watched } =
        .error (.atBlock (.reported .io "injected failure") 3)
          { memory := Sample.journal, disk := between } := by
    rw [checkInPlace_eq, fails]
  have told := (failed_reads_told Sample.partition Sample.fixed .fix Sample.journal
    (Sample.unreadable .io)).of_error ran
  exact ⟨_, ran, failed, told.2.1⟩

/-- A failed read is mistaken for damage when the device calls it that. On the small volume, where
nothing is wrong, a repair drops the pending transaction when its header cannot be read. -/
theorem failed_read_moves_commit_point : ∃ checked inspection after,
    Sample.journal.check Sample.partition Sample.fixed .fix Sample.disk =
      .ok ({ valid := 1, commitPoint := 3 }, Sample.journal) checked ∧
    checkInPlace Sample.partition Sample.fixed .fix
      { memory := Sample.journal, disk := (Sample.unreadable .corrupted).watched } =
        .ok inspection after ∧
    failures after = [⟨3, Sample.unread .corrupted⟩] ∧ inspection.valid = 0 ∧
    Sample.journal.header.lastCommitted = 3 ∧ after.memory.header.lastCommitted = 0 ∧
    after.memory.dirty := by
  obtain ⟨checked, checks, _⟩ := check_of_inOrder .fix rfl Sample.lies Sample.serves.toSound rfl
    Sample.pends Sample.ordered
  obtain ⟨between, pends, failed⟩ := Sample.exists_pending_unreadable .corrupted
  have found : DiskM.findDamage (Sample.journal.pending Sample.partition)
      (Sample.unreadable .corrupted).watched =
        .ok (.error (3, .reported .corrupted "injected failure")) between := by
    simp only [DiskM.findDamage, pends]
    rfl
  have examines : Sample.journal.examine Sample.partition Sample.fixed
      (Sample.unreadable .corrupted).watched = .ok ([], some
        { address := 3, id := none, block := 3,
          cause := .reported .corrupted "injected failure" }) between := bind_of_ok found
  have repairs : ∃ inspection after,
      Sample.journal.check Sample.partition Sample.fixed .fix
        (Sample.unreadable .corrupted).watched =
          .ok (inspection, Sample.journal.commitAt 0) after ∧
      failures after = failures between ∧ inspection.valid = 0 :=
    ⟨_, _, bind_of_ok examines, rfl, rfl⟩
  obtain ⟨inspection, after, repaired, same, valid⟩ := repairs
  refine ⟨checked, inspection, { memory := Sample.journal.commitAt 0, disk := after }, checks, ?_,
    same.trans failed, valid, rfl, rfl, rfl⟩
  rw [checkInPlace_eq, repaired]

end Journal

end JournaledVolume
