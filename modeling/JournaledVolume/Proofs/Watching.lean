import JournaledVolume.Journal.ChainWalk
import JournaledVolume.Proofs.Trail

/-!
# Devices whose failed reads are remembered

A watched device answers as the device inside it does, and remembers each read that fails there:
where it started, and the error. No operation sees what is remembered. So an operation runs on a
watched device as it runs on the device inside, and what is remembered tells afterwards which of the
requests failed.

`Tells` compares an action on a watched device with an action on the device inside. They end in the
same way. When a read fails, nothing is read behind it, and its error is not lost: either the action
fails with it, or it is shown by what the action returns. Most actions only do the former
(`Reports`); others do not read at all (`Quiet`).
-/

namespace JournaledVolume

open JournaledVolume.Action

/-- A read that failed in the device. -/
structure FailedRead where
  /-- The first of the sectors that were requested. -/
  first : Nat
  /-- The error of the device. -/
  error : Error
deriving DecidableEq, Repr

/-- A device whose failed reads are remembered. -/
structure Watched (δ : Type) where
  /-- The device inside. -/
  device : δ
  /-- The reads that failed, the last one first. -/
  failures : List FailedRead := []

namespace Watched

variable {δ α : Type}

/-- Lets the device inside act. -/
def inside (act : Action δ α) : Action (Watched δ) α := fun watched =>
  match act watched.device with
  | .ok value device => .ok value { watched with device }
  | .error error device => .error error { watched with device }

instance [BlockDevice δ] : BlockDevice (Watched δ) where
  shape watched := BlockDevice.shape watched.device
  readOnly watched := BlockDevice.readOnly watched.device
  readSectors first count watched :=
    match BlockDevice.readSectors first count watched.device with
    | .ok bytes device => .ok bytes { watched with device }
    | .error error device => .error error { device, failures := ⟨first, error⟩ :: watched.failures }
  writeSectors first data := inside (BlockDevice.writeSectors first data)
  flush := inside BlockDevice.flush

end Watched

/-- The disk whose device is watched from now on. -/
def Disk.watched {δ : Type} (disk : Disk δ) : Disk (Watched δ) :=
  { disk with device := { device := disk.device } }

/-- A state with a watched device. -/
class Watching (τ : Type) (σ : outParam Type) where
  /-- The state with the device inside. -/
  bare : τ → σ
  /-- The reads that failed, the last one first. -/
  failures : τ → List FailedRead

export Watching (bare failures)

instance {δ : Type} : Watching (Disk (Watched δ)) (Disk δ) where
  bare disk := { disk with device := disk.device.device }
  failures disk := disk.device.failures

instance {μ δ : Type} : Watching (Attached μ (Watched δ)) (Attached μ δ) where
  bare state := { memory := state.memory, disk := bare state.disk }
  failures state := failures state.disk

namespace FailedRead

/-- Whether an error is that of a read that failed, with the block that was read when it named
none. -/
def Behind (partition : Partition) (failure : FailedRead) (error : Error) : Prop :=
  ∃ block, partition.sectorOf block = failure.first ∧ error = failure.error.withBlock block

end FailedRead

/-- Whether no read failed in between, or one did, and its error is shown. -/
def Told (partition : Partition) (before after : List FailedRead) (shown : Error → Prop) : Prop :=
  after = before ∨
    ∃ failure told, after = failure :: before ∧ failure.Behind partition told ∧ shown told

/-- What is shown may be shown in another way. -/
theorem Told.mono {partition : Partition} {before after : List FailedRead}
    {shown other : Error → Prop} (told : Told partition before after shown)
    (also : ∀ error, shown error → other error) : Told partition before after other := by
  rcases told with same | ⟨failure, error, new, behind, shows⟩
  · exact .inl same
  · exact .inr ⟨failure, error, new, behind, also error shows⟩

/-- Where nothing is shown, no read failed. -/
theorem Told.eq {partition : Partition} {before after : List FailedRead} {shown : Error → Prop}
    (told : Told partition before after shown) (silent : ∀ error, ¬ shown error) :
    after = before := by
  rcases told with same | ⟨_, error, _, _, shows⟩
  · exact same
  · exact absurd shows (silent error)

namespace Action

variable {τ σ α β : Type} [Watching τ σ] {partition : Partition}
  {act : Action τ α} {plain : Action σ α} {next : α → Action τ β} {plainNext : α → Action σ β}
  {shown : α → Error → Prop} {further : β → Error → Prop} {fatal : Error → Prop}
  {good : α → Prop} {better : β → Prop}

/-- Whether an action on a watched device does the same as one on the device inside. The error of a
read that fails is shown by what it returns, or it is what the action fails with, where this is an
error that it may fail with. -/
def Tells (partition : Partition) (act : Action τ α) (plain : Action σ α)
    (shown : α → Error → Prop) (fatal : Error → Prop) : Prop :=
  ∀ state, Ends act state
    (fun value after => plain (bare state) = .ok value (bare after) ∧
      Told partition (failures state) (failures after) (shown value))
    fun error after => plain (bare state) = .error error (bare after) ∧
      Told partition (failures state) (failures after) fun told => told = error ∧ fatal error

/-- Whether an action on a watched device does the same as one on the device inside, and fails when
a read fails. -/
def Reports (partition : Partition) (act : Action τ α) (plain : Action σ α) : Prop :=
  act.Tells partition plain (fun _ _ => False) fun _ => True

/-- Whether an action on a watched device does the same as one on the device inside, and neither
reads nor fails. -/
def Quiet (act : Action τ α) (plain : Action σ α) (good : α → Prop) : Prop :=
  ∀ state, Ends act state
    (fun value after => plain (bare state) = .ok value (bare after) ∧
      failures after = failures state ∧ good value)
    fun _ _ => False

/-- A value that is returned is returned in both runs. -/
theorem quiet_pure {value : α} (holds : good value) :
    (pure value : Action τ α).Quiet (pure value : Action σ α) good :=
  fun _ => ends_pure ⟨rfl, rfl, holds⟩

/-- Quiet actions in sequence are quiet. -/
theorem Quiet.bind (first : act.Quiet plain good)
    (second : ∀ value, good value → (next value).Quiet (plainNext value) better) :
    (act >>= next).Quiet (plain >>= plainNext) better := by
  intro state
  apply (first state).andThen
  intro value between did
  apply (second value did.2.2 between).mono
  · intro result after last
    exact ⟨(bind_of_ok did.1).trans last.1, last.2.1.trans did.2.1, last.2.2⟩
  · exact fun _ _ never => never

/-- A quiet action tells everything: nothing failed. -/
theorem Quiet.tells (quiet : act.Quiet plain good) : act.Tells partition plain shown fatal :=
  fun state => (quiet state).mono (fun _ _ did => ⟨did.1, .inl did.2.1⟩) fun _ _ => False.elim

/-- What follows an action that tells of a failed read either has nothing to do with it, or is quiet
and shows it as well. -/
theorem Tells.bind (first : act.Tells partition plain shown fatal)
    (second : ∀ value,
      (∀ told, ¬ shown value told) ∧ (next value).Tells partition (plainNext value) further fatal ∨
      (next value).Quiet (plainNext value) fun result => ∀ told, shown value told →
        further result told) :
    (act >>= next).Tells partition (plain >>= plainNext) further fatal := by
  intro state
  apply Ends.bind (first state)
  · intro value between did
    rcases second value with ⟨silent, tells⟩ | quiet
    -- Where nothing can be shown no read failed so far, and what is told later is all there is.
    · have none := did.2.eq silent
      apply (tells between).mono
      · intro result after last
        exact ⟨(bind_of_ok did.1).trans last.1, none ▸ last.2⟩
      · intro error after last
        exact ⟨(bind_of_ok did.1).trans last.1, none ▸ last.2⟩
    · apply (quiet between).mono
      · intro result after last
        refine ⟨(bind_of_ok did.1).trans last.1, ?_⟩
        rw [last.2.1]
        exact did.2.mono last.2.2
      · exact fun _ _ never => never.elim
  · intro error after did
    exact ⟨bind_of_error did.1, did.2⟩

/-- What follows an action that shows nothing may tell of other reads. -/
theorem Tells.andThen (first : act.Tells partition plain (fun _ _ => False) fatal)
    (second : ∀ value, (next value).Tells partition (plainNext value) further fatal) :
    (act >>= next).Tells partition (plain >>= plainNext) further fatal :=
  first.bind fun value => .inl ⟨fun _ never => never, second value⟩

/-- So may what follows an action that fails when a read fails. -/
theorem Reports.andThen (first : act.Reports partition plain)
    (second : ∀ value, (next value).Tells partition (plainNext value) further fun _ => True) :
    (act >>= next).Tells partition (plain >>= plainNext) further fun _ => True :=
  Tells.andThen first second

/-- So may what follows an action that neither reads nor fails. -/
theorem Quiet.andThen (first : act.Quiet plain good)
    (second : ∀ value, (next value).Tells partition (plainNext value) further fatal) :
    (act >>= next).Tells partition (plain >>= plainNext) further fatal :=
  Tells.andThen first.tells second

/-- A value that is returned has nothing to do with a read. -/
theorem tells_pure (value : α) :
    (pure value : Action τ α).Tells partition (pure value : Action σ α) shown fatal :=
  fun _ => ends_pure ⟨rfl, .inl rfl⟩

/-- A failure that has nothing to do with a read is one in both runs. -/
theorem tells_throw (error : Error) :
    (throw error : Action τ α).Tells partition (throw error : Action σ α) shown fatal :=
  fun _ => ends_throw ⟨rfl, .inl rfl⟩

/-- Nothing follows such a failure. -/
theorem tells_throw_bind (error : Error) :
    ((throw error : Action τ α) >>= next).Tells partition
      ((throw error : Action σ α) >>= plainNext) further fatal :=
  fun _ => ends_throw ⟨rfl, .inl rfl⟩

/-- A computation without state ends in the same way in both runs. -/
theorem tells_ofExcept (result : Except Error α) :
    (ofExcept result : Action τ α).Tells partition (ofExcept result : Action σ α) shown fatal := by
  cases result with
  | ok value => exact tells_pure value
  | error error => exact tells_throw error

end Action

namespace AttachedM

variable {μ δ : Type} {partition : Partition}

/-- A change in memory reads nothing. -/
theorem quiet_revise (change : μ → μ) :
    (revise change : AttachedM μ (Watched δ) Unit).Quiet
      (revise change : AttachedM μ δ Unit) fun _ => True :=
  fun _ => ⟨rfl, rfl, trivial⟩

/-- A change in memory that may fail reads nothing. -/
theorem reports_tryRevise (change : μ → Except Error μ) :
    (tryRevise change : AttachedM μ (Watched δ) Unit).Reports partition
      (tryRevise change : AttachedM μ δ Unit) := by
  intro state
  apply ends_tryRevise
  · intro changed same
    refine ⟨?_, .inl rfl⟩
    simp only [tryRevise, bare, same]
  · intro error same
    refine ⟨?_, .inl rfl⟩
    simp only [tryRevise, bare, same]

end AttachedM

namespace DiskM

variable {δ α : Type} {partition : Partition} {act : DiskM (Watched δ) α} {plain : DiskM δ α}
  {shown : α → Error → Prop} {fatal : Error → Prop}

/-- A report reads nothing. -/
theorem quiet_emit (event : Event) :
    (emit event : DiskM (Watched δ) Unit).Quiet (emit event : DiskM δ Unit) fun _ => True :=
  fun _ => ⟨rfl, rfl, trivial⟩

/-- A refusal has nothing to do with a read. -/
theorem tells_refuse (event : Event) (defect : Defect) :
    (refuse event defect : DiskM (Watched δ) α).Tells partition
      (refuse event defect : DiskM δ α) shown fatal :=
  (quiet_emit event).andThen fun _ => tells_throw _

/-- Reporting a failure changes nothing of it. -/
theorem reports_orReport (event : Error → Event) (reports : act.Reports partition plain) :
    (orReport event act).Reports partition (orReport event plain) := by
  intro disk
  apply ends_orReport
  apply (reports disk).mono
  · intro value after did
    exact ⟨by simp only [orReport, did.1], did.2⟩
  · intro error after did
    refine ⟨?_, did.2⟩
    simp only [orReport, did.1]
    rfl

/-- Where damage is found, it may be what a failed read was taken for. Other errors of a failed read
are not. -/
theorem tells_findDamage (reports : act.Reports partition plain) :
    (findDamage act).Tells partition (findDamage plain)
      (fun found told => ∃ damage, told.damage? = some damage ∧ found = .error damage)
      fun error => error.damage? = none := by
  intro disk
  apply ends_findDamage
  apply (reports disk).mono
  · intro value after did
    exact ⟨by simp only [findDamage, did.1], .inl (did.2.eq fun _ never => never)⟩
  · intro error after did
    cases damaged : error.damage? with
    | some damage =>
      refine ⟨by simp only [findDamage, did.1, damaged], did.2.mono ?_⟩
      intro told same
      exact ⟨damage, same.1 ▸ damaged, rfl⟩
    | none =>
      refine ⟨by simp only [findDamage, did.1, damaged], did.2.mono ?_⟩
      intro told same
      exact ⟨same.1, damaged⟩

/-- What follows goes on where no damage is found. Where damage is found it is quiet, and shows what
a failed read was taken for. -/
theorem tells_findDamage_andThen {β : Type} {further : β → Error → Prop}
    {next : Except (Nat × Cause) α → DiskM (Watched δ) β}
    {plainNext : Except (Nat × Cause) α → DiskM δ β} (reports : act.Reports partition plain)
    (continues : ∀ value, (next (.ok value)).Tells partition (plainNext (.ok value)) further
      fun error => error.damage? = none)
    (shows : ∀ damage, (next (.error damage)).Quiet (plainNext (.error damage)) fun result =>
      ∀ told : Error, told.damage? = some damage → further result told) :
    (findDamage act >>= next).Tells partition (findDamage plain >>= plainNext) further
      fun error => error.damage? = none := by
  apply (tells_findDamage reports).bind
  intro found
  cases found with
  | ok value =>
    refine .inl ⟨?_, continues value⟩
    rintro told ⟨_, _, same⟩
    cases same
  | error damage =>
    refine .inr fun disk => (shows damage disk).mono ?_ fun _ _ never => never
    intro result after did
    refine ⟨did.1, did.2.1, ?_⟩
    rintro told ⟨_, known, same⟩
    cases same
    exact did.2.2 told known

/-- An action on a structure of its own fails when a read fails. -/
theorem reports_accumulate {μ : Type} (start : μ) {act : AttachedM μ (Watched δ) Unit}
    {plain : AttachedM μ δ Unit} (reports : act.Reports partition plain) :
    (accumulate start act).Reports partition (accumulate start plain) := by
  intro disk
  apply ends_accumulate
  have run := reports { memory := start, disk }
  apply run.mono
  · intro _ after did
    have same : plain { memory := start, disk := bare disk } = .ok _ (bare after) := did.1
    exact ⟨by simp only [accumulate, same]; rfl, did.2⟩
  · intro error after did
    have same : plain { memory := start, disk := bare disk } = .error error (bare after) := did.1
    exact ⟨by simp only [accumulate, same]; rfl, did.2⟩

variable [BlockDevice δ]

/-- When the device fails to read a block, the error names it. -/
theorem reports_transfer (block count : Nat) :
    (transfer block (BlockDevice.readSectors (partition.sectorOf block) count) :
      DiskM (Watched δ) Bytes).Reports partition
        (transfer block (BlockDevice.readSectors (partition.sectorOf block) count) :
          DiskM δ Bytes) := by
  intro disk
  have watches : (BlockDevice.readSectors (partition.sectorOf block) count :
      Action (Watched δ) Bytes) disk.device = match BlockDevice.readSectors
        (partition.sectorOf block) count disk.device.device with
      | .ok bytes device => .ok bytes { disk.device with device }
      | .error error device => .error error
          { device, failures := ⟨partition.sectorOf block, error⟩ :: disk.device.failures } := rfl
  cases read : BlockDevice.readSectors (partition.sectorOf block) count disk.device.device with
  | ok bytes device =>
    rw [read] at watches
    apply ends_of_ok (by simp only [transfer, onDevice, watches]; rfl)
    exact ⟨by simp only [transfer, onDevice, bare, read], .inl rfl⟩
  | error error device =>
    rw [read] at watches
    apply ends_of_error (by simp only [transfer, onDevice, watches]; rfl)
    refine ⟨by simp only [transfer, onDevice, bare, read], .inr ?_⟩
    exact ⟨_, _, rfl, ⟨block, rfl, rfl⟩, rfl, trivial⟩

/-- A read of blocks fails when the device fails. -/
theorem reports_readBlocks (block count : Nat) :
    (readBlocks partition block count : DiskM (Watched δ) Bytes).Reports partition
      (readBlocks partition block count : DiskM δ Bytes) := by
  apply Reports.andThen (tells_ofExcept (partition.checkRange block count))
  intro _
  have counts : (modify fun disk => { disk with reads := disk.reads + count } :
      DiskM (Watched δ) Unit).Quiet (modify fun disk => { disk with reads := disk.reads + count } :
      DiskM δ Unit) fun _ => True := fun _ => ⟨rfl, rfl, trivial⟩
  apply counts.andThen
  intro _
  apply (reports_transfer block (count * partition.sectorsPerBlock)).andThen
  intro data
  by_cases short : data.length < count * partition.blockSize
  · simp only [short, if_true]
    exact tells_throw_bind _
  · simp only [short, if_false]
    exact tells_pure _

/-- Following a pointer fails when the device fails. -/
theorem reports_readPointer (block : Address) :
    (readPointer partition block : DiskM (Watched δ) Bytes).Reports partition
      (readPointer partition block : DiskM δ Bytes) := by
  have checks : (checkPointer partition block : DiskM (Watched δ) Unit).Reports partition
      (checkPointer partition block : DiskM δ Unit) := by
    unfold checkPointer
    by_cases outside : block = 0 ∨ partition.length ≤ block.toNat
    · simp only [outside, if_true]
      exact tells_throw _
    · simp only [outside, if_false]
      exact tells_pure _
  exact checks.andThen fun _ => reports_readBlocks block.toNat 1

end DiskM

variable {δ : Type} [BlockDevice δ] {partition : Partition}

/-- A step along the transactions fails when the device fails. -/
theorem ChainWalk.reports_step (walk : ChainWalk) :
    (walk.step partition : DiskM (Watched δ) (Option (Transaction × ChainWalk))).Reports partition
      (walk.step partition : DiskM δ (Option (Transaction × ChainWalk))) := by
  cases walk with
  | ended => exact tells_pure _
  | walking next stop visited =>
    by_cases last : next = stop
    · simp only [step, last, if_true]
      exact tells_pure _
    by_cases known : next ∈ visited
    · simp only [step, last, known, if_true, if_false]
      exact DiskM.tells_refuse _ _
    simp only [step, last, known, if_false]
    apply (DiskM.reports_readPointer next).andThen
    intro content
    cases decoded : TxHeader.decode? content with
    | none => exact DiskM.tells_refuse _ _
    | some header =>
      apply (DiskM.quiet_emit _).andThen
      exact fun _ => tells_pure _

/-- A step along log records fails when the device fails. -/
theorem RecordWalk.reports_step (walk : RecordWalk) :
    (walk.step partition :
      DiskM (Watched δ) (Option ((Address × LogRecord) × RecordWalk))).Reports partition
        (walk.step partition : DiskM δ (Option ((Address × LogRecord) × RecordWalk))) := by
  have reads (next : Address) : (readRecord partition next :
      DiskM (Watched δ) LogRecord).Reports partition
        (readRecord partition next : DiskM δ LogRecord) := by
    apply (DiskM.reports_readPointer next).andThen
    intro content
    cases decoded : LogRecord.decode? content with
    | none => exact tells_throw _
    | some record => exact tells_pure _
  cases walk with
  | ended => exact tells_pure _
  | walking address id next visited =>
    by_cases last : next = address
    · simp only [step, last, if_true]
      exact tells_pure _
    by_cases known : next ∈ visited
    · simp only [step, last, known, if_true, if_false]
      exact DiskM.tells_refuse _ _
    simp only [step, last, known, if_false]
    apply (DiskM.reports_orReport _ (reads next)).andThen
    exact fun _ => tells_pure _

namespace Walk

variable {κ α μ : Type} [Walk κ α]

/-- Visits along a walk fail when the device fails. -/
theorem reports_forEach {visit : α → AttachedM μ (Watched δ) Unit}
    {plainVisit : α → AttachedM μ δ Unit}
    (steps : ∀ walk : κ, (step partition walk : DiskM (Watched δ) (Option (α × κ))).Reports
      partition (step partition walk : DiskM δ (Option (α × κ))))
    (visits : ∀ item, (visit item).Reports partition (plainVisit item)) (walk : κ) :
    (forEach partition visit walk).Reports partition (forEach partition plainVisit walk) := by
  induction walk using room_induction κ partition with
  | smaller walk ih =>
    rintro ⟨memory, disk⟩
    have did := steps walk disk
    cases stepped : step partition walk disk with
    | error error after =>
      have run := did.of_error stepped
      exact ends_of_error (forEach_of_error stepped) ⟨forEach_of_error run.1, run.2⟩
    | ok found after =>
      have run := did.of_ok stepped
      have none : failures after = failures disk := run.2.eq fun _ never => never
      cases found with
      | none => exact ends_of_ok (forEach_of_end stepped) ⟨forEach_of_end run.1, .inl none⟩
      | some next =>
        have rest := (visits next.1).andThen fun _ => ih next.2 (step_room stepped)
        unfold Ends
        rw [forEach_of_item stepped]
        apply (rest { memory, disk := after }).mono
        · intro _ last holds
          exact ⟨(forEach_of_item run.1).trans holds.1, none ▸ holds.2⟩
        · intro _ last holds
          exact ⟨(forEach_of_item run.1).trans holds.1, none ▸ holds.2⟩

end Walk

end JournaledVolume
