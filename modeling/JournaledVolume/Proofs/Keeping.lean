import JournaledVolume.Journal.Inspection
import JournaledVolume.Proofs.Chain

/-!
# What operations keep

An operation may fail at each of its requests, so what it leaves behind has to hold at every point
where it may stop. `Keeps` says of an action that it keeps a property while it goes on, and what is
left of the property when it fails. What an operation keeps is put together from what its parts
keep.

A read changes nothing on a device but the number of calls. An operation that only reads keeps every
property that does not depend on this number (`Lasting`), whatever it reads and however it ends.
-/

namespace JournaledVolume

namespace Action

variable {σ α β : Type} {holds fails : σ → Prop} {act : Action σ α} {next : α → Action σ β}

/-- Whether an action keeps a property of the state, and leaves another one when it fails. -/
def Keeps (act : Action σ α) (holds fails : σ → Prop) : Prop :=
  ∀ state, holds state → Ends act state (fun _ after => holds after) fun _ after => fails after

/-- A sequence keeps what its parts keep. -/
theorem Keeps.bind (first : act.Keeps holds fails)
    (second : ∀ value, (next value).Keeps holds fails) : (act >>= next).Keeps holds fails :=
  fun state known => (first state known).andThen fun value after kept => second value after kept

/-- Returning a value keeps everything. -/
theorem keeps_pure (value : α) : (pure value : Action σ α).Keeps holds fails :=
  fun _ known => ends_pure known

/-- A failure leaves what is weaker. -/
theorem keeps_throw (weaker : ∀ state, holds state → fails state) (error : Error) :
    (throw error : Action σ α).Keeps holds fails :=
  fun state known => ends_throw (weaker state known)

/-- A computation without state leaves the state. -/
theorem keeps_ofExcept (weaker : ∀ state, holds state → fails state) (result : Except Error α) :
    (ofExcept result : Action σ α).Keeps holds fails := by
  cases result with
  | ok value => exact keeps_pure value
  | error error => exact keeps_throw weaker error

/-- Steps for the items of a list keep what each of them keeps. -/
theorem keeps_forM {step : β → Action σ Unit} {items : List β}
    (steps : ∀ item ∈ items, (step item).Keeps holds fails) :
    (items.forM step).Keeps holds fails := by
  induction items with
  | nil => exact keeps_pure ()
  | cons item items ih =>
    obtain ⟨first, later⟩ := List.forall_mem_cons.1 steps
    exact first.bind fun _ => ih later

/-- A fold over a list keeps what each step keeps. -/
theorem keeps_foldlM {step : β → α → Action σ β} (start : β) (items : List α)
    (steps : ∀ value item, (step value item).Keeps holds fails) :
    (items.foldlM step start).Keeps holds fails := by
  induction items generalizing start with
  | nil => exact keeps_pure start
  | cons item items ih =>
    rw [List.foldlM_cons]
    exact (steps start item).bind fun value => ih value

end Action

open JournaledVolume.Action

variable {σ α : Type} {holds fails : Store → Prop}

namespace AttachedM

/-- A change in memory leaves the device. -/
theorem keeps_tryRevise (weaker : ∀ store, holds store → fails store)
    (change : σ → Except Error σ) :
    (tryRevise change : AttachedM σ Store Unit).Keeps (holds ·.disk.device)
      (fails ·.disk.device) :=
  fun _ known => ends_tryRevise (fun _ _ => known) fun _ _ => weaker _ known

end AttachedM

namespace DiskM

variable {act : DiskM Store α}

/-- A report leaves the device. -/
theorem keeps_emit (event : Event) :
    (emit event : DiskM Store Unit).Keeps (holds ·.device) (fails ·.device) :=
  fun _ known => known

/-- A refusal leaves the device. -/
theorem keeps_refuse (weaker : ∀ store, holds store → fails store) (event : Event)
    (defect : Defect) :
    (refuse event defect : DiskM Store α).Keeps (holds ·.device) (fails ·.device) :=
  (keeps_emit event).bind fun _ => keeps_throw (fun disk : Disk Store => weaker disk.device) _

/-- Reporting a failure leaves what it left. -/
theorem keeps_orReport (event : Error → Event)
    (keeps : act.Keeps (holds ·.device) (fails ·.device)) :
    (orReport event act).Keeps (holds ·.device) (fails ·.device) :=
  fun disk known => ends_orReport (keeps disk known)

/-- Where failures leave the property itself, so does damage that is found. -/
theorem keeps_findDamage (keeps : act.Keeps (holds ·.device) (holds ·.device)) :
    (findDamage act).Keeps (holds ·.device) (holds ·.device) := by
  refine fun disk known => ends_findDamage ((keeps disk known).allow fun error after kept => ?_)
  split
  · exact kept
  · exact kept

/-- An action on a structure of its own keeps what it keeps on the device. -/
theorem keeps_accumulate {start : σ} {act : AttachedM σ Store Unit}
    (keeps : act.Keeps (holds ·.disk.device) (fails ·.disk.device)) :
    (accumulate start act).Keeps (holds ·.device) (fails ·.device) :=
  fun disk known => ends_accumulate (keeps { memory := start, disk } known)

end DiskM

namespace Walk

variable {κ : Type} [Walk κ α] {partition : Partition} {visit : α → AttachedM σ Store Unit}

/-- The visits of a walk keep what its steps and the visits to the items that they find keep. -/
theorem keeps_forEach_of_good (good : α → Prop)
    (steps : ∀ (walk : κ) disk, holds disk.device → Ends (step partition walk) disk
      (fun found after => holds after.device ∧ ∀ next ∈ found, good next.1)
      fun _ after => fails after.device)
    (visits : ∀ item, good item →
      (visit item).Keeps (holds ·.disk.device) (fails ·.disk.device)) (walk : κ) :
    (forEach partition visit walk).Keeps (holds ·.disk.device) (fails ·.disk.device) := by
  induction walk using room_induction κ partition with
  | smaller walk ih =>
    rintro ⟨memory, disk⟩ known
    have sees := steps walk disk known
    unfold Ends
    cases stepped : step partition walk disk with
    | error error after =>
      rw [forEach_of_error stepped]
      exact sees.of_error stepped
    | ok found after =>
      obtain ⟨kept, fine⟩ := sees.of_ok stepped
      cases found with
      | none =>
        rw [forEach_of_end stepped]
        exact kept
      | some found =>
        rw [forEach_of_item stepped]
        have visited := visits found.1 (fine found rfl)
        exact visited.bind (fun _ => ih found.2 (step_room stepped)) _ kept

/-- The visits of a walk keep what its steps and all visits keep. -/
theorem keeps_forEach
    (steps : ∀ walk : κ,
      (step partition walk : DiskM Store _).Keeps (holds ·.device) (fails ·.device))
    (visits : ∀ item, (visit item).Keeps (holds ·.disk.device) (fails ·.disk.device)) (walk : κ) :
    (forEach partition visit walk).Keeps (holds ·.disk.device) (fails ·.disk.device) := by
  refine keeps_forEach_of_good (fun _ => True) (fun walk disk known => ?_)
    (fun item _ => visits item) walk
  exact (steps walk disk known).mono (fun _ _ kept => ⟨kept, fun _ _ => trivial⟩)
    fun _ _ kept => kept

end Walk

/-- Whether a property of a device does not depend on the number of calls, and implies the one that
failures leave. -/
structure Lasting (holds fails : Store → Prop) : Prop where
  /-- Calls without effects keep the property. -/
  asked : ∀ store requests, holds store → holds (store.advance requests [])
  /-- A failure leaves what is weaker. -/
  weaker : ∀ store, holds store → fails store

namespace Lasting

variable {partition : Partition} (lasting : Lasting holds fails)

include lasting

/-- A call without effects keeps what lasts. -/
theorem keeps_transfer (first count size : Nat) :
    (Store.transfer first count size none).Keeps holds fails := by
  intro store known
  have asked : holds (store.advance 1 []) := lasting.asked store 1 known
  by_cases outside : store.sectorCount < first + count
  · exact ends_of_error (if_pos outside) (lasting.weaker _ asked)
  · cases planned : store.plan store.calls with
    | none => exact ends_of_ok (by simp only [Store.transfer, if_neg outside, planned]; rfl) asked
    | some fault =>
      cases answered : fault.answer size with
      | ok moved =>
        exact ends_of_ok (by simp only [Store.transfer, if_neg outside, planned, answered]; rfl)
          asked
      | error error =>
        exact ends_of_error (by simp only [Store.transfer, if_neg outside, planned, answered]; rfl)
          (lasting.weaker _ asked)

/-- A read of blocks keeps what lasts, whatever it delivers. -/
theorem keeps_readBlocks (partition : Partition) (block count : Nat) :
    (DiskM.readBlocks partition block count).Keeps (holds ·.device) (fails ·.device) := by
  have weaker (disk : Disk Store) (known : holds disk.device) : fails disk.device :=
    lasting.weaker _ known
  have delivers (first sectors : Nat) : (DiskM.transfer block (BlockDevice.readSectors first
      sectors : Action Store Bytes)).Keeps (holds ·.device) (fails ·.device) := by
    intro disk known
    refine DiskM.ends_transfer (ends_get (Ends.andThen ?_ fun _ _ kept => ends_pure kept))
    exact lasting.keeps_transfer _ _ _ disk.device known
  refine (keeps_ofExcept weaker _).bind fun _ => ?_
  intro disk known
  refine ends_modify (Ends.andThen (delivers _ _ _ known) fun data after kept => ?_)
  split
  · exact ends_throw (lasting.weaker _ kept)
  · exact ends_pure kept

/-- Following a journal pointer keeps what lasts. -/
theorem keeps_readPointer (partition : Partition) (block : Address) :
    (DiskM.readPointer partition block).Keeps (holds ·.device) (fails ·.device) := by
  refine Keeps.bind ?_ fun _ => lasting.keeps_readBlocks partition block.toNat 1
  unfold DiskM.checkPointer
  split
  · exact keeps_throw (fun disk : Disk Store => lasting.weaker disk.device) _
  · exact keeps_pure ()

/-- A step along the transaction chain keeps what lasts. -/
theorem keeps_chainStep (partition : Partition) (walk : ChainWalk) :
    (walk.step partition : DiskM Store _).Keeps (holds ·.device) (fails ·.device) := by
  cases walk with
  | ended => exact keeps_pure none
  | walking next stop visited =>
    rw [ChainWalk.step]
    split
    · exact keeps_pure none
    · split
      · exact DiskM.keeps_refuse lasting.weaker _ _
      · refine (lasting.keeps_readPointer partition next).bind fun content => ?_
        split
        · exact (DiskM.keeps_emit _).bind fun _ => keeps_pure _
        · exact DiskM.keeps_refuse lasting.weaker _ _

/-- A step along log records keeps what lasts. -/
theorem keeps_recordStep (partition : Partition) (walk : RecordWalk) :
    (walk.step partition : DiskM Store _).Keeps (holds ·.device) (fails ·.device) := by
  have reads (next : Address) : (RecordWalk.readRecord partition next : DiskM Store _).Keeps
      (holds ·.device) (fails ·.device) := by
    refine (lasting.keeps_readPointer partition next).bind fun content => ?_
    split
    · exact keeps_pure _
    · exact keeps_throw (fun disk : Disk Store => lasting.weaker disk.device) _
  cases walk with
  | ended => exact keeps_pure none
  | walking address id next visited =>
    rw [RecordWalk.step]
    split
    · exact keeps_pure none
    · split
      · exact DiskM.keeps_refuse lasting.weaker _ _
      · exact (DiskM.keeps_orReport _ (reads next)).bind fun _ => keeps_pure _

/-- Collecting the pending transactions keeps what lasts. -/
theorem keeps_pending (partition : Partition) (journal : Journal) :
    (journal.pending partition).Keeps (holds ·.device) (fails ·.device) := by
  have pushes (item : Transaction) :
      (AttachedM.revise fun items => items.push item :
        AttachedM (Array Transaction) Store Unit).Keeps (holds ·.disk.device)
          (fails ·.disk.device) := fun _ known => known
  have visits := Walk.keeps_forEach (lasting.keeps_chainStep partition) pushes journal.chain
  exact ((DiskM.keeps_accumulate visits).bind fun _ => keeps_pure _).bind fun _ => keeps_pure _

/-- Examining a transaction keeps what lasts. -/
theorem keeps_examine (partition : Partition) (fixed : Bitmap) (transaction : Transaction)
    (usage : Usage) :
    (transaction.examine partition fixed usage).Keeps (holds ·.device) (fails ·.device) := by
  have changes (change : Usage → Except Error Usage) :
      (AttachedM.tryRevise change : AttachedM Usage Store Unit).Keeps (holds ·.disk.device)
        (fails ·.disk.device) := AttachedM.keeps_tryRevise lasting.weaker change
  refine DiskM.keeps_accumulate ((changes _).bind fun _ => ?_)
  have records := Walk.keeps_forEach (lasting.keeps_recordStep partition)
    (fun item => changes (Usage.addRecord fixed partition.length item.1 item.2))
    (RecordWalk.start transaction)
  exact records.bind fun _ => changes _

end Lasting

/-- Examining transactions up to the first bad one keeps what lasts. -/
theorem Lasting.keeps_examineAll {partition : Partition} (lasting : Lasting holds holds)
    (fixed : Bitmap) (transactions : List Transaction) (usage : Usage) :
    (Transaction.examineAll partition fixed transactions usage).Keeps (holds ·.device)
      (holds ·.device) := by
  induction transactions generalizing usage with
  | nil => exact keeps_pure _
  | cons transaction newer ih =>
    rw [Transaction.examineAll]
    have finds := DiskM.keeps_findDamage (lasting.keeps_examine partition fixed transaction usage)
    refine finds.bind fun found => ?_
    cases found with
    | ok usage => exact (ih usage).bind fun _ => keeps_pure _
    | error damage => exact keeps_pure _

/-- An inspection keeps what lasts, whatever it finds and however it ends. -/
theorem Lasting.keeps_check {partition : Partition} (lasting : Lasting holds holds)
    (fixed : Bitmap) (mode : CheckMode) (journal : Journal) :
    (journal.check partition fixed mode).Keeps (holds ·.device) (holds ·.device) := by
  have examines : (journal.examine partition fixed).Keeps (holds ·.device) (holds ·.device) := by
    refine (DiskM.keeps_findDamage (lasting.keeps_pending partition journal)).bind fun found => ?_
    cases found with
    | ok transactions => exact lasting.keeps_examineAll fixed transactions {}
    | error damage => exact keeps_pure _
  unfold Journal.check
  dsimp only
  split
  · exact keeps_pure _
  · refine (keeps_ofExcept (fun _ known => known) _).bind fun _ => examines.bind fun found => ?_
    obtain ⟨good, bad⟩ := found
    cases bad with
    | none => exact keeps_pure _
    | some fault =>
      refine (DiskM.keeps_emit _).bind fun _ => ?_
      dsimp only
      split
      · exact (DiskM.keeps_emit _).bind fun _ => keeps_pure _
      · exact keeps_pure _

end JournaledVolume
