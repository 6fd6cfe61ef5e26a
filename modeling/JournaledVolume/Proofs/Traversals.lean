import JournaledVolume.Journal.Archive
import JournaledVolume.Journal.Inspection
import JournaledVolume.Journal.Replay
import JournaledVolume.Proofs.BoundedWalks

/-!
# Traversals of the journal come to an end

Listing what a packed journal holds, checking the pending transactions and replaying them all walk
over the journal. Each of them comes to an end on every device, also on one that changes under it,
and a replay changes it itself. What each asks of the device at most is a number that is made of two
others: of the blocks that a journal pointer may lead to, and of the entries that a log record has
room for.
-/

namespace JournaledVolume

open JournaledVolume.Action Walk

namespace Partition

/-- The number of blocks that are asked for to find the pending transactions. -/
def pendingCost (partition : Partition) : Nat := partition.places + 1

/-- The number of blocks that are asked for or written to replay a transaction. -/
def replayTxCost (partition : Partition) : Nat := partition.places * (1 + partition.slots * 2) + 1

/-- The number of blocks that are asked for or written to replay a journal, with the two blocks of
the journal pointers. -/
def replayCost (partition : Partition) : Nat :=
  partition.pendingCost + (partition.places * partition.replayTxCost + 2)

/-- The number of blocks that are asked for to check a journal. -/
def checkCost (partition : Partition) : Nat :=
  partition.pendingCost + partition.places * (partition.places + 1)

/-- The number of blocks that are asked for to pack a journal. -/
def packCost (partition : Partition) : Nat := partition.blockLimit * (2 + 1) + 2

end Partition

variable {δ : Type} [BlockDevice δ] (partition : Partition)

namespace Journal

/-- The pending transactions are found block by block. There are fewer of them than blocks. -/
theorem costs_pending (journal : Journal) :
    (journal.pending partition : DiskM δ (List Transaction)).Costs Disk.traffic
      partition.pendingCost fun transactions => transactions.length ≤ partition.places := by
  have few : limit partition journal.chain ≤ partition.places := limit_le _
  have single : ask ChainWalk = 1 := rfl
  have collected : (collect partition journal.chain : DiskM δ (List Transaction)).Costs
      Disk.traffic partition.pendingCost fun newest => newest.length ≤ partition.places := by
    apply (costs_collect journal.chain).mono
    · rw [single, Nat.mul_one]
      exact Nat.succ_le_succ few
    · intro newest fewer
      exact Nat.le_trans fewer few
  apply collected.andThen
  intro newest fewer
  apply costs_pure
  rwa [List.length_reverse]

/-- Writing the journal pointers costs two blocks. -/
theorem costs_write (journal : Journal) :
    (journal.write partition : DiskM δ Unit).Costs Disk.traffic 2 fun _ => True := by
  have header := DiskM.costs_writeBlock (δ := δ) partition journal.area.header.toNat
    (journal.header.encode journal.blockSize)
  have footer := DiskM.costs_writeBlock (δ := δ) partition journal.area.footer.toNat
    (journal.footer.encode journal.blockSize)
  have pointers := header.bind fun _ _ => footer.bind fun _ _ => DiskM.costs_emit
    (.journalSynced journal.header.lastCommitted journal.footer.lastFlushed)
  unfold write
  apply (costs_ofExcept _).freeThen
  intro _ _
  by_cases other : partition.blockSize ≠ journal.blockSize
  · rw [if_pos other]
    exact costs_throw_bind _
  · rw [if_neg other]
    exact pointers.le (Nat.le_refl 2)

/-- So does a sync, at most. -/
theorem costs_sync (journal : Journal) :
    (journal.sync partition : DiskM δ Journal).Costs Disk.traffic 2 fun _ => True := by
  unfold sync
  by_cases dirty : journal.dirty
  · rw [if_pos dirty]
    exact (costs_write partition journal).andThen fun _ _ => costs_pure trivial
  · rw [if_neg dirty]
    exact costs_pure_le trivial

end Journal

namespace Transaction

variable (transaction : Transaction)

/-- A copy of a block reads one and writes one. -/
theorem costs_copyBlock (entry : WanderEntry) :
    (transaction.copyBlock partition entry : AttachedM Nat δ Unit).Costs Attached.traffic 2
      fun _ => True := by
  have reads := DiskM.costs_readBlocks (δ := δ) partition entry.wandered.toNat 1
  have moves := reads.bind fun content _ =>
    DiskM.costs_writeBlock partition entry.home.toNat content
  have copies := (DiskM.costs_checkPointer partition entry.wandered).freeThen fun _ _ =>
    (DiskM.costs_checkPointer partition entry.home).freeThen fun _ _ => moves
  apply (AttachedM.costs_onDisk copies).andThen
  intro _ _
  apply (AttachedM.costs_revise _).andThen
  intro _ _
  apply AttachedM.costs_memory.andThen
  intro _ _
  exact AttachedM.costs_onDisk (DiskM.costs_emit _)

/-- A replay of a transaction copies the blocks of as many entries as there are slots. -/
theorem costs_replay (copied : Nat) :
    (transaction.replay partition copied : DiskM δ Nat).Costs Disk.traffic
      partition.replayTxCost fun _ => True := by
  have few : limit partition (RecordWalk.start transaction) ≤ partition.places := limit_le _
  have entries (item : Address × LogRecord) (fits : fine RecordWalk partition item) :
      (item.2.entries.forM (transaction.copyBlock partition) : AttachedM Nat δ Unit).Costs
        Attached.traffic (partition.slots * 2) fun _ => True := by
    apply (costs_forM fun entry _ => costs_copyBlock partition transaction entry).le
    exact Nat.mul_le_mul_right 2 fits
  apply DiskM.costs_accumulate
  apply (costs_forEach_traffic entries (RecordWalk.start transaction)).le
  exact Nat.succ_le_succ (Nat.mul_le_mul_right _ few)

/-- The examination of a transaction costs its log records. -/
theorem costs_examine (fixed : Bitmap) (usage : Usage) :
    (transaction.examine partition fixed usage : DiskM δ Usage).Costs Disk.traffic
      (partition.places + 1) fun _ => True := by
  have few : limit partition (RecordWalk.start transaction) ≤ partition.places := limit_le _
  have records : (forEach partition (fun item =>
      AttachedM.tryRevise (Usage.addRecord fixed partition.length item.1 item.2))
      (RecordWalk.start transaction) : AttachedM Usage δ Unit).Costs Attached.traffic
        (partition.places + 1) fun _ => True := by
    apply (costs_forEach_traffic (fun _ _ => AttachedM.costs_tryRevise _) _).le
    exact Nat.succ_le_succ (Nat.le_trans (Nat.le_of_eq (Nat.mul_one _)) few)
  apply DiskM.costs_accumulate
  apply (AttachedM.costs_tryRevise _).freeThen
  intro _ _
  exact records.andThen fun _ _ => AttachedM.costs_tryRevise _

/-- The examination of transactions costs that of each. -/
theorem costs_examineAll (fixed : Bitmap) (transactions : List Transaction) (usage : Usage) :
    (examineAll partition fixed transactions usage :
      DiskM δ (List Transaction × Option BadTransaction)).Costs Disk.traffic
        (transactions.length * (partition.places + 1)) fun _ => True := by
  induction transactions generalizing usage with
  | nil => exact costs_pure_le trivial
  | cons transaction newer ih =>
    have first := DiskM.costs_findDamage (costs_examine (δ := δ) partition transaction fixed usage)
    rw [List.length_cons, Nat.succ_mul, Nat.add_comm]
    apply first.bind
    intro found _
    cases found with
    | error damage => exact costs_pure_le trivial
    | ok after => exact (ih after).andThen fun _ _ => costs_pure trivial

end Transaction

namespace Journal

variable (journal : Journal)

/-- A replay finds the pending transactions, copies the blocks of each, and writes the journal
pointers. -/
theorem costs_replay :
    (journal.replay partition : DiskM δ (ReplayReport × Journal)).Costs Disk.traffic
      partition.replayCost fun _ => True := by
  apply (costs_pending partition journal).bind
  intro transactions few
  have copies := costs_foldlM 0 transactions fun copied transaction =>
    DiskM.costs_orReport (.replayFailed transaction.header.id transaction.address)
      (Transaction.costs_replay (δ := δ) partition transaction copied)
  apply (copies.le (Nat.mul_le_mul_right _ few)).bind
  intro blocks _
  apply (costs_sync partition _).andThen
  intro replayed _
  exact DiskM.costs_flush.andThen fun _ _ => costs_pure trivial

/-- A check finds the pending transactions, and examines each. -/
theorem costs_examine (fixed : Bitmap) :
    (journal.examine partition fixed : DiskM δ (List Transaction × Option BadTransaction)).Costs
      Disk.traffic partition.checkCost fun _ => True := by
  apply (DiskM.costs_findDamage (costs_pending partition journal)).bind
  intro found few
  cases found with
  | error damage => exact costs_pure_le trivial
  | ok transactions =>
    apply (Transaction.costs_examineAll partition fixed transactions {}).le
    exact Nat.mul_le_mul_right _ (few transactions rfl)

/-- A check costs the examination of the pending transactions, in every mode. -/
theorem costs_check (fixed : Bitmap) (mode : CheckMode) :
    (journal.check partition fixed mode : DiskM δ (Inspection × Journal)).Costs Disk.traffic
      partition.checkCost fun _ => True := by
  unfold check
  by_cases empty : journal.isEmpty
  · simp only [empty, if_true]
    exact costs_pure_le trivial
  · simp only [empty, Bool.false_eq_true, if_false]
    apply (costs_ofExcept _).freeThen
    intro _ _
    apply (costs_examine partition journal fixed).andThen
    intro found _
    obtain ⟨good, bad⟩ := found
    cases bad with
    | none => exact costs_pure trivial
    | some fault =>
      apply (DiskM.costs_emit _).andThen
      intro _ _
      by_cases repairs : mode.repairs
      · simp only [repairs, if_true]
        exact (DiskM.costs_emit _).andThen fun _ _ => costs_pure trivial
      · simp only [repairs, Bool.false_eq_true, if_false]
        exact costs_pure trivial

/-- Packing a block costs one, if it was not packed before. -/
theorem costs_packBlock (address : Address) (kind : BlockKind) :
    (packBlock partition address kind : AttachedM Packing δ Unit).Costs Attached.traffic 1
      fun _ => True := by
  have keeps : (do
      if address ∉ (← AttachedM.memory).packed then
        let content ← AttachedM.onDisk (DiskM.readPointer partition address)
        AttachedM.revise fun packing =>
          { packing.add kind address content with packed := address :: packing.packed } :
      AttachedM Packing δ Unit).Costs Attached.traffic 1 fun _ => True := by
    apply AttachedM.costs_memory.freeThen
    intro packing _
    by_cases new : address ∉ packing.packed
    · rw [if_pos new]
      apply (AttachedM.costs_onDisk (DiskM.costs_readPointer partition address)).andThen
      exact fun _ _ => AttachedM.costs_revise _
    · rw [if_neg new]
      exact costs_pure_le trivial
  unfold packBlock
  by_cases header : kind = .txHeader
  · rw [if_pos header]
    exact (AttachedM.costs_revise _).freeThen fun _ _ => keeps
  · rw [if_neg header]
    exact keeps

/-- Packing a journal costs what finding and reading its blocks costs. -/
theorem costs_pack :
    (journal.pack partition : AttachedM Packing δ Unit).Costs Attached.traffic
      partition.packCost fun _ => True := by
  have few : limit partition journal.blocks ≤ partition.blockLimit :=
    BlockWalk.limit_start_le partition _ _
  have packs (item : Address × BlockKind) (_ : fine BlockWalk partition item) :
      (packBlock partition item.1 item.2 : AttachedM Packing δ Unit).Costs Attached.traffic 1
        fun _ => True := costs_packBlock partition item.1 item.2
  have blocks := costs_forEach_traffic packs journal.blocks
  have fits : limit partition journal.blocks * (ask BlockWalk + 1) + ask BlockWalk ≤
      partition.packCost := Nat.add_le_add_right (Nat.mul_le_mul_right 3 few) 2
  apply (AttachedM.costs_revise _).freeThen
  intro _ _
  apply (blocks.le fits).andThen
  intro _ _
  apply AttachedM.costs_memory.andThen
  intro _ _
  exact AttachedM.costs_onDisk (DiskM.costs_emit _)

end Journal

namespace Walk

variable {κ α : Type} [Walk κ α]

/-- Whether a walk that is advanced again and again passes so many items at most, of which something
is known, fails once at most and stays ended, whatever others do to the disk before each call. -/
def StopsWithin (δ : Type) [BlockDevice δ] (partition : Partition) (walk : κ) (bound : Nat)
    (known : List α → Prop) : Prop :=
  ∀ (changes : List (Disk δ → Disk δ)) (disk : Disk δ), ∃ items failure,
    items.length ≤ bound ∧ known items ∧
      outcomesAmid partition changes { memory := walk, disk } =
        replies items failure changes.length

/-- Whether visits along a walk take so many steps at most and one that finds the end, whatever the
visits do to the disk: what a loop would do behind these steps makes no difference. -/
def LoopsWithin (δ : Type) [BlockDevice δ] (partition : Partition) (walk : κ) (bound : Nat) :
    Prop :=
  ∀ {σ : Type} (visit : α → AttachedM σ δ Unit) (giveUp : AttachedM σ δ Unit),
    forEach partition visit walk = forEachWithin partition visit giveUp (bound + 1) walk

/-- Whether items lie at different places, each of which a journal pointer may lead to. -/
def Distinct (partition : Partition) (place : α → Address) (items : List α) : Prop :=
  (items.map place).Nodup ∧ ∀ item ∈ items, (place item).toNat ∈ Finset.Ico 1 partition.length

variable {partition}

/-- Visits take no more steps than the limit of the walk. -/
theorem loopsWithin_of_limit [Limited κ α] {walk : κ} {bound : Nat}
    (fits : limit partition walk ≤ bound) : LoopsWithin δ partition walk bound :=
  fun visit giveUp => forEach_eq_within visit giveUp (Nat.lt_succ_of_le fits)

/-- A walk that goes to a new block with each step stops when there is none. -/
theorem stopsWithin_places [Roaming κ α] (walk : κ) :
    StopsWithin δ partition walk partition.places (Distinct partition (place κ)) := by
  intro changes disk
  obtain ⟨items, failure, few, distinct, known, same⟩ :=
    exists_replies_roaming partition changes walk disk
  exact ⟨items, failure, few, ⟨distinct, fun item among => (known item among).1⟩, same⟩

/-- A limited walk stops at its limit. -/
theorem stopsWithin_of_limit [Limited κ α] {walk : κ} {bound : Nat}
    (fits : limit partition walk ≤ bound) :
    StopsWithin δ partition walk bound fun _ => True := by
  intro changes disk
  obtain ⟨items, failure, few, same⟩ :=
    exists_replies_limited partition changes walk disk
  exact ⟨items, failure, Nat.le_trans few fits, trivial, same⟩

end Walk

/-- Every traversal of a journal comes to an end, whatever the device holds, in whatever way it
fails, and also when it is changed under way. A walk along the transactions or along log records
passes fewer items than there are blocks, none twice; a walk over the blocks of transactions passes
no more than these can have. Loops over them stop as early, whatever they do to the disk, so
that packing, checking and replaying a journal make a number of requests that depends on the length
of the partition and the size of its blocks only. -/
theorem traversals_bounded :
    (∀ walk : ChainWalk,
      StopsWithin δ partition walk partition.places (Distinct partition Transaction.address) ∧
      LoopsWithin δ partition walk partition.places) ∧
    (∀ walk : RecordWalk,
      StopsWithin δ partition walk partition.places (Distinct partition Prod.fst) ∧
      LoopsWithin δ partition walk partition.places) ∧
    (∀ newest stop : Address,
      StopsWithin δ partition (BlockWalk.start newest stop) partition.blockLimit
        (fun _ => True) ∧
      LoopsWithin δ partition (BlockWalk.start newest stop) partition.blockLimit) ∧
    ∀ journal : Journal,
      (journal.pack partition : AttachedM Packing δ Unit).Costs Attached.traffic
        partition.packCost (fun _ => True) ∧
      (∀ (fixed : Bitmap) (mode : CheckMode),
        (journal.check partition fixed mode : DiskM δ (Inspection × Journal)).Costs Disk.traffic
          partition.checkCost fun _ => True) ∧
      (journal.replay partition : DiskM δ (ReplayReport × Journal)).Costs Disk.traffic
        partition.replayCost fun _ => True := by
  refine ⟨fun walk => ⟨stopsWithin_places walk, loopsWithin_of_limit (limit_le walk)⟩,
    fun walk => ⟨stopsWithin_places walk, loopsWithin_of_limit (limit_le walk)⟩, ?_, ?_⟩
  · intro newest stop
    have fits : limit partition (BlockWalk.start newest stop) ≤ partition.blockLimit :=
      BlockWalk.limit_start_le partition newest stop
    exact ⟨stopsWithin_of_limit fits, loopsWithin_of_limit fits⟩
  · intro journal
    exact ⟨journal.costs_pack partition, journal.costs_check partition,
      journal.costs_replay partition⟩

end JournaledVolume
