import JournaledVolume.Proofs.ExactWalks
import JournaledVolume.Proofs.PackedJournal

/-!
# The block walk flattens the other walks

The walk over the blocks of transactions is one walk that does the work of three nested loops: over
the transactions, over the log records of each, and over the wandered blocks of each record. What it
passes is what these loops pass, one behind the other, up to the first loop that fails. A packed
journal follows it, and packs each of the blocks where it comes for the first time.
-/

namespace JournaledVolume

open JournaledVolume.Action

/-- The blocks of a log record: the record, and its wandered blocks in the order of its entries. -/
def recordBlocks (item : Address × LogRecord) : List (Address × BlockKind) :=
  (item.1, .logRecord) :: item.2.entries.map fun entry => (entry.wandered, .wandered)

/-- A transaction, with what the walk along its log records passes and how that walk fails, if it
does. -/
structure TxVisit where
  /-- The transaction. -/
  transaction : Transaction
  /-- The log records, in order. -/
  records : List (Address × LogRecord)
  /-- What is wrong behind them, if anything. -/
  failure : Option Defect

namespace TxVisit

/-- The blocks of a transaction: its header, and the blocks of each of its log records. -/
def blocks (visit : TxVisit) : List (Address × BlockKind) :=
  (visit.transaction.address, .txHeader) :: visit.records.flatMap recordBlocks

/-- The blocks of transactions, one behind the other, up to the first transaction whose log records
come to something that is wrong; and what is wrong there, or else what is wrong behind the last
transaction, if anything. -/
def flatten (failure : Option Defect) : List TxVisit → List (Address × BlockKind) × Option Defect
  | [] => ([], failure)
  | visit :: visits =>
    match visit.failure with
    | some defect => (visit.blocks, some defect)
    | none => ((visit.blocks ++ (flatten failure visits).1), (flatten failure visits).2)

end TxVisit

namespace BlockWalk

variable {partition : Partition} {image : Image} {disk : Disk Store}

/-- What is in sight of the next transaction. -/
def sightTransaction (partition : Partition) (image : Image) (transactions : ChainWalk) :
    Except Defect (Option ((Address × BlockKind) × BlockWalk)) :=
  (transactions.sight partition image).map fun found =>
    found.map fun (transaction, rest) =>
      ((transaction.address, .txHeader), walking rest (.start transaction) [])

/-- What is in sight of the next log record, or of the next transaction. -/
def sightRecord (partition : Partition) (image : Image) (transactions : ChainWalk)
    (records : RecordWalk) : Except Defect (Option ((Address × BlockKind) × BlockWalk)) :=
  match records.sight partition image with
  | .ok (some ((block, record), rest)) =>
    .ok (some ((block, .logRecord),
      walking transactions rest (record.entries.map WanderEntry.wandered)))
  | .ok none => sightTransaction partition image transactions
  | .error defect => .error defect

/-- What is in sight of the blocks of transactions. -/
def sight (partition : Partition) (image : Image) :
    BlockWalk → Except Defect (Option ((Address × BlockKind) × BlockWalk))
  | ended => .ok none
  | walking transactions records (block :: wandered) =>
    .ok (some ((block, .wandered), walking transactions records wandered))
  | walking transactions records [] => sightRecord partition image transactions records

/-- A step to the next transaction finds what is in sight, or fails with what is wrong. -/
theorem ends_exact_stepTransaction (transactions : ChainWalk)
    (shows : disk.Shows partition image) :
    Ends (stepTransaction partition transactions) disk
      (fun found after => sightTransaction partition image transactions = .ok found ∧
        after.Shows partition image)
      fun error after => ∃ defect, sightTransaction partition image transactions = .error defect ∧
        error = defect.toError ∧ after.Shows partition image := by
  apply Ends.bind (ChainWalk.ends_exact_step transactions shows)
  · intro found after seen
    cases found with
    | none => exact ends_pure ⟨by rw [sightTransaction, seen.1]; rfl, seen.2⟩
    | some next => exact ends_pure ⟨by rw [sightTransaction, seen.1]; rfl, seen.2⟩
  · rintro error after ⟨defect, wrong, refused⟩
    exact ⟨defect, by rw [sightTransaction, wrong]; rfl, refused⟩

/-- So does a step to the next log record or transaction. -/
theorem ends_exact_stepRecord (transactions : ChainWalk) (records : RecordWalk)
    (shows : disk.Shows partition image) :
    Ends (stepRecord partition transactions records) disk
      (fun found after => sightRecord partition image transactions records = .ok found ∧
        after.Shows partition image)
      fun error after => ∃ defect,
        sightRecord partition image transactions records = .error defect ∧
        error = defect.toError ∧ after.Shows partition image := by
  apply Ends.bind (RecordWalk.ends_exact_step records shows)
  · intro found after seen
    cases found with
    | none =>
      have same : sightRecord partition image transactions records =
          sightTransaction partition image transactions := by
        rw [sightRecord, seen.1]
      rw [same]
      exact ends_exact_stepTransaction transactions seen.2
    | some next => exact ends_pure ⟨by rw [sightRecord, seen.1], seen.2⟩
  · rintro error after ⟨defect, wrong, refused⟩
    exact ⟨defect, by rw [sightRecord, wrong], refused⟩

/-- A step to the next block finds what is in sight, or fails with what is wrong. -/
theorem ends_exact_step (walk : BlockWalk) (shows : disk.Shows partition image) :
    Ends (step partition walk) disk
      (fun found after => sight partition image walk = .ok found ∧ after.Shows partition image)
      fun error after => ∃ defect, sight partition image walk = .error defect ∧
        error = defect.toError ∧ after.Shows partition image := by
  cases walk with
  | ended => exact ends_pure ⟨rfl, shows⟩
  | walking transactions records wandered =>
    cases wandered with
    | nil => exact ends_exact_stepRecord transactions records shows
    | cons block wandered => exact ends_pure ⟨rfl, shows⟩

end BlockWalk

instance : Walk.Exact BlockWalk (Address × BlockKind) where
  sight := BlockWalk.sight
  sight_ended _ _ := rfl
  ends_step := BlockWalk.ends_exact_step

/-- The course of a walk depends on what is in sight only. -/
theorem Walk.Course.congr {κ α : Type} [Walk κ α] [Walk.Exact κ α] {partition : Partition}
    {image : Image} {walk other : κ} {items : List α} {failure : Option Defect}
    (course : Walk.Course partition image walk items failure)
    (same : Walk.sight partition image other = Walk.sight partition image walk) :
    Walk.Course partition image other items failure := by
  cases course with
  | finished seen => exact .finished (same.trans seen)
  | failed seen => exact .failed (same.trans seen)
  | step seen course => exact .step (same.trans seen) course

/-- The answers of a walk tell what it passes and how it fails. -/
theorem Walk.answers_injective {α : Type} {items others : List α} {failure other : Option Defect}
    (same : ∀ count, answers items failure count = answers others other count) :
    items = others ∧ failure.map Defect.toError = other.map Defect.toError := by
  induction items generalizing others with
  | nil =>
    have first := same 1
    cases others with
    | nil =>
      refine ⟨rfl, ?_⟩
      cases failure with
      | none =>
        cases other with
        | none => rfl
        | some found => simp [answers] at first
      | some defect =>
        cases other with
        | none => simp [answers] at first
        | some found => simpa [answers] using first
    | cons item others => cases failure <;> simp [answers] at first
  | cons item items ih =>
    have first := same 1
    cases others with
    | nil => cases other <;> simp [answers] at first
    | cons found others =>
      have behind (count : Nat) : item = found ∧
          answers items failure count = answers others other count := by
        have next := same (count + 1)
        rw [answers_cons, answers_cons] at next
        simpa only [List.cons.injEq, Except.ok.injEq, Option.some.injEq] using next
      obtain ⟨rest, fails⟩ := ih fun count => (behind count).2
      rw [(behind 0).1, rest]
      exact ⟨rfl, fails⟩

namespace BlockWalk

open Walk

variable {partition : Partition} {image : Image} {disk : Disk Store} {transactions : ChainWalk}
  {records : RecordWalk} {items : List (Address × BlockKind)} {failure : Option Defect}

/-- The wandered blocks of the record at hand come first. -/
theorem course_wandered (wandered : List Address)
    (course : Course partition image (walking transactions records []) items failure) :
    Course partition image (walking transactions records wandered)
      (wandered.map (fun block => (block, .wandered)) ++ items) failure := by
  induction wandered with
  | nil => exact course
  | cons block wandered ih => exact .step rfl ih

/-- A log record is followed by its wandered blocks. -/
theorem course_record {item : Address × LogRecord} {rest : RecordWalk}
    (seen : Walk.sight partition image records = .ok (some (item, rest)))
    (course : Course partition image (walking transactions rest []) items failure) :
    Course partition image (walking transactions records []) (recordBlocks item ++ items)
      failure := by
  have next : Walk.sight partition image (walking transactions records []) =
      .ok (some ((item.1, .logRecord),
        walking transactions rest (item.2.entries.map WanderEntry.wandered))) := by
    show sightRecord partition image transactions records = _
    rw [sightRecord, show records.sight partition image = _ from seen]
  have behind := course_wandered (item.2.entries.map WanderEntry.wandered) course
  rw [List.map_map] at behind
  exact .step next behind

/-- Where the log records of the transaction at hand end, the next transaction follows. -/
theorem course_over
    (seen : Walk.sight partition image records = .ok none)
    (course : Course partition image (walking transactions .ended []) items failure) :
    Course partition image (walking transactions records []) items failure := by
  apply course.congr
  show sightRecord partition image transactions records =
    sightRecord partition image transactions .ended
  rw [sightRecord, show records.sight partition image = _ from seen]
  rfl

/-- The blocks of the log records of the transaction at hand come before those of the next one. -/
theorem course_records {passed : List (Address × LogRecord)}
    (along : Course partition image records passed none)
    (course : Course partition image (walking transactions .ended []) items failure) :
    Course partition image (walking transactions records []) (passed.flatMap recordBlocks ++ items)
      failure := by
  generalize sound : (none : Option Defect) = fails at along
  induction along with
  | finished seen => exact course_over seen course
  | failed seen => exact nomatch sound
  | step seen _ ih =>
    rw [List.flatMap_cons, List.append_assoc]
    exact course_record seen (ih sound)

/-- Where the log records come to something that is wrong, nothing follows. -/
theorem course_records_failed {passed : List (Address × LogRecord)} {defect : Defect}
    (along : Course partition image records passed (some defect)) :
    Course partition image (walking transactions records []) (passed.flatMap recordBlocks)
      (some defect) := by
  generalize wrong : some defect = fails at along
  induction along with
  | finished seen => exact nomatch wrong
  | @failed records other seen =>
    refine .failed ?_
    show sightRecord partition image transactions records = _
    rw [sightRecord, show records.sight partition image = _ from seen]
  | step seen _ ih =>
    rw [List.flatMap_cons]
    exact course_record seen (ih wrong)

/-- The blocks of a transaction, with the log records that the walk along them passes, come before
those of the next transaction, or nothing follows. -/
theorem course_visit {rest : ChainWalk} {visits : List TxVisit} (visit : TxVisit)
    (seen : Walk.sight partition image transactions = .ok (some (visit.transaction, rest)))
    (along : Course partition image (RecordWalk.start visit.transaction) visit.records
      visit.failure)
    (course : Course partition image (walking rest .ended [])
      (TxVisit.flatten failure visits).1 (TxVisit.flatten failure visits).2) :
    Course partition image (walking transactions .ended [])
      (TxVisit.flatten failure (visit :: visits)).1
      (TxVisit.flatten failure (visit :: visits)).2 := by
  have header : Walk.sight partition image (walking transactions .ended []) =
      .ok (some ((visit.transaction.address, .txHeader),
        walking rest (.start visit.transaction) [])) := by
    show sightTransaction partition image transactions = _
    rw [sightTransaction, show transactions.sight partition image = _ from seen]
    rfl
  rw [TxVisit.flatten]
  cases fails : visit.failure with
  | none =>
    rw [fails] at along
    exact .step header (course_records along course)
  | some defect =>
    rw [fails] at along
    exact .step header (course_records_failed along)

/-- The course of the walk over the blocks flattens the courses of the other walks. -/
theorem exists_course_flatten {passed : List Transaction} (shows : disk.Shows partition image)
    (chain : Course partition image transactions passed failure) :
    ∃ visits : List TxVisit, visits.map TxVisit.transaction = passed ∧
      (∀ visit ∈ visits, Course partition image (RecordWalk.start visit.transaction)
        visit.records visit.failure) ∧
      Course partition image (walking transactions .ended [])
        (TxVisit.flatten failure visits).1 (TxVisit.flatten failure visits).2 := by
  induction chain with
  | @finished transactions seen =>
    refine ⟨[], rfl, nofun, .finished ?_⟩
    show sightTransaction partition image transactions = _
    rw [sightTransaction, show transactions.sight partition image = _ from seen]
    rfl
  | @failed transactions defect seen =>
    refine ⟨[], rfl, nofun, .failed ?_⟩
    show sightTransaction partition image transactions = _
    rw [sightTransaction, show transactions.sight partition image = _ from seen]
    rfl
  | @step transactions rest transaction passed failure seen _ ih =>
    obtain ⟨visits, same, each, course⟩ := ih
    obtain ⟨records, fails, along⟩ := exists_course shows (RecordWalk.start transaction)
    let visit : TxVisit := { transaction, records, failure := fails }
    refine ⟨visit :: visits, ?_, List.forall_mem_cons.2 ⟨along, each⟩, ?_⟩
    · rw [List.map_cons, same]
    · exact course_visit visit seen along course

end BlockWalk

namespace Journal

variable {partition : Partition} {image : Image} {disk : Disk Store} {packing : Packing}
  {items : List (Address × BlockKind)} {failure : Option Defect}

/-- On a disk that delivers every block, a block that may be named is packed, unless it was packed
before. -/
theorem ends_keep_shown (packing : Packing) (address : Address) (kind : BlockKind)
    (shows : disk.Shows partition image)
    (named : ∀ known ∈ packing.packed, Named partition known) :
    Ends (do
        if address ∉ (← AttachedM.memory).packed then
          let content ← AttachedM.onDisk (DiskM.readPointer partition address)
          AttachedM.revise fun packing =>
            { packing.add kind address content with packed := address :: packing.packed } :
        AttachedM Packing Store Unit) { memory := packing, disk }
      (fun _ after => after.memory = packing.keep image (address, kind) ∧
        Named partition address ∧ after.disk.Shows partition image)
      fun _ _ => ¬ Named partition address := by
  refine ends_get ?_
  dsimp only
  by_cases known : address ∈ packing.packed
  · rw [if_neg (not_not.2 known)]
    exact ends_pure ⟨by rw [Packing.keep, if_pos known], named address known, shows⟩
  · rw [if_pos known]
    apply AttachedM.ends_onDisk_andThen
    apply (DiskM.ends_readPointer_shown shows).mono
    · intro content after found
      have inside := Partition.named_of_follow found.1
      have held : image address.toNat = content := by
        have leads := found.1
        rw [Partition.follow, if_neg (Partition.not_outside.2 inside)] at leads
        exact Option.some.inj leads
      refine ⟨?_, inside, found.2⟩
      rw [Packing.keep, if_neg known, PackedBlock.visited, held]
      rfl
    · intro error after refused inside
      exact Partition.not_outside.2 inside refused.1

/-- A visit packs a block that may be named, unless it was packed before. -/
theorem ends_packBlock_shown (address : Address) (kind : BlockKind)
    (shows : disk.Shows partition image)
    (named : ∀ known ∈ packing.packed, Named partition known) :
    Ends (packBlock partition address kind) { memory := packing, disk }
      (fun _ after => after.memory = packing.visit image (address, kind) ∧
        Named partition address ∧ after.disk.Shows partition image)
      fun _ _ => ¬ Named partition address := by
  unfold packBlock Packing.visit Packing.count
  dsimp only
  split
  · have keeps := ends_keep_shown { packing with transactions := packing.transactions + 1 } address
      kind shows named
    exact keeps
  · exact ends_keep_shown packing address kind shows named

/-- The blocks that a walk passes are packed in order, if the walk does not fail and each of them
may be named. -/
theorem ends_forEach_packBlock_shown {walk : BlockWalk} (packing : Packing)
    (course : Walk.Course partition image walk items failure) (shows : disk.Shows partition image)
    (named : ∀ known ∈ packing.packed, Named partition known) :
    Ends (Walk.forEach partition (fun (address, kind) => packBlock partition address kind) walk)
      { memory := packing, disk }
      (fun _ after => (failure = none ∧ ∀ item ∈ items, Named partition item.1) ∧
        after.memory = items.foldl (Packing.visit image) packing)
      fun _ _ => ¬ (failure = none ∧ ∀ item ∈ items, Named partition item.1) := by
  induction course generalizing packing disk with
  | @finished walk seen =>
    obtain ⟨after, _, stepped⟩ := Walk.step_of_sight shows walk
    rw [seen] at stepped
    exact ends_of_ok (Walk.forEach_of_end stepped) ⟨⟨rfl, nofun⟩, rfl⟩
  | @failed walk defect seen =>
    obtain ⟨after, _, stepped⟩ := Walk.step_of_sight shows walk
    rw [seen] at stepped
    exact ends_of_error (Walk.forEach_of_error stepped) fun all => nomatch all.1
  | @step walk rest item items failure seen _ ih =>
    obtain ⟨between, still, stepped⟩ := Walk.step_of_sight shows walk
    rw [seen] at stepped
    unfold Ends
    rw [Walk.forEach_of_item stepped]
    apply Ends.bind (ends_packBlock_shown item.1 item.2 still named)
    · rintro _ ⟨_, after⟩ ⟨rfl, leads, shown⟩
      have known : ∀ known ∈ (packing.visit image item).packed, Named partition known := by
        intro known packed
        rw [Packing.mem_packed_visit] at packed
        cases packed with
        | inl same => exact same ▸ leads
        | inr before => exact named known before
      apply (ih _ shown known).mono
      · rintro _ last ⟨⟨passes, fine⟩, memory⟩
        exact ⟨⟨passes, List.forall_mem_cons.2 ⟨leads, fine⟩⟩, memory⟩
      · intro _ _ fails all
        exact fails ⟨all.1, (List.forall_mem_cons.1 all.2).2⟩
    · intro error after fails all
      exact fails (List.forall_mem_cons.1 all.2).1

/-- Packing a journal packs its pointers and the blocks that the block walk passes, if the walk does
not fail and each of them may be named. -/
theorem ends_pack_shown (journal : Journal)
    (course : Walk.Course partition image journal.blocks items failure)
    (shows : disk.Shows partition image) :
    Ends (journal.pack partition) { memory := {}, disk }
      (fun _ after => (failure = none ∧ ∀ item ∈ items, Named partition item.1) ∧
        after.memory = items.foldl (Packing.visit image) journal.packedPointers)
      fun _ _ => ¬ (failure = none ∧ ∀ item ∈ items, Named partition item.1) := by
  have visits := ends_forEach_packBlock_shown journal.packedPointers course shows nofun
  unfold pack AttachedM.revise
  exact ends_modify (visits.andThen fun _ _ packed => packed)

end Journal

section

variable {partition : Partition} {image : Image} {disk : Disk Store}

/-- On a disk that delivers every block, the walk over the blocks of transactions passes what the
walk along the transactions and the walks along their log records pass, from new to old: the header
of a transaction, and then each log record with its wandered blocks behind it. It stops where one of
these walks fails, and reports that once. A journal is packed just where the block walk does not
fail and each block may be named; its records are then those of its pointers, and one for each
block, in the order and of the kind of its first visit. -/
theorem block_walk_flattens (shows : disk.Shows partition image) (newest stop : Address) :
    ∃ visits failure,
      (∀ count, Walk.outcomes partition count { memory := ChainWalk.start newest stop, disk } =
        Walk.answers (visits.map TxVisit.transaction) failure count) ∧
      (∀ visit ∈ visits, ∀ count,
        Walk.outcomes partition count { memory := RecordWalk.start visit.transaction, disk } =
          Walk.answers visit.records visit.failure count) ∧
      let passed := TxVisit.flatten failure visits
      (∀ count, Walk.outcomes partition count { memory := BlockWalk.start newest stop, disk } =
        Walk.answers passed.1 passed.2 count) ∧
      ∀ journal : Journal, journal.header.lastCommitted = newest →
        journal.footer.lastFlushed = stop →
        ((∃ packed, journal.pack partition { memory := {}, disk } = .ok () packed) ↔
          passed.2 = none ∧ ∀ item ∈ passed.1, Journal.Named partition item.1) ∧
        ∀ packed, journal.pack partition { memory := {}, disk } = .ok () packed →
          packed.memory.records.toList = journal.packedHeader :: journal.packedFooter ::
            (firstVisits [] passed.1).map (.visited image) ∧
          packed.memory.stream = journal.packedStream image passed.1 := by
  obtain ⟨passed, failure, chain⟩ := Walk.exists_course shows (ChainWalk.start newest stop)
  obtain ⟨visits, rfl, each, course⟩ := BlockWalk.exists_course_flatten shows chain
  refine ⟨visits, failure, chain.outcomes_eq shows, ?_, ?_, ?_⟩
  · exact fun visit known => (each visit known).outcomes_eq shows
  · exact course.outcomes_eq shows
  · rintro journal rfl rfl
    have packs := Journal.ends_pack_shown journal course shows
    constructor
    · constructor
      · rintro ⟨packed, ran⟩
        exact (packs.of_ok ran).1
      · intro fine
        obtain ⟨_, packed, ran, _⟩ := packs.exists_ok fun _ _ fails => fails fine
        exact ⟨packed, ran⟩
    · intro packed ran
      have memory := (packs.of_ok ran).2
      rw [memory]
      constructor
      · rw [Packing.records_foldl_visit]
        rfl
      · rw [Journal.stream_foldl_visit]

end

/-- On the small volume the block walk passes the header of the transaction, its log record and the
wandered block, and the journal is packed. -/
theorem block_walk_flattens_sample : ∃ packed,
    Sample.journal.pack Sample.partition { memory := {}, disk := Sample.disk } = .ok () packed ∧
    packed.memory.records.toList = [Sample.journal.packedHeader, Sample.journal.packedFooter,
      .visited (Sample.disk.image Sample.partition) (3, .txHeader),
      .visited (Sample.disk.image Sample.partition) (4, .logRecord),
      .visited (Sample.disk.image Sample.partition) (5, .wandered)] := by
  let image := Sample.disk.image Sample.partition
  obtain ⟨visits, failure, _, _, answers, packs⟩ := block_walk_flattens Sample.disk_shows 3 0
  obtain ⟨decides, packed⟩ := packs Sample.journal rfl rfl
  have course : Walk.Course Sample.partition image (BlockWalk.start 3 0)
      [(3, .txHeader), (4, .logRecord), (5, .wandered)] none := by
    have header : BlockWalk.sight Sample.partition image (.start 3 0) = .ok (some ((3, .txHeader),
        .walking (.walking 0 0 [3]) (.start Sample.logged.transaction) [])) := by
      decide +kernel
    have record : BlockWalk.sight Sample.partition image
        (.walking (.walking 0 0 [3]) (.start Sample.logged.transaction) []) =
          .ok (some ((4, .logRecord), .walking (.walking 0 0 [3]) (.walking 3 7 3 [4]) [5])) := by
      decide +kernel
    exact .step header (.step record (.step rfl (.finished rfl)))
  obtain ⟨same, fails⟩ := Walk.answers_injective fun count =>
    (answers count).symm.trans (course.outcomes_eq Sample.disk_shows count)
  rw [Option.map_none, Option.map_eq_none_iff] at fails
  have named : ∀ item ∈ [((3 : Address), BlockKind.txHeader), (4, .logRecord), (5, .wandered)],
      Journal.Named Sample.partition item.1 := by decide
  obtain ⟨after, ran⟩ := decides.2 ⟨fails, same ▸ named⟩
  refine ⟨after, ran, ?_⟩
  rw [(packed after ran).1, same]
  rfl

end JournaledVolume
