import JournaledVolume.Journal.Inspection
import JournaledVolume.Proofs.Chain

/-!
# Pending transactions and their order

`Logged` is a transaction with its log records. `Journal.Pends` says which transactions wait behind
a journal handle, and `InOrder` when a replay of them can be trusted: the blocks of the journal are
off the fixed metadata and used for one purpose each, and no transaction overwrites any of them.
-/

namespace JournaledVolume

/-- A transaction with its log records. -/
structure Logged where
  /-- The transaction. -/
  transaction : Transaction
  /-- Its log records, with their addresses. -/
  records : List (Address × LogRecord)
deriving DecidableEq, Repr

namespace Logged

/-- The entries of the log, in order. -/
def entries (logged : Logged) : List WanderEntry :=
  logged.records.flatMap fun record => record.2.entries

/-- The blocks that a replay overwrites. -/
def homes (logged : Logged) : List Address := logged.entries.map WanderEntry.home

/-- The blocks of the journal that the transaction occupies: its header, and each log record with
the wandered blocks that it names. -/
def blocks (logged : Logged) : List Address :=
  logged.transaction.address ::
    logged.records.flatMap fun record => record.1 :: record.2.entries.map WanderEntry.wandered

/-- Whether the records are those that the header of the transaction leads to. -/
def Read (partition : Partition) (image : Image) (logged : Logged) : Prop :=
  RecordChain (partition.recordAt image) logged.transaction.address
    logged.transaction.header.firstRecord logged.records

variable {logged : Logged} {block : Address}

/-- What the blocks of a transaction are. -/
theorem mem_blocks : block ∈ logged.blocks ↔ block = logged.transaction.address ∨
    ∃ record ∈ logged.records, block = record.1 ∨
      ∃ entry ∈ record.2.entries, entry.wandered = block := by
  simp only [blocks, List.mem_cons, List.mem_flatMap, List.mem_map]

/-- The wandered block of an entry is a block of the transaction. -/
theorem wandered_mem_blocks {entry : WanderEntry} (known : entry ∈ logged.entries) :
    entry.wandered ∈ logged.blocks := by
  obtain ⟨record, listed, held⟩ := List.mem_flatMap.1 known
  exact mem_blocks.2 (.inr ⟨record, listed, .inr ⟨entry, held, rfl⟩⟩)

/-- A log record is a block of the transaction. -/
theorem record_mem_blocks {record : Address × LogRecord} (known : record ∈ logged.records) :
    record.1 ∈ logged.blocks :=
  mem_blocks.2 (.inr ⟨record, known, .inl rfl⟩)

/-- The header of the transaction is one of its blocks. -/
theorem address_mem_blocks : logged.transaction.address ∈ logged.blocks := List.mem_cons_self

/-- The home of an entry is a home block. -/
theorem home_mem_homes {all : List Logged} {entry : WanderEntry}
    (listed : entry ∈ all.flatMap entries) : entry.home ∈ all.flatMap homes := by
  obtain ⟨logged, member, held⟩ := List.mem_flatMap.1 listed
  exact List.mem_flatMap.2 ⟨logged, member, List.mem_map_of_mem held⟩

/-- The records depend on the blocks of the transaction only. -/
theorem Read.congr {partition : Partition} {image other : Image}
    (read : logged.Read partition image)
    (same : ∀ block ∈ logged.blocks, image block.toNat = other block.toNat) :
    logged.Read partition other := by
  apply RecordChain.congr read
  intro record known
  rw [Partition.recordAt, Partition.recordAt,
    Partition.follow_congr (same _ (record_mem_blocks known))]

/-- What the blocks hold decides the records of a transaction. -/
theorem Read.unique {partition : Partition} {image : Image} {other : Logged}
    (left : logged.Read partition image) (right : other.Read partition image)
    (same : logged.transaction = other.transaction) : logged = other := by
  obtain ⟨transaction, records⟩ := logged
  obtain ⟨_, others⟩ := other
  obtain rfl : transaction = _ := same
  exact congrArg _ (RecordWalk.chain_unique left right)

/-- What the blocks hold decides the records of all transactions. -/
theorem unique_of_read {partition : Partition} {image : Image} {all others : List Logged}
    (left : ∀ logged ∈ all, logged.Read partition image)
    (right : ∀ logged ∈ others, logged.Read partition image)
    (same : all.map transaction = others.map transaction) : all = others := by
  induction all generalizing others with
  | nil => exact (List.map_eq_nil_iff.1 same.symm).symm
  | cons first all ih =>
    cases others with
    | nil => exact nomatch same
    | cons other others =>
      rw [List.map_cons, List.map_cons, List.cons_eq_cons] at same
      rw [List.forall_mem_cons] at left right
      have heads : first = other := left.1.unique right.1 same.1
      have tails : all = others := ih left.2 right.2 same.2
      rw [heads, tails]

end Logged

/-- Whether transactions, from old to new, can be replayed in this order: what the journal occupies
is clear of the fixed metadata and occupied once, and nothing of it is overwritten. -/
structure InOrder (fixed : Bitmap) (length : Nat) (logged : List Logged) : Prop where
  /-- No block has two uses. -/
  once : (logged.flatMap Logged.blocks).Nodup
  /-- The blocks are not block zero and lie in the partition. -/
  named : ∀ block ∈ logged.flatMap Logged.blocks, block ≠ 0 ∧ block.toNat < length
  /-- The blocks lie off the fixed metadata. -/
  free : ∀ block ∈ logged.flatMap Logged.blocks, fixed.test block.toNat = false
  /-- The home blocks are not block zero and lie in the partition. -/
  homes_named : ∀ home ∈ logged.flatMap Logged.homes, home ≠ 0 ∧ home.toNat < length
  /-- No transaction has two entries for one home block. -/
  homes_once : ∀ transaction ∈ logged, transaction.homes.Nodup
  /-- No home block is a block that the journal occupies. -/
  apart : ∀ home ∈ logged.flatMap Logged.homes, home ∉ logged.flatMap Logged.blocks

/-- Transactions in order are so without the newest. -/
theorem InOrder.of_append {fixed : Bitmap} {length : Nat} {older newer : List Logged}
    (ordered : InOrder fixed length (older ++ newer)) : InOrder fixed length older := by
  obtain ⟨once, named, free, homes_named, homes_once, apart⟩ := ordered
  simp only [List.flatMap_append, List.forall_mem_append]
    at once named free homes_named homes_once apart
  refine ⟨once.sublist (List.sublist_append_left _ _), named.1, free.1, homes_named.1,
    homes_once.1, ?_⟩
  exact fun home known listed => apart.1 home known (List.mem_append_left _ listed)

/-- Whether transactions, from old to new, can be replayed: their logs can be read, and they are in
order. -/
def Trusted (partition : Partition) (fixed : Bitmap) (image : Image)
    (transactions : List Transaction) : Prop :=
  ∃ logged : List Logged, logged.map Logged.transaction = transactions ∧
    (∀ transaction ∈ logged, transaction.Read partition image) ∧
    InOrder fixed partition.length logged

namespace Trusted

variable {partition : Partition} {fixed : Bitmap} {image : Image} {older newer : List Transaction}

/-- Transactions that can be trusted can be so without the newest. -/
theorem of_append (trusted : Trusted partition fixed image (older ++ newer)) :
    Trusted partition fixed image older := by
  obtain ⟨logged, listed, read, ordered⟩ := trusted
  obtain ⟨first, second, rfl, rfl, _⟩ := List.map_eq_append_iff.1 listed
  exact ⟨first, rfl, fun transaction known => read transaction (List.mem_append_left _ known),
    ordered.of_append⟩

/-- What it takes to trust one more transaction. -/
theorem append_singleton {logged : List Logged} {next : Transaction}
    (read : ∀ transaction ∈ logged, transaction.Read partition image) :
    Trusted partition fixed image (logged.map Logged.transaction ++ [next]) ↔
      ∃ last : Logged, last.transaction = next ∧ last.Read partition image ∧
        InOrder fixed partition.length (logged ++ [last]) := by
  constructor
  · rintro ⟨others, listed, known, ordered⟩
    obtain ⟨first, second, rfl, same, single⟩ := List.map_eq_append_iff.1 listed
    obtain ⟨last, rfl, rfl⟩ := List.map_eq_singleton_iff.1 single
    rw [List.forall_mem_append, List.forall_mem_singleton] at known
    obtain rfl := Logged.unique_of_read known.1 read same
    exact ⟨last, rfl, known.2, ordered⟩
  · rintro ⟨last, rfl, known, ordered⟩
    have listed : (logged ++ [last]).map Logged.transaction =
        logged.map Logged.transaction ++ [last.transaction] := List.map_append
    have all : ∀ transaction ∈ logged ++ [last], transaction.Read partition image :=
      List.forall_mem_append.2 ⟨read, List.forall_mem_singleton.2 known⟩
    exact ⟨logged ++ [last], listed, all, ordered⟩

end Trusted

/-- The pointers of a pending journal differ. -/
theorem Journal.differs_of_pending {journal : Journal} (pending : journal.state = .pending) :
    journal.header.lastCommitted ≠ journal.footer.lastFlushed := by
  intro same
  rw [Journal.state, if_pos same] at pending
  exact nomatch pending

/-- Whether transactions, from old to new, wait behind a journal handle: they are those from the
newest committed one down to the newest replayed one. -/
def Journal.Waits (partition : Partition) (image : Image) (journal : Journal)
    (transactions : List Transaction) : Prop :=
  TxChain (partition.txHeaderAt image) journal.footer.lastFlushed journal.header.lastCommitted
    transactions.reverse

/-- What the blocks hold decides which transactions wait. -/
theorem Journal.Waits.unique {partition : Partition} {image : Image} {journal : Journal}
    {transactions others : List Transaction} (left : journal.Waits partition image transactions)
    (right : journal.Waits partition image others) : transactions = others :=
  List.reverse_inj.1 (ChainWalk.chain_unique left right)

/-- Whether transactions with their log records, from old to new, are the pending ones of a
journal. -/
structure Journal.Pends (partition : Partition) (image : Image) (journal : Journal)
    (logged : List Logged) : Prop where
  /-- They wait. -/
  chain : journal.Waits partition image (logged.map Logged.transaction)
  /-- Their records are those that their headers lead to. -/
  records : ∀ transaction ∈ logged, transaction.Read partition image

namespace Journal.Pends

variable {partition : Partition} {image other : Image} {journal : Journal}
  {logged others : List Logged}

/-- The pending transactions depend on the blocks that the journal occupies only. -/
theorem congr (pends : journal.Pends partition image logged)
    (same : ∀ block ∈ logged.flatMap Logged.blocks, image block.toNat = other block.toNat) :
    journal.Pends partition other logged := by
  have known {transaction : Logged} (listed : transaction ∈ logged) (block : Address)
      (member : block ∈ transaction.blocks) : image block.toNat = other block.toNat :=
    same block (List.mem_flatMap.2 ⟨transaction, listed, member⟩)
  refine ⟨TxChain.congr pends.chain ?_, fun transaction listed => ?_⟩
  · intro transaction listed
    obtain ⟨logged, isLogged, rfl⟩ := List.mem_map.1 (List.mem_reverse.1 listed)
    rw [Partition.txHeaderAt, Partition.txHeaderAt,
      Partition.follow_congr (known isLogged _ Logged.address_mem_blocks)]
  · exact (pends.records transaction listed).congr (known listed)

/-- What the blocks hold decides the pending transactions. -/
theorem unique (left : journal.Pends partition image logged)
    (right : journal.Pends partition image others) : logged = others :=
  Logged.unique_of_read left.records right.records (left.chain.unique right.chain)

/-- A pending journal has a pending transaction. -/
theorem exists_newest (pends : journal.Pends partition image logged)
    (pending : journal.state = .pending) : ∃ older newest, logged = older ++ [newest] := by
  obtain ⟨first, rest, spelled, _⟩ :=
    TxChain.exists_newest pends.chain (differs_of_pending pending)
  rcases List.eq_nil_or_concat logged with rfl | ⟨older, newest, rfl⟩
  · exact nomatch spelled
  · exact ⟨older, newest, List.concat_eq_append⟩

/-- The newest pending transaction is the newest committed one. -/
theorem newest_address {older : List Logged} {newest : Logged}
    (pends : journal.Pends partition image (older ++ [newest]))
    (pending : journal.state = .pending) :
    newest.transaction.address = journal.header.lastCommitted := by
  obtain ⟨first, rest, spelled, address⟩ :=
    TxChain.exists_newest pends.chain (differs_of_pending pending)
  rw [List.map_append, List.reverse_append] at spelled
  obtain ⟨rfl, _⟩ := List.cons_eq_cons.1 spelled
  exact address

end Journal.Pends

/-! A small volume, on which one transaction waits to bring one block home. -/

namespace Sample

/-- The partition is the whole of a device with eight blocks. -/
def partition : Partition := { blockSize := 512, sectorSize := 512, offset := 0, size := 4096 }

/-- The journal pointers lie behind the first block. -/
def area : JournalArea := { header := 1, footer := 2 }

/-- The fixed metadata are the first three blocks. -/
def fixed : Bitmap := { total := 8, marked := 3, bits := ⟨#[7]⟩ }

/-- The log record names the block that waits and its home. -/
def record : LogRecord := { id := 7, total := 1, next := 3, entries := [⟨6, 5⟩] }

/-- The transaction that waits. -/
def logged : Logged where
  transaction := { address := 3, header := { id := 7, total := 3, firstRecord := 4 } }
  records := [(4, record)]

/-- The handle of the journal. -/
def journal : Journal where
  area
  blockSize := 512
  header := { lastCommitted := 3 }
  footer := {}
  dirty := false

/-- The device held zeros before the blocks of the journal were written. -/
def disk : Disk Store where
  device :=
    { shape := { sectorSize := 512, blockSize := 512, totalBlocks := 8 }
      start := fun _ => 0
      effects :=
        [partition.blockWrite 1 (journal.header.encode 512),
          partition.blockWrite 3 (logged.transaction.header.encode 512),
          partition.blockWrite 4 (record.encode 512),
          partition.blockWrite 5 (List.replicate 512 42)] }

/-- The partition lies on the device. -/
theorem lies : partition.LiesOn disk.device.shape :=
  ⟨⟨by decide, by decide⟩, rfl, rfl, by decide⟩

/-- The device serves every request. -/
theorem serves : disk.device.Serves := ⟨⟨fun _ _ => rfl⟩, rfl⟩

/-- The header of the transaction is on disk. -/
theorem txHeaderAt_eq :
    partition.txHeaderAt (disk.image partition) 3 = some logged.transaction.header := by
  decide +kernel

/-- So is its log record. -/
theorem recordAt_eq : partition.recordAt (disk.image partition) 4 = some record := by
  decide +kernel

/-- The transaction is the pending one. -/
theorem pends : journal.Pends partition (disk.image partition) [logged] := by
  refine ⟨.link (by decide) txHeaderAt_eq List.not_mem_nil .stop, List.forall_mem_singleton.2 ?_⟩
  exact .link (by decide) recordAt_eq (by decide) List.not_mem_nil .back

/-- The journal occupies three blocks. -/
theorem blocks_eq : [logged].flatMap Logged.blocks = [3, 4, 5] := rfl

/-- One block is a home block. -/
theorem homes_eq : [logged].flatMap Logged.homes = [6] := rfl

/-- The blocks are in order. -/
theorem ordered : InOrder fixed partition.length [logged] := by
  constructor
  · rw [blocks_eq]
    decide
  · rw [blocks_eq]
    exact List.forall_mem_cons.2 ⟨by decide, List.forall_mem_cons.2
      ⟨by decide, List.forall_mem_singleton.2 (by decide)⟩⟩
  · rw [blocks_eq]
    exact List.forall_mem_cons.2 ⟨by decide, List.forall_mem_cons.2
      ⟨by decide, List.forall_mem_singleton.2 (by decide)⟩⟩
  · rw [homes_eq]
    exact List.forall_mem_singleton.2 (by decide)
  · exact List.forall_mem_singleton.2 (by decide)
  · rw [homes_eq, blocks_eq]
    exact List.forall_mem_singleton.2 (by decide)

end Sample

/-! A volume on which two transactions wait that have a home block in common. -/

namespace Sample.Twice

/-- The partition is the whole of a device with sixteen blocks. -/
def partition : Partition := { blockSize := 512, sectorSize := 512, offset := 0, size := 8192 }

/-- The fixed metadata are the first three blocks. -/
def fixed : Bitmap := { total := 16, marked := 3, bits := ⟨#[7, 0]⟩ }

/-- The newer log record names the home block of the older one, and one more. -/
def record : LogRecord := { id := 8, total := 1, next := 7, entries := [⟨6, 9⟩, ⟨10, 11⟩] }

/-- The newer transaction. The older one is that of the small volume. -/
def newer : Logged where
  transaction :=
    { address := 7
      header :=
        { id := 8
          total := 4
          previous := 3
          firstRecord := 8
          counters := { freeBlocks := 5, usedObjectIds := 2, nextObjectId := 4 } } }
  records := [(8, record)]

/-- The handle of the journal. -/
def journal : Journal := { Sample.journal with header.lastCommitted := 7 }

/-- What was written to the blocks of the journal: the older transaction, the newer one, and the
header. -/
def writes : List (Nat × Bytes) :=
  [(3, logged.transaction.header.encode 512),
    (4, Sample.record.encode 512),
    (5, List.replicate 512 42),
    (7, newer.transaction.header.encode 512),
    (8, record.encode 512),
    (9, List.replicate 512 43),
    (11, List.replicate 512 44),
    (1, journal.header.encode 512)]

/-- The device held zeros before the blocks of the journal were written. -/
def disk : Disk Store where
  device :=
    { shape := { sectorSize := 512, blockSize := 512, totalBlocks := 16 }
      start := fun _ => 0
      effects := writes.map fun write => partition.blockWrite write.1 write.2 }

/-- The partition lies on the device. -/
theorem lies : partition.LiesOn disk.device.shape :=
  ⟨⟨by decide, by decide⟩, rfl, rfl, by decide⟩

/-- The device serves every request. -/
theorem serves : disk.device.Serves := ⟨⟨fun _ _ => rfl⟩, rfl⟩

/-- A block holds what was written to it, or zeros. -/
theorem image_eq : disk.image partition =
    writes.foldl (fun image write => Function.update image write.1 write.2)
      fun _ => List.replicate 512 0 := by
  have full : ∀ write ∈ writes, write.2.length = partition.blockSize := by decide +kernel
  refine (Partition.image_after_blockWrites lies.toSectored full).trans ?_
  rw [show disk.device.start = fun _ => 0 from rfl, Partition.image_zeros]
  rfl

/-- The headers of the transactions are on disk. -/
theorem txHeaderAt_eq :
    partition.txHeaderAt (disk.image partition) 7 = some newer.transaction.header ∧
      partition.txHeaderAt (disk.image partition) 3 = some logged.transaction.header := by
  rw [image_eq]
  decide +kernel

/-- So are their log records. -/
theorem recordAt_eq : partition.recordAt (disk.image partition) 8 = some record ∧
    partition.recordAt (disk.image partition) 4 = some Sample.record := by
  rw [image_eq]
  decide +kernel

/-- Both transactions are pending. -/
theorem pends : journal.Pends partition (disk.image partition) [logged, newer] := by
  have older : TxChain (partition.txHeaderAt (disk.image partition)) 0 3 [logged.transaction] :=
    .link (by decide) txHeaderAt_eq.2 List.not_mem_nil .stop
  have new : (7 : Address) ∉ [logged.transaction].map Transaction.address := by decide
  have both : TxChain (partition.txHeaderAt (disk.image partition)) 0 7
      [newer.transaction, logged.transaction] :=
    .link (by decide) txHeaderAt_eq.1 new older
  refine ⟨both, List.forall_mem_cons.2 ⟨?_, List.forall_mem_singleton.2 ?_⟩⟩
  · exact .link (by decide) recordAt_eq.2 (by decide) List.not_mem_nil .back
  · exact .link (by decide) recordAt_eq.1 (by decide) List.not_mem_nil .back

/-- The journal occupies seven blocks. -/
theorem blocks_eq : [logged, newer].flatMap Logged.blocks = [3, 4, 5, 7, 8, 9, 11] := rfl

/-- One block is the home of two entries. -/
theorem homes_eq : [logged, newer].flatMap Logged.homes = [6, 6, 10] := rfl

/-- The blocks are in order: two transactions may have a home in common. -/
theorem ordered : InOrder fixed partition.length [logged, newer] := by
  constructor
  · rw [blocks_eq]
    decide
  · rw [blocks_eq]
    simp only [List.forall_mem_cons]
    exact ⟨by decide, by decide, by decide, by decide, by decide, by decide, by decide, nofun⟩
  · rw [blocks_eq]
    simp only [List.forall_mem_cons]
    exact ⟨by decide, by decide, by decide, by decide, by decide, by decide, by decide, nofun⟩
  · rw [homes_eq]
    simp only [List.forall_mem_cons]
    exact ⟨by decide, by decide, by decide, nofun⟩
  · exact List.forall_mem_cons.2 ⟨by decide, List.forall_mem_singleton.2 (by decide)⟩
  · rw [homes_eq, blocks_eq]
    simp only [List.forall_mem_cons]
    exact ⟨by decide, by decide, by decide, nofun⟩

end Sample.Twice

end JournaledVolume
