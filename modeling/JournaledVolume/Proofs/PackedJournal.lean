import JournaledVolume.Journal.Archive
import JournaledVolume.Proofs.BlockTrail
import JournaledVolume.Proofs.PackStream
import JournaledVolume.Proofs.Pointers

/-!
# Packed journals

Packing a journal records its pointers, and then each block on the trail of the block walk when the
walk comes to it for the first time. The records say where they end, so reading them gives back the
pointers and the blocks, whatever follows that does not look like another block.
-/

namespace JournaledVolume

open JournaledVolume.Action

namespace PackedBlock

variable {size : Nat} {block : PackedBlock} {suffix : Bytes}

/-- The bytes of a record in the stream. -/
def encode (block : PackedBlock) : Bytes := Item.encodeAll block.items

/-- A record is its signature, its address and its content. -/
theorem encode_eq (block : PackedBlock) :
    block.encode = block.signature ++ (LittleEndian.encode64 block.address ++ block.content) := by
  rw [encode, Item.encodeAll, items, List.flatMap_cons, List.flatMap_cons, List.flatMap_cons,
    List.flatMap_nil, List.append_nil]
  rfl

/-- Whether a record has the sizes that a reader expects. -/
structure Sized (size : Nat) (block : PackedBlock) : Prop where
  /-- A signature takes four bytes. -/
  signature : block.signature.length = 4
  /-- The content is a block. -/
  content : block.content.length = size

/-- A record is read back, whatever follows it. -/
theorem read_append (sized : block.Sized size) (rest : Bytes) :
    read size block.signature (block.encode ++ rest) = .ok block rest := by
  have signed := Reader.take_append sized.signature
    (LittleEndian.encode64 block.address ++ (block.content ++ rest))
  have addressed := Reader.word64_append block.address (block.content ++ rest)
  have filled := Reader.take_append sized.content rest
  rw [encode_eq, List.append_assoc, List.append_assoc, read, Reader.sign, bind_of_ok signed,
    if_pos rfl, bind_of_ok addressed, bind_of_ok filled]
  rfl

/-- A record of a block is read to be restored. -/
theorem readRestorable_append (sized : block.Sized size) (known : block.signature ∈ restorable)
    (rest : Bytes) : readRestorable size (block.encode ++ rest) = .ok (some block) rest := by
  have signed : Reader.sign (block.encode ++ rest) = .ok block.signature
      (LittleEndian.encode64 block.address ++ (block.content ++ rest)) := by
    rw [encode_eq, List.append_assoc, List.append_assoc]
    exact Reader.take_append sized.signature _
  have peeked : Reader.peekSign (block.encode ++ rest) =
      .ok (some block.signature) (block.encode ++ rest) := by
    simp only [Reader.peekSign, signed]
  rw [readRestorable, bind_of_ok peeked]
  simp only [if_pos known]
  rw [bind_of_ok (read_append sized rest)]
  rfl

/-- Signatures take four bytes. -/
theorem length_of_mem_restorable {signature : Bytes} (known : signature ∈ restorable) :
    signature.length = 4 := by
  revert signature
  decide

/-- Nothing is restored from what does not look like a record of a block. -/
theorem readRestorable_of_other (other : suffix.take 4 ∉ restorable) :
    readRestorable size suffix = .ok none suffix := by
  by_cases short : (suffix.take 4).length < 4
  · have peeked : Reader.peekSign suffix = .ok none suffix := by
      simp only [Reader.peekSign, Reader.sign, Reader.take, short, if_true]
    rw [readRestorable, bind_of_ok peeked]
    rfl
  · have peeked : Reader.peekSign suffix = .ok (some (suffix.take 4)) suffix := by
      simp only [Reader.peekSign, Reader.sign, Reader.take, short, if_false]
    rw [readRestorable, bind_of_ok peeked]
    simp only [if_neg other]
    rfl

end PackedBlock

namespace Journal

section restore

variable {partition : Partition} {restored : Nat} {memory unread suffix : Bytes} {disk : Disk Store}
  {block : PackedBlock} {blocks : List PackedBlock}

/-- A record of a block is restored, and then those behind it. -/
theorem restoreFrom_of_block {done : Unit} {between : Disk Store}
    (found : PackedBlock.readRestorable partition.blockSize memory = .ok (some block) unread)
    (wrote : DiskM.writeBlock partition block.address.toNat block.content disk =
      .ok done between) :
    (restoreFrom partition restored : AttachedM Bytes Store Nat) { memory, disk } =
      restoreFrom partition (restored + 1) { memory := unread, disk := between } := by
  rw [restoreFrom]
  split
  · next again =>
    cases found.symm.trans again
    simp only [wrote]
  · next again => cases found.symm.trans again
  · next again => cases found.symm.trans again

/-- Where a block cannot be written, nothing is restored any more. -/
theorem restoreFrom_of_error {error : Error} {after : Disk Store}
    (found : PackedBlock.readRestorable partition.blockSize memory = .ok (some block) unread)
    (failed : DiskM.writeBlock partition block.address.toNat block.content disk =
      .error error after) :
    (restoreFrom partition restored : AttachedM Bytes Store Nat) { memory, disk } =
      .error error { memory := unread, disk := after } := by
  rw [restoreFrom]
  split
  · next again =>
    cases found.symm.trans again
    simp only [failed]
  · next again => cases found.symm.trans again
  · next again => cases found.symm.trans again

/-- Where no block is next, the number of those restored is returned. -/
theorem restoreFrom_of_none
    (found : PackedBlock.readRestorable partition.blockSize memory = .ok none unread) :
    (restoreFrom partition restored : AttachedM Bytes Store Nat) { memory, disk } =
      .ok restored { memory := unread, disk } := by
  rw [restoreFrom]
  split
  · next again => cases found.symm.trans again
  · next again =>
    cases found.symm.trans again
    rfl
  · next again => cases found.symm.trans again

/-- The block write of a record. -/
def restoreWrite (partition : Partition) (block : PackedBlock) : Effect :=
  partition.blockWrite block.address.toNat block.content

/-- The records of blocks are restored one by one, up to what does not look like another one, or
this breaks off. -/
theorem ends_restoreFrom (blocks : List PackedBlock) (lies : partition.LiesOn disk.device.shape)
    (writable : disk.device.readOnly = false)
    (sized : ∀ block ∈ blocks, block.Sized partition.blockSize)
    (known : ∀ block ∈ blocks, block.signature ∈ PackedBlock.restorable)
    (inside : ∀ block ∈ blocks, block.address.toNat < partition.length)
    (other : suffix.take 4 ∉ PackedBlock.restorable) (restored : Nat) :
    Ends (restoreFrom partition restored)
      { memory := blocks.flatMap PackedBlock.encode ++ suffix, disk }
      (fun count after => count = restored + blocks.length ∧ after.memory = suffix ∧
        disk.Ran after.disk
          { requests := blocks.length, effects := blocks.map (restoreWrite partition) })
      fun _ after => disk.Broke after.disk (blocks.map (restoreWrite partition)) := by
  induction blocks generalizing disk restored with
  | nil =>
    exact ends_of_ok (restoreFrom_of_none (PackedBlock.readRestorable_of_other other))
      ⟨rfl, rfl, .nothing rfl rfl⟩
  | cons block blocks ih =>
    rw [List.forall_mem_cons] at sized known inside
    rw [List.flatMap_cons, List.append_assoc]
    have found := PackedBlock.readRestorable_append sized.1 known.1
      (blocks.flatMap PackedBlock.encode ++ suffix)
    have writes := DiskM.ends_writeBlock lies writable inside.1 sized.1.content
    cases wrote : DiskM.writeBlock partition block.address.toNat block.content disk with
    | error error after =>
      exact ends_of_error (restoreFrom_of_error found wrote) (writes.of_error wrote).append
    | ok done between =>
      have ran := writes.of_ok wrote
      unfold Ends
      rw [restoreFrom_of_block found wrote]
      refine (ih (ran.lies lies) (ran.writable writable) sized.2 known.2 inside.2
        (restored + 1)).mono ?_ fun _ _ broke => ran.broke broke
      rintro count after ⟨rfl, left, rest⟩
      have total := ran.trans rest
      refine ⟨?_, left, ?_⟩
      · rw [List.length_cons]
        omega
      · rw [List.length_cons, Nat.add_comm]
        exact total

/-- The records of blocks are restored, up to what does not look like another one, or this breaks
off. -/
theorem ends_restore (blocks : List PackedBlock) (lies : partition.LiesOn disk.device.shape)
    (writable : disk.device.readOnly = false)
    (sized : ∀ block ∈ blocks, block.Sized partition.blockSize)
    (known : ∀ block ∈ blocks, block.signature ∈ PackedBlock.restorable)
    (inside : ∀ block ∈ blocks, block.address.toNat < partition.length)
    (other : suffix.take 4 ∉ PackedBlock.restorable) :
    Ends (restore partition) { memory := blocks.flatMap PackedBlock.encode ++ suffix, disk }
      (fun count after => count = blocks.length ∧ after.memory = suffix ∧
        disk.Ran after.disk
          { requests := blocks.length, effects := blocks.map (restoreWrite partition) })
      fun _ after => disk.Broke after.disk (blocks.map (restoreWrite partition)) := by
  refine (ends_restoreFrom blocks lies writable sized known inside other 0).andThen ?_
  rintro _ after ⟨rfl, left, ran⟩
  exact ⟨Nat.zero_add _, left, ran.report rfl⟩

end restore

end Journal

/-- The items whose addresses come for the first time and are none of those seen. -/
def firstVisits (seen : List Address) : List (Address × BlockKind) → List (Address × BlockKind)
  | [] => []
  | item :: items =>
    if item.1 ∈ seen then firstVisits seen items else item :: firstVisits (item.1 :: seen) items

section firstVisits

variable {seen : List Address} {items : List (Address × BlockKind)} {address : Address}

/-- First visits are visits. -/
theorem firstVisits_subset : firstVisits seen items ⊆ items := by
  induction items generalizing seen with
  | nil => exact List.nil_subset _
  | cons item items ih =>
    rw [firstVisits]
    split
    · exact fun _ visited => List.mem_cons_of_mem _ (ih visited)
    · exact List.cons_subset_cons _ ih

/-- Every address is visited for a first time, unless it was seen. -/
theorem mem_map_firstVisits : address ∈ (firstVisits seen items).map Prod.fst ↔
    address ∈ items.map Prod.fst ∧ address ∉ seen := by
  induction items generalizing seen with
  | nil => simp [firstVisits]
  | cons item items ih =>
    rw [firstVisits]
    split
    · next known =>
      rw [ih, List.map_cons, List.mem_cons]
      constructor
      · exact fun visited => ⟨.inr visited.1, visited.2⟩
      · rintro ⟨rfl | visited, new⟩
        · exact (new known).elim
        · exact ⟨visited, new⟩
    · next new =>
      rw [List.map_cons, List.map_cons, List.mem_cons, List.mem_cons, ih, List.mem_cons, not_or]
      by_cases same : address = item.1
      · simp only [same, true_or, new, not_false_eq_true, and_self]
      · simp only [same, false_or, not_false_eq_true, true_and]

/-- No address is visited twice for the first time. -/
theorem nodup_firstVisits : ((firstVisits seen items).map Prod.fst).Nodup := by
  induction items generalizing seen with
  | nil => exact List.nodup_nil
  | cons item items ih =>
    rw [firstVisits]
    split
    · exact ih
    · refine List.nodup_cons.2 ⟨fun again => ?_, ih⟩
      exact (mem_map_firstVisits.1 again).2 List.mem_cons_self

end firstVisits

/-- The record of a block that is visited, as an image shows it. -/
def PackedBlock.visited (image : Image) (item : Address × BlockKind) : PackedBlock where
  signature := item.2.signature
  address := item.1
  content := image item.1.toNat

namespace Packing

variable {image other : Image} {packing : Packing} {item : Address × BlockKind}
  {items : List (Address × BlockKind)} {address : Address}

/-- The packing with a transaction counted when its header is visited. -/
def count (kind : BlockKind) (packing : Packing) : Packing :=
  if kind = .txHeader then { packing with transactions := packing.transactions + 1 } else packing

/-- The packing with a block that holds what an image shows, unless it was packed before. -/
def keep (image : Image) (item : Address × BlockKind) (packing : Packing) : Packing :=
  if item.1 ∈ packing.packed then packing
  else
    { packing with
      records := packing.records.push (.visited image item)
      packed := item.1 :: packing.packed }

/-- The packing after a block was visited that holds what an image shows. -/
def visit (image : Image) (packing : Packing) (item : Address × BlockKind) : Packing :=
  (packing.count item.2).keep image item

/-- Counting a transaction leaves the addresses. -/
@[simp]
theorem packed_count (kind : BlockKind) : (packing.count kind).packed = packing.packed := by
  unfold count
  split <;> rfl

/-- Counting a transaction leaves the records. -/
@[simp]
theorem records_count (kind : BlockKind) : (packing.count kind).records = packing.records := by
  unfold count
  split <;> rfl

/-- After a visit to a block it is packed, and so are the blocks that were before. -/
theorem mem_packed_visit :
    address ∈ (packing.visit image item).packed ↔ address = item.1 ∨ address ∈ packing.packed := by
  rw [visit, keep, packed_count]
  split
  · next known =>
    rw [packed_count]
    exact ⟨.inr, fun packed => packed.elim (fun same => same ▸ known) id⟩
  · exact List.mem_cons

/-- Visits add a record for each first visit. -/
theorem records_foldl_visit (packing : Packing) (items : List (Address × BlockKind)) :
    (items.foldl (visit image) packing).records.toList =
      packing.records.toList ++ (firstVisits packing.packed items).map (.visited image) := by
  induction items generalizing packing with
  | nil => rw [firstVisits, List.map_nil, List.append_nil]; rfl
  | cons item items ih =>
    rw [List.foldl_cons, ih, firstVisits, visit, keep, packed_count]
    split
    · rw [packed_count, records_count]
    · rw [records_count, Array.toList_push, List.append_assoc, List.map_cons]
      rfl

/-- The stream is made of the records. -/
theorem stream_eq (packing : Packing) :
    packing.stream = packing.records.toList.flatMap PackedBlock.encode := by
  rw [stream, Item.encodeAll, List.flatMap_assoc]
  rfl

end Packing

namespace Journal

variable {partition : Partition} {journal : Journal} {packing : Packing} {disk : Disk Store}

/-- Whether a journal pointer may lead to a block. -/
def Named (partition : Partition) (address : Address) : Prop :=
  address ≠ 0 ∧ address.toNat < partition.length

instance (partition : Partition) (address : Address) : Decidable (Named partition address) :=
  inferInstanceAs (Decidable (_ ∧ _))

/-- A block that may be named is packed unless it was before, or a fault comes. -/
theorem ends_keep (packing : Packing) (address : Address) (kind : BlockKind)
    (lies : partition.LiesOn disk.device.shape)
    (named : ∀ known ∈ packing.packed, Named partition known) :
    Ends (do
        if address ∉ (← AttachedM.memory).packed then
          let content ← AttachedM.onDisk (DiskM.readPointer partition address)
          AttachedM.revise fun packing =>
            { packing.add kind address content with packed := address :: packing.packed } :
        AttachedM Packing Store Unit) { memory := packing, disk }
      (fun _ after => after.memory = packing.keep (disk.image partition) (address, kind) ∧
        Named partition address ∧ ∃ count, disk.Ran after.disk (.reads count))
      fun _ _ => Named partition address → ¬ disk.device.Sound := by
  refine ends_get ?_
  dsimp only
  split
  · next new =>
    refine AttachedM.ends_onDisk_andThen ((DiskM.ends_readPointer lies).mono ?_ ?_)
    · intro content after ⟨found, ran⟩
      unfold Partition.follow at found
      split at found
      · exact nomatch found
      · next inside =>
        obtain rfl := Option.some.inj found
        refine ⟨?_, Partition.not_outside.1 inside, 1, ran⟩
        rw [Packing.keep, if_neg new]
        rfl
    · intro error after refused leads sound
      have orderly : (partition.follow (disk.image partition) address).isSome := by
        rw [Partition.follow, if_neg (Partition.not_outside.2 leads)]
        rfl
      exact (refused.of_orderly orderly).not_sound sound
  · next known =>
    have packed := not_not.1 known
    refine ends_pure ⟨?_, named _ packed, 0, .nothing rfl rfl⟩
    rw [Packing.keep, if_pos packed]

/-- A visit packs a block that may be named unless it was packed before, or a fault comes. -/
theorem ends_packBlock (address : Address) (kind : BlockKind)
    (lies : partition.LiesOn disk.device.shape)
    (named : ∀ known ∈ packing.packed, Named partition known) :
    Ends (packBlock partition address kind) { memory := packing, disk }
      (fun _ after => after.memory = packing.visit (disk.image partition) (address, kind) ∧
        Named partition address ∧ ∃ count, disk.Ran after.disk (.reads count))
      fun _ _ => Named partition address → ¬ disk.device.Sound := by
  unfold packBlock Packing.visit Packing.count
  dsimp only
  split
  · have keeps := ends_keep { packing with transactions := packing.transactions + 1 } address kind
      lies named
    exact keeps
  · exact ends_keep packing address kind lies named

/-- The packing of the pointers of a journal. -/
def packedPointers (journal : Journal) : Packing :=
  (({} : Packing).add .journalHeader journal.area.header
    (journal.header.encode journal.blockSize)).add .journalFooter journal.area.footer
      (journal.footer.encode journal.blockSize)

/-- The blocks on a trail are packed in order, if each may be named and no fault comes. -/
theorem ends_forEach_packBlock (lies : partition.LiesOn disk.device.shape) (walk : BlockWalk)
    (packing : Packing) (named : ∀ known ∈ packing.packed, Named partition known) :
    Ends (Walk.forEach partition (fun (address, kind) => packBlock partition address kind) walk)
      { memory := packing, disk }
      (fun _ after => ∃ items, Walk.Trail partition (disk.image partition) walk items ∧
        (∀ item ∈ items, Named partition item.1) ∧
        after.memory = items.foldl (Packing.visit (disk.image partition)) packing ∧
        ∃ count, disk.Ran after.disk (.reads count))
      fun _ _ => ∀ items, Walk.Trail partition (disk.image partition) walk items →
        (∀ item ∈ items, Named partition item.1) → ¬ disk.device.Sound := by
  induction walk using Walk.room_induction BlockWalk partition generalizing packing disk with
  | smaller walk ih =>
    refine Walk.ends_forEach lies ?_ ?_ ?_
    · intro after seen ran
      exact ⟨[], .ended seen, nofun, rfl, _, ran⟩
    · rintro ⟨address, kind⟩ rest between seen ran shrinks
      have same : between.image partition = disk.image partition := ran.image rfl
      refine (ends_packBlock address kind (ran.lies lies) named).bind ?_ ?_
      · rintro _ ⟨_, visited⟩ ⟨rfl, leads, more, further⟩
        have total := ran.trans further
        have still : visited.image partition = disk.image partition :=
          (further.image rfl).trans same
        rw [same]
        have known : ∀ known ∈ (packing.visit (disk.image partition) (address, kind)).packed,
            Named partition known := by
          intro known packed
          rcases Packing.mem_packed_visit.1 packed with rfl | before
          · exact leads
          · exact named known before
        refine (ih rest shrinks (total.lies lies) _ known).mono ?_ ?_
        · rintro _ last ⟨items, trail, fine, memory, behind, later⟩
          rw [still] at trail memory
          refine ⟨(address, kind) :: items, .step seen trail, List.forall_mem_cons.2 ⟨leads, fine⟩,
            memory, _, total.trans later⟩
        · intro _ _ failed items trail fine sound
          obtain ⟨behind, rfl, passed⟩ := trail.of_seen seen
          rw [still] at failed
          exact failed behind passed (List.forall_mem_cons.1 fine).2 (total.sound sound)
      · intro _ _ failed items trail fine sound
        obtain ⟨behind, rfl, _⟩ := trail.of_seen seen
        exact failed (List.forall_mem_cons.1 fine).1 (ran.sound sound)
    · intro _ _ refused items trail _ sound
      exact (refused.of_orderly trail.isSome_look).not_sound sound

/-- Packing a journal packs its pointers and the blocks on its trail, if each may be named and no
fault comes. -/
theorem ends_pack (lies : partition.LiesOn disk.device.shape) (journal : Journal) :
    Ends (journal.pack partition) { memory := {}, disk }
      (fun _ after => ∃ items, Walk.Trail partition (disk.image partition) journal.blocks items ∧
        (∀ item ∈ items, Named partition item.1) ∧
        after.memory = items.foldl (Packing.visit (disk.image partition)) journal.packedPointers ∧
        ∃ count, disk.Ran after.disk (.reads count))
      fun _ _ => ∀ items, Walk.Trail partition (disk.image partition) journal.blocks items →
        (∀ item ∈ items, Named partition item.1) → ¬ disk.device.Sound := by
  have visits := ends_forEach_packBlock lies journal.blocks journal.packedPointers nofun
  unfold pack AttachedM.revise
  refine ends_modify (visits.andThen ?_)
  rintro _ after ⟨items, trail, fine, memory, count, ran⟩
  exact ⟨items, trail, fine, memory, count, ran.report rfl⟩

/-! ### The stream -/

variable {image : Image} {items : List (Address × BlockKind)} {address : Address}

/-- The blocks on a trail, each once, in the order of their first visits. -/
def visited (items : List (Address × BlockKind)) : List Address :=
  (firstVisits [] items).map Prod.fst

/-- The blocks visited are those on the trail. -/
theorem mem_visited : address ∈ visited items ↔ address ∈ items.map Prod.fst := by
  rw [visited, mem_map_firstVisits]
  simp only [List.not_mem_nil, not_false_eq_true, and_true]

/-- The records of the blocks on a trail. -/
def packedBlocks (image : Image) (items : List (Address × BlockKind)) : List PackedBlock :=
  (firstVisits [] items).map (.visited image)

/-- There is a record for each block visited. -/
theorem length_packedBlocks : (packedBlocks image items).length = (visited items).length := by
  rw [packedBlocks, visited, List.length_map, List.length_map]

/-- What holds of the items of a trail holds of the records of their blocks. -/
theorem forall_mem_packedBlocks {holds : PackedBlock → Prop}
    (each : ∀ item ∈ items, holds (.visited image item)) :
    ∀ block ∈ packedBlocks image items, holds block :=
  List.forall_mem_map.2 fun item first => each item (firstVisits_subset first)

/-- The records depend on the blocks visited only. -/
theorem packedBlocks_congr {target : Image}
    (same : ∀ item ∈ items, target item.1.toNat = image item.1.toNat) :
    packedBlocks target items = packedBlocks image items := by
  apply List.map_congr_left
  intro item first
  rw [PackedBlock.visited, PackedBlock.visited, same item (firstVisits_subset first)]

/-- The record of the journal header. -/
def packedHeader (journal : Journal) : PackedBlock where
  signature := BlockKind.journalHeader.signature
  address := journal.area.header
  content := journal.header.encode journal.blockSize

/-- The record of the journal footer. -/
def packedFooter (journal : Journal) : PackedBlock where
  signature := BlockKind.journalFooter.signature
  address := journal.area.footer
  content := journal.footer.encode journal.blockSize

/-- The stream of a packed journal: the records of its pointers, and then those of the blocks. -/
def packedStream (journal : Journal) (image : Image) (items : List (Address × BlockKind)) : Bytes :=
  journal.packedHeader.encode ++
    (journal.packedFooter.encode ++ (packedBlocks image items).flatMap PackedBlock.encode)

/-- Visits behind the pointers give the stream. -/
theorem stream_foldl_visit (journal : Journal) (image : Image)
    (items : List (Address × BlockKind)) :
    (items.foldl (Packing.visit image) journal.packedPointers).stream =
      journal.packedStream image items := by
  have pointers : journal.packedPointers.records.toList =
      [journal.packedHeader, journal.packedFooter] := rfl
  rw [Packing.stream_eq, Packing.records_foldl_visit, pointers, List.flatMap_append,
    List.flatMap_cons, List.flatMap_cons, List.flatMap_nil, List.append_nil, List.append_assoc]
  rfl

/-- A journal whose trail leads through blocks that may be named is packed on a device without
faults. -/
theorem exists_pack_of_trail
    (trail : Walk.Trail partition (disk.image partition) journal.blocks items)
    (named : ∀ item ∈ items, Named partition item.1) (lies : partition.LiesOn disk.device.shape)
    (sound : disk.device.Sound) :
    ∃ packed, journal.pack partition { memory := {}, disk } = .ok () packed ∧
      packed.memory.stream = journal.packedStream (disk.image partition) items := by
  obtain ⟨_, packed, packs, _, passed, _, memory, _⟩ :=
    (ends_pack lies journal).exists_ok fun _ _ fails => fails items trail named sound
  obtain rfl := passed.unique trail
  refine ⟨packed, packs, ?_⟩
  rw [memory, stream_foldl_visit]

/-- Unpacking a stream reads the pointers, and leaves the blocks and what follows them. -/
theorem unpack_packedStream (valid : journal.blockSize ∈ blockSizes) (suffix : Bytes) :
    unpack journal.blockSize (journal.packedStream image items ++ suffix) =
      .ok { journal with dirty := true }
        ((packedBlocks image items).flatMap PackedBlock.encode ++ suffix) := by
  rw [packedStream, List.append_assoc, List.append_assoc]
  generalize (packedBlocks image items).flatMap PackedBlock.encode ++ suffix = rest
  have room := room_of_mem_blockSizes valid
  have size : checkBlockSize journal.blockSize = .ok () := if_pos valid
  have header : journal.packedHeader.Sized journal.blockSize :=
    ⟨rfl, JournalHeader.length_encode (by omega) _⟩
  have footer : journal.packedFooter.Sized journal.blockSize :=
    ⟨rfl, JournalFooter.length_encode room _⟩
  have accepted : ofExcept (checkBlockSize journal.blockSize)
      (journal.packedHeader.encode ++ (journal.packedFooter.encode ++ rest)) = .ok ()
        (journal.packedHeader.encode ++ (journal.packedFooter.encode ++ rest)) := by
    rw [size]
    rfl
  have first : PackedBlock.read journal.blockSize BlockKind.journalHeader.signature
      (journal.packedHeader.encode ++ (journal.packedFooter.encode ++ rest)) =
        .ok journal.packedHeader (journal.packedFooter.encode ++ rest) :=
    PackedBlock.read_append header _
  have second : PackedBlock.read journal.blockSize BlockKind.journalFooter.signature
      (journal.packedFooter.encode ++ rest) = .ok journal.packedFooter rest :=
    PackedBlock.read_append footer _
  have handle : ({ area := { header := journal.area.header, footer := journal.area.footer }
                   blockSize := journal.blockSize
                   header := .decode (journal.header.encode journal.blockSize)
                   footer := .decode (journal.footer.encode journal.blockSize)
                   dirty := true } : Journal) = { journal with dirty := true } := by
    rw [JournalHeader.decode_encode, JournalFooter.decode_encode]
  rw [unpack, bind_of_ok accepted, bind_of_ok first, bind_of_ok second]
  exact congrArg (EStateM.Result.ok · rest) handle

end Journal

end JournaledVolume
