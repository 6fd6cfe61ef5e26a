import JournaledVolume.Proofs.Interruption
import JournaledVolume.Proofs.PackedJournal

/-!
# A packed journal on another device

A journal that was packed is unpacked on another device: its pointers are read from the front of the
stream, its blocks are restored from what follows, and a sync writes the pointers. The device then
shows the same journal: the same pointers are loaded, the same transactions wait, and packing it
again gives the same stream.

All walks on the other device find what they found on the first, since their trails lead through
blocks that were restored, and through no other.
-/

namespace JournaledVolume

open JournaledVolume.Action

namespace Walk

variable {κ α : Type} [Walk κ α] [Sighted κ α]

/-- A trail on a device without faults is collected. -/
theorem Trail.exists_collect {partition : Partition} {disk : Disk Store} {walk : κ} {items : List α}
    (trail : Trail partition (disk.image partition) walk items)
    (lies : partition.LiesOn disk.device.shape) (sound : disk.device.Sound) :
    ∃ after, collect partition walk disk = .ok items after := by
  obtain ⟨found, after, collects, passed, _⟩ :=
    (ends_collect lies walk).exists_ok fun _ _ refused =>
      (refused.of_orderly ⟨items, trail⟩).not_sound sound
  obtain rfl := passed.unique trail
  exact ⟨after, collects⟩

end Walk

namespace Journal

/-- What the walks over a journal find on a disk: the transactions that wait, and the blocks that
they occupy. -/
structure Shows (partition : Partition) (disk : Disk Store) (journal : Journal)
    (transactions : List Transaction) (items : List (Address × BlockKind)) : Prop where
  /-- The transactions are the pending ones. -/
  pending : ∃ after, journal.pending partition disk = .ok transactions after
  /-- The blocks are those of the layout. -/
  layout : ∃ after, Walk.collect partition journal.blocks disk = .ok items after

variable {partition other : Partition} {journal : Journal} {disk after : Disk Store} {image : Image}
  {content : Content} {items : List (Address × BlockKind)} {passed : List Transaction}
  {addresses : List Address} {suffix : Bytes}

/-- The trails of a journal show on a device without faults. -/
theorem shows_of_trails (chain : Walk.Trail partition (disk.image partition) journal.chain passed)
    (trail : Walk.Trail partition (disk.image partition) journal.blocks items)
    (lies : partition.LiesOn disk.device.shape) (sound : disk.device.Sound) :
    journal.Shows partition disk passed.reverse items := by
  obtain ⟨_, collects⟩ := chain.exists_collect lies sound
  exact ⟨⟨_, bind_of_ok collects⟩, trail.exists_collect lies sound⟩

/-- Where the blocks on its trail hold the same in a longer partition of a device without faults, a
journal shows the same there and is packed to the same stream. -/
theorem shows_elsewhere (journal : Journal)
    (chain : Walk.Trail partition image journal.chain passed)
    (trail : Walk.Trail partition image journal.blocks items)
    (listed : ∀ transaction ∈ passed, (transaction.address, .txHeader) ∈ items)
    (longer : partition.length ≤ other.length) (named : ∀ item ∈ items, Named other item.1)
    (same : ∀ item ∈ items, disk.image other item.1.toNat = image item.1.toNat)
    (lies : other.LiesOn disk.device.shape) (sound : disk.device.Sound) :
    journal.Shows other disk passed.reverse items ∧
      ∃ packed, journal.pack other { memory := {}, disk } = .ok () packed ∧
        packed.memory.stream = journal.packedStream image items := by
  have chainThere : Walk.Trail other (disk.image other) journal.chain passed :=
    chain.transfer longer fun transaction held => same _ (listed transaction held)
  have trailThere : Walk.Trail other (disk.image other) journal.blocks items :=
    trail.transfer longer same
  obtain ⟨packed, packs, stream⟩ := exists_pack_of_trail trailThere named lies sound
  refine ⟨shows_of_trails chainThere trailThere lies sound, packed, packs, ?_⟩
  rw [stream, packedStream, packedBlocks_congr same]
  rfl

/-- The block writes that give blocks what an image shows. -/
def copies (partition : Partition) (image : Image) (addresses : List Address) : List Effect :=
  addresses.map fun address => partition.blockWrite address.toNat (image address.toNat)

/-- Blocks that were copied hold what the image shows. -/
theorem image_after_copies (sectored : partition.Sectored)
    (full : ∀ block, (image block).length = partition.blockSize) {address : Address}
    (listed : address ∈ addresses) :
    partition.image (content.afterAll (copies partition image addresses)) address.toNat =
      image address.toNat := by
  rw [Effect.image_afterAll_of_write sectored (full address.toNat)]
  · exact if_pos (List.mem_map_of_mem listed)
  · intro effect wrote differs
    obtain ⟨another, _, rfl⟩ := List.mem_map.1 wrote
    apply Effect.spares_blockWrite sectored (full _).le
    rw [List.mem_singleton]
    rintro rfl
    exact differs rfl

/-- All of the copies are block writes. -/
theorem copies_filter_isWrite :
    (copies partition image addresses).filter Effect.isWrite =
      copies partition image addresses :=
  List.filter_eq_self.2 (List.forall_mem_map.2 fun _ _ => rfl)

/-- The blocks on a trail are restored from their records on a device that serves every request. -/
theorem exists_restore (trail : Walk.Trail partition image journal.blocks items)
    (named : ∀ item ∈ items, Named other item.1)
    (full : ∀ block, (image block).length = other.blockSize)
    (lies : other.LiesOn disk.device.shape) (serves : disk.device.Serves)
    (further : suffix.take 4 ∉ PackedBlock.restorable) :
    ∃ after, restore other
        { memory := (packedBlocks image items).flatMap PackedBlock.encode ++ suffix, disk } =
          .ok (visited items).length after ∧
      after.memory = suffix ∧ ∃ requests, disk.Ran after.disk
        { requests, effects := copies other image (visited items) } := by
  have known : ∀ item ∈ items, item.2.signature ∈ PackedBlock.restorable := fun item passed =>
    List.mem_map_of_mem (BlockWalk.kind_of_trail trail item passed)
  have sized : ∀ block ∈ packedBlocks image items, block.Sized other.blockSize :=
    forall_mem_packedBlocks fun item passed =>
      ⟨PackedBlock.length_of_mem_restorable (known item passed), full _⟩
  have inside : ∀ block ∈ packedBlocks image items, block.address.toNat < other.length :=
    forall_mem_packedBlocks fun item passed => (named item passed).2
  obtain ⟨_, after, restores, rfl, left, ran⟩ :=
    (ends_restore (packedBlocks image items) lies serves.writable sized
      (forall_mem_packedBlocks known) inside further).exists_ok
        fun _ _ broke => broke.not_sound serves.toSound
  have effects : (packedBlocks image items).map (restoreWrite other) =
      copies other image (visited items) := by
    rw [packedBlocks, visited, copies, List.map_map, List.map_map]
    rfl
  rw [length_packedBlocks] at restores
  rw [effects] at ran
  exact ⟨after, restores, left, _, ran⟩

/-- A journal that is synced on a device that serves every request is loaded from it, and blocks
other than its own hold what they held. -/
theorem exists_reopened (dirty : journal.dirty = true) (fits : journal.Fits partition)
    (apart : journal.area.header ≠ journal.area.footer) (lies : partition.LiesOn disk.device.shape)
    (serves : disk.device.Serves) :
    ∃ synced reopened, journal.sync partition disk = .ok { journal with dirty := false } synced ∧
      load partition journal.area synced = .ok { journal with dirty := false } reopened ∧
      partition.LiesOn reopened.device.shape ∧ reopened.device.Serves ∧
      ∀ address, address ≠ journal.area.header → address ≠ journal.area.footer →
        reopened.image partition address.toNat = disk.image partition address.toNat := by
  obtain ⟨_, synced, syncs, rfl, wrote⟩ :=
    (ends_sync dirty fits lies serves.writable).exists_ok fun _ _ broke =>
      broke.not_sound serves.toSound
  have held : stored partition journal.area (synced.image partition) =
      { journal with dirty := false } := by
    rw [Disk.image, wrote.content]
    exact stored_after_writes journal lies.toSectored fits (.inl apart)
  have clean : ({ journal with dirty := false } : Journal).Fits partition := fits.moved rfl rfl
  obtain ⟨reopened, loads, read⟩ :=
    exists_load clean held (wrote.lies lies) (wrote.serves serves)
  refine ⟨synced, reopened, syncs, loads, read.lies (wrote.lies lies),
    read.serves (wrote.serves serves), ?_⟩
  intro address header footer
  rw [read.image rfl, Disk.image, wrote.content, image_after_writes lies.toSectored fits,
    Function.update_of_ne fun same => footer (UInt64.toNat_inj.1 same),
    Function.update_of_ne fun same => header (UInt64.toNat_inj.1 same), Disk.image]

/-- A packed journal is brought to any other device that serves every request and has at least as
many blocks of the same size, unless one of its blocks is a journal pointer. The stream gives the
handle, and then each block once, whatever follows that does not look like another block. Once the
handle is synced, the other device shows the same journal as the first one, and it is packed to the
same stream. -/
theorem unpack_relocates {source : Disk Store} {packed : Attached Packing Store}
    (lies : partition.LiesOn source.device.shape) (sound : source.device.Sound)
    (fits : journal.Fits partition) (apart : journal.area.header ≠ journal.area.footer)
    (packs : journal.pack partition { memory := {}, disk := source } = .ok () packed)
    (off : ∀ items after, Walk.collect partition journal.blocks source = .ok items after →
      ∀ item ∈ items, item.1 ≠ journal.area.header ∧ item.1 ≠ journal.area.footer) :
    ∃ transactions items, journal.Shows partition source transactions items ∧
      ∀ (other : Partition) (target : Disk Store) (suffix : Bytes),
        other.LiesOn target.device.shape → target.device.Serves →
        other.blockSize = partition.blockSize → partition.length ≤ other.length →
        suffix.take 4 ∉ PackedBlock.restorable →
        ∃ unread restored synced reopened repacked, ∃ addresses : List Address,
          unpack other.blockSize (packed.memory.stream ++ suffix) =
            .ok { journal with dirty := true } unread ∧
          restore other { memory := unread, disk := target } = .ok addresses.length restored ∧
          restored.memory = suffix ∧
          addresses.Nodup ∧ (∀ address, address ∈ addresses ↔ address ∈ items.map Prod.fst) ∧
          target.written restored.disk = copies other (source.image partition) addresses ∧
          sync other { journal with dirty := true } restored.disk =
            .ok { journal with dirty := false } synced ∧
          load other journal.area synced = .ok { journal with dirty := false } reopened ∧
          Shows other reopened { journal with dirty := false } transactions items ∧
          (∀ item ∈ items,
            reopened.image other item.1.toNat = source.image partition item.1.toNat) ∧
          pack other { journal with dirty := false } { memory := {}, disk := reopened } =
            .ok () repacked ∧
          repacked.memory.stream = packed.memory.stream := by
  obtain ⟨items, trail, named, memory, _⟩ := (ends_pack lies journal).of_ok packs
  obtain ⟨passed, chain, listed⟩ := BlockWalk.exists_transactions trail _ _ _ rfl
  have visible := shows_of_trails chain trail lies sound
  obtain ⟨collected, collects⟩ := visible.layout
  refine ⟨passed.reverse, items, visible, ?_⟩
  intro other target suffix otherLies serves size longer further
  -- Restoring gives the blocks on the trail what they hold on the first device.
  have full : ∀ block, (source.image partition block).length = other.blockSize := by
    intro block
    rw [Disk.image, Partition.length_image, size]
  have within : ∀ item ∈ items, Named other item.1 := fun item held =>
    ⟨(named item held).1, (named item held).2.trans_le longer⟩
  obtain ⟨restored, restores, left, requests, ran⟩ :=
    exists_restore trail within full otherLies serves further
  -- The handle is synced to other blocks, so they keep that.
  have dirtyFits : ({ journal with dirty := true } : Journal).Fits other :=
    ⟨fits.valid, size.trans fits.same, fits.header.trans_le longer, fits.footer.trans_le longer⟩
  obtain ⟨synced, reopened, syncs, loads, stillLies, stillServes, kept⟩ :=
    exists_reopened rfl dirtyFits apart (ran.lies otherLies) (ran.serves serves)
  have same : ∀ item ∈ items,
      reopened.image other item.1.toNat = source.image partition item.1.toNat := by
    intro item held
    obtain ⟨header, footer⟩ := off items collected collects item held
    rw [kept item.1 header footer, Disk.image, ran.content]
    exact image_after_copies otherLies.toSectored full (mem_visited.2 (List.mem_map_of_mem held))
  obtain ⟨there, repacked, repacks, again⟩ :=
    shows_elsewhere { journal with dirty := false } chain trail listed longer within same stillLies
      stillServes.toSound
  have stream : packed.memory.stream = journal.packedStream (source.image partition) items := by
    rw [memory, stream_foldl_visit]
  have unpacks : unpack other.blockSize (packed.memory.stream ++ suffix) =
      .ok { journal with dirty := true }
        ((packedBlocks (source.image partition) items).flatMap PackedBlock.encode ++ suffix) := by
    rw [stream, size, fits.same]
    exact unpack_packedStream fits.valid suffix
  have written : target.written restored.disk =
      copies other (source.image partition) (visited items) := by
    rw [ran.written, copies_filter_isWrite]
  exact ⟨_, restored, synced, reopened, repacked, visited items, unpacks, restores, left,
    nodup_firstVisits, fun _ => mem_visited, written, syncs, loads, there, same, repacks,
    again.trans stream.symm⟩

end Journal

namespace Sample

/-- The blocks that the transaction of the small volume occupies. -/
def items : List (Address × BlockKind) := [(3, .txHeader), (4, .logRecord), (5, .wandered)]

/-- They lie on the trail of its journal. -/
theorem trail : Walk.Trail partition (disk.image partition) journal.blocks items := by
  have header : BlockWalk.look partition (disk.image partition) journal.blocks =
      some (some ((3, .txHeader),
        .walking (.walking 0 0 [3]) (.start logged.transaction) [])) := by
    decide +kernel
  have record : BlockWalk.look partition (disk.image partition)
      (.walking (.walking 0 0 [3]) (.start logged.transaction) []) =
        some (some ((4, .logRecord), .walking (.walking 0 0 [3]) (.walking 3 7 3 [4]) [5])) := by
    decide +kernel
  exact .step header (.step record (.step rfl (.ended rfl)))

/-- What its journal shows. -/
theorem shows {transactions : List Transaction} {passed : List (Address × BlockKind)}
    (visible : journal.Shows partition disk transactions passed) :
    transactions = [logged.transaction] ∧ passed = items := by
  obtain ⟨⟨_, pending⟩, _, collects⟩ := visible
  have waits := ((Journal.ends_pending lies).of_ok pending).1
  have passes := ((Walk.ends_collect lies _).of_ok collects).1
  exact ⟨waits.unique pends.chain, passes.unique trail⟩

/-- A larger device with smaller sectors that holds nothing. -/
def blank : Disk Store where
  device :=
    { shape := { sectorSize := 256, blockSize := 512, totalBlocks := 10 }, start := fun _ => 0 }

/-- The partition is the whole of the larger device. -/
def larger : Partition := { blockSize := 512, sectorSize := 256, offset := 0, size := 5120 }

end Sample

namespace Journal

/-- The journal of the small volume is brought to a larger device, from a stream that goes on with
the header of another journal. -/
theorem unpack_relocates_sample : ∃ packed unread restored synced reopened repacked,
    ∃ addresses : List Address,
      Sample.journal.pack Sample.partition { memory := {}, disk := Sample.disk } =
        .ok () packed ∧
      unpack 512 (packed.memory.stream ++ BlockKind.journalHeader.signature) =
        .ok { Sample.journal with dirty := true } unread ∧
      restore Sample.larger { memory := unread, disk := Sample.blank } =
        .ok addresses.length restored ∧
      restored.memory = BlockKind.journalHeader.signature ∧
      addresses.Nodup ∧ (∀ address, address ∈ addresses ↔ address ∈ ([3, 4, 5] : List Address)) ∧
      sync Sample.larger { Sample.journal with dirty := true } restored.disk =
        .ok Sample.journal synced ∧
      load Sample.larger Sample.area synced = .ok Sample.journal reopened ∧
      Sample.journal.Shows Sample.larger reopened [Sample.logged.transaction] Sample.items ∧
      Sample.journal.pack Sample.larger { memory := {}, disk := reopened } = .ok () repacked ∧
      repacked.memory.stream = packed.memory.stream := by
  have sound : Sample.disk.device.Sound := Sample.serves.toSound
  have named : ∀ item ∈ Sample.items, Named Sample.partition item.1 := by decide
  obtain ⟨packed, packs, _⟩ := exists_pack_of_trail Sample.trail named Sample.lies sound
  have off : ∀ items after,
      Walk.collect Sample.partition Sample.journal.blocks Sample.disk = .ok items after →
        ∀ item ∈ items,
          item.1 ≠ Sample.journal.area.header ∧ item.1 ≠ Sample.journal.area.footer := by
    intro items after collects
    obtain rfl := ((Walk.ends_collect Sample.lies _).of_ok collects).1.unique Sample.trail
    decide
  obtain ⟨transactions, items, visible, brought⟩ :=
    unpack_relocates Sample.lies sound ⟨by decide, rfl, by decide, by decide⟩ (by decide) packs off
  obtain ⟨rfl, rfl⟩ := Sample.shows visible
  have lies : Sample.larger.LiesOn Sample.blank.device.shape :=
    ⟨⟨by decide, by decide⟩, rfl, rfl, by decide⟩
  have serves : Sample.blank.device.Serves := ⟨⟨fun _ _ => rfl⟩, rfl⟩
  obtain ⟨unread, restored, synced, reopened, repacked, addresses, unpacks, restores, left, once,
    listed, _, syncs, loads, there, _, repacks, same⟩ :=
      brought Sample.larger Sample.blank BlockKind.journalHeader.signature lies serves rfl
        (by decide) (by decide)
  exact ⟨packed, unread, restored, synced, reopened, repacked, addresses, packs, unpacks, restores,
    left, once, listed, syncs, loads, there, repacks, same⟩

end Journal

end JournaledVolume
