import JournaledVolume.Proofs.Agreement
import JournaledVolume.Proofs.Searching
import Mathlib.Order.Interval.Finset.Nat

/-!
# The set of blocks in use

An allocator stands for a set: the blocks of its volume that are in use. However it was obtained and
whatever it was asked for since, the numbers that it reports are those of the set, its tests are
tests of the set, and its operations add runs of blocks to the set or remove them. The bits behind
the last block stay as they were obtained, and none of them counts.
-/

namespace JournaledVolume

open JournaledVolume.Action

namespace Bitmap

variable {bitmap changed : Bitmap} {start count block : Nat} {value : Bool}

/-- The blocks whose bit is set. -/
def markedBlocks (bitmap : Bitmap) : Finset Nat :=
  (Finset.range bitmap.total).filter fun block => bitmap.bits.test block = true

/-- The marked blocks are those whose bit is set. -/
theorem mem_markedBlocks :
    block ∈ bitmap.markedBlocks ↔ block < bitmap.total ∧ bitmap.bits.test block = true := by
  rw [markedBlocks, Finset.mem_filter, Finset.mem_range]

/-- The count of a bitmap is that of its marked blocks. -/
theorem Counted.card_markedBlocks (counted : bitmap.Counted) :
    bitmap.markedBlocks.card = bitmap.marked := by
  have places : (List.range bitmap.total).toFinset = Finset.range bitmap.total := by
    ext block
    rw [List.mem_toFinset, List.mem_range, Finset.mem_range]
  have once : ((List.range bitmap.total).filter fun block => bitmap.bits.test block).Nodup :=
    List.nodup_range.filter _
  rw [counted.marked, Bits.ones_eq counted.held, Nat.sub_zero, ← List.range_eq_range',
    List.countP_eq_length_filter, ← List.toFinset_card_of_nodup once, List.toFinset_filter, places,
    markedBlocks]

/-- A run is marked throughout if it is a part of the marked blocks. -/
theorem Counted.allMarked_iff (counted : bitmap.Counted) : bitmap.allMarked start count = true ↔
    start + count ≤ bitmap.total ∧ Finset.Ico start (start + count) ⊆ bitmap.markedBlocks := by
  have held := counted.held
  rw [allMarked, Bool.and_eq_true, decide_eq_true_eq, Option.isNone_iff_eq_none,
    Bits.find?_eq_none_iff]
  refine and_congr_right fun inside => ?_
  constructor
  · intro all block known
    obtain ⟨behind, before⟩ := Finset.mem_Ico.1 known
    exact mem_markedBlocks.2 ⟨by omega, all block behind before (by omega)⟩
  · intro part block behind before _
    exact (mem_markedBlocks.1 (part (Finset.mem_Ico.2 ⟨behind, before⟩))).2

/-- A run is clear throughout if it has no marked block. -/
theorem Counted.allCleared_iff (counted : bitmap.Counted) :
    bitmap.allCleared start count = true ↔ start + count ≤ bitmap.total ∧
      Disjoint (Finset.Ico start (start + count)) bitmap.markedBlocks := by
  have held := counted.held
  rw [allCleared, Bool.and_eq_true, decide_eq_true_eq, Option.isNone_iff_eq_none,
    Bits.find?_eq_none_iff]
  refine and_congr_right fun inside => ?_
  rw [Finset.disjoint_left]
  constructor
  · intro none block known marked
    obtain ⟨behind, before⟩ := Finset.mem_Ico.1 known
    have isClear := none block behind before (by omega)
    rw [(mem_markedBlocks.1 marked).2] at isClear
    exact nomatch isClear
  · intro apart block behind before _
    have unmarked := apart (Finset.mem_Ico.2 ⟨behind, before⟩)
    have below : block < bitmap.total := by omega
    rw [mem_markedBlocks, not_and] at unmarked
    exact Bool.eq_false_of_not_eq_true (unmarked below)

/-- Marking a run adds it to the marked blocks. -/
theorem markedBlocks_of_marked (same : bitmap.Matches changed)
    (inside : start + count ≤ bitmap.total)
    (filled : Bits.Filled true start count bitmap.bits changed.bits) :
    changed.markedBlocks = bitmap.markedBlocks ∪ Finset.Ico start (start + count) := by
  ext block
  rw [Finset.mem_union, mem_markedBlocks, mem_markedBlocks, Finset.mem_Ico, same.total, filled.test]
  by_cases within : start ≤ block ∧ block < start + count
  · have below : block < bitmap.total := by omega
    simp [within, below]
  · simp [within]

/-- Clearing a run removes it from the marked blocks. -/
theorem markedBlocks_of_cleared (same : bitmap.Matches changed)
    (filled : Bits.Filled false start count bitmap.bits changed.bits) :
    changed.markedBlocks = bitmap.markedBlocks \ Finset.Ico start (start + count) := by
  ext block
  rw [Finset.mem_sdiff, mem_markedBlocks, mem_markedBlocks, Finset.mem_Ico, same.total, filled.test]
  by_cases within : start ≤ block ∧ block < start + count
  · simp [within]
  · simp [within]

end Bitmap

namespace Allocator

variable {δ : Type} [BlockDevice δ] {allocator before after : Allocator} {geometry : Geometry}
  {partition : Partition} {start count : Nat}

/-- Whether an allocator is the outcome of requests to one that was created, loaded or unpacked. The
device may answer in any way, and requests may fail. -/
inductive Reachable : Allocator → Prop where
  /-- The allocator is new. -/
  | created {geometry : Geometry} {allocator : Allocator}
    (creates : create geometry = .ok allocator) : Reachable allocator
  /-- The allocator was loaded from a disk. -/
  | loaded {δ : Type} [BlockDevice δ] {partition : Partition} {geometry : Geometry}
    {allocator : Allocator} {disk after : Disk δ}
    (loads : load partition geometry disk = .ok allocator after) : Reachable allocator
  /-- The allocator was unpacked from a stream. -/
  | unpacked {blockSize : Nat} {stream rest : Bytes} {allocator : Allocator}
    (unpacks : unpack blockSize stream = .ok allocator rest) : Reachable allocator
  /-- The allocator is what a request left. -/
  | served {δ : Type} [BlockDevice δ] {partition : Partition} {request : Request}
    {before after : Attached Allocator δ} (reachable : Reachable before.memory)
    (leaves : (serve partition request).Leaves before after) : Reachable after.memory

/-- Whether an allocator has a bit for each block, the right count of them, and a checksum for each
bitmap block. -/
structure Consistent (allocator : Allocator) : Prop where
  /-- Memory has room for the bitmap. -/
  room : Bitmap.checkRoom allocator.geometry.blockCount = .ok ()
  /-- The bitmap has the blocks of the volume. -/
  total : allocator.bitmap.total = allocator.geometry.blockCount
  /-- It has a byte for every eight of them. -/
  size : allocator.bitmap.bits.bytes.size = Bitmap.byteCount allocator.geometry.blockCount
  /-- Its count is right. -/
  counted : allocator.bitmap.Counted
  /-- Every bitmap block has a checksum. -/
  sums : allocator.sums.size = allocator.geometry.bitmapBlocks

/-- A well formed allocator is consistent. -/
theorem WellFormed.consistent (formed : allocator.WellFormed) : allocator.Consistent :=
  ⟨formed.room, formed.total, formed.size, formed.counted, formed.sums⟩

/-- A consistent allocator is well formed if its block size is valid. -/
theorem Consistent.wellFormed (consistent : allocator.Consistent)
    (valid : allocator.geometry.blockSize ∈ blockSizes) : allocator.WellFormed :=
  ⟨valid, consistent.room, consistent.total, consistent.size, consistent.counted, consistent.sums⟩

/-- A new allocator is consistent, whatever its block size. -/
theorem consistent_of_create (creates : create geometry = .ok allocator) :
    allocator.Consistent := by
  cases zeros : Bitmap.zeros geometry.blockCount with
  | error error =>
    rw [create, zeros] at creates
    cases creates
  | ok bitmap =>
    have room := Bitmap.room_of_zeros zeros
    rw [create, Bitmap.zeros_of_room room] at creates
    cases creates
    refine ⟨room, rfl, Array.size_replicate, Bitmap.counted_zeros _, ?_⟩
    simp

/-- Whether an allocator has all bytes of its bitmap and the checksums of the first segments. -/
structure Gathered (geometry : Geometry) (count : Nat) (allocator : Allocator) : Prop where
  /-- It is one for the volume. -/
  geometry_eq : allocator.geometry = geometry
  /-- The bitmap has the blocks of the volume. -/
  total : allocator.bitmap.total = geometry.blockCount
  /-- It has a byte for every eight of them. -/
  size : allocator.bitmap.bits.bytes.size = Bitmap.byteCount geometry.blockCount
  /-- The first segments have their checksums. -/
  sums : allocator.sums.size = count

/-- Reading a bitmap block adds its checksum. -/
theorem Gathered.absorb (gathered : Gathered geometry count allocator) (image : Bytes) :
    Gathered geometry (count + 1) (allocator.absorb count image) := by
  refine ⟨gathered.geometry_eq, gathered.total, ?_, ?_⟩
  · exact (Bitmap.size_load_go _ _ _).trans gathered.size
  · exact (Array.size_push _).trans (congrArg Nat.succ gathered.sums)

/-- Once all bitmap blocks were read and the bitmap is counted again, the allocator is
consistent. -/
theorem Gathered.consistent (gathered : Gathered geometry geometry.bitmapBlocks allocator)
    (room : Bitmap.checkRoom geometry.blockCount = .ok ()) :
    Consistent { allocator with bitmap := allocator.bitmap.recount } := by
  obtain ⟨rfl, total, size, sums⟩ := gathered
  have held : allocator.bitmap.total ≤ allocator.bitmap.bits.size := by
    rw [Bits.size, size, total]
    exact Bitmap.le_byteCount _
  exact ⟨room, total, size, Bitmap.counted_recount held, sums⟩

/-- A loaded allocator is consistent, whatever the device and the block size. -/
theorem ends_load_consistent (partition : Partition) (geometry : Geometry) (disk : Disk δ) :
    Ends (load partition geometry) disk (fun allocator _ => allocator.Consistent)
      fun _ _ => True := by
  unfold load
  refine ends_ofExcept (fun _ _ => ?_) fun _ _ => trivial
  refine ends_ofExcept (fun start made => ?_) fun _ _ => trivial
  have room := room_of_blank made
  rw [blank, Bitmap.zeros_of_room room] at made
  cases made
  let gathers (index : Nat) (allocator : Allocator) (_ : Disk δ) : Prop :=
    Gathered geometry index allocator
  have begins : gathers 0
      { geometry
        bitmap :=
          { total := geometry.blockCount
            marked := 0
            bits := Bits.zeros (Bitmap.byteCount geometry.blockCount) }
        sums := #[]
        dirty := false } disk := ⟨rfl, rfl, Array.size_replicate, rfl⟩
  refine Ends.andThen (ends_foldlM_range begins ?_) ?_
  · intro index _ allocator between gathered
    refine (ends_anyhow _ between).andThen fun image _ _ => ?_
    exact ends_pure (gathered.absorb image)
  · intro filled between gathered
    refine (ends_anyhow _ between).andThen fun _ told _ => ?_
    refine (ends_anyhow _ told).andThen fun _ _ _ => ?_
    exact ends_pure (gathered.consistent room)

/-- Whether an allocator differs from another at most in its checksums and in being dirty. -/
def Resealed (before after : Allocator) : Prop :=
  ∃ sums dirty, sums.size = before.sums.size ∧ after = { before with sums, dirty }

/-- A sync changes checksums and cleans, also when it breaks off. -/
theorem ends_sync_resealed (disk : Disk δ) :
    Ends (sync partition) { memory := allocator, disk }
      (fun _ after => Resealed allocator after.memory)
      fun _ after => Resealed allocator after.memory := by
  have begins : Resealed allocator allocator := ⟨allocator.sums, allocator.dirty, rfl, rfl⟩
  refine ends_get ?_
  dsimp only
  split
  · refine ends_ofExcept (fun _ _ => ?_) fun _ _ => begins
    let reseals (_ : Nat) (state : Attached Allocator δ) : Prop := Resealed allocator state.memory
    have untouched : reseals 0 { memory := allocator, disk } := begins
    refine Ends.andThen (ends_forM_range untouched ?_) ?_
    · rintro index _ ⟨_, between⟩ ⟨sums, dirty, size, rfl⟩
      refine ends_get (AttachedM.ends_onDisk_andThen ?_)
      have kept : Resealed allocator { allocator with sums, dirty } := ⟨sums, dirty, size, rfl⟩
      refine (ends_anyhow _ between).mono (fun _ _ _ => ?_) fun _ _ _ => kept
      exact ⟨_, dirty, Array.size_setIfInBounds.trans size, rfl⟩
    · rintro _ ⟨_, between⟩ ⟨sums, dirty, size, rfl⟩
      exact ⟨sums, false, size, rfl⟩
  · exact ends_pure begins

/-- A check changes checksums, and makes the allocator dirty when it does. -/
theorem resealed_check (allocator : Allocator) (mode : CheckMode) :
    Resealed allocator (allocator.check mode).2 := by
  have same : Resealed allocator allocator := ⟨allocator.sums, allocator.dirty, rfl, rfl⟩
  rw [check]
  split
  · exact same
  · split
    · obtain ⟨sums, size, all⟩ := exists_foldl_accept allocator allocator.mismatches
      exact ⟨sums, _, size, all⟩
    · exact same

/-- Whether an allocator comes from another by giving the bits of a run of blocks a value. -/
structure Fills (value : Bool) (start count : Nat) (before after : Allocator) : Prop where
  /-- Nothing but the bitmap changes, and the allocator is dirty. -/
  only : after = { before with bitmap := after.bitmap, dirty := true }
  /-- The run lies in the volume. -/
  inside : start + count ≤ before.geometry.blockCount
  /-- The bitmap has as many blocks and bytes as before. -/
  same : before.bitmap.Matches after.bitmap
  /-- Its count is right. -/
  counted : after.bitmap.Counted
  /-- The bits of the run have the value, and the others are as they were. -/
  filled : Bits.Filled value start count before.bitmap.bits after.bitmap.bits

/-- A run of the volume is taken. -/
theorem Consistent.exists_occupy (consistent : allocator.Consistent)
    (inside : start + count ≤ allocator.geometry.blockCount) :
    ∃ taken, allocator.occupy start count = .ok taken ∧ Fills true start count allocator taken := by
  have within : start + count ≤ allocator.bitmap.total := consistent.total ▸ inside
  obtain ⟨bitmap, marks, counted, same, filled⟩ := consistent.counted.exists_mark within
  refine ⟨{ allocator with bitmap, dirty := true }, ?_, rfl, inside, same, counted, filled⟩
  rw [occupy, marks]
  rfl

/-- A run of the volume is freed. -/
theorem Consistent.exists_release (consistent : allocator.Consistent)
    (inside : start + count ≤ allocator.geometry.blockCount) :
    ∃ freed, allocator.release start count = .ok freed ∧
      Fills false start count allocator freed := by
  have within : start + count ≤ allocator.bitmap.total := consistent.total ▸ inside
  obtain ⟨bitmap, clears, counted, same, filled⟩ := consistent.counted.exists_clear within
  refine ⟨{ allocator with bitmap, dirty := true }, ?_, rfl, inside, same, counted, filled⟩
  rw [release, clears]
  rfl

/-- A run that leaves the volume is neither taken nor freed. -/
theorem Consistent.refused (consistent : allocator.Consistent)
    (outside : allocator.geometry.blockCount < start + count) :
    allocator.occupy start count = .error (.atBlock .beyondBitmap start) ∧
      allocator.release start count = .error (.atBlock .beyondBitmap start) := by
  have beyond : allocator.bitmap.total < start + count := consistent.total ▸ outside
  constructor
  · rw [occupy, Bitmap.mark_of_outside beyond]
    rfl
  · rw [release, Bitmap.clear_of_outside beyond]
    rfl

/-- An allocation takes a run that it may offer, or nothing. -/
theorem Consistent.exists_allocate (consistent : allocator.Consistent) (count : Nat) :
    ∃ run after, allocator.allocate count = .ok (run, after) ∧
      ((run = ⟨0, 0⟩ ∧ after = allocator) ∨
        (allocator.bitmap.Offers count run ∧ Fills true run.start run.length allocator after)) := by
  cases found : allocator.bitmap.findRun? 0 count with
  | none =>
    refine ⟨⟨0, 0⟩, allocator, ?_, .inl ⟨rfl, rfl⟩⟩
    rw [allocate, found]
    rfl
  | some run =>
    have offers := Bitmap.offers_of_findRun? found
    obtain ⟨bitmap, marks, counted, same, filled⟩ := consistent.counted.exists_mark offers.inside
    have inside : run.start + run.length ≤ allocator.geometry.blockCount :=
      consistent.total ▸ offers.inside
    refine ⟨run, { allocator with bitmap, dirty := true }, ?_, .inr ⟨offers, rfl, inside, same,
      counted, filled⟩⟩
    rw [allocate, found]
    simp only [marks]
    rfl

/-- What a request can do to an allocator: change checksums, or give a run of blocks a value. -/
def Moves (before after : Allocator) : Prop :=
  Resealed before after ∨ ∃ value start count, Fills value start count before after

/-- Other checksums keep an allocator consistent. -/
theorem Consistent.of_resealed (consistent : before.Consistent) (resealed : Resealed before after) :
    after.Consistent := by
  obtain ⟨sums, dirty, size, rfl⟩ := resealed
  exact ⟨consistent.room, consistent.total, consistent.size, consistent.counted,
    size.trans consistent.sums⟩

/-- So does giving a run of blocks a value. -/
theorem Consistent.of_fills {value : Bool} (consistent : before.Consistent)
    (fills : Fills value start count before after) : after.Consistent := by
  rw [fills.only]
  exact ⟨consistent.room, fills.same.total.trans consistent.total,
    fills.same.size.trans consistent.size, fills.counted, consistent.sums⟩

/-- A request changes checksums or gives a run of blocks a value, also when it fails. -/
theorem Consistent.ends_serve (consistent : allocator.Consistent) (request : Request)
    (disk : Disk δ) :
    Ends (serve partition request) { memory := allocator, disk }
      (fun _ after => Moves allocator after.memory) fun _ after => Moves allocator after.memory := by
  have stays : Moves allocator allocator := .inl ⟨allocator.sums, allocator.dirty, rfl, rfl⟩
  cases request with
  | allocate count =>
    rw [serve]
    refine AttachedM.ends_tryRevise (fun changed allocates => ?_) fun _ _ => stays
    obtain ⟨run, after, takes, outcome⟩ := consistent.exists_allocate count
    rw [takes] at allocates
    cases allocates
    rcases outcome with ⟨_, rfl⟩ | ⟨_, fills⟩
    · exact stays
    · exact .inr ⟨true, _, _, fills⟩
  | occupy start count =>
    rw [serve]
    refine AttachedM.ends_tryRevise (fun changed occupies => ?_) fun _ _ => stays
    rcases Nat.lt_or_ge allocator.geometry.blockCount (start + count) with outside | inside
    · cases (consistent.refused outside).1.symm.trans occupies
    · obtain ⟨taken, takes, fills⟩ := consistent.exists_occupy inside
      cases takes.symm.trans occupies
      exact .inr ⟨true, _, _, fills⟩
  | release start count =>
    rw [serve]
    refine AttachedM.ends_tryRevise (fun changed releases => ?_) fun _ _ => stays
    rcases Nat.lt_or_ge allocator.geometry.blockCount (start + count) with outside | inside
    · cases (consistent.refused outside).2.symm.trans releases
    · obtain ⟨freed, frees, fills⟩ := consistent.exists_release inside
      cases frees.symm.trans releases
      exact .inr ⟨false, _, _, fills⟩
  | check mode => exact .inl (resealed_check allocator mode)
  | sync => exact (ends_sync_resealed disk).mono (fun _ _ => .inl) fun _ _ => .inl

/-- Whatever an allocator was asked for, it is consistent. -/
theorem Reachable.consistent (reachable : Reachable allocator) : allocator.Consistent := by
  induction reachable with
  | created creates => exact consistent_of_create creates
  | loaded loads => exact (ends_load_consistent _ _ _).of_ok loads
  | unpacked unpacks => exact ((ends_unpack _ _).of_ok unpacks).1.consistent
  | @served _ _ _ request before after _ leaves ih =>
    rcases (ih.ends_serve request before.disk).of_leaves leaves with resealed | ⟨_, _, _, fills⟩
    · exact ih.of_resealed resealed
    · exact ih.of_fills fills

/-- The blocks in use. -/
def inUse (allocator : Allocator) : Finset Nat := allocator.bitmap.markedBlocks

/-- Whether an allocator comes from another by a change of the blocks in use, which makes it dirty.
Nothing else is changed, and of the bits behind the last block none. -/
structure Becomes (before : Allocator) (inUse : Finset Nat) (after : Allocator) : Prop where
  /-- The blocks in use are those given. -/
  inUse_eq : after.inUse = inUse
  /-- Nothing but the bitmap changes, and the allocator is dirty. -/
  only : after = { before with bitmap := after.bitmap, dirty := true }
  /-- The bits behind the last block stay. -/
  behind : ∀ block, before.geometry.blockCount ≤ block →
    after.bitmap.bits.test block = before.bitmap.bits.test block

/-- Giving a run of blocks a value leaves the bits behind the last block. -/
theorem Fills.test_behind {value : Bool} {block : Nat} (fills : Fills value start count before after)
    (behind : before.geometry.blockCount ≤ block) :
    after.bitmap.bits.test block = before.bitmap.bits.test block := by
  have inside := fills.inside
  rw [fills.filled.test, if_neg (by omega)]

/-- Taking a run adds it to the blocks in use. -/
theorem Fills.becomes_taken (fills : Fills true start count before after)
    (consistent : before.Consistent) :
    Becomes before (before.inUse ∪ Finset.Ico start (start + count)) after := by
  have within : start + count ≤ before.bitmap.total := consistent.total ▸ fills.inside
  exact ⟨Bitmap.markedBlocks_of_marked fills.same within fills.filled, fills.only,
    fun _ => fills.test_behind⟩

/-- Freeing a run removes it from the blocks in use. -/
theorem Fills.becomes_freed (fills : Fills false start count before after) :
    Becomes before (before.inUse \ Finset.Ico start (start + count)) after :=
  ⟨Bitmap.markedBlocks_of_cleared fills.same fills.filled, fills.only, fun _ => fills.test_behind⟩

/-- A run that may be offered has no block in use. -/
theorem disjoint_of_offers {run : Bitmap.Run} (offers : allocator.bitmap.Offers count run) :
    Disjoint (Finset.Ico run.start (run.start + run.length)) allocator.inUse := by
  rw [Finset.disjoint_left]
  intro block known used
  obtain ⟨behind, before⟩ := Finset.mem_Ico.1 known
  have isFree := offers.free block behind before
  rw [(Bitmap.mem_markedBlocks.1 used).2] at isFree
  exact nomatch isFree

/-- A request leaves the bits behind the last block. -/
theorem Moves.test_behind {block : Nat} (moves : Moves before after)
    (behind : before.geometry.blockCount ≤ block) :
    after.bitmap.bits.test block = before.bitmap.bits.test block := by
  rcases moves with ⟨_, _, _, rfl⟩ | ⟨_, _, _, fills⟩
  · rfl
  · exact fills.test_behind behind

/-- A check or a sync leaves the bitmap, also when it fails. -/
theorem bitmap_of_leaves {disk : Disk δ} {request : Request} {left : Attached Allocator δ}
    (stores : request = .sync ∨ ∃ mode, request = .check mode)
    (leaves : (serve partition request).Leaves { memory := allocator, disk } left) :
    left.memory.bitmap = allocator.bitmap := by
  have resealed : Resealed allocator left.memory := by
    rcases stores with rfl | ⟨mode, rfl⟩
    · exact (ends_sync_resealed disk).of_leaves leaves
    · rcases leaves with ⟨_, checks⟩ | ⟨_, fails⟩
      · cases checks
        exact resealed_check allocator mode
      · exact nomatch fails
  obtain ⟨_, _, _, same⟩ := resealed
  rw [same]

/-- An allocator stands for the set of the blocks in use, after any requests and however it was
obtained. It reports the size of this set and of the rest; a run is occupied if it is a part of the
set, and available if it is apart from it. A run of the volume is added to the set or removed from
it on request, and one that leaves the volume is refused and nothing changes. An allocation always
returns: nothing, or a run that was free and is added. Checks and syncs leave the set, and no
request changes a bit behind the last block. -/
theorem represents_set (reachable : Reachable allocator) (partition : Partition) (disk : Disk δ) :
    allocator.used = allocator.inUse.card ∧
    allocator.free = allocator.geometry.blockCount - allocator.inUse.card ∧
    (∀ start count, allocator.occupied start count = true ↔
      start + count ≤ allocator.geometry.blockCount ∧
        Finset.Ico start (start + count) ⊆ allocator.inUse) ∧
    (∀ start count, allocator.available start count = true ↔
      start + count ≤ allocator.geometry.blockCount ∧
        Disjoint (Finset.Ico start (start + count)) allocator.inUse) ∧
    (∀ start count, start + count ≤ allocator.geometry.blockCount →
      (∃ taken, serve partition (.occupy start count) { memory := allocator, disk } =
          .ok () { memory := taken, disk } ∧
        Becomes allocator (allocator.inUse ∪ Finset.Ico start (start + count)) taken) ∧
      ∃ freed, serve partition (.release start count) { memory := allocator, disk } =
          .ok () { memory := freed, disk } ∧
        Becomes allocator (allocator.inUse \ Finset.Ico start (start + count)) freed) ∧
    (∀ start count, allocator.geometry.blockCount < start + count →
      ∃ error : Error, error.kind = .invalidInput ∧
        serve partition (.occupy start count) { memory := allocator, disk } =
          .error error { memory := allocator, disk } ∧
        serve partition (.release start count) { memory := allocator, disk } =
          .error error { memory := allocator, disk }) ∧
    (∀ count, ∃ run after, allocator.allocate count = .ok (run, after) ∧
      serve partition (.allocate count) { memory := allocator, disk } =
        .ok () { memory := after, disk } ∧
      ((run = ⟨0, 0⟩ ∧ after = allocator) ∨
        (0 < run.length ∧ run.start + run.length ≤ allocator.geometry.blockCount ∧
          Disjoint (Finset.Ico run.start (run.start + run.length)) allocator.inUse ∧
          Becomes allocator (allocator.inUse ∪ Finset.Ico run.start (run.start + run.length))
            after))) ∧
    ∀ request left, (serve partition request).Leaves { memory := allocator, disk } left →
      (request = .sync ∨ (∃ mode, request = .check mode) →
        left.memory.bitmap = allocator.bitmap) ∧
      ∀ block, allocator.geometry.blockCount ≤ block →
        left.memory.bitmap.bits.test block = allocator.bitmap.bits.test block := by
  have consistent := reachable.consistent
  have card : allocator.used = allocator.inUse.card := consistent.counted.card_markedBlocks.symm
  refine ⟨card, ?_, fun start count => ?_, fun start count => ?_, fun start count inside => ⟨?_, ?_⟩,
    fun start count outside => ?_, fun count => ?_, fun request left leaves =>
      ⟨fun stores => bitmap_of_leaves stores leaves, fun block behind => ?_⟩⟩
  · show allocator.bitmap.total - allocator.used = _
    rw [consistent.total, card]
  · rw [← consistent.total]
    exact consistent.counted.allMarked_iff
  · rw [← consistent.total]
    exact consistent.counted.allCleared_iff
  · obtain ⟨taken, occupies, fills⟩ := consistent.exists_occupy inside
    refine ⟨taken, ?_, fills.becomes_taken consistent⟩
    simp only [serve, AttachedM.tryRevise, occupies]
  · obtain ⟨freed, releases, fills⟩ := consistent.exists_release inside
    refine ⟨freed, ?_, fills.becomes_freed⟩
    simp only [serve, AttachedM.tryRevise, releases]
  · obtain ⟨occupies, releases⟩ := consistent.refused outside
    refine ⟨.atBlock .beyondBitmap start, rfl, ?_, ?_⟩
    · simp only [serve, AttachedM.tryRevise, occupies]
    · simp only [serve, AttachedM.tryRevise, releases]
  · obtain ⟨run, after, allocates, outcome⟩ := consistent.exists_allocate count
    refine ⟨run, after, allocates, ?_, outcome.imp_right fun taken => ?_⟩
    · simp only [serve, AttachedM.tryRevise, allocates, Except.map]
    · obtain ⟨offers, fills⟩ := taken
      exact ⟨offers.positive, fills.inside, disjoint_of_offers offers,
        fills.becomes_taken consistent⟩
  · exact ((consistent.ends_serve request disk).of_leaves leaves).test_behind behind

/-- An allocator of three blocks, packed. Bits are set behind the last block. -/
def Sample.packed : Bytes :=
  LittleEndian.encode64 3 ++ LittleEndian.encode32 0 ++ 0xF9 :: List.replicate 507 0xFF

/-- The allocator that is unpacked. -/
def Sample.stray : Allocator where
  geometry := { blockSize := 512, blockCount := 3 }
  bitmap := { total := 3, marked := 1, bits := ⟨#[0xF9]⟩ }
  sums := #[0]
  dirty := true

/-- In the unpacked allocator one block is in use. An allocation takes the others, and leaves the
bits behind them. -/
theorem represents_set_sample : ∃ rest, unpack 512 Sample.packed = .ok Sample.stray rest ∧
    Sample.stray.inUse = {0} ∧ Sample.stray.used = 1 ∧ Sample.stray.free = 2 ∧
    ∃ after, Sample.stray.allocate 5 = .ok (⟨1, 2⟩, after) ∧ after.inUse = {0, 1, 2} ∧
      after.bitmap.bits.test 3 = true := by
  have outcome : (match unpack 512 Sample.packed with
      | .ok allocator _ => some allocator
      | .error _ _ => none) = some Sample.stray := by decide +kernel
  have first : (Sample.stray.allocate 5).toOption.map Prod.fst = some ⟨1, 2⟩ := by decide +kernel
  have held : Sample.stray.inUse = {0} := by decide +kernel
  cases unpacks : unpack 512 Sample.packed with
  | error error rest =>
    rw [unpacks] at outcome
    exact nomatch outcome
  | ok allocator rest =>
    rw [unpacks] at outcome
    cases outcome
    obtain ⟨used, free, _, _, _, _, allocates, _⟩ :=
      represents_set (.unpacked unpacks) Sample.whole Sample.start.disk
    obtain ⟨run, after, takes, _, outcome⟩ := allocates 5
    rw [takes] at first
    obtain rfl : run = ⟨1, 2⟩ := Option.some.inj first
    rcases outcome with ⟨same, _⟩ | ⟨_, _, _, becomes⟩
    · exact nomatch same
    · refine ⟨rest, rfl, held, ?_, ?_, after, takes, ?_, ?_⟩
      · rw [used, held]
        rfl
      · rw [free, held]
        rfl
      · rw [becomes.inUse_eq, held]
        decide
      · rw [becomes.behind 3 le_rfl]
        decide +kernel

end Allocator

end JournaledVolume
