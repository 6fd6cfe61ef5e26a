import JournaledVolume.Proofs.BitmapRecords
import JournaledVolume.Proofs.Interruption
import Mathlib.Logic.Relation

/-!
# A clean allocator agrees with its disk

An allocator is created, loaded or unpacked, and then serves requests, some of which may fail. It
stays well formed, and whenever it is clean, the disk holds it: loading gives the same allocator,
checksums included. A sync that returns makes it clean.
-/

namespace JournaledVolume

open JournaledVolume.Action

namespace Allocator

variable {allocator : Allocator} {geometry : Geometry} {partition : Partition} {bitmap : Bitmap}

/-- Another bitmap of the same shape with the right count keeps an allocator well formed. -/
theorem WellFormed.of_bitmap (formed : allocator.WellFormed)
    (changed : bitmap.Counted ∧ allocator.bitmap.Matches bitmap) (dirty : Bool) :
    WellFormed { allocator with bitmap, dirty } :=
  ⟨formed.valid, formed.room, changed.2.total.trans formed.total,
    changed.2.size.trans formed.size, changed.1, formed.sums⟩

/-- So do as many other checksums. -/
theorem WellFormed.of_sums {sums : Array UInt32} (formed : allocator.WellFormed)
    (size : sums.size = allocator.sums.size) (dirty : Bool) :
    WellFormed { allocator with sums, dirty } :=
  ⟨formed.valid, formed.room, formed.total, formed.size, formed.counted, size.trans formed.sums⟩

/-- A new allocator is well formed and dirty. -/
theorem wellFormed_of_create (valid : geometry.check = .ok ())
    (created : create geometry = .ok allocator) :
    allocator.geometry = geometry ∧ allocator.WellFormed ∧ allocator.dirty = true := by
  cases zeros : Bitmap.zeros geometry.blockCount with
  | error error =>
    rw [create, zeros] at created
    exact nomatch created
  | ok bitmap =>
    have room := Bitmap.room_of_zeros zeros
    rw [Bitmap.zeros_of_room room] at zeros
    cases zeros
    rw [create, Bitmap.zeros_of_room room] at created
    cases created
    have size : (Bits.zeros (Bitmap.byteCount geometry.blockCount)).bytes.size =
        Bitmap.byteCount geometry.blockCount := Array.size_replicate
    have sums : ((List.range geometry.bitmapBlocks).map (geometry.segmentSum
        (Bits.zeros (Bitmap.byteCount geometry.blockCount)))).toArray.size =
          geometry.bitmapBlocks := by
      rw [List.size_toArray, List.length_map, List.length_range]
    exact ⟨rfl, ⟨Geometry.blockSize_of_check valid, room, rfl, size, Bitmap.counted_zeros _, sums⟩,
      rfl⟩

/-- A stored allocator is well formed. -/
theorem wellFormed_stored {image : Image} (valid : geometry.blockSize ∈ blockSizes)
    (room : Bitmap.checkRoom geometry.blockCount = .ok ())
    (full : ∀ block, (image block).length = geometry.blockSize) :
    (stored geometry image).WellFormed := by
  have bytes : (geometry.segmentsOn image geometry.bitmapBlocks).toArray.size =
      Bitmap.byteCount geometry.blockCount := by
    rw [List.size_toArray, Geometry.length_segmentsOn_all valid full]
  refine ⟨valid, room, rfl, bytes, Bitmap.counted_recount ?_, ?_⟩
  · show geometry.blockCount ≤ 8 * _
    rw [bytes]
    exact Bitmap.le_byteCount _
  · show (geometry.sumsOn image geometry.bitmapBlocks).toArray.size = _
    simp only [Geometry.sumsOn, List.size_toArray, List.length_map, List.length_range]
    rfl

/-- An unpacked allocator is well formed and dirty. -/
theorem ends_unpack (blockSize : Nat) (unread : Bytes) :
    Ends (unpack blockSize) unread
      (fun allocator _ => allocator.WellFormed ∧ allocator.dirty = true) fun _ _ => True := by
  refine (ends_unpack_records blockSize unread).mono ?_ fun _ _ _ => trivial
  rintro _ _ ⟨opens, rfl, _⟩
  have valid := Geometry.blockSize_of_check opens.accepted
  have full := Geometry.length_recordImage (packedVolume blockSize unread) (unread.drop 8)
  exact ⟨(wellFormed_stored valid opens.room full).of_sums rfl true, rfl⟩

/-- What an allocator can be asked for. -/
inductive Request where
  /-- A run of free blocks. -/
  | allocate (count : Nat)
  /-- Taking a run of blocks. -/
  | occupy (start count : Nat)
  /-- Freeing a run of blocks. -/
  | release (start count : Nat)
  /-- A check of the bitmap blocks. -/
  | check (mode : CheckMode)
  /-- Writing the bitmap blocks. -/
  | sync
deriving DecidableEq, Repr

/-- Serves a request. A request that fails in memory leaves the allocator. -/
def serve {δ : Type} [BlockDevice δ] (partition : Partition) : Request → AttachedM Allocator δ Unit
  | .allocate count =>
    AttachedM.tryRevise fun allocator => (allocator.allocate count).map Prod.snd
  | .occupy start count => AttachedM.tryRevise fun allocator => allocator.occupy start count
  | .release start count => AttachedM.tryRevise fun allocator => allocator.release start count
  | .check mode => AttachedM.revise fun allocator => (allocator.check mode).2
  | .sync => sync partition

/-- Whether a request leaves a state, when it is served or when it fails. -/
def Served (partition : Partition) (before after : Attached Allocator Store) : Prop :=
  ∃ request, (serve partition request).Leaves before after

/-- Whether a state is one in which an allocator for a volume was just made. -/
inductive Obtained (partition : Partition) :
    (geometry : Geometry) → Attached Allocator Store → Prop where
  /-- The allocator is new. -/
  | created {geometry : Geometry} {allocator : Allocator} {disk : Disk Store}
    (measured : partition.MeasuredBy disk.device.shape) (valid : geometry.check = .ok ())
    (creates : create geometry = .ok allocator) :
    Obtained partition geometry { memory := allocator, disk }
  /-- The allocator was loaded from the disk. -/
  | loaded {geometry : Geometry} {allocator : Allocator} {disk after : Disk Store}
    (measured : partition.MeasuredBy disk.device.shape) (valid : geometry.check = .ok ())
    (loads : load partition geometry disk = .ok allocator after) :
    Obtained partition geometry { memory := allocator, disk := after }
  /-- The allocator was unpacked from a stream. -/
  | unpacked {blockSize : Nat} {stream rest : Bytes} {allocator : Allocator} {disk : Disk Store}
    (measured : partition.MeasuredBy disk.device.shape)
    (unpacks : unpack blockSize stream = .ok allocator rest) :
    Obtained partition allocator.geometry { memory := allocator, disk }

/-- Whether an allocator is well formed and, when it is clean, stored. -/
structure Agrees (partition : Partition) (geometry : Geometry) (state : Attached Allocator Store) :
    Prop where
  /-- It is one for the volume. -/
  geometry_eq : state.memory.geometry = geometry
  /-- It is well formed. -/
  formed : state.memory.WellFormed
  /-- The partition has the units of the device. -/
  measured : partition.MeasuredBy state.disk.device.shape
  /-- When it is clean, its bitmap blocks can be read and hold it. -/
  stored : state.memory.dirty = false →
    Reached partition geometry state.disk.device.shape ∧
      stored geometry (state.disk.image partition) = state.memory

/-- An allocator that was just made agrees with its disk. -/
theorem Obtained.agrees {state : Attached Allocator Store}
    (obtained : Obtained partition geometry state) : Agrees partition geometry state := by
  cases obtained with
  | created measured valid creates =>
    obtain ⟨same, formed, dirty⟩ := wellFormed_of_create valid creates
    exact ⟨same, formed, measured, fun clean => nomatch clean.symm.trans dirty⟩
  | @loaded _ _ disk after measured valid loads =>
    have size := Geometry.blockSize_of_check valid
    obtain ⟨reached, rfl, ran⟩ := (ends_load measured size).of_ok loads
    have full (block : Nat) : (disk.image partition block).length = geometry.blockSize :=
      (Partition.length_image _ _).trans reached.same
    rw [← ran.shape] at measured reached
    refine ⟨rfl, wellFormed_stored size reached.room full, measured, fun _ => ?_⟩
    rw [ran.image rfl]
    exact ⟨reached, rfl⟩
  | unpacked measured unpacks =>
    obtain ⟨formed, dirty⟩ := (ends_unpack _ _).of_ok unpacks
    exact ⟨rfl, formed, measured, fun clean => nomatch clean.symm.trans dirty⟩

/-- Whether an operation in memory left an allocator or changed it to another that is dirty. -/
def Touched (before after : Allocator) : Prop :=
  after = before ∨
    (after.geometry = before.geometry ∧ after.WellFormed ∧ after.dirty = true)

/-- A change in memory keeps an allocator in agreement. -/
theorem Agrees.of_touched {disk : Disk Store} {changed : Allocator}
    (agrees : Agrees partition geometry { memory := allocator, disk })
    (touched : Touched allocator changed) :
    Agrees partition geometry { memory := changed, disk } := by
  rcases touched with rfl | ⟨same, formed, dirty⟩
  · exact agrees
  · exact ⟨same.trans agrees.geometry_eq, formed, agrees.measured,
      fun clean => nomatch clean.symm.trans dirty⟩

/-- Taking a run of blocks changes the allocator to a dirty one. -/
theorem touched_of_occupy {changed : Allocator} {start count : Nat} (formed : allocator.WellFormed)
    (occupies : allocator.occupy start count = .ok changed) : Touched allocator changed := by
  cases marks : allocator.bitmap.mark start count with
  | error error =>
    rw [occupy, marks] at occupies
    exact nomatch occupies
  | ok bitmap =>
    rw [occupy, marks] at occupies
    cases occupies
    exact .inr ⟨rfl, formed.of_bitmap (formed.counted.of_mark marks) true, rfl⟩

/-- Freeing a run of blocks changes the allocator to a dirty one. -/
theorem touched_of_release {changed : Allocator} {start count : Nat} (formed : allocator.WellFormed)
    (releases : allocator.release start count = .ok changed) : Touched allocator changed := by
  cases clears : allocator.bitmap.clear start count with
  | error error =>
    rw [release, clears] at releases
    exact nomatch releases
  | ok bitmap =>
    rw [release, clears] at releases
    cases releases
    exact .inr ⟨rfl, formed.of_bitmap (formed.counted.of_clear clears) true, rfl⟩

/-- An allocation takes a run of blocks, or leaves the allocator. -/
theorem touched_of_allocate {changed : Allocator} {count : Nat} (formed : allocator.WellFormed)
    (allocates : (allocator.allocate count).map Prod.snd = .ok changed) :
    Touched allocator changed := by
  cases found : allocator.bitmap.findRun? 0 count with
  | none =>
    rw [allocate, found] at allocates
    cases allocates
    exact .inl rfl
  | some run =>
    -- An allocation that finds a run is the request to occupy it.
    have occupies : (allocator.allocate count).map Prod.snd =
        allocator.occupy run.start run.length := by
      rw [allocate, found, occupy]
      cases marks : allocator.bitmap.mark run.start run.length <;> simp only [marks] <;> rfl
    exact touched_of_occupy formed (occupies.symm.trans allocates)

/-- Replacing the checksums of bad bitmap blocks changes checksums, and makes the allocator dirty if
there are any. -/
theorem exists_foldl_accept (allocator : Allocator) (bad : List Mismatch) :
    ∃ sums, sums.size = allocator.sums.size ∧ bad.foldl accept allocator =
      { allocator with sums, dirty := allocator.dirty || !bad.isEmpty } := by
  induction bad generalizing allocator with
  | nil => exact ⟨allocator.sums, rfl, by simp⟩
  | cons first bad ih =>
    obtain ⟨sums, size, all⟩ := ih (allocator.accept first)
    refine ⟨sums, size.trans Array.size_setIfInBounds, ?_⟩
    rw [List.foldl_cons, all]
    simp [accept]

/-- A check leaves the allocator, or replaces checksums. -/
theorem touched_check (formed : allocator.WellFormed) (mode : CheckMode) :
    Touched allocator (allocator.check mode).2 := by
  rw [check]
  split
  · exact .inl rfl
  · next some =>
    split
    · obtain ⟨sums, size, all⟩ := exists_foldl_accept allocator allocator.mismatches
      show Touched allocator (allocator.mismatches.foldl accept allocator)
      rw [all]
      refine .inr ⟨rfl, formed.of_sums size _, ?_⟩
      simp [some]
    · exact .inl rfl

/-- A sync keeps an allocator in agreement, also when it breaks off. When it returns, the allocator
is clean and has the same bitmap. -/
theorem Agrees.ends_sync {state : Attached Allocator Store}
    (agrees : Agrees partition geometry state) :
    Ends (sync partition) state (fun _ after => Agrees partition geometry after ∧
        after.memory.dirty = false ∧ after.memory.bitmap = state.memory.bitmap)
      fun _ after => Agrees partition geometry after := by
  have kept {after : Attached Allocator Store} {dirty : Bool}
      (only : Resummed { state with memory.dirty := dirty } after) :
      after.memory.geometry = geometry ∧ after.memory.WellFormed ∧
        partition.MeasuredBy after.disk.device.shape := by
    rw [only.memory, only.shape]
    exact ⟨agrees.geometry_eq, agrees.formed.of_sums only.size dirty, agrees.measured⟩
  cases dirty : state.memory.dirty with
  | false =>
    refine ends_get ?_
    show Ends (if state.memory.dirty then _ else _) _ _ _
    rw [dirty]
    exact ends_pure ⟨agrees, dirty, rfl⟩
  | true =>
    refine (Allocator.ends_sync agrees.formed agrees.measured dirty).mono ?_ ?_
    · rintro _ after ⟨reached, only, left⟩
      obtain ⟨same, formed, measured⟩ := kept only
      rw [agrees.geometry_eq] at reached left
      refine ⟨⟨same, formed, measured, fun _ => ⟨reached, left⟩⟩, ?_, ?_⟩
      · rw [only.memory]
      · rw [only.memory]
    · intro _ after only
      -- A sync clears the mark only at its end, so what breaks off is still dirty.
      have unchanged : after.memory.dirty = true := by
        rw [only.memory]
        exact dirty
      have still : Resummed { state with memory.dirty := true } after := by
        rw [← dirty]
        exact only
      obtain ⟨same, formed, measured⟩ := kept still
      exact ⟨same, formed, measured, fun clean => nomatch clean.symm.trans unchanged⟩

/-- A request keeps an allocator in agreement, also when it fails. -/
theorem Agrees.ends_serve {state : Attached Allocator Store}
    (agrees : Agrees partition geometry state) (request : Request) :
    Ends (serve partition request) state (fun _ after => Agrees partition geometry after)
      fun _ after => Agrees partition geometry after := by
  obtain ⟨allocator, disk⟩ := state
  cases request with
  | allocate count =>
    rw [serve]
    refine AttachedM.ends_tryRevise ?_ fun _ _ => agrees
    exact fun _ allocates => agrees.of_touched (touched_of_allocate agrees.formed allocates)
  | occupy start count =>
    rw [serve]
    refine AttachedM.ends_tryRevise ?_ fun _ _ => agrees
    exact fun _ occupies => agrees.of_touched (touched_of_occupy agrees.formed occupies)
  | release start count =>
    rw [serve]
    refine AttachedM.ends_tryRevise ?_ fun _ _ => agrees
    exact fun _ releases => agrees.of_touched (touched_of_release agrees.formed releases)
  | check mode => exact agrees.of_touched (touched_check agrees.formed mode)
  | sync => exact agrees.ends_sync.mono (fun _ _ synced => synced.1) fun _ _ broken => broken

/-- A run of requests keeps an allocator in agreement. -/
theorem Agrees.run {state last : Attached Allocator Store}
    (agrees : Agrees partition geometry state)
    (run : Relation.ReflTransGen (Served partition) state last) :
    Agrees partition geometry last := by
  -- A failed request counts like one that is served: what it leaves agrees as well.
  induction run with
  | refl => exact agrees
  | tail _ served ih =>
    obtain ⟨request, leaves⟩ := served
    exact (ih.ends_serve request).of_leaves leaves

/-- An allocator that was created, loaded or unpacked, and any requests to it, whichever calls to
the device go wrong. Whenever it is clean, loading from the disk without faults gives the same
allocator; and a sync that returns makes it clean and leaves its bitmap. -/
theorem load_of_clean {start last : Attached Allocator Store}
    (obtained : Obtained partition geometry start)
    (run : Relation.ReflTransGen (Served partition) start last) :
    (last.memory.dirty = false →
      ∃ after, load partition geometry last.disk.repaired = .ok last.memory after) ∧
      ∀ after, sync partition last = .ok () after →
        after.memory.dirty = false ∧ after.memory.bitmap = last.memory.bitmap := by
  have agrees := obtained.agrees.run run
  refine ⟨fun clean => ?_, fun after synced => (agrees.ends_sync.of_ok synced).2⟩
  obtain ⟨reached, stored⟩ := agrees.stored clean
  have valid : geometry.blockSize ∈ blockSizes := by
    rw [← agrees.geometry_eq]
    exact agrees.formed.valid
  rw [← stored]
  exact exists_load agrees.measured valid reached last.disk.sound_repaired

/-- The state that requests leave, one after another. -/
def afterRequests (partition : Partition) (requests : List Request)
    (state : Attached Allocator Store) : Attached Allocator Store :=
  requests.foldl
    (fun state request =>
      match serve partition request state with
      | .ok _ after => after
      | .error _ after => after)
    state

/-- Requests one after another are a run. -/
theorem run_afterRequests (partition : Partition) (requests : List Request)
    (state : Attached Allocator Store) :
    Relation.ReflTransGen (Served partition) state (afterRequests partition requests state) := by
  induction requests generalizing state with
  | nil => exact .refl
  | cons request requests ih =>
    cases served : serve partition request state with
    | ok value after =>
      refine .head ⟨request, .inl ⟨value, served⟩⟩ ?_
      rw [afterRequests, List.foldl_cons, served]
      exact ih after
    | error error after =>
      refine .head ⟨request, .inr ⟨error, served⟩⟩ ?_
      rw [afterRequests, List.foldl_cons, served]
      exact ih after

/-- A volume of 200 blocks, and one bitmap block. -/
def Sample.volume : Geometry := { blockSize := 512, blockCount := 200 }

/-- The volume is a whole device. -/
def Sample.whole : Partition :=
  { blockSize := 512, sectorSize := 512, offset := 0, size := 102400 }

/-- The allocator of the volume is new, and the device takes a part of a block at the first call. -/
def Sample.start : Attached Allocator Store where
  memory :=
    { geometry := Sample.volume
      bitmap := { total := 200, marked := 0, bits := Bits.zeros 25 }
      sums := #[Sample.volume.segmentSum (Bits.zeros 25) 0]
      dirty := true }
  disk :=
    { device :=
        { shape := { blockSize := 512, sectorSize := 512, totalBlocks := 200 }
          start := fun _ => 0
          plan := fun call =>
            if call = 0 then some { reached := 37, short := some 100 } else none } }

/-- Runs of blocks were taken, and a sync wrote a part of a block. -/
def Sample.broken : Attached Allocator Store :=
  afterRequests Sample.whole [.occupy 0 133, .allocate 5, .sync] Sample.start

/-- Another sync wrote the block. -/
def Sample.synced : Attached Allocator Store :=
  afterRequests Sample.whole [.sync] Sample.broken

/-- The small volume is dirty when a sync has written a part of a block. When another one has
written the block it is clean, and is loaded as it is. -/
theorem load_of_clean_sample : Sample.broken.memory.dirty = true ∧
    Sample.synced.memory.dirty = false ∧ Sample.synced.memory.used = 138 ∧
    ∃ after, load Sample.whole Sample.volume Sample.synced.disk.repaired =
      .ok Sample.synced.memory after := by
  have measured : Sample.whole.MeasuredBy Sample.start.disk.device.shape :=
    ⟨⟨by decide, by decide⟩, rfl, rfl⟩
  have obtained : Obtained Sample.whole Sample.volume Sample.start := .created measured rfl rfl
  have run : Relation.ReflTransGen (Served Sample.whole) Sample.start Sample.synced :=
    (run_afterRequests _ _ _).trans (run_afterRequests _ _ _)
  have clean : Sample.synced.memory.dirty = false := by
    decide +kernel
  exact ⟨by decide +kernel, clean, by decide +kernel, (load_of_clean obtained run).1 clean⟩

end Allocator

end JournaledVolume
