import JournaledVolume.Proofs.PointerBlocks
import JournaledVolume.Proofs.Retirement
import JournaledVolume.Proofs.Verdicts

/-!
# An allocator that is committed through the journal

A transaction that changes the bitmap brings new bitmap blocks with it. Their homes are fixed
blocks, which an inspection has to allow. When each bitmap block of an allocator is what its newest
pending entry holds, or is at home already, then this is the allocator that is loaded once the
volume is in service: it has the same bitmap and the same count, and no bad checksum.
-/

namespace JournaledVolume

open JournaledVolume.Action

namespace WanderEntry

variable {image : Image} {entries : List WanderEntry} {entry : WanderEntry} {block : Nat}

/-- Whether an entry is the newest for its home block among entries from old to new. -/
def Newest (entries : List WanderEntry) (entry : WanderEntry) : Prop :=
  ∃ older newer, entries = older ++ entry :: newer ∧ ∀ later ∈ newer, later.home ≠ entry.home

/-- Of the entries that name a home block, one is the newest. -/
theorem exists_newest (named : ∃ entry ∈ entries, entry.home.toNat = block) :
    ∃ entry, Newest entries entry ∧ entry.home.toNat = block := by
  induction entries using List.reverseRecOn with
  | nil => simp at named
  | append_singleton entries last ih =>
    by_cases here : last.home.toNat = block
    · exact ⟨last, ⟨entries, [], rfl, by simp⟩, here⟩
    · have before : ∃ entry ∈ entries, entry.home.toNat = block := by
        simpa [here] using named
      obtain ⟨entry, ⟨older, newer, rfl, none⟩, home⟩ := ih before
      have still : ∀ later ∈ newer ++ [last], later.home ≠ entry.home := by
        intro later listed
        rcases List.mem_append.1 listed with early | late
        · exact none later early
        · rw [List.mem_singleton.1 late]
          intro same
          rw [same] at here
          exact here home
      exact ⟨entry, ⟨older, newer ++ [last], by simp, still⟩, home⟩

/-- The newest entry for a home block decides what a replay leaves there. -/
theorem Newest.restore_eq (newest : Newest entries entry) :
    image.restore entries entry.home.toNat = image entry.wandered.toNat := by
  obtain ⟨older, newer, rfl, none⟩ := newest
  have passed : newer.reverse.find? (fun later => later.home.toNat = entry.home.toNat) =
      Option.none := by
    apply List.find?_eq_none.2
    intro later listed
    have differs := none later (List.mem_reverse.1 listed)
    simpa [UInt64.toNat_inj] using differs
  rw [Image.restore, List.reverse_append, List.reverse_cons, List.append_assoc, List.find?_append,
    passed]
  simp

/-- A block that no entry names as a home is as before. -/
theorem restore_of_unnamed (unnamed : ∀ entry ∈ entries, entry.home.toNat ≠ block) :
    image.restore entries block = image block := by
  have nothing : entries.reverse.find? (fun entry => entry.home.toNat = block) = none := by
    apply List.find?_eq_none.2
    intro entry listed
    simpa using unnamed entry (List.mem_reverse.1 listed)
  rw [Image.restore, nothing]

end WanderEntry

namespace Allocator

variable {partition : Partition} {geometry : Geometry} {image : Image} {allocator : Allocator}
  {entries : List WanderEntry}

/-- Whether entries from old to new, with what is at home already, commit the bitmap blocks of an
allocator. -/
structure Committed (partition : Partition) (image : Image) (entries : List WanderEntry)
    (allocator : Allocator) : Prop where
  /-- The newest entry for a bitmap block holds it. -/
  wandered : ∀ index < allocator.geometry.bitmapBlocks, ∀ entry, WanderEntry.Newest entries entry →
    entry.home.toNat = allocator.geometry.bitmapBlock index →
    image entry.wandered.toNat = allocator.blockImage index
  /-- A bitmap block that no entry names is on disk. -/
  atHome : ∀ index < allocator.geometry.bitmapBlocks,
    (∀ entry ∈ entries, entry.home.toNat ≠ allocator.geometry.bitmapBlock index) →
    allocator.geometry.bitmapBlock index < partition.length ∧
      image (allocator.geometry.bitmapBlock index) = allocator.blockImage index

/-- Once the entries are at home, each bitmap block is on disk. -/
theorem Committed.restored (committed : allocator.Committed partition image entries)
    (inside : ∀ entry ∈ entries, entry.home.toNat < partition.length) :
    ∀ index < allocator.geometry.bitmapBlocks,
      allocator.geometry.bitmapBlock index < partition.length ∧
        image.restore entries (allocator.geometry.bitmapBlock index) =
          allocator.blockImage index := by
  intro index within
  by_cases named : ∃ entry ∈ entries, entry.home.toNat = allocator.geometry.bitmapBlock index
  · obtain ⟨entry, newest, home⟩ := WanderEntry.exists_newest named
    have listed : entry ∈ entries := by
      obtain ⟨older, newer, rfl, _⟩ := newest
      simp
    rw [← home]
    refine ⟨inside entry listed, ?_⟩
    rw [newest.restore_eq, committed.wandered index within entry newest home]
  · have unnamed : ∀ entry ∈ entries,
        entry.home.toNat ≠ allocator.geometry.bitmapBlock index := by
      intro entry listed same
      exact named ⟨entry, listed, same⟩
    rw [WanderEntry.restore_of_unnamed unnamed]
    exact committed.atHome index within unnamed

/-- An allocator that is on disk is loaded with its bitmap, and verifies. -/
theorem exists_load_of_written {disk : Disk Store} (formed : allocator.WellFormed)
    (same : partition.blockSize = allocator.geometry.blockSize)
    (lies : partition.LiesOn disk.device.shape) (sound : disk.device.Sound)
    (written : ∀ index < allocator.geometry.bitmapBlocks,
      allocator.geometry.bitmapBlock index < partition.length ∧
        disk.image partition (allocator.geometry.bitmapBlock index) =
          allocator.blockImage index) :
    ∃ loaded after, load partition allocator.geometry disk = .ok loaded after ∧
      loaded.bitmap = allocator.bitmap ∧ loaded.verify = .ok () := by
  have reached : Reached partition allocator.geometry disk.device.shape :=
    ⟨same, formed.room, fun index within => lies.reaches (written index within).1⟩
  obtain ⟨after, loads⟩ := exists_load lies.measuredBy formed.valid reached sound
  have held := stored_of_written formed fun index within => (written index within).2
  rw [held] at loads
  refine ⟨_, after, loads, rfl, verify_of_sums fun index within => ?_⟩
  have small : index < allocator.geometry.bitmapBlocks := within
  simp only [recordedSum, segmentSum, Array.getD_eq_getD_getElem?, List.getElem?_toArray,
    List.getElem?_map, List.getElem?_range small, Option.map_some, Option.getD_some]

end Allocator

namespace Sample.Committed

/-- The allocator is a new one that was asked to take the fixed metadata. -/
theorem reachable : Allocator.Reachable allocator := by
  have outcome : (Allocator.create geometry).toOption.bind
      (fun fresh => (fresh.occupy 0 133).toOption) = some allocator := by
    decide +kernel
  exact Allocator.reachable_of_occupy outcome

/-- The transaction has the bitmap block of the allocator. -/
theorem committed :
    allocator.Committed partition (disk.image partition) ([logged].flatMap Logged.entries) := by
  have entries : [logged].flatMap Logged.entries = [⟨131, 152⟩, ⟨130, 153⟩] := rfl
  have full : (allocator.blockImage 0).length = partition.blockSize :=
    Allocator.length_blockImage (by decide) 0
  -- The bitmap block was the last block written, behind the four others.
  have wrote : disk.image partition = Function.update
      (partition.image (disk.device.start.afterAll (disk.device.effects.take 4))) 153
      (allocator.blockImage 0) := Partition.image_after_blockWrite lies.toSectored full
  have held : disk.image partition 153 = allocator.blockImage 0 := by
    rw [wrote, Function.update_self]
  have one : allocator.geometry.bitmapBlocks = 1 := by decide
  constructor
  · intro index within entry newest home
    have first : index = 0 := by omega
    subst first
    have listed : entry ∈ [logged].flatMap Logged.entries := by
      obtain ⟨older, newer, spelled, _⟩ := newest
      simp [spelled]
    rw [entries] at listed
    have known : entry = ⟨130, 153⟩ := by
      rcases List.mem_pair.1 listed with rfl | rfl
      · exact absurd home (by decide)
      · rfl
    rw [known]
    exact held
  · intro index within unnamed
    have first : index = 0 := by omega
    subst first
    exact absurd rfl (unnamed ⟨130, 153⟩ (by decide))

end Sample.Committed

namespace Mount

variable {partition : Partition} {geometry : Geometry} {fixed : Bitmap} {mode : CheckMode}
  {journal handle : Journal} {inspection : Inspection} {opening opened checked disk : Disk Store}
  {older all : List Logged} {newest : Logged} {allocator : Allocator}

/-- The allocator of a volume is committed through a pending journal, loaded from the usual place,
in which an inspection finds nothing bad. On a device that serves all requests the activation
returns, and then the allocator is loaded: it has the same bitmap, and so as many blocks in use, and
it verifies. -/
theorem load_after_activate (superblock : Superblock) (objectIds : ObjectIds)
    (valid : geometry.check = .ok ()) (reachable : Allocator.Reachable allocator)
    (sized : allocator.geometry = geometry) (same : partition.blockSize = geometry.blockSize)
    (lies : partition.LiesOn opening.device.shape)
    (loaded : Journal.load partition geometry.journalArea opening = .ok journal opened)
    (pending : journal.state = .pending)
    (checks : journal.check partition fixed mode opened = .ok (inspection, handle) checked)
    (clean : inspection.bad = none) (serves : checked.device.Serves)
    (pends : journal.Pends partition (checked.image partition) all)
    (committed : allocator.Committed partition (checked.image partition)
      (all.flatMap Logged.entries)) :
    ∃ report after found last,
      activate partition
        { memory := { journal := handle, superblock, objectIds }, disk := checked } =
          .ok report after ∧
      Allocator.load partition geometry after.disk = .ok found last ∧
      found.bitmap = allocator.bitmap ∧ found.used = allocator.used ∧ found.verify = .ok () := by
  subst sized
  have sizes := Geometry.blockSize_of_check valid
  have formed : allocator.WellFormed := reachable.consistent.wellFormed sizes
  obtain ⟨rfl, stored, checkedLies, older, newest, ready, ordered⟩ :=
    Journal.ready_of_loaded lies loaded pending checks clean
  have located : handle.area = allocator.geometry.journalArea := congrArg Journal.area stored
  obtain rfl := pends.unique ready.pends
  obtain ⟨after, activates, lying, still, _, image⟩ :=
    exists_activate { journal := handle, superblock, objectIds } pending ready checkedLies serves
  have inside : ∀ entry ∈ (older ++ [newest]).flatMap Logged.entries,
      entry.home.toNat < partition.length := by
    intro entry listed
    exact (ordered.homes_named entry.home (Logged.home_mem_homes listed)).2
  have written : ∀ index < allocator.geometry.bitmapBlocks,
      allocator.geometry.bitmapBlock index < partition.length ∧
        after.disk.image partition (allocator.geometry.bitmapBlock index) =
          allocator.blockImage index := by
    intro index within
    obtain ⟨placed, restored⟩ := committed.restored inside index within
    obtain ⟨header, footer⟩ := Geometry.bitmapBlock_ne_pointers sizes index
    rw [← located] at header footer
    rw [image _ header footer]
    exact ⟨placed, restored⟩
  obtain ⟨found, last, loads, bits, verifies⟩ :=
    Allocator.exists_load_of_written formed same lying still.toSound written
  refine ⟨_, after, found, last, activates, loads, bits, ?_, verifies⟩
  rw [Allocator.used, bits, Allocator.used]

/-- On the sample volume the allocator is loaded with the fixed metadata in use. -/
theorem load_after_activate_sample : ∃ checked : Disk Store, ∃ report after found last,
    activate Sample.Committed.partition
        { memory :=
            { journal := Sample.Committed.journal, superblock := .fresh 512 200, objectIds := {} }
          disk := checked } = .ok report after ∧
      Allocator.load Sample.Committed.partition Sample.Committed.geometry after.disk =
        .ok found last ∧
      found.bitmap = Sample.Committed.fixed ∧ found.used = 133 ∧ found.verify = .ok () := by
  obtain ⟨opened, checked, loads, checks, serves, same⟩ := Sample.Committed.exists_checked
  have pends := Sample.Committed.pends
  have committed := Sample.Committed.committed
  rw [← same] at pends committed
  exact ⟨checked, load_after_activate (.fresh 512 200) {} rfl Sample.Committed.reachable rfl rfl
    Sample.Committed.lies loads rfl checks rfl serves pends committed⟩

end Mount

end JournaledVolume
