import JournaledVolume.Proofs.FixedBlocks
import JournaledVolume.Proofs.WriteProtection

/-!
# What a replay does to the journal pointers

No block that an accepted journal occupies is one of the two blocks of its pointers, since those are
fixed. The homes of its entries are another matter: they may be fixed blocks, as the bitmap blocks
have to be, and an inspection does not keep them off the pointers. A copy to such a home overwrites
a pointer before the replay is done. Pointers that no entry names as a home keep what they hold
until the final sync.
-/

namespace JournaledVolume

open JournaledVolume.Action

namespace Torn

variable {reached : Nat} {whole more part : List Effect}

/-- What breaks off within the first effects has nothing of the others. -/
theorem of_append (torn : Torn reached (whole ++ more) part) (short : part.length ≤ whole.length) :
    Torn reached whole part := by
  induction whole generalizing part with
  | nil =>
    rw [List.length_nil, Nat.le_zero] at short
    rw [List.eq_nil_of_length_eq_zero short]
    exact .nothing []
  | cons effect whole ih =>
    cases torn with
    | nothing => exact .nothing _
    | last => exact .last _ _
    | step _ rest => exact .step _ (ih rest (Nat.le_of_succ_le_succ short))

/-- Of writes with a flush behind them, the writes that have reached the device are a part. -/
theorem filter_isWrite (torn : Torn reached (whole ++ [.flush]) part)
    (writes : ∀ effect ∈ whole, effect.isWrite = true) :
    Torn reached whole (part.filter Effect.isWrite) := by
  induction whole generalizing part with
  | nil =>
    cases torn with
    | nothing => exact .nothing []
    | last => exact .nothing []
    | step _ rest =>
      cases rest
      exact .nothing []
  | cons effect whole ih =>
    obtain ⟨first, later⟩ := List.forall_mem_cons.1 writes
    cases torn with
    | nothing => exact .nothing _
    | last =>
      have cut : (effect.cut reached).isWrite = true := by
        cases effect with
        | write => rfl
        | flush => exact nomatch first
      rw [List.filter_cons_of_pos cut]
      exact .last _ _
    | step _ rest =>
      rw [List.filter_cons_of_pos first]
      exact .step _ (ih rest later)

end Torn

/-- Effects that have all reached a device are a part of themselves. -/
theorem Store.Added.cut_of_all {first last : Store} {effects : List Effect}
    (added : first.Added last effects) : first.Cut last effects := by
  have whole : Torn 0 (effects ++ []) (effects ++ []) := .append_left (.nothing [])
  rw [List.append_nil] at whole
  exact ⟨0, effects, whole, added⟩

namespace Journal

variable {partition : Partition} {content : Content} {entries : List WanderEntry} {reached : Nat}
  {part : List Effect} {kept : List Address}

/-- Whether the copies of a replay treat a block as a home and nothing else. -/
structure OnlyHome (partition : Partition) (content : Content) (journal : Journal)
    (older : List Logged) (newest : Logged) (block : Address) : Prop where
  /-- It is none of the blocks that the journal occupies. -/
  unoccupied : block ∉ (older ++ [newest]).flatMap Logged.blocks
  /-- Behind some copies it holds what the last of them for this block has brought, or what it held
  before. -/
  copied : ∀ count ≤ ((older ++ [newest]).flatMap Logged.entries).length,
    partition.image (content.afterAll
        ((journal.replayWrites partition (partition.image content) older newest).take count))
      block.toNat =
    Image.restore (partition.image content)
      (((older ++ [newest]).flatMap Logged.entries).take count) block.toNat
  /-- If no entry names it, it keeps what it holds until all copies are done, also when a copy
  breaks off. -/
  kept : block ∉ (older ++ [newest]).flatMap Logged.homes → ∀ reached part,
    Torn reached (journal.replayWrites partition (partition.image content) older newest) part →
    part.length ≤ ((older ++ [newest]).flatMap Logged.entries).length →
    partition.image (content.afterAll part) block.toNat = partition.image content block.toNat

/-- Whatever a part of copies to other blocks leaves, a block is as before. -/
theorem image_of_torn_copies (sectored : partition.Sectored)
    (apart : ∀ entry ∈ entries, entry.home ∉ kept)
    (torn : Torn reached
      (entries.map (WanderEntry.copyEffect partition (partition.image content))) part) :
    ∀ block ∈ kept, partition.image (content.afterAll part) block.toNat =
      partition.image content block.toNat := by
  have pieces : ∀ entry ∈ entries, ∀ size, (partition.blockWrite entry.home.toNat
      ((partition.image content entry.wandered.toNat).take size)).Spares partition kept := by
    intro entry listed size
    apply Effect.spares_blockWrite sectored _ (apart entry listed)
    exact (List.length_take_le' _ _).trans (Partition.length_image _ _).le
  refine Effect.image_afterAll (torn.spares ?_ ?_)
  · refine List.forall_mem_map.2 fun entry listed => ?_
    have whole := pieces entry listed (partition.image content entry.wandered.toNat).length
    rwa [List.take_length] at whole
  · exact List.forall_mem_map.2 pieces

end Journal

/-- The pointer blocks of a journal that lies in the usual place are fixed. -/
theorem Geometry.test_of_pointer {partition : Partition} {geometry : Geometry} {fixed : Bitmap}
    {journal : Journal} (valid : geometry.blockSize ∈ blockSizes)
    (fixes : geometry.fixedMetadata = .ok fixed) (length : partition.length = geometry.blockCount)
    (fits : journal.Fits partition) (located : journal.area = geometry.journalArea) :
    ∀ pointer ∈ [geometry.journalArea.header, geometry.journalArea.footer],
      fixed.test pointer.toNat = true := by
  obtain ⟨header, footer, _⟩ := journalArea_toNat valid
  have headerInside := fits.header
  have footerInside := fits.footer
  rw [located, length] at headerInside footerInside
  refine List.forall_mem_cons.2 ⟨?_, List.forall_mem_singleton.2 ?_⟩
  · exact (test_fixedMetadata fixes).2 ⟨headerInside, .inl (by omega)⟩
  · exact (test_fixedMetadata fixes).2 ⟨footerInside, .inl le_rfl⟩

/-! A volume of 200 blocks, on which one transaction waits to bring two blocks home: one to the
journal header, and the bitmap block. -/

namespace Sample.Committed

/-- The size of the volume. -/
def geometry : Geometry := { blockSize := 512, blockCount := 200 }

/-- The partition is the whole of a device. -/
def partition : Partition := { blockSize := 512, sectorSize := 512, offset := 0, size := 102400 }

/-- The first 133 blocks are the fixed metadata. -/
def fixed : Bitmap where
  total := 200
  marked := 133
  bits :=
    ⟨#[0xFF, 0xFF, 0xFF, 0xFF, 0xFF, 0xFF, 0xFF, 0xFF, 0xFF, 0xFF, 0xFF, 0xFF, 0xFF, 0xFF, 0xFF,
      0xFF, 0x1F, 0, 0, 0, 0, 0, 0, 0, 0]⟩

/-- The bitmap block that was committed has the fixed metadata in use. -/
def allocator : Allocator where
  geometry
  bitmap := fixed
  sums := #[geometry.segmentSum (Bits.zeros 25) 0]
  dirty := true

/-- The log record names the journal header and the bitmap block as homes. -/
def record : LogRecord := { id := 7, total := 1, next := 150, entries := [⟨131, 152⟩, ⟨130, 153⟩] }

/-- The transaction that waits. -/
def logged : Logged where
  transaction :=
    { address := 150
      header := { id := 7, total := 4, firstRecord := 151, counters := ⟨67, 7, 65543⟩ } }
  records := [(151, record)]

/-- The handle of the journal. -/
def journal : Journal where
  area := geometry.journalArea
  blockSize := 512
  header := { lastCommitted := 150 }
  footer := {}
  dirty := false

/-- The device held zeros before the blocks of the journal were written. -/
def disk : Disk Store where
  device :=
    { shape := { sectorSize := 512, blockSize := 512, totalBlocks := 200 }
      start := fun _ => 0
      effects :=
        [partition.blockWrite 131 (journal.header.encode 512),
          partition.blockWrite 150 (logged.transaction.header.encode 512),
          partition.blockWrite 151 (record.encode 512),
          partition.blockWrite 152 (List.replicate 512 42),
          partition.blockWrite 153 (allocator.blockImage 0)] }

/-- The partition lies on the device. -/
theorem lies : partition.LiesOn disk.device.shape :=
  ⟨⟨by decide, by decide⟩, rfl, rfl, by decide⟩

/-- The device serves every request. -/
theorem serves : disk.device.Serves := ⟨⟨fun _ _ => rfl⟩, rfl⟩

/-- The fixed metadata are those of the volume. -/
theorem fixes : geometry.fixedMetadata = .ok fixed := by decide +kernel

/-- The header of the transaction is on disk. -/
theorem txHeaderAt_eq :
    partition.txHeaderAt (disk.image partition) 150 = some logged.transaction.header := by
  decide +kernel

/-- So is its log record. -/
theorem recordAt_eq : partition.recordAt (disk.image partition) 151 = some record := by
  decide +kernel

/-- The transaction is the pending one. -/
theorem pends : journal.Pends partition (disk.image partition) [logged] := by
  refine ⟨.link (by decide) txHeaderAt_eq List.not_mem_nil .stop, List.forall_mem_singleton.2 ?_⟩
  exact .link (by decide) recordAt_eq (by decide) List.not_mem_nil .back

/-- The journal occupies four blocks. -/
theorem blocks_eq : [logged].flatMap Logged.blocks = [150, 151, 152, 153] := rfl

/-- Two blocks are home blocks. -/
theorem homes_eq : [logged].flatMap Logged.homes = [131, 130] := rfl

/-- The blocks are in order: the journal header may be a home. -/
theorem ordered : InOrder fixed partition.length [logged] := by
  constructor
  · rw [blocks_eq]
    decide
  · rw [blocks_eq]
    exact List.forall_mem_cons.2 ⟨by decide, List.forall_mem_cons.2 ⟨by decide,
      List.forall_mem_cons.2 ⟨by decide, List.forall_mem_singleton.2 (by decide)⟩⟩⟩
  · rw [blocks_eq]
    exact List.forall_mem_cons.2 ⟨by decide, List.forall_mem_cons.2 ⟨by decide,
      List.forall_mem_cons.2 ⟨by decide, List.forall_mem_singleton.2 (by decide)⟩⟩⟩
  · rw [homes_eq]
    exact List.forall_mem_cons.2 ⟨by decide, List.forall_mem_singleton.2 (by decide)⟩
  · exact List.forall_mem_singleton.2 (by decide)
  · rw [homes_eq, blocks_eq]
    exact List.forall_mem_cons.2 ⟨by decide, List.forall_mem_singleton.2 (by decide)⟩

/-- The volume is loaded, and its journal is accepted. -/
theorem exists_checked : ∃ opened checked,
    Journal.load partition geometry.journalArea disk = .ok journal opened ∧
    journal.check partition fixed .check opened =
      .ok ({ valid := 1, commitPoint := 150 }, journal) checked ∧
    checked.device.Serves ∧ checked.image partition = disk.image partition := by
  have stored : Journal.stored partition geometry.journalArea (disk.image partition) = journal := by
    decide +kernel
  have fits : journal.Fits partition := ⟨by decide, rfl, by decide, by decide⟩
  exact Journal.exists_checked fits stored rfl (by decide) pends ordered lies serves

end Sample.Committed

namespace Mount

variable {partition : Partition} {geometry : Geometry} {fixed : Bitmap} {mode : CheckMode}
  {journal handle : Journal} {inspection : Inspection} {opening opened checked : Disk Store}

/-- The pointers of a pending journal, loaded from the usual place, in which an inspection finds
nothing bad. However a replay ends, the block writes that have reached the device are its copies in
order and then the pointers, or a part of these. To the copies a pointer block is a home and nothing
else: unless an entry names it, it keeps what it holds until all copies are done. -/
theorem pointers_until_sync (superblock : Superblock) (objectIds : ObjectIds)
    (valid : geometry.check = .ok ()) (fixes : geometry.fixedMetadata = .ok fixed)
    (length : partition.length = geometry.blockCount)
    (lies : partition.LiesOn opening.device.shape)
    (loaded : Journal.load partition geometry.journalArea opening = .ok journal opened)
    (pending : journal.state = .pending)
    (checks : journal.check partition fixed mode opened = .ok (inspection, handle) checked)
    (clean : inspection.bad = none) :
    ∃ older newest, journal.Pends partition (checked.image partition) (older ++ [newest]) ∧
      (∀ after, (replay partition).Leaves
          { memory := { journal := handle, superblock, objectIds }, disk := checked } after →
        ∃ reached, Torn reached
          (journal.replayWrites partition (checked.image partition) older newest)
          (checked.written after.disk)) ∧
      ∀ pointer ∈ [geometry.journalArea.header, geometry.journalArea.footer],
        journal.OnlyHome partition checked.device.content older newest pointer := by
  have sizes := Geometry.blockSize_of_check valid
  obtain ⟨rfl, stored, checkedLies, older, newest, ready, ordered⟩ :=
    Journal.ready_of_loaded lies loaded pending checks clean
  have located : handle.area = geometry.journalArea := congrArg Journal.area stored
  have sectored : partition.Sectored := checkedLies.toSectored
  refine ⟨older, newest, ready.pends, fun after leaves => ?_, fun pointer named => ?_⟩
  · by_cases readOnly : checked.device.readOnly = true
    · rw [written_of_readOnly readOnly leaves]
      exact ⟨0, .nothing _⟩
    · have steady : Steady partition (checked.image partition)
          ((older ++ [newest]).flatMap Logged.blocks) checked :=
        ⟨checkedLies, Bool.eq_false_of_not_eq_true readOnly, fun _ _ => rfl⟩
      let mount : Mount := { journal := handle, superblock, objectIds }
      have state : mount.journal.state = .pending := pending
      have ends := (ends_replay state ready steady).mono
        (fun _ _ returned => returned.2.2.added.cut_of_all) fun _ _ broke => broke.2.cut
      obtain ⟨reached, part, torn, added⟩ := ends.of_leaves leaves
      rw [Journal.effects_replayTrace] at torn
      rw [Disk.written_of_added added]
      exact ⟨reached, torn.filter_isWrite Journal.isWrite_of_mem_replayWrites⟩
  · have isFixed : fixed.test pointer.toNat = true :=
      Geometry.test_of_pointer sizes fixes length ready.fits located pointer named
    refine ⟨fun used => ?_, fun count within => ?_, fun free reached part torn short => ?_⟩
    · rw [ordered.free pointer used] at isFixed
      exact nomatch isFixed
    · have copies : (handle.replayWrites partition (checked.image partition) older newest).take
          count = (((older ++ [newest]).flatMap Logged.entries).take count).map
            (WanderEntry.copyEffect partition (checked.image partition)) := by
        rw [Journal.replayWrites, List.take_append_of_le_length (by rwa [List.length_map]),
          List.map_take]
      refine Eq.trans ?_ (congrFun (image_after_copies sectored _) pointer.toNat)
      rw [← Disk.image, copies]
    · have within : Torn reached (((older ++ [newest]).flatMap Logged.entries).map
          (WanderEntry.copyEffect partition (checked.image partition))) part :=
        torn.of_append (by rwa [List.length_map])
      have apart : ∀ entry ∈ (older ++ [newest]).flatMap Logged.entries,
          entry.home ∉ [pointer] := by
        intro entry listed
        rw [List.mem_singleton]
        rintro rfl
        exact free (Logged.home_mem_homes listed)
      exact Journal.image_of_torn_copies sectored apart within pointer List.mem_cons_self

/-- On the sample volume no entry names the journal footer, so the copies leave it. -/
theorem pointers_until_sync_sample : ∃ checked : Disk Store,
    checked.image Sample.Committed.partition =
      Sample.Committed.disk.image Sample.Committed.partition ∧
    ∀ reached part, Torn reached (Sample.Committed.journal.replayWrites Sample.Committed.partition
        (checked.image Sample.Committed.partition) [] Sample.Committed.logged) part →
      part.length ≤ 2 →
      Sample.Committed.partition.image (checked.device.content.afterAll part) 132 =
        Sample.Committed.disk.image Sample.Committed.partition 132 := by
  obtain ⟨opened, checked, loads, checks, _, same⟩ := Sample.Committed.exists_checked
  obtain ⟨older, newest, pends, _, homes⟩ := pointers_until_sync (.fresh 512 200) {} rfl
    Sample.Committed.fixes rfl Sample.Committed.lies loads rfl checks rfl
  have known : older ++ [newest] = [] ++ [Sample.Committed.logged] := by
    rw [same] at pends
    exact pends.unique Sample.Committed.pends
  obtain ⟨rfl, one⟩ := List.append_inj' known rfl
  obtain rfl : newest = Sample.Committed.logged := List.singleton_inj.1 one
  have footer := homes 132 (by decide)
  refine ⟨checked, same, fun reached part torn short => ?_⟩
  have unnamed : 132 ∉ ([] ++ [Sample.Committed.logged]).flatMap Logged.homes := by
    rw [List.nil_append, Sample.Committed.homes_eq]
    decide
  rw [← same]
  exact footer.kept unnamed reached part torn short

/-- An inspection does not keep homes off the journal header: on the sample volume it finds nothing
bad, and the first copy of the replay overwrites the header. -/
theorem header_not_kept : ∃ opened checked inspection,
    Sample.Committed.geometry.check = .ok () ∧
    Sample.Committed.geometry.fixedMetadata = .ok Sample.Committed.fixed ∧
    Sample.Committed.partition.length = Sample.Committed.geometry.blockCount ∧
    Sample.Committed.partition.LiesOn Sample.Committed.disk.device.shape ∧
    Journal.load Sample.Committed.partition Sample.Committed.geometry.journalArea
      Sample.Committed.disk = .ok Sample.Committed.journal opened ∧
    Sample.Committed.journal.state = .pending ∧
    Sample.Committed.journal.check Sample.Committed.partition Sample.Committed.fixed .check opened =
      .ok (inspection, Sample.Committed.journal) checked ∧
    inspection.bad = none ∧
    Sample.Committed.journal.Pends Sample.Committed.partition
      (checked.image Sample.Committed.partition) [Sample.Committed.logged] ∧
    Sample.Committed.geometry.journalArea.header ∈ Sample.Committed.logged.homes ∧
    Sample.Committed.partition.image (checked.device.content.afterAll
        ((Sample.Committed.journal.replayWrites Sample.Committed.partition
          (checked.image Sample.Committed.partition) [] Sample.Committed.logged).take 1)) 131 ≠
      checked.image Sample.Committed.partition 131 := by
  obtain ⟨opened, checked, loads, checks, _, same⟩ := Sample.Committed.exists_checked
  have pends := Sample.Committed.pends
  rw [← same] at pends
  refine ⟨opened, checked, _, rfl, Sample.Committed.fixes, rfl, Sample.Committed.lies, loads, rfl,
    checks, rfl, pends, by decide, ?_⟩
  have copied : Sample.Committed.partition.image (checked.device.content.afterAll
      ((Sample.Committed.journal.replayWrites Sample.Committed.partition
        (checked.image Sample.Committed.partition) [] Sample.Committed.logged).take 1)) 131 =
      checked.image Sample.Committed.partition 152 :=
    congrFun (image_after_copies Sample.Committed.lies.toSectored [⟨131, 152⟩]) 131
  rw [copied, same]
  decide +kernel

end Mount

end JournaledVolume
