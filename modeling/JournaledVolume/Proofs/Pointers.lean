import JournaledVolume.Journal.Basic
import JournaledVolume.Proofs.Encoding
import JournaledVolume.Proofs.Requests

/-!
# The journal pointers on disk

Loading a journal gives the handle that its two blocks hold. Writing a handle writes these blocks,
the header first; where each is in place, the handle is what a later load gives. A write that breaks
off leaves an old handle with the same header, unless something of the footer has reached the
device.

A partition that is measured in the units of its device may still be longer than the device. A
handle is `Placed` when the device has both of its blocks.
-/

namespace JournaledVolume

open JournaledVolume.Action

/-- The sizes that a block may have leave room for the journal pointers. -/
theorem room_of_mem_blockSizes {size : Nat} (valid : size ∈ blockSizes) : 32 ≤ size := by
  simp only [blockSizes, List.mem_cons, List.not_mem_nil, or_false] at valid
  omega

/-- Bytes that are overwritten from the front keep a front that is the same in both. -/
theorem take_overwrite {count : Nat} {bytes old : Bytes} (same : bytes.take count = old.take count)
    (size : Nat) : (bytes.take size ++ old.drop (bytes.take size).length).take count =
      old.take count := by
  apply List.ext_getElem?
  intro index
  have each := congrArg (·[index]?) same
  simp only [List.getElem?_take] at each ⊢
  split
  · next within =>
    rw [if_pos within, if_pos within] at each
    rcases Nat.lt_or_ge index (bytes.take size).length with before | behind
    · have inside := before
      rw [List.length_take] at inside
      rw [List.getElem?_append_left before, List.getElem?_take, if_pos (by omega), each]
    · rw [List.getElem?_append_right behind, List.getElem?_drop]
      congr 1
      omega
  · rfl

namespace Journal

/-- Whether a journal handle belongs on a partition. -/
structure Fits (partition : Partition) (journal : Journal) : Prop where
  /-- The handle has a valid block size. -/
  valid : journal.blockSize ∈ blockSizes
  /-- It is that of the partition. -/
  same : partition.blockSize = journal.blockSize
  /-- The header block lies in the partition. -/
  header : journal.area.header.toNat < partition.length
  /-- The footer block lies in the partition. -/
  footer : journal.area.footer.toNat < partition.length

/-- Whether a journal handle belongs on a partition and the device has its blocks. -/
structure Placed (partition : Partition) (shape : Shape) (journal : Journal) : Prop where
  /-- The handle has a valid block size. -/
  valid : journal.blockSize ∈ blockSizes
  /-- It is that of the partition. -/
  same : partition.blockSize = journal.blockSize
  /-- The header block is within reach. -/
  header : partition.Reaches shape journal.area.header.toNat
  /-- The footer block is within reach. -/
  footer : partition.Reaches shape journal.area.footer.toNat

/-- Whether an area can hold both pointers of a handle: its blocks differ, or the pointers are
equal. -/
def Storable (journal : Journal) : Prop :=
  journal.area.header ≠ journal.area.footer ∨ journal.state = .empty

/-- The journal handle that the blocks of an area hold. -/
def stored (partition : Partition) (area : JournalArea) (image : Image) : Journal where
  area
  blockSize := partition.blockSize
  header := JournalHeader.decode (image area.header.toNat)
  footer := JournalFooter.decode (image area.footer.toNat)
  dirty := false

/-- The blocks that writing a journal handle writes. -/
def writes (partition : Partition) (journal : Journal) : List Effect :=
  [partition.blockWrite journal.area.header.toNat (journal.header.encode journal.blockSize),
    partition.blockWrite journal.area.footer.toNat (journal.footer.encode journal.blockSize)]

variable {partition : Partition} {area : JournalArea} {journal : Journal} {disk after : Disk Store}
  {content : Content} {shape : Shape} {image : Image}

/-- A journal is empty where both pointers are equal. -/
theorem state_eq_empty :
    journal.state = .empty ↔ journal.header.lastCommitted = journal.footer.lastFlushed := by
  unfold state
  split
  · next same => exact iff_of_true rfl same
  · next differs => exact iff_of_false nofun differs

/-- A handle that is placed fits. -/
theorem Placed.fits (placed : journal.Placed partition shape) : journal.Fits partition :=
  ⟨placed.valid, placed.same, placed.header.inside, placed.footer.inside⟩

/-- Another handle for the same blocks fits as well. -/
theorem Fits.moved {other : Journal} (fits : journal.Fits partition)
    (located : other.area = journal.area) (size : other.blockSize = journal.blockSize) :
    other.Fits partition := by
  obtain ⟨valid, same, header, footer⟩ := fits
  rw [← size] at valid same
  rw [← located] at header footer
  exact ⟨valid, same, header, footer⟩

/-- A handle that fits is placed where the partition lies on the device. -/
theorem Fits.placed (fits : journal.Fits partition) (lies : partition.LiesOn shape) :
    journal.Placed partition shape :=
  ⟨fits.valid, fits.same, lies.reaches fits.header, lies.reaches fits.footer⟩

/-- Loading gives the handle that is stored, or breaks off. -/
theorem ends_load (lies : partition.LiesOn disk.device.shape)
    (fits : (stored partition area (disk.image partition)).Fits partition) :
    Ends (load partition area) disk
      (fun journal after => journal = stored partition area (disk.image partition) ∧
        disk.Ran after (.reads 2))
      fun _ after => disk.Broke after [] := by
  have size : checkBlockSize partition.blockSize = .ok () := if_pos fits.valid
  unfold load
  rw [size]
  refine ends_ofExcept (fun _ _ => ?_) nofun
  refine Ends.andThen (DiskM.ends_readBlock lies fits.header) ?_
  rintro header between ⟨rfl, first⟩
  have shape : partition.LiesOn between.device.shape := first.lies lies
  refine Ends.bind (DiskM.ends_readBlock shape fits.footer) ?_ fun _ _ broke => first.broke broke
  rintro footer after ⟨rfl, second⟩
  rw [first.image rfl]
  exact ⟨rfl, (first.trans second).report rfl⟩

/-- Loading gives the handle that is stored, unless a block is out of reach or a fault comes. -/
theorem ends_load_measured (measured : partition.MeasuredBy disk.device.shape) :
    Ends (load partition area) disk
      (fun journal after => journal = stored partition area (disk.image partition) ∧
        journal.Placed partition disk.device.shape ∧ disk.Ran after (.reads 2))
      fun _ _ => ¬ ((stored partition area (disk.image partition)).Placed partition
        disk.device.shape ∧ disk.device.Sound) := by
  by_cases valid : partition.blockSize ∈ blockSizes
  · unfold load
    rw [checkBlockSize, if_pos valid]
    refine ends_ofExcept (fun _ _ => ?_) nofun
    refine (DiskM.ends_readBlock_measured measured area.header.toNat).bind ?_
      fun _ _ fails known => fails ⟨known.1.header, known.2⟩
    rintro _ between ⟨header, rfl, first⟩
    have later : partition.MeasuredBy between.device.shape := measured.of_shape first.shape
    refine (DiskM.ends_readBlock_measured later area.footer.toNat).bind ?_ ?_
    · rintro _ after ⟨footer, rfl, second⟩
      rw [first.shape] at footer
      rw [first.image rfl]
      exact ⟨rfl, ⟨valid, rfl, header, footer⟩, (first.trans second).report rfl⟩
    · intro _ _ fails known
      rw [first.shape] at fails
      exact fails ⟨known.1.footer, first.sound known.2⟩
  · unfold load
    rw [checkBlockSize, if_neg valid]
    exact ends_throw fun known => valid known.1.valid

/-- A handle that is on a disk within reach is loaded from it. -/
theorem exists_load_of_placed (placed : journal.Placed partition disk.device.shape)
    (held : stored partition area (disk.image partition) = journal)
    (measured : partition.MeasuredBy disk.device.shape) (sound : disk.device.Sound) :
    ∃ loaded, load partition area disk = .ok journal loaded ∧ disk.Ran loaded (.reads 2) := by
  subst held
  obtain ⟨_, loaded, ran, rfl, _, read⟩ :=
    (ends_load_measured measured).exists_ok fun _ _ fails => fails ⟨placed, sound⟩
  exact ⟨loaded, ran, read⟩

/-- A journal that is on a disk is loaded from it. -/
theorem exists_load (fits : journal.Fits partition)
    (held : stored partition area (disk.image partition) = journal)
    (lies : partition.LiesOn disk.device.shape) (serves : disk.device.Serves) :
    ∃ loaded, load partition area disk = .ok journal loaded ∧ disk.Ran loaded (.reads 2) :=
  exists_load_of_placed (fits.placed lies) held lies.measuredBy serves.toSound

/-- A handle that was loaded is the one that is stored, and fits. -/
theorem of_load (lies : partition.LiesOn disk.device.shape)
    (loaded : load partition area disk = .ok journal after) :
    journal = stored partition area (disk.image partition) ∧ journal.Fits partition ∧
      disk.Ran after (.reads 2) := by
  obtain ⟨found, placed, ran⟩ := (ends_load_measured lies.measuredBy).of_ok loaded
  exact ⟨found, placed.fits, ran⟩

/-- The header of a handle that fits fills its block. -/
theorem Fits.length_header (fits : journal.Fits partition) :
    (journal.header.encode journal.blockSize).length = partition.blockSize := by
  have room := room_of_mem_blockSizes fits.valid
  rw [JournalHeader.length_encode (by omega), fits.same]

/-- The footer of a handle that fits fills its block. -/
theorem Fits.length_footer (fits : journal.Fits partition) :
    (journal.footer.encode journal.blockSize).length = partition.blockSize := by
  rw [JournalFooter.length_encode (room_of_mem_blockSizes fits.valid), fits.same]

/-- The footer of a handle that fits takes some bytes. -/
theorem Fits.footer_ne_nil (fits : journal.Fits partition) :
    journal.footer.encode journal.blockSize ≠ [] := by
  apply List.ne_nil_of_length_pos
  rw [fits.length_footer]
  exact Partition.blockSize_pos fits.footer

/-- What the blocks hold after the handle was written. -/
theorem image_after_writes (sectored : partition.Sectored) (fits : journal.Fits partition) :
    partition.image (content.afterAll (journal.writes partition)) =
      Function.update
        (Function.update (partition.image content) journal.area.header.toNat
          (journal.header.encode journal.blockSize))
        journal.area.footer.toNat (journal.footer.encode journal.blockSize) := by
  rw [writes, Content.afterAll_cons, Content.afterAll_cons, Content.afterAll_nil,
    Partition.image_after_blockWrite sectored fits.length_footer,
    Partition.image_after_blockWrite sectored fits.length_header]

/-- Writing a handle leaves all blocks but those of its pointers. -/
theorem image_after_writes_of_ne (sectored : partition.Sectored) (fits : journal.Fits partition)
    {block : Nat} (header : block ≠ journal.area.header.toNat)
    (footer : block ≠ journal.area.footer.toNat) :
    partition.image (content.afterAll (journal.writes partition)) block =
      partition.image content block := by
  rw [image_after_writes sectored fits, Function.update_of_ne footer, Function.update_of_ne header]

/-- A load between the two writes of a handle finds the new header with the old footer. -/
theorem stored_after_header (journal : Journal) (sectored : partition.Sectored)
    (fits : journal.Fits partition) (apart : journal.area.header ≠ journal.area.footer) :
    stored partition journal.area (partition.image (content.after
      (partition.blockWrite journal.area.header.toNat
        (journal.header.encode journal.blockSize)))) =
      { stored partition journal.area (partition.image content) with
        header := journal.header } := by
  have differs : journal.area.footer.toNat ≠ journal.area.header.toNat :=
    fun same => apart (UInt64.toNat_inj.1 same.symm)
  rw [Partition.image_after_blockWrite sectored fits.length_header, stored, stored,
    Function.update_self, Function.update_of_ne differs, JournalHeader.decode_encode]

/-- A load finds the handle that was written. -/
theorem stored_after_writes (journal : Journal) (sectored : partition.Sectored)
    (fits : journal.Fits partition) (storable : journal.Storable) :
    stored partition journal.area (partition.image (content.afterAll (journal.writes partition))) =
      { journal with dirty := false } := by
  rw [image_after_writes sectored fits, stored, Function.update_self, JournalFooter.decode_encode,
    fits.same]
  by_cases shared : journal.area.header.toNat = journal.area.footer.toNat
  · -- The footer is written last, and a shared block starts with its pointer.
    have equal : journal.header.lastCommitted = journal.footer.lastFlushed := by
      rcases storable with apart | empty
      · exact (apart (UInt64.toNat_inj.1 shared)).elim
      · exact state_eq_empty.1 empty
    have read : JournalHeader.decode (journal.footer.encode journal.blockSize) =
        journal.header := by
      show JournalHeader.mk (JournalFooter.decode _).lastFlushed = _
      rw [JournalFooter.decode_encode, ← equal]
    rw [shared, Function.update_self, read]
  · rw [Function.update_of_ne shared, Function.update_self, JournalHeader.decode_encode]

/-- A part of the header that a block holds leaves what a load finds. -/
theorem stored_after_part_of_header (sectored : partition.Sectored)
    (fits : journal.Fits partition) (apart : journal.area.header ≠ journal.area.footer)
    (same : JournalHeader.decode (partition.image content journal.area.header.toNat) =
      journal.header) (size : Nat) :
    stored partition journal.area (partition.image (content.after
      (partition.blockWrite journal.area.header.toNat
        ((journal.header.encode journal.blockSize).take size)))) =
      stored partition journal.area (partition.image content) := by
  have differs : journal.area.footer.toNat ≠ journal.area.header.toNat :=
    fun equal => apart (UInt64.toNat_inj.1 equal.symm)
  have part : ((journal.header.encode journal.blockSize).take size).length ≤
      partition.blockSize := by
    rw [← fits.length_header]
    exact List.length_take_le' _ _
  have front : (journal.header.encode journal.blockSize).take 8 =
      (partition.image content journal.area.header.toNat).take 8 := by
    have room := room_of_mem_blockSizes fits.valid
    have enough : 8 ≤ (partition.image content journal.area.header.toNat).length := by
      rw [Partition.length_image, fits.same]
      omega
    rw [← LittleEndian.encode64_decode64 enough]
    show _ = LittleEndian.encode64 (JournalHeader.decode _).lastCommitted
    rw [same]
    exact List.take_left' (LittleEndian.length_encode64 _)
  have header : JournalHeader.decode (partition.image (content.after
      (partition.blockWrite journal.area.header.toNat
        ((journal.header.encode journal.blockSize).take size))) journal.area.header.toNat) =
      JournalHeader.decode (partition.image content journal.area.header.toNat) := by
    rw [Partition.image_after_blockWrite_self part, JournalHeader.decode, JournalHeader.decode,
      LittleEndian.decode64, LittleEndian.decode64, take_overwrite front size]
  rw [stored, stored, header, Partition.image_after_blockWrite_of_ne sectored part differs]

/-- The write of a handle that breaks off leaves an old handle with the same header, unless
something of the footer has reached the device. -/
theorem stored_of_torn {reached : Nat} {part : List Effect} (old : Journal)
    (torn : Torn reached (journal.writes partition) part) (sectored : partition.Sectored)
    (fits : journal.Fits partition) (apart : journal.area.header ≠ journal.area.footer)
    (held : stored partition journal.area (partition.image content) = old)
    (same : old.header = journal.header) :
    stored partition journal.area (partition.image (content.afterAll part)) = old ∨
      ∃ data, data ≠ [] ∧ partition.blockWrite journal.area.footer.toNat data ∈ part := by
  have header : JournalHeader.decode (partition.image content journal.area.header.toNat) =
      journal.header := by
    rw [← same, ← held]
    rfl
  have keeps (size : Nat) := (stored_after_part_of_header sectored fits apart header size).trans held
  have whole := keeps (journal.header.encode journal.blockSize).length
  rw [List.take_length] at whole
  cases torn with
  | nothing => exact .inl held
  | last => exact .inl (keeps reached)
  | step _ rest =>
    cases rest with
    | nothing => exact .inl whole
    | last =>
      by_cases none : (journal.footer.encode journal.blockSize).take reached = []
      · refine .inl ?_
        rw [Content.afterAll_cons, Content.afterAll_cons, Partition.blockWrite, Partition.blockWrite,
          Effect.cut, none, Content.after_write_nil]
        exact whole
      · exact .inr ⟨_, none, List.mem_cons_of_mem _ List.mem_cons_self⟩
    | step => exact .inr ⟨_, fits.footer_ne_nil, List.mem_cons_of_mem _ List.mem_cons_self⟩

/-- A journal handle is written, or this breaks off. -/
theorem ends_write (fits : journal.Fits partition) (lies : partition.LiesOn disk.device.shape)
    (writable : disk.device.readOnly = false) :
    Ends (journal.write partition) disk
      (fun _ after => disk.Ran after { requests := 2, effects := journal.writes partition })
      fun _ after => disk.Broke after (journal.writes partition) := by
  have size : checkBlockSize journal.blockSize = .ok () := if_pos fits.valid
  have same : ¬ partition.blockSize ≠ journal.blockSize := not_not.2 fits.same
  unfold write
  rw [size]
  refine ends_ofExcept (fun _ _ => ?_) nofun
  simp only [if_neg same]
  refine Ends.bind (DiskM.ends_writeBlock lies writable fits.header fits.length_header) ?_
    fun _ _ broke => broke.append
  intro _ between first
  have shape : partition.LiesOn between.device.shape := first.lies lies
  have takes : between.device.readOnly = false := first.writable writable
  refine Ends.bind (DiskM.ends_writeBlock shape takes fits.footer fits.length_footer) ?_
    fun _ _ broke => first.broke broke
  intro _ after second
  exact (first.trans second).report rfl

/-- A handle is written where it is placed, or this breaks off. -/
theorem ends_write_measured (measured : partition.MeasuredBy disk.device.shape) :
    Ends (journal.write partition) disk
      (fun _ after => journal.Placed partition disk.device.shape ∧
        disk.Ran after { requests := 2, effects := journal.writes partition })
      fun _ after => disk.device.Cut after.device (journal.writes partition) := by
  have untouched : disk.device.Cut disk.device (journal.writes partition) :=
    (Store.Added.nothing _).cut
  unfold write
  refine ends_ofExcept (fun _ accepted => ?_) fun _ _ => untouched
  have valid : journal.blockSize ∈ blockSizes := by
    by_contra invalid
    rw [checkBlockSize, if_neg invalid] at accepted
    exact nomatch accepted
  by_cases same : partition.blockSize = journal.blockSize
  · have room := room_of_mem_blockSizes valid
    have header : (journal.header.encode journal.blockSize).length = partition.blockSize := by
      rw [JournalHeader.length_encode (by omega), same]
    have footer : (journal.footer.encode journal.blockSize).length = partition.blockSize := by
      rw [JournalFooter.length_encode room, same]
    simp only [if_neg (not_not.2 same)]
    refine Ends.bind (DiskM.ends_writeBlock_measured measured _ header) ?_
      fun _ _ cut => cut.append
    rintro _ between ⟨reached, first⟩
    have later : partition.MeasuredBy between.device.shape := measured.of_shape first.shape
    refine Ends.bind (DiskM.ends_writeBlock_measured later _ footer) ?_
      fun _ _ cut => first.added.cut_append cut
    rintro _ after ⟨further, second⟩
    rw [first.shape] at further
    exact ⟨⟨valid, same, reached, further⟩, (first.trans second).report rfl⟩
  · simp only [if_pos same]
    exact Ends.stop (ends_throw untouched)

/-- A handle is written if it is dirty, and is clean then, or this breaks off. -/
theorem ends_sync_measured (journal : Journal)
    (measured : partition.MeasuredBy disk.device.shape) :
    Ends (journal.sync partition) disk
      (fun synced after => synced = { journal with dirty := false } ∧
        ((journal.dirty = true ∧ journal.Placed partition disk.device.shape ∧
          disk.Ran after { requests := 2, effects := journal.writes partition }) ∨
          (journal.dirty = false ∧ after = disk)))
      fun _ after => journal.dirty = true ∧
        disk.device.Cut after.device (journal.writes partition) := by
  unfold sync
  cases dirty : journal.dirty with
  | false => exact ends_pure ⟨by rw [← dirty], .inr ⟨rfl, rfl⟩⟩
  | true =>
    rw [if_pos rfl]
    refine (ends_write_measured measured).bind ?_ fun _ _ cut => ⟨rfl, cut⟩
    exact fun _ _ wrote => ends_pure ⟨rfl, .inl ⟨rfl, wrote⟩⟩

/-- A dirty handle is written when it is synced. -/
theorem ends_sync (dirty : journal.dirty = true) (fits : journal.Fits partition)
    (lies : partition.LiesOn disk.device.shape) (writable : disk.device.readOnly = false) :
    Ends (journal.sync partition) disk
      (fun synced after => synced = { journal with dirty := false } ∧
        disk.Ran after { requests := 2, effects := journal.writes partition })
      fun _ after => disk.Broke after (journal.writes partition) := by
  unfold sync
  simp only [dirty, if_true]
  exact (ends_write fits lies writable).andThen fun _ _ ran => ends_pure ⟨rfl, ran⟩

end Journal

end JournaledVolume
