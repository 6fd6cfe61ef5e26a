import JournaledVolume.Proofs.BitmapBlocks

/-!
# The fixed blocks of a volume

The blocks up to the journal footer and the bitmap blocks are fixed: no journal may occupy them. The
bitmap that `Geometry.fixedMetadata` makes marks exactly these. Among them, the blocks of the
journal pointers are no bitmap blocks.
-/

namespace JournaledVolume

namespace Bitmap

variable {bitmap changed : Bitmap} {start count block : Nat}

/-- Marking a run adds the blocks of the run to those that are marked. -/
theorem Counted.test_of_mark (counted : bitmap.Counted)
    (marks : bitmap.mark start count = .ok changed) :
    changed.test block = true ↔
      bitmap.test block = true ∨ start ≤ block ∧ block < start + count := by
  have inside : start + count ≤ bitmap.total := by
    by_contra outside
    rw [mark_of_outside (by omega)] at marks
    exact nomatch marks
  obtain ⟨_, marked, _, same, filled⟩ := counted.exists_mark inside
  cases marked.symm.trans marks
  simp only [test, same.total, filled.test block, Bool.and_eq_true, decide_eq_true_eq]
  split
  · next within =>
    have small : block < bitmap.total := by omega
    simp [small, within]
  · next beyond => simp [beyond]

/-- A new bitmap marks no block. -/
theorem of_zeros {total : Nat} (made : zeros total = .ok bitmap) :
    bitmap.total = total ∧ bitmap.Counted ∧ ∀ block, bitmap.test block = false := by
  rw [zeros_of_room (room_of_zeros made)] at made
  obtain rfl := Except.ok.inj made
  refine ⟨rfl, counted_zeros total, fun block => ?_⟩
  simp only [test, Bits.test_zeros, Bool.and_false]

end Bitmap

namespace Geometry

variable {geometry : Geometry} {fixed bitmap : Bitmap} {block index : Nat}

/-- The journal pointers lie behind the first bitmap block, and before all others. -/
theorem journalArea_toNat (valid : geometry.blockSize ∈ blockSizes) :
    geometry.journalArea.header.toNat = geometry.masterBlock + 3 ∧
      geometry.journalArea.footer.toNat = geometry.masterBlock + 4 ∧
      geometry.masterBlock + 4 < geometry.bitsPerBlock := by
  simp only [blockSizes, List.mem_cons, List.not_mem_nil, or_false] at valid
  simp only [journalArea, JournalArea.standard, masterBlock, JournaledVolume.masterBlock,
    bitsPerBlock, bytesPerBlock, checksumSize]
  rcases valid with size | size | size | size | size | size | size | size <;> rw [size] <;> decide

/-- No bitmap block is the block of a journal pointer. -/
theorem bitmapBlock_ne_pointers (valid : geometry.blockSize ∈ blockSizes) (index : Nat) :
    geometry.bitmapBlock index ≠ geometry.journalArea.header.toNat ∧
      geometry.bitmapBlock index ≠ geometry.journalArea.footer.toNat := by
  obtain ⟨header, footer, before⟩ := journalArea_toNat valid
  rw [header, footer, bitmapBlock]
  by_cases first : index = 0
  · rw [if_pos first, bitmapStart]
    omega
  · have behind : geometry.bitsPerBlock ≤ index * geometry.bitsPerBlock :=
      Nat.le_mul_of_pos_left _ (Nat.pos_of_ne_zero first)
    rw [if_neg first]
    omega

/-- The walk over the bitmap blocks passes them in order. -/
theorem toList_bitmapLayout : geometry.bitmapLayout.toList =
    (List.range geometry.bitmapBlocks).map fun index => (geometry.bitmapBlock index, .bitmap) := by
  have walked : ∀ count passed, passed + count = geometry.bitmapBlocks →
      ({ geometry, passed } : BitmapLayout).take count =
        (List.range' passed count).map fun index => (geometry.bitmapBlock index, .bitmap) := by
    intro count
    induction count with
    | zero => exact fun _ _ => rfl
    | succ count ih =>
      intro passed total
      have more : passed < geometry.bitmapBlocks := by omega
      rw [BitmapLayout.take, BitmapLayout.next?, if_pos more, List.range'_succ, List.map_cons]
      exact congrArg _ (ih (passed + 1) (by omega))
  rw [List.range_eq_range']
  exact walked _ 0 (Nat.zero_add _)

/-- Marking the blocks of a list succeeds, and adds those that the volume has. -/
theorem exists_foldlM_mark (counted : bitmap.Counted)
    (total : bitmap.total = geometry.blockCount) (items : List (Nat × BlockKind)) :
    ∃ fixed, items.foldlM
        (fun bitmap (block, _) =>
          if block < geometry.blockCount then bitmap.mark block 1 else pure bitmap) bitmap =
        (.ok fixed : Except Error Bitmap) ∧
      fixed.Counted ∧ fixed.total = geometry.blockCount ∧
      ∀ block, fixed.test block = true ↔ bitmap.test block = true ∨
        block < geometry.blockCount ∧ ∃ item ∈ items, item.1 = block := by
  induction items generalizing bitmap with
  | nil => exact ⟨bitmap, rfl, counted, total, fun block => by simp⟩
  | cons item items ih =>
    obtain ⟨place, kind⟩ := item
    by_cases inside : place < geometry.blockCount
    · have room : place + 1 ≤ bitmap.total := total ▸ inside
      obtain ⟨changed, marks, right, same, _⟩ := counted.exists_mark room
      obtain ⟨fixed, rest, good, sized, tests⟩ := ih right (same.total.trans total)
      refine ⟨fixed, ?_, good, sized, fun block => ?_⟩
      · rw [List.foldlM_cons]
        dsimp only
        rw [if_pos inside, marks]
        exact rest
      · have one : place ≤ block ∧ block < place + 1 ↔ place = block := by omega
        have held : place = block → block < geometry.blockCount := by omega
        rw [tests, counted.test_of_mark marks, one, List.exists_mem_cons_iff, or_assoc]
        tauto
    · obtain ⟨fixed, rest, good, sized, tests⟩ := ih counted total
      refine ⟨fixed, ?_, good, sized, fun block => ?_⟩
      · rw [List.foldlM_cons]
        dsimp only
        rw [if_neg inside]
        exact rest
      · have beyond : block < geometry.blockCount → place ≠ block := by omega
        rw [tests, List.exists_mem_cons_iff]
        tauto

/-- Where memory has room for the bitmap, there are fixed metadata: the blocks of the volume up to
the journal footer, and the bitmap blocks. -/
theorem exists_fixedMetadata (room : Bitmap.checkRoom geometry.blockCount = .ok ()) :
    ∃ fixed, geometry.fixedMetadata = .ok fixed ∧ fixed.Counted ∧
      fixed.total = geometry.blockCount ∧
      ∀ block, fixed.test block = true ↔ block < geometry.blockCount ∧
        (block ≤ geometry.journalArea.footer.toNat ∨
          ∃ index < geometry.bitmapBlocks, block = geometry.bitmapBlock index) := by
  obtain ⟨blank, made⟩ : ∃ blank, Bitmap.zeros geometry.blockCount = .ok blank :=
    ⟨_, Bitmap.zeros_of_room room⟩
  obtain ⟨total, counted, clear⟩ := Bitmap.of_zeros made
  have inside : 0 + min (geometry.journalArea.footer.toNat + 1) geometry.blockCount ≤
      blank.total := by omega
  obtain ⟨front, marks, right, same, _⟩ := counted.exists_mark inside
  obtain ⟨fixed, rest, good, sized, tests⟩ :=
    exists_foldlM_mark right (same.total.trans total) geometry.bitmapLayout.toList
  refine ⟨fixed, ?_, good, sized, fun block => ?_⟩
  · rw [fixedMetadata, made]
    dsimp only [bind, Except.bind]
    rw [marks]
    exact rest
  · have listed : (∃ item ∈ geometry.bitmapLayout.toList, item.1 = block) ↔
        ∃ index < geometry.bitmapBlocks, block = geometry.bitmapBlock index := by
      rw [toList_bitmapLayout]
      simp [eq_comm]
    rw [tests, counted.test_of_mark marks, clear block, listed]
    constructor
    · rintro ((marked | early) | ⟨held, isBitmap⟩)
      · exact nomatch marked
      · exact ⟨by omega, .inl (by omega)⟩
      · exact ⟨held, .inr isBitmap⟩
    · rintro ⟨held, early | isBitmap⟩
      · exact .inl (.inr ⟨Nat.zero_le _, by omega⟩)
      · exact .inr ⟨held, isBitmap⟩

/-- There are fixed metadata only where memory has room for the bitmap. -/
theorem room_of_fixedMetadata (fixes : geometry.fixedMetadata = .ok fixed) :
    Bitmap.checkRoom geometry.blockCount = .ok () := by
  cases made : Bitmap.zeros geometry.blockCount with
  | ok blank => exact Bitmap.room_of_zeros made
  | error error =>
    rw [fixedMetadata, made] at fixes
    exact nomatch fixes

/-- The fixed metadata are the blocks of the volume up to the journal footer, and the bitmap
blocks. -/
theorem test_fixedMetadata (fixes : geometry.fixedMetadata = .ok fixed) :
    fixed.test block = true ↔ block < geometry.blockCount ∧
      (block ≤ geometry.journalArea.footer.toNat ∨
        ∃ index < geometry.bitmapBlocks, block = geometry.bitmapBlock index) := by
  obtain ⟨_, found, _, _, tests⟩ := exists_fixedMetadata (room_of_fixedMetadata fixes)
  cases found.symm.trans fixes
  exact tests block

end Geometry

end JournaledVolume
