import JournaledVolume.Proofs.FixedBlocks
import JournaledVolume.Proofs.Occupancy

/-!
# The layout of a volume

The master block, the format block, the bitmap blocks and the blocks of the journal pointers never
share a place, also on a volume that is too small to have them all. The walk over the bitmap blocks
knows at each step how many are left. The bitmap of the fixed metadata marks the blocks up to the
journal footer and the bitmap blocks behind it, so its count is known without counting.
-/

namespace JournaledVolume

namespace BitmapLayout

variable {start layout rest : BitmapLayout} {item : Nat × BlockKind}
  {items : List (Nat × BlockKind)} {count : Nat}

/-- Whether a walk passes these items and leaves the rest. -/
inductive Passes : BitmapLayout → List (Nat × BlockKind) → BitmapLayout → Prop where
  /-- A walk that did not start leaves all. -/
  | none {layout : BitmapLayout} : Passes layout [] layout
  /-- A step passes the next item. -/
  | next {layout between rest : BitmapLayout} {item : Nat × BlockKind}
    {items : List (Nat × BlockKind)} (stepped : layout.next? = some (item, between))
    (passes : Passes between items rest) : Passes layout (item :: items) rest

/-- A step passes a bitmap block, and one less is left. -/
theorem remaining_of_next? (stepped : layout.next? = some (item, rest)) :
    rest.remaining + 1 = layout.remaining := by
  rw [next?] at stepped
  split at stepped
  · next more =>
    cases stepped
    simp only [remaining]
    omega
  · cases stepped

/-- A walk ends when no bitmap block is left. -/
theorem remaining_of_ended (ended : layout.next? = none) : layout.remaining = 0 := by
  rw [next?] at ended
  split at ended
  · cases ended
  · next done => exact Nat.sub_eq_zero_of_le (Nat.le_of_not_lt done)

/-- A walk passes as many items as it says, and no more. -/
theorem length_take (layout : BitmapLayout) (count : Nat) :
    (layout.take count).length = min count layout.remaining := by
  induction count generalizing layout with
  | zero => rw [Nat.zero_min]; rfl
  | succ count ih =>
    rw [take]
    split
    · next item rest stepped =>
      have fewer := remaining_of_next? stepped
      rw [List.length_cons, ih]
      omega
    · next ended => rw [remaining_of_ended ended, Nat.min_zero, List.length_nil]

/-- A step passes the first of the items to come. -/
theorem toList_of_next? (stepped : layout.next? = some (item, rest)) :
    layout.toList = item :: rest.toList := by
  rw [toList, ← remaining_of_next? stepped, take, stepped]
  rfl

/-- What a walk passed and what is left are all its items. -/
theorem Passes.append_toList (passes : start.Passes items layout) :
    items ++ layout.toList = start.toList := by
  induction passes with
  | none => rfl
  | next stepped _ ih => rw [toList_of_next? stepped, List.cons_append, ih]

end BitmapLayout

namespace Geometry

variable {geometry : Geometry} {fixed : Bitmap} {block index : Nat}

/-- The addresses that the walk over the bitmap blocks passes. -/
def bitmapAddresses (geometry : Geometry) : List Nat := geometry.bitmapLayout.toList.map Prod.fst

/-- The blocks that each volume has in a place of its own: the master block, the format block, the
bitmap blocks and the journal pointers. -/
def fixedBlocks (geometry : Geometry) : List Nat :=
  geometry.masterBlock :: geometry.formatBlock :: geometry.bitmapAddresses ++
    [geometry.journalArea.header.toNat, geometry.journalArea.footer.toNat]

/-- A volume that is not refused has blocks. -/
theorem blockCount_pos_of_check (accepted : geometry.check = .ok ()) : 0 < geometry.blockCount := by
  rw [check, checkBlockSize, if_pos (blockSize_of_check accepted)] at accepted
  refine Nat.pos_of_ne_zero fun none => ?_
  rw [none] at accepted
  cases accepted

/-- A volume that is not refused has a bitmap block. -/
theorem bitmapBlocks_pos (accepted : geometry.check = .ok ()) : 0 < geometry.bitmapBlocks := by
  have positive : 0 < geometry.bitsPerBlock :=
    Nat.zero_lt_of_lt (bitmapStart_lt (blockSize_of_check accepted))
  have some := blockCount_pos_of_check accepted
  exact Nat.div_pos (by omega) positive

/-- The bitmap blocks are in the order of the walk. -/
theorem bitmapAddresses_eq :
    geometry.bitmapAddresses = (List.range geometry.bitmapBlocks).map geometry.bitmapBlock := by
  rw [bitmapAddresses, toList_bitmapLayout, List.map_map]
  rfl

/-- The addresses are those of the bitmap blocks. -/
theorem mem_bitmapAddresses :
    block ∈ geometry.bitmapAddresses ↔ ∃ index < geometry.bitmapBlocks,
      block = geometry.bitmapBlock index := by
  rw [bitmapAddresses_eq]
  simp [eq_comm]

/-- The addresses of the bitmap blocks increase. -/
theorem pairwise_bitmapAddresses (valid : geometry.blockSize ∈ blockSizes) :
    geometry.bitmapAddresses.Pairwise (· < ·) := by
  rw [bitmapAddresses_eq]
  exact List.pairwise_lt_range.map _ fun _ _ earlier => bitmapBlock_lt valid earlier

/-- All bitmap blocks but the first lie on the volume. -/
theorem bitmapBlock_lt_blockCount (positive : 0 < index) (within : index < geometry.bitmapBlocks) :
    geometry.bitmapBlock index < geometry.blockCount := by
  have stride : 0 < geometry.bitsPerBlock := by
    refine Nat.pos_of_ne_zero fun none => ?_
    rw [bitmapBlocks, none, Nat.div_zero] at within
    exact absurd within (Nat.not_lt_zero _)
  have covered : (index + 1) * geometry.bitsPerBlock ≤
      geometry.blockCount + geometry.bitsPerBlock - 1 :=
    (Nat.le_div_iff_mul_le stride).1 within
  rw [bitmapBlock, if_neg (Nat.ne_of_gt positive)]
  rw [Nat.succ_mul] at covered
  omega

/-- All bitmap blocks but the first lie behind the journal footer. -/
theorem footer_lt_bitmapBlock (valid : geometry.blockSize ∈ blockSizes) (positive : 0 < index) :
    geometry.journalArea.footer.toNat < geometry.bitmapBlock index := by
  obtain ⟨_, footer, before⟩ := journalArea_toNat valid
  have behind : geometry.bitsPerBlock ≤ index * geometry.bitsPerBlock :=
    Nat.le_mul_of_pos_left _ positive
  rw [footer, bitmapBlock, if_neg (Nat.ne_of_gt positive)]
  omega

/-- The bitmap blocks lie behind the format block, and none is the block of a journal pointer. -/
theorem bitmapBlock_apart (valid : geometry.blockSize ∈ blockSizes) (index : Nat) :
    geometry.formatBlock < geometry.bitmapBlock index ∧
      geometry.bitmapBlock index ≠ geometry.journalArea.header.toNat ∧
      geometry.bitmapBlock index ≠ geometry.journalArea.footer.toNat := by
  refine ⟨?_, bitmapBlock_ne_pointers valid index⟩
  by_cases first : index = 0
  · rw [bitmapBlock, if_pos first, formatBlock, bitmapStart]
    omega
  · have behind := footer_lt_bitmapBlock valid (Nat.pos_of_ne_zero first)
    obtain ⟨_, footer, _⟩ := journalArea_toNat valid
    rw [formatBlock]
    omega

/-- The fixed blocks have a place each. -/
theorem nodup_fixedBlocks (valid : geometry.blockSize ∈ blockSizes) :
    geometry.fixedBlocks.Nodup := by
  obtain ⟨header, footer, _⟩ := journalArea_toNat valid
  have apart : ∀ block ∈ geometry.bitmapAddresses, geometry.masterBlock + 1 < block ∧
      block ≠ geometry.masterBlock + 3 ∧ block ≠ geometry.masterBlock + 4 := by
    intro block known
    obtain ⟨index, _, rfl⟩ := mem_bitmapAddresses.1 known
    rw [← header, ← footer]
    exact bitmapBlock_apart valid index
  have own : geometry.bitmapAddresses.Nodup := (pairwise_bitmapAddresses valid).imp Nat.ne_of_lt
  have pointers : [geometry.masterBlock + 3, geometry.masterBlock + 4].Nodup := by simp
  have between : geometry.bitmapAddresses.Disjoint
      [geometry.masterBlock + 3, geometry.masterBlock + 4] := by
    intro block known pointer
    have other := apart block known
    simp only [List.mem_cons, List.not_mem_nil, or_false] at pointer
    omega
  have front : ∀ block ∈ geometry.bitmapAddresses ++
      [geometry.masterBlock + 3, geometry.masterBlock + 4], geometry.masterBlock + 1 < block := by
    intro block known
    rcases List.mem_append.1 known with bitmapped | pointer
    · exact (apart block bitmapped).1
    · simp only [List.mem_cons, List.not_mem_nil, or_false] at pointer
      omega
  rw [fixedBlocks, header, footer, formatBlock, List.cons_append, List.cons_append,
    List.nodup_cons, List.nodup_cons, List.mem_cons, not_or]
  refine ⟨⟨by omega, fun known => ?_⟩, fun known => ?_,
    List.nodup_append'.2 ⟨own, pointers, between⟩⟩
  · exact absurd (front _ known) (by omega)
  · exact absurd (front _ known) (by omega)

/-- On a volume whose blocks 64 bits can count, they can address the fixed blocks. -/
theorem fixedBlocks_lt (valid : geometry.blockSize ∈ blockSizes)
    (countable : geometry.blockCount < 2 ^ 64) (known : block ∈ geometry.fixedBlocks) :
    block < 2 ^ 64 := by
  obtain ⟨header, footer, before⟩ := journalArea_toNat valid
  have bounded := geometry.journalArea.footer.toNat_lt
  rw [fixedBlocks, List.cons_append, List.cons_append, List.mem_cons, List.mem_cons,
    List.mem_append, mem_bitmapAddresses, List.mem_cons, List.mem_singleton] at known
  rcases known with rfl | rfl | ⟨index, within, rfl⟩ | rfl | rfl
  · omega
  · rw [formatBlock]
    omega
  · rcases Nat.eq_zero_or_pos index with rfl | positive
    · rw [bitmapBlock, if_pos rfl, bitmapStart]
      omega
    · exact (bitmapBlock_lt_blockCount positive within).trans countable
  · omega
  · omega

/-- The fixed metadata are the blocks of the volume up to the journal footer, and all bitmap blocks
but the first. -/
theorem markedBlocks_fixedMetadata (valid : geometry.blockSize ∈ blockSizes)
    (fixes : geometry.fixedMetadata = .ok fixed) :
    fixed.markedBlocks =
      Finset.range (min (geometry.journalArea.footer.toNat + 1) geometry.blockCount) ∪
        (Finset.Ico 1 geometry.bitmapBlocks).image geometry.bitmapBlock := by
  obtain ⟨_, footer, _⟩ := journalArea_toNat valid
  ext block
  have marks : block ∈ fixed.markedBlocks ↔ fixed.test block = true := by
    rw [Bitmap.mem_markedBlocks, Bitmap.test, Bool.and_eq_true, decide_eq_true_eq]
  rw [marks, test_fixedMetadata fixes, Finset.mem_union, Finset.mem_range, Finset.mem_image]
  constructor
  · rintro ⟨held, early | ⟨index, within, rfl⟩⟩
    · exact .inl (by omega)
    · rcases Nat.eq_zero_or_pos index with rfl | positive
      -- The first bitmap block lies before the journal footer.
      · have first : geometry.bitmapBlock 0 = geometry.masterBlock + 2 := rfl
        exact .inl (by omega)
      · exact .inr ⟨index, Finset.mem_Ico.2 ⟨positive, within⟩, rfl⟩
  · rintro (early | ⟨index, known, rfl⟩)
    · exact ⟨by omega, .inl (by omega)⟩
    · obtain ⟨positive, within⟩ := Finset.mem_Ico.1 known
      exact ⟨bitmapBlock_lt_blockCount positive within, .inr ⟨index, within, rfl⟩⟩

/-- The number of blocks that the fixed metadata mark. -/
theorem marked_fixedMetadata (accepted : geometry.check = .ok ())
    (fixes : geometry.fixedMetadata = .ok fixed) (counted : fixed.Counted) :
    fixed.marked = min (geometry.journalArea.footer.toNat + 1) geometry.blockCount +
      geometry.bitmapBlocks - 1 := by
  have valid := blockSize_of_check accepted
  have some := bitmapBlocks_pos accepted
  have apart : Disjoint
      (Finset.range (min (geometry.journalArea.footer.toNat + 1) geometry.blockCount))
      ((Finset.Ico 1 geometry.bitmapBlocks).image geometry.bitmapBlock) := by
    rw [Finset.disjoint_left]
    intro block early known
    obtain ⟨index, within, rfl⟩ := Finset.mem_image.1 known
    have behind := footer_lt_bitmapBlock valid (Finset.mem_Ico.1 within).1
    rw [Finset.mem_range] at early
    omega
  have own : Function.Injective geometry.bitmapBlock := fun _ _ => bitmapBlock_injective valid
  rw [← counted.card_markedBlocks, markedBlocks_fixedMetadata valid fixes,
    Finset.card_union_of_disjoint apart, Finset.card_image_of_injective _ own, Finset.card_range,
    Nat.card_Ico]
  omega

/-- The fixed blocks of a volume that is not refused lie apart. The walk over the bitmap blocks
passes as many as there are, in increasing order, and knows at each step how many are left; only the
first may lie behind the volume. Where memory has room for it there is a bitmap of the fixed
metadata. It marks exactly the blocks of the volume up to the journal footer and the bitmap
blocks. -/
theorem fixed_blocks_apart (accepted : geometry.check = .ok ()) :
    geometry.fixedBlocks.Nodup ∧
    (geometry.blockCount < 2 ^ 64 → ∀ block ∈ geometry.fixedBlocks, block < 2 ^ 64) ∧
    (geometry.bitmapLayout.toList = geometry.bitmapAddresses.map fun block => (block, .bitmap)) ∧
    geometry.bitmapAddresses.length = geometry.bitmapBlocks ∧
    geometry.bitmapAddresses.Pairwise (· < ·) ∧
    (∀ block ∈ geometry.bitmapAddresses.tail, block < geometry.blockCount) ∧
    (∀ items layout, geometry.bitmapLayout.Passes items layout →
      items ++ layout.toList = geometry.bitmapLayout.toList ∧
      items.length + layout.remaining = geometry.bitmapBlocks ∧
      ∀ count, (layout.take count).length = min count layout.remaining) ∧
    (Bitmap.checkRoom geometry.blockCount = .ok () ↔
      ∃ fixed, geometry.fixedMetadata = .ok fixed) ∧
    ∀ fixed, geometry.fixedMetadata = .ok fixed →
      fixed.total = geometry.blockCount ∧
      (∀ block, fixed.test block = true ↔ block < geometry.blockCount ∧
        (block ≤ geometry.journalArea.footer.toNat ∨ block ∈ geometry.bitmapAddresses)) ∧
      fixed.marked = min (geometry.journalArea.footer.toNat + 1) geometry.blockCount +
        geometry.bitmapBlocks - 1 := by
  have valid := blockSize_of_check accepted
  have length : geometry.bitmapAddresses.length = geometry.bitmapBlocks := by
    rw [bitmapAddresses_eq, List.length_map, List.length_range]
  refine ⟨nodup_fixedBlocks valid, fun countable _ => fixedBlocks_lt valid countable, ?_, length,
    pairwise_bitmapAddresses valid, ?behind, ?walk, ?room, ?marks⟩
  · rw [bitmapAddresses_eq, toList_bitmapLayout, List.map_map]
    rfl
  case behind =>
    intro block known
    rw [bitmapAddresses_eq, ← List.map_tail, List.mem_map, List.tail_range] at known
    obtain ⟨index, within, rfl⟩ := known
    rw [List.mem_range'_1] at within
    exact bitmapBlock_lt_blockCount (by omega) (by omega)
  case walk =>
    intro items layout passes
    have all := passes.append_toList
    refine ⟨all, ?_, layout.length_take⟩
    have lengths := congrArg List.length all
    rw [List.length_append, BitmapLayout.toList, BitmapLayout.length_take, Nat.min_self] at lengths
    rw [lengths, ← length, bitmapAddresses, List.length_map]
  case room =>
    constructor
    · intro room
      obtain ⟨fixed, fixes, _⟩ := exists_fixedMetadata room
      exact ⟨fixed, fixes⟩
    · rintro ⟨fixed, fixes⟩
      exact room_of_fixedMetadata fixes
  case marks =>
    intro fixed fixes
    obtain ⟨_, found, counted, total, tests⟩ := exists_fixedMetadata (room_of_fixedMetadata fixes)
    cases found.symm.trans fixes
    refine ⟨total, fun block => ?_, marked_fixedMetadata accepted fixes counted⟩
    rw [tests, mem_bitmapAddresses]

/-- A volume of 10000 blocks of 512 bytes has three bitmap blocks, and its fixed metadata mark the
133 blocks up to the journal footer and the two bitmap blocks behind it. -/
theorem fixed_blocks_apart_sample :
    (⟨512, 10000⟩ : Geometry).check = .ok () ∧
      (⟨512, 10000⟩ : Geometry).bitmapAddresses = [130, 4064, 8128] ∧
      ∃ fixed, (⟨512, 10000⟩ : Geometry).fixedMetadata = .ok fixed ∧ fixed.marked = 135 ∧
        fixed.test 132 = true ∧ fixed.test 133 = false ∧ fixed.test 8128 = true := by
  have addresses : (⟨512, 10000⟩ : Geometry).bitmapAddresses = [130, 4064, 8128] := by decide
  have footer : (⟨512, 10000⟩ : Geometry).journalArea.footer.toNat = 132 := by decide
  obtain ⟨_, _, _, _, _, _, _, room, marks⟩ := @fixed_blocks_apart ⟨512, 10000⟩ rfl
  obtain ⟨fixed, fixes⟩ := room.1 rfl
  obtain ⟨_, tests, marked⟩ := marks fixed fixes
  rw [addresses, footer] at tests
  refine ⟨rfl, addresses, fixed, fixes, marked, (tests 132).2 (by decide), ?_,
    (tests 8128).2 (by decide)⟩
  exact Bool.eq_false_of_not_eq_true fun held => absurd ((tests 133).1 held) (by decide)

end Geometry

end JournaledVolume
