import JournaledVolume.Proofs.Occupancy

/-!
# The verdicts on the bitmap blocks

The list of bad blocks, the verification and the check each judge all bitmap blocks of an allocator,
and they agree. A check that repairs can be read as a single pass that compares each segment with
checksums which the pass itself has changed before. It changes only the checksum of the segment at
hand, so it judges every segment as if it had changed nothing, and it leaves no block bad.
-/

namespace JournaledVolume

open JournaledVolume.Action

/-- Findings that are joined a second time add nothing. -/
theorem Findings.or_or_self (findings part : Findings) :
    findings ||| part ||| part = findings ||| part := by
  simp only [HOr.hOr, OrOp.or, Bool.or_assoc, Bool.or_self]

namespace Allocator

variable {allocator before after : Allocator} {mode : CheckMode} {index count : Nat}

/-- The bad bitmap blocks are those of the segments that have another checksum than is recorded. -/
theorem badBlocks_eq (allocator : Allocator) :
    allocator.badBlocks = (allocator.segments.filter fun index =>
      allocator.segmentSum index ≠ allocator.recordedSum index).map
        allocator.geometry.bitmapBlock := by
  rw [badBlocks, mismatches]
  induction allocator.segments with
  | nil => rfl
  | cons index segments ih =>
    by_cases right : allocator.segmentSum index = allocator.recordedSum index
    · have none : allocator.mismatch? index = none := if_pos right
      simp [none, right, ih]
    · have some : allocator.mismatch? index = some _ := if_neg right
      simp [some, right, ih]

/-- Whether one of the first segments has another checksum than is recorded. -/
def BadWithin (allocator : Allocator) (count : Nat) : Prop :=
  ∃ index < count, allocator.segmentSum index ≠ allocator.recordedSum index

instance : Decidable (allocator.BadWithin count) := inferInstanceAs (Decidable (∃ _ < _, _))

/-- A segment more is bad, or it is not. -/
theorem badWithin_succ : allocator.BadWithin (count + 1) ↔
    allocator.BadWithin count ∨ allocator.segmentSum count ≠ allocator.recordedSum count :=
  Nat.exists_lt_succ_right

/-- There are bad blocks exactly when some segment is bad. -/
theorem badBlocks_ne_nil_iff :
    allocator.badBlocks ≠ [] ↔ allocator.BadWithin allocator.geometry.bitmapBlocks := by
  rw [badBlocks_eq, ne_eq, List.map_eq_nil_iff, List.filter_eq_nil_iff]
  simp only [segments, List.mem_range, decide_eq_true_eq, not_forall, not_not, BadWithin,
    exists_prop]

/-- The verification passes exactly when no block is bad. -/
theorem verify_eq_ok_iff : allocator.verify = .ok () ↔ allocator.badBlocks = [] := by
  rw [verify]
  cases allocator.badBlocks with
  | nil => simp
  | cons first rest => simp

/-- An allocator verifies when the checksum recorded for each segment is that of the segment. -/
theorem verify_of_sums (sums : ∀ index < allocator.geometry.bitmapBlocks,
    allocator.recordedSum index = allocator.segmentSum index) : allocator.verify = .ok () := by
  rw [verify_eq_ok_iff]
  by_contra bad
  obtain ⟨index, within, differs⟩ := badBlocks_ne_nil_iff.1 bad
  exact differs (sums index within).symm

/-- The findings of a check are those of its mode, or none. -/
theorem check_of_good (good : allocator.badBlocks = []) (mode : CheckMode) :
    allocator.check mode = (∅, allocator) := by
  have none : allocator.mismatches = [] := List.map_eq_nil_iff.1 good
  rw [check, none]
  rfl

/-- A check that may not repair reports that there are bad blocks. -/
theorem check_of_bad (bad : allocator.badBlocks ≠ []) :
    allocator.check .check = ({ fixable := true }, allocator) := by
  have some : allocator.mismatches.isEmpty = false := by
    rw [List.isEmpty_eq_false_iff]
    exact fun none => bad (List.map_eq_nil_iff.2 none)
  rw [check, some]
  rfl

/-- Judges a segment in a pass over all of them: by the checksums that the pass has left so far. -/
def judge (mode : CheckMode) (passed : Findings × Allocator) (index : Nat) :
    Findings × Allocator :=
  match passed.2.mismatch? index with
  | none => passed
  | some bad =>
    if mode.repairs then (passed.1 ||| { fixed := true }, passed.2.accept bad)
    else (passed.1 ||| { fixable := true }, passed.2)

/-- Recording the checksum of one segment leaves what is wrong with another. -/
theorem mismatch?_accept_of_ne {bad : Mismatch} (differs : index ≠ bad.index) :
    (allocator.accept bad).mismatch? index = allocator.mismatch? index := by
  have recorded : (allocator.accept bad).recordedSum index = allocator.recordedSum index := by
    simp only [recordedSum, accept, Array.getD_eq_getD_getElem?,
      Array.getElem?_setIfInBounds_ne differs.symm]
  rw [mismatch?, recorded]
  rfl

/-- What is wrong with a segment names the segment. -/
theorem index_of_mismatch? {bad : Mismatch} (found : allocator.mismatch? index = some bad) :
    bad.index = index := by
  by_cases right : allocator.segmentSum index = allocator.recordedSum index
  · rw [mismatch?, if_pos right] at found
    exact nomatch found
  · rw [mismatch?, if_neg right] at found
    cases found
    rfl

/-- A pass over different segments finds what was wrong with them before the pass. -/
theorem foldl_judge {indices : List Nat} (once : indices.Nodup) (findings : Findings) :
    indices.foldl (judge mode) (findings, allocator) =
      if (indices.filterMap allocator.mismatch?).isEmpty then (findings, allocator)
      else if mode.repairs then (findings ||| { fixed := true },
        (indices.filterMap allocator.mismatch?).foldl accept allocator)
      else (findings ||| { fixable := true }, allocator) := by
  induction indices generalizing allocator findings with
  | nil => rfl
  | cons index indices ih =>
    obtain ⟨new, distinct⟩ := List.nodup_cons.1 once
    rw [List.foldl_cons]
    cases found : allocator.mismatch? index with
    | none =>
      rw [List.filterMap_cons_none found, judge]
      simp only [found]
      exact ih distinct findings
    | some bad =>
      rw [List.filterMap_cons_some found, judge]
      simp only [found, List.isEmpty_cons, Bool.false_eq_true, if_false, List.foldl_cons]
      by_cases repairs : mode.repairs
      · -- The segments to come are other ones, so what is wrong with them is as before.
        have later : indices.filterMap (allocator.accept bad).mismatch? =
            indices.filterMap allocator.mismatch? := by
          apply List.filterMap_congr
          intro other listed
          apply mismatch?_accept_of_ne
          rw [index_of_mismatch? found]
          rintro rfl
          exact new listed
        rw [if_pos repairs, if_pos repairs, ih distinct, later, if_pos repairs, Findings.or_or_self]
        split
        · next none =>
          rw [List.isEmpty_iff.1 none]
          rfl
        · rfl
      · rw [if_neg repairs, if_neg repairs, ih distinct, if_neg repairs, Findings.or_or_self,
          ite_self]

/-- A check is one pass over the segments that repairs as it goes. -/
theorem foldl_judge_segments (allocator : Allocator) (mode : CheckMode) :
    allocator.segments.foldl (judge mode) (∅, allocator) = allocator.check mode := by
  have distinct : allocator.segments.Nodup := List.nodup_range
  rw [foldl_judge distinct]
  rfl

/-- What a pass that repairs has done once it has judged the first segments. -/
structure Mended (before : Allocator) (count : Nat) (passed : Findings × Allocator) : Prop where
  /-- Nothing but checksums and the mark of a changed allocator differs. -/
  only : passed.2 = { before with sums := passed.2.sums, dirty := passed.2.dirty }
  /-- There are as many checksums. -/
  size : passed.2.sums.size = before.sums.size
  /-- The segments that were judged have their checksums. -/
  behind : ∀ index < count, passed.2.sums[index]? = some (before.segmentSum index)
  /-- The checksums of the others are as they were. -/
  ahead : ∀ index, count ≤ index → passed.2.sums[index]? = before.sums[index]?
  /-- The allocator is marked if it was, or if a segment was bad. -/
  dirty : passed.2.dirty = true ↔ before.dirty = true ∨ before.BadWithin count
  /-- A repair is reported if a segment was bad. -/
  findings : passed.1 = if before.BadWithin count then { fixed := true } else ∅

/-- The checksum recorded for a segment, among as many as there are bitmap blocks. -/
theorem Consistent.getElem?_sums (consistent : allocator.Consistent)
    (within : index < allocator.geometry.bitmapBlocks) :
    allocator.sums[index]? = some (allocator.recordedSum index) := by
  have held : index < allocator.sums.size := consistent.sums.symm ▸ within
  rw [recordedSum, Array.getD_eq_getD_getElem?, Array.getElem?_eq_getElem held, Option.getD_some]

/-- A segment that is not bad is passed over. -/
theorem Mended.judge_right {passed : Findings × Allocator} (mended : Mended before count passed)
    (consistent : before.Consistent) (within : count < before.geometry.bitmapBlocks)
    (right : before.segmentSum count = before.recordedSum count) :
    Mended before (count + 1) passed := by
  have same : before.BadWithin (count + 1) ↔ before.BadWithin count := by
    rw [badWithin_succ, right]
    tauto
  have here : passed.2.sums[count]? = some (before.segmentSum count) := by
    rw [mended.ahead count le_rfl, consistent.getElem?_sums within, right]
  constructor
  · exact mended.only
  · exact mended.size
  · exact Nat.forall_lt_succ_right.2 ⟨mended.behind, here⟩
  · exact fun index later => mended.ahead index (Nat.le_of_succ_le later)
  · rw [same]
    exact mended.dirty
  · simp only [same]
    exact mended.findings

/-- The checksum of a segment that is bad is recorded. -/
theorem Mended.judge_wrong {passed : Findings × Allocator} {bad : Mismatch}
    (mended : Mended before count passed) (consistent : before.Consistent)
    (within : count < before.geometry.bitmapBlocks)
    (wrong : before.segmentSum count ≠ before.recordedSum count) (place : bad.index = count)
    (computed : bad.computed = before.segmentSum count) :
    Mended before (count + 1) (passed.1 ||| { fixed := true }, passed.2.accept bad) := by
  have now : before.BadWithin (count + 1) := badWithin_succ.2 (.inr wrong)
  have held : count < passed.2.sums.size := by
    rw [mended.size, consistent.sums]
    exact within
  have sums : (passed.2.accept bad).sums =
      passed.2.sums.setIfInBounds count (before.segmentSum count) := by
    rw [accept, place, computed]
  constructor
  · dsimp only [accept]
    rw [mended.only]
  · rw [sums, Array.size_setIfInBounds, mended.size]
  · rw [sums]
    refine Nat.forall_lt_succ_right.2 ⟨fun index early => ?_, ?_⟩
    · rw [Array.getElem?_setIfInBounds_ne (Nat.ne_of_gt early), mended.behind index early]
    · exact Array.getElem?_setIfInBounds_self_of_lt held
  · intro index later
    rw [sums, Array.getElem?_setIfInBounds_ne (Nat.ne_of_lt later)]
    exact mended.ahead index (Nat.le_of_succ_le later)
  · exact ⟨fun _ => .inr now, fun _ => rfl⟩
  · rw [if_pos now, mended.findings]
    split <;> rfl

/-- A pass that repairs judges one segment more. -/
theorem Mended.judge {passed : Findings × Allocator} (mended : Mended before count passed)
    (consistent : before.Consistent) (within : count < before.geometry.bitmapBlocks)
    (repairs : mode.repairs = true) : Mended before (count + 1) (judge mode passed count) := by
  have computed : passed.2.segmentSum count = before.segmentSum count := by
    rw [mended.only]
    rfl
  have recorded : passed.2.recordedSum count = before.recordedSum count := by
    simp only [recordedSum, Array.getD_eq_getD_getElem?, mended.ahead count le_rfl]
  by_cases right : before.segmentSum count = before.recordedSum count
  · have none : passed.2.mismatch? count = none := by
      rw [mismatch?, computed, recorded, if_pos right]
    simp only [Allocator.judge, none]
    exact mended.judge_right consistent within right
  · let bad : Mismatch :=
      { index := count
        block := passed.2.geometry.bitmapBlock count
        recorded := before.recordedSum count
        computed := before.segmentSum count }
    have some : passed.2.mismatch? count = some bad := by
      rw [mismatch?, computed, recorded, if_neg right]
    simp only [Allocator.judge, some, repairs, if_true]
    exact mended.judge_wrong consistent within right rfl rfl

/-- A check that repairs judges all segments. -/
theorem Consistent.mended_check (consistent : allocator.Consistent) (repairs : mode.repairs = true) :
    Mended allocator allocator.geometry.bitmapBlocks (allocator.check mode) := by
  have begins : Mended allocator 0 (∅, allocator) := by
    have none : ¬ allocator.BadWithin 0 := fun ⟨_, early, _⟩ => Nat.not_lt_zero _ early
    exact ⟨rfl, rfl, fun _ early => absurd early (Nat.not_lt_zero _), fun _ _ => rfl,
      ⟨.inl, fun bad => bad.resolve_right none⟩, (if_neg none).symm⟩
  have passes : ∀ count ≤ allocator.geometry.bitmapBlocks,
      Mended allocator count ((List.range count).foldl (judge mode) (∅, allocator)) := by
    intro count
    induction count with
    | zero => exact fun _ => begins
    | succ count ih =>
      intro within
      rw [List.range_succ, List.foldl_append]
      exact (ih (Nat.le_of_succ_le within)).judge consistent within repairs
  rw [← foldl_judge_segments]
  exact passes _ le_rfl

/-- Whether an allocator comes from another by a repair of its bitmap blocks. -/
structure Repaired (before after : Allocator) : Prop where
  /-- Nothing but checksums and the mark of a changed allocator differs. -/
  only : after = { before with sums := after.sums, dirty := after.dirty }
  /-- There are as many checksums. -/
  size : after.sums.size = before.sums.size
  /-- The checksums of blocks that were not bad are as they were. -/
  kept : ∀ index < before.geometry.bitmapBlocks,
    before.geometry.bitmapBlock index ∉ before.badBlocks → after.sums[index]? = before.sums[index]?
  /-- The bad blocks have the checksums of their segments. -/
  replaced : ∀ index < before.geometry.bitmapBlocks,
    before.geometry.bitmapBlock index ∈ before.badBlocks →
      after.sums[index]? = some (before.segmentSum index)
  /-- The allocator is marked if it was, or if a block was bad. -/
  dirty : after.dirty = true ↔ before.dirty = true ∨ before.badBlocks ≠ []
  /-- No block is bad any more. -/
  good : after.badBlocks = []

/-- A check that repairs reports whether a block was bad. -/
theorem Consistent.findings_of_repairs (consistent : allocator.Consistent)
    (repairs : mode.repairs = true) : (allocator.check mode).1 =
      if allocator.badBlocks = [] then ∅ else { fixed := true } := by
  rw [(consistent.mended_check repairs).findings]
  by_cases good : allocator.badBlocks = []
  · rw [if_pos good, if_neg fun bad => badBlocks_ne_nil_iff.2 bad good]
  · rw [if_neg good, if_pos (badBlocks_ne_nil_iff.1 good)]

/-- The block of a segment is bad if the segment has another checksum than is recorded. -/
theorem bitmapBlock_mem_badBlocks (within : index < allocator.geometry.bitmapBlocks)
    (wrong : allocator.segmentSum index ≠ allocator.recordedSum index) :
    allocator.geometry.bitmapBlock index ∈ allocator.badBlocks := by
  rw [badBlocks_eq]
  apply List.mem_map_of_mem
  exact List.mem_filter.2 ⟨List.mem_range.2 within, decide_eq_true wrong⟩

/-- A pass over all segments repairs the allocator. -/
theorem Mended.repaired {passed : Findings × Allocator}
    (mended : Mended before before.geometry.bitmapBlocks passed) (consistent : before.Consistent) :
    Repaired before passed.2 := by
  have geometry : passed.2.geometry = before.geometry := by rw [mended.only]
  have computed (index : Nat) : passed.2.segmentSum index = before.segmentSum index := by
    rw [mended.only]
    rfl
  constructor
  · exact mended.only
  · exact mended.size
  · intro index within unlisted
    have right : before.segmentSum index = before.recordedSum index := by
      by_contra wrong
      exact unlisted (bitmapBlock_mem_badBlocks within wrong)
    rw [mended.behind index within, right, consistent.getElem?_sums within]
  · exact fun index within _ => mended.behind index within
  · rw [badBlocks_ne_nil_iff]
    exact mended.dirty
  · by_contra bad
    obtain ⟨index, within, wrong⟩ := badBlocks_ne_nil_iff.1 bad
    rw [geometry] at within
    apply wrong
    rw [computed, recordedSum, Array.getD_eq_getD_getElem?, mended.behind index within,
      Option.getD_some]

variable {partition : Partition} {state synced : Attached Allocator Store}

/-- A sync of a changed allocator that returns leaves its bitmap, records the checksum of each
segment and clears the mark. -/
theorem memory_of_sync (formed : state.memory.WellFormed)
    (measured : partition.MeasuredBy state.disk.device.shape) (dirty : state.memory.dirty = true)
    (syncs : sync partition state = .ok () synced) :
    synced.memory =
      { state.memory with
        sums :=
          ((List.range state.memory.geometry.bitmapBlocks).map state.memory.segmentSum).toArray
        dirty := false } := by
  obtain ⟨_, wrote, writing, memory, _⟩ := (ends_sync_writing formed measured dirty).of_ok syncs
  have sums := writing.sums_eq formed.sums
  rw [memory, writing.memory, sums]

/-- After a sync of a changed allocator that returns, the allocator is loaded as it is, and it
verifies. -/
theorem exists_load_of_sync (formed : state.memory.WellFormed)
    (measured : partition.MeasuredBy state.disk.device.shape) (dirty : state.memory.dirty = true)
    (syncs : sync partition state = .ok () synced) :
    ∃ after, load partition state.memory.geometry synced.disk.repaired = .ok synced.memory after ∧
      synced.memory.bitmap = state.memory.bitmap ∧ synced.memory.verify = .ok () := by
  obtain ⟨reached, only, stored⟩ := (ends_sync formed measured dirty).of_ok syncs
  have memory := memory_of_sync formed measured dirty syncs
  have units : partition.MeasuredBy synced.disk.repaired.device.shape :=
    measured.of_shape only.shape
  obtain ⟨after, loads⟩ := exists_load units formed.valid reached synced.disk.sound_repaired
  have image : synced.disk.repaired.image partition = synced.disk.image partition := rfl
  rw [image, stored] at loads
  refine ⟨after, loads, ?_, ?_⟩
  · rw [memory]
  · apply verify_of_sums
    intro index within
    rw [memory] at within ⊢
    have listed : index < state.memory.geometry.bitmapBlocks := within
    simp only [recordedSum, segmentSum, Array.getD_eq_getD_getElem?, List.getElem?_toArray,
      List.getElem?_map, List.getElem?_range listed, Option.map_some, Option.getD_some]

/-- An allocator after any requests, however it was obtained. Its bad blocks are those of the
segments that have another checksum than is recorded, in order. The verification fails at the first
of them, and passes if there is none. A check in any mode is one pass over the segments that judges
each by the checksums that the pass has left so far, and it says whether there are any bad blocks.
In the mode that may not repair it changes nothing. In the others it changes the checksums of the
bad blocks only, marks the allocator if there are any, and leaves none, so that every check behind
it is clean; and a sync of the marked allocator that returns brings the same bitmap to the disk,
where it is loaded and verifies. -/
theorem verdicts_agree (reachable : Reachable allocator) :
    allocator.badBlocks = (allocator.segments.filter fun index =>
        allocator.segmentSum index ≠ allocator.recordedSum index).map
          allocator.geometry.bitmapBlock ∧
    (allocator.verify = .ok () ↔ allocator.badBlocks = []) ∧
    (∀ first rest, allocator.badBlocks = first :: rest → ∃ error,
      allocator.verify = .error error ∧ error.kind = .corrupted ∧ error.block = some first) ∧
    (∀ mode, allocator.segments.foldl (judge mode) (∅, allocator) = allocator.check mode) ∧
    allocator.check .check =
      (if allocator.badBlocks = [] then ∅ else { fixable := true }, allocator) ∧
    ∀ mode : CheckMode, mode ≠ .check → ∃ repaired,
      allocator.check mode =
        (if allocator.badBlocks = [] then ∅ else { fixed := true }, repaired) ∧
      Repaired allocator repaired ∧
      (∀ second, repaired.check second = (∅, repaired)) ∧
      ∀ (partition : Partition) (disk : Disk Store) (synced : Attached Allocator Store),
        allocator.geometry.check = .ok () → partition.MeasuredBy disk.device.shape →
        repaired.dirty = true →
        sync partition { memory := repaired, disk } = .ok () synced →
        ∃ loaded after, load partition allocator.geometry synced.disk.repaired =
            .ok loaded after ∧
          loaded.bitmap = allocator.bitmap ∧ loaded.verify = .ok () := by
  have consistent := reachable.consistent
  refine ⟨allocator.badBlocks_eq, verify_eq_ok_iff, ?_, foldl_judge_segments allocator, ?_, ?_⟩
  · intro first rest names
    have fails : allocator.verify = .error (.atBlock .bitmapChecksum first) := by
      rw [verify, names]
    exact ⟨_, fails, rfl, rfl⟩
  · by_cases good : allocator.badBlocks = []
    · rw [if_pos good, check_of_good good]
    · rw [if_neg good, check_of_bad good]
  · intro mode other
    have repairs : mode.repairs = true := by
      cases mode with
      | check => exact absurd rfl other
      | fix => rfl
      | build => rfl
    have repaired := (consistent.mended_check repairs).repaired consistent
    refine ⟨(allocator.check mode).2, ?_, repaired, check_of_good repaired.good, ?_⟩
    · rw [← consistent.findings_of_repairs repairs]
    · intro partition disk synced accepted measured dirty syncs
      have valid := Geometry.blockSize_of_check accepted
      have resealed : Resealed allocator (allocator.check mode).2 := resealed_check allocator mode
      have geometry : (allocator.check mode).2.geometry = allocator.geometry := by
        rw [repaired.only]
      have bitmap : (allocator.check mode).2.bitmap = allocator.bitmap := by
        rw [repaired.only]
      have formed : (allocator.check mode).2.WellFormed :=
        (consistent.of_resealed resealed).wellFormed (geometry.symm ▸ valid)
      obtain ⟨after, loads, same, verifies⟩ := exists_load_of_sync formed measured dirty syncs
      rw [← geometry, ← bitmap]
      exact ⟨synced.memory, after, loads, same, verifies⟩

/-- An allocator that was created and asked to take a run is reachable. -/
theorem reachable_of_occupy {geometry : Geometry} {start count : Nat} {taken : Allocator}
    (outcome : (create geometry).toOption.bind (fun fresh => (fresh.occupy start count).toOption) =
      some taken) : Reachable taken := by
  cases creates : create geometry with
  | error error =>
    rw [creates] at outcome
    exact nomatch outcome
  | ok fresh =>
    cases occupies : fresh.occupy start count with
    | error error =>
      simp only [creates, Except.toOption, Option.bind_some, occupies] at outcome
      exact nomatch outcome
    | ok allocator =>
      simp only [creates, Except.toOption, Option.bind_some, occupies] at outcome
      obtain rfl := Option.some.inj outcome
      have serves : serve Sample.whole (.occupy start count)
          { memory := fresh, disk := Sample.start.disk } =
            .ok () { memory := allocator, disk := Sample.start.disk } := by
        simp only [serve, AttachedM.tryRevise, occupies]
      exact .served (.created creates) (.inl ⟨(), serves⟩)

/-- The allocator of the small volume, which was created and has taken blocks since. -/
def Sample.lapsed : Allocator where
  geometry := Sample.volume
  bitmap :=
    { total := 200
      marked := 12
      bits := ⟨#[0xF8, 0x7F, 0, 0, 0, 0, 0, 0, 0, 0, 0, 0, 0, 0, 0, 0, 0, 0, 0, 0, 0, 0, 0, 0, 0]⟩ }
  sums := #[Sample.volume.segmentSum (Bits.zeros 25) 0]
  dirty := true

/-- The small volume has a bad block until a check repairs it. After a sync the allocator is loaded
and verifies. -/
theorem verdicts_agree_sample : Sample.lapsed.badBlocks = [130] ∧
    (∃ error, Sample.lapsed.verify = .error error ∧ error.kind = .corrupted ∧
      error.block = some 130) ∧
    Sample.lapsed.check .check = ({ fixable := true }, Sample.lapsed) ∧
    ∃ repaired synced loaded after, Sample.lapsed.check .fix = ({ fixed := true }, repaired) ∧
      repaired.badBlocks = [] ∧ repaired.check .check = (∅, repaired) ∧
      sync Sample.whole { memory := repaired, disk := Sample.start.disk.repaired } =
        .ok () synced ∧
      load Sample.whole Sample.volume synced.disk.repaired = .ok loaded after ∧
      loaded.bitmap = Sample.lapsed.bitmap ∧ loaded.verify = .ok () := by
  have outcome : (create Sample.volume).toOption.bind
      (fun fresh => (fresh.occupy 3 12).toOption) = some Sample.lapsed := by decide +kernel
  have bad : Sample.lapsed.badBlocks = [130] := by decide +kernel
  have some : Sample.lapsed.badBlocks ≠ [] := bad ▸ List.cons_ne_nil _ _
  have returns : EStateM.Result.casesOn (sync Sample.whole
      { memory := (Sample.lapsed.check .fix).2, disk := Sample.start.disk.repaired })
      (fun _ _ => true) (fun _ _ => false) = true := by decide +kernel
  obtain ⟨_, _, fails, _, reports, repairs⟩ := verdicts_agree (reachable_of_occupy outcome)
  obtain ⟨repaired, checks, mended, clean, reloads⟩ := repairs .fix nofun
  rw [if_neg some] at reports checks
  rw [checks] at returns
  cases syncs : sync Sample.whole { memory := repaired, disk := Sample.start.disk.repaired } with
  | error error synced =>
    rw [syncs] at returns
    exact absurd returns Bool.false_ne_true
  | ok _ synced =>
    have accepted : Sample.lapsed.geometry.check = .ok () := rfl
    have measured : Sample.whole.MeasuredBy Sample.start.disk.repaired.device.shape :=
      ⟨⟨by decide, by decide⟩, rfl, rfl⟩
    have dirty : repaired.dirty = true := mended.dirty.2 (.inl rfl)
    obtain ⟨loaded, after, loads, same, verifies⟩ :=
      reloads Sample.whole Sample.start.disk.repaired synced accepted measured dirty syncs
    exact ⟨bad, fails _ _ bad, reports, repaired, synced, loaded, after, checks, mended.good,
      clean .check, syncs, loads, same, verifies⟩

end Allocator

end JournaledVolume
