import JournaledVolume.Bitmap
import JournaledVolume.Proofs.Ending
import Mathlib.Order.Basic

/-!
# Marking runs of blocks

A bitmap keeps the number of marked blocks beside its bits, and corrects it with every run that is
marked or cleared, whatever the run held before. The correction is exact: where the number was that
of the set bits below the last block, it is so afterwards.
-/

namespace JournaledVolume

open JournaledVolume.Action

namespace Bits

variable {bits before after : Bits} {value : Bool} {start stop count total index other : Nat}

/-- The mask that writing a bit is done with has this bit alone. -/
theorem testBit_mask {position : Nat} (inside : position < 8) (within : other < 8) :
    ((1 : UInt8) <<< UInt8.ofNat position).toNat.testBit other = decide (position = other) := by
  have shift : (UInt8.ofNat position).toNat % 8 = position := by
    rw [UInt8.toNat_ofNat']
    omega
  rw [UInt8.toNat_shiftLeft, shift, Nat.testBit_mod_two_pow, show (1 : UInt8).toNat = 1 from rfl,
    Nat.one_shiftLeft, Nat.testBit_two_pow]
  simp only [within, decide_true, Bool.true_and]

/-- The complement of a byte has the bits that the byte has not. -/
theorem testBit_complement (byte : UInt8) (inside : index < 8) :
    (~~~byte).toNat.testBit index = !byte.toNat.testBit index := by
  have complement : (~~~byte).toNat = 2 ^ 8 - (byte.toNat + 1) := by
    rw [UInt8.toNat_not, show UInt8.size = 2 ^ 8 from rfl]
    omega
  rw [complement, Nat.testBit_two_pow_sub_succ byte.toNat_lt]
  simp only [inside, decide_true, Bool.true_and]

/-- Writing a bit of a byte leaves the other bits. -/
theorem testBit_writeByte (byte : UInt8) {position : Nat} (inside : position < 8)
    (within : other < 8) : (writeByte byte position value).toNat.testBit other =
      if position = other then value else byte.toNat.testBit other := by
  have mask := testBit_mask inside within
  cases value with
  | true =>
    rw [writeByte, if_pos rfl, UInt8.toNat_or, Nat.testBit_or, mask]
    by_cases same : position = other
    · simp only [same, decide_true, Bool.or_true, if_true]
    · simp only [same, decide_false, Bool.or_false, if_false]
  | false =>
    rw [writeByte, if_neg Bool.false_ne_true, UInt8.toNat_and, Nat.testBit_and,
      testBit_complement _ within, mask]
    by_cases same : position = other
    · simp only [same, decide_true, Bool.not_true, Bool.and_false, if_true]
    · simp only [same, decide_false, Bool.not_false, Bool.and_true, if_false]

/-- A bit is one of the byte that holds it. -/
theorem test_of_getElem? {byte : UInt8} (found : bits.bytes[index / 8]? = some byte) :
    bits.test index = byte.toNat.testBit (index % 8) := by
  rw [test, found]

/-- Writing a bit leaves the other bits. -/
theorem test_write (held : index < bits.size) :
    (bits.write index value).test other = if index = other then value else bits.test other := by
  -- Only a bit of the same byte can be another one than before.
  by_cases near : index / 8 = other / 8
  · have inside : other / 8 < bits.bytes.size := by
      rw [size] at held
      omega
    have found : bits.bytes[other / 8]? = some bits.bytes[other / 8] :=
      Array.getElem?_eq_getElem inside
    have written : (bits.write index value).bytes[other / 8]? =
        some (writeByte bits.bytes[other / 8] (index % 8) value) := by
      rw [write, Array.getElem?_modify, if_pos near, found]
      rfl
    rw [test_of_getElem? written, test_of_getElem? found,
      testBit_writeByte _ (Nat.mod_lt _ (by decide)) (Nat.mod_lt _ (by decide))]
    refine if_congr ?_ rfl rfl
    omega
  · have differs : index ≠ other := fun same => near (congrArg (· / 8) same)
    rw [if_neg differs, test, test, write, Array.getElem?_modify, if_neg near]

/-- Whether bits come from others by giving a run of them a value. -/
structure Filled (value : Bool) (start count : Nat) (before after : Bits) : Prop where
  /-- There are as many bytes. -/
  size : after.bytes.size = before.bytes.size
  /-- The bits of the run have the value, and the others are as they were. -/
  test : ∀ index, after.test index =
    if start ≤ index ∧ index < start + count then value else before.test index

/-- A run that lies in the bytes is filled. -/
theorem ends_fill (held : start + count ≤ bits.size) :
    Ends (fill value start count) bits (fun _ after => Filled value start count bits after)
      fun _ _ => False := by
  induction count generalizing start bits with
  | zero =>
    refine ends_pure ⟨rfl, fun index => ?_⟩
    rw [if_neg (by omega)]
  | succ count ih =>
    have first : start < bits.size := by omega
    have size : (bits.write start value).bytes.size = bits.bytes.size := Array.size_modify
    have put : Ends (put value start) bits (fun _ after => after = bits.write start value)
        fun _ _ => False := ends_of_ok (if_pos first) rfl
    refine put.andThen ?_
    rintro _ _ rfl
    refine (ih ?_).mono ?_ fun _ _ never => never
    · rw [Bits.size, size, ← Bits.size]
      omega
    · intro _ after filled
      refine ⟨filled.size.trans size, fun index => ?_⟩
      rw [filled.test, test_write first]
      by_cases inside : start + 1 ≤ index ∧ index < start + 1 + count
      · rw [if_pos inside, if_pos (by omega)]
      · rw [if_neg inside]
        refine if_congr ?_ rfl rfl
        omega

/-- Filling a run that lies in the bytes succeeds. -/
theorem exists_fill (value : Bool) (held : start + count ≤ bits.size) :
    ∃ after, fill value start count bits = .ok () after ∧ Filled value start count bits after := by
  have ends : Ends (fill value start count) bits _ _ := ends_fill held
  obtain ⟨_, after, fills, filled⟩ := ends.exists_ok fun _ _ never => never
  exact ⟨after, fills, filled⟩

/-- The bits of a byte, counted one by one. -/
theorem countP_byte (aligned : index % 8 = 0) (held : index + 8 ≤ bits.size) :
    (List.range' index 8).countP bits.test = onesOfByte (bits.bytes.getD (index / 8) 0) := by
  have inside : index / 8 < bits.bytes.size := by
    rw [size] at held
    omega
  obtain ⟨byte, found⟩ : ∃ byte, bits.bytes[index / 8]? = some byte :=
    ⟨_, Array.getElem?_eq_getElem inside⟩
  rw [Array.getD_eq_getD_getElem?, found, Option.getD_some, onesOfByte, List.range'_eq_map_range,
    List.countP_map]
  apply List.countP_congr
  intro position within
  have small : position < 8 := List.mem_range.1 within
  have place : (index + position) / 8 = index / 8 := by omega
  have offset : (index + position) % 8 = position := by omega
  rw [← place] at found
  rw [Function.comp_apply, test_of_getElem? found, offset]

/-- Counting from a place on adds up the set bits from there on. -/
theorem ones_go_eq (held : stop ≤ bits.size) (counted : Nat) :
    ones.go bits stop index counted =
      counted + (List.range' index (stop - index)).countP bits.test := by
  fun_induction ones.go bits stop index counted with
  | case1 index counted inside whole ih =>
    rw [ih, ← countP_byte whole.1 (by omega), Nat.add_assoc, ← List.countP_append,
      List.range'_append_1]
    congr 3
    omega
  | case2 index counted inside _ ih =>
    have first : List.range' index (stop - index) =
        index :: List.range' (index + 1) (stop - (index + 1)) := by
      rw [show stop - index = stop - (index + 1) + 1 by omega, List.range'_succ]
    rw [ih, first, List.countP_cons, Nat.add_assoc, Nat.add_comm (bits.test index).toNat]
    cases bits.test index <;> rfl
  | case3 index counted outside =>
    rw [show stop - index = 0 by omega]
    rfl

/-- The number of set bits is the number of places in the range whose bit is set. -/
theorem ones_eq (held : stop ≤ bits.size) :
    bits.ones start stop = (List.range' start (stop - start)).countP bits.test := by
  rw [ones, Nat.min_eq_left held, ones_go_eq held, Nat.zero_add]

/-- There are no more set bits than places. -/
theorem ones_le (held : start + count ≤ bits.size) : bits.ones start (start + count) ≤ count := by
  rw [ones_eq held, Nat.add_sub_cancel_left]
  exact List.countP_le_length.trans_eq List.length_range'

/-- No bit is set where every byte is zero. -/
theorem test_zeros (byteCount index : Nat) : (zeros byteCount).test index = false := by
  rw [test, zeros, Array.getElem?_replicate]
  split
  · next byte found =>
    split at found
    · cases found
      exact Nat.zero_testBit _
    · exact nomatch found
  · rfl

/-- Within a run that was filled all bits are set or none. -/
theorem Filled.countP_run (filled : Filled value start count before after) :
    (List.range' start count).countP after.test = if value then count else 0 := by
  have constant : (List.range' start count).countP after.test =
      (List.range' start count).countP fun _ => value := by
    apply List.countP_congr
    intro index within
    rw [filled.test, if_pos (List.mem_range'_1.1 within)]
  rw [constant]
  cases value with
  | true => rw [List.countP_true, List.length_range', if_pos rfl]
  | false => rw [List.countP_false, if_neg Bool.false_ne_true, Function.const_apply]

/-- Outside of a run that was filled there are as many set bits as before. -/
theorem Filled.countP_outside {places : List Nat} (filled : Filled value start count before after)
    (apart : ∀ index ∈ places, index < start ∨ start + count ≤ index) :
    places.countP after.test = places.countP before.test := by
  apply List.countP_congr
  intro index within
  have outside := apart index within
  rw [filled.test, if_neg (by omega)]

/-- Filling a run changes the number of set bits by what the run gains. -/
theorem Filled.ones_eq (filled : Filled value start count before after)
    (inside : start + count ≤ total) (held : total ≤ before.size) :
    after.ones 0 total + before.ones start (start + count) =
      before.ones 0 total + if value then count else 0 := by
  have holds : total ≤ after.size := by
    rw [Bits.size, filled.size]
    exact held
  -- The places before, in and behind the run are counted apart.
  have split : List.range' 0 total = List.range' 0 start ++ (List.range' start count ++
      List.range' (start + count) (total - (start + count))) := by
    rw [List.range'_append_1, show count + (total - (start + count)) = total - start by omega]
    have whole := List.range'_append_1 (s := 0) (m := start) (n := total - start)
    rw [Nat.zero_add, Nat.add_sub_cancel' (by omega)] at whole
    exact whole.symm
  have early : (List.range' 0 start).countP after.test =
      (List.range' 0 start).countP before.test := by
    refine filled.countP_outside fun index within => .inl ?_
    have range := List.mem_range'_1.1 within
    omega
  have late : (List.range' (start + count) (total - (start + count))).countP after.test =
      (List.range' (start + count) (total - (start + count))).countP before.test :=
    filled.countP_outside fun index within => .inr (List.mem_range'_1.1 within).1
  rw [Bits.ones_eq holds, Bits.ones_eq held, Bits.ones_eq (Nat.le_trans inside held), Nat.sub_zero,
    split, Nat.add_sub_cancel_left]
  simp only [List.countP_append, filled.countP_run, early, late]
  omega

end Bits

namespace Bitmap

variable {bitmap changed : Bitmap} {total start count : Nat}

/-- Whether a bitmap has a bit for each block and counts those that are set. -/
structure Counted (bitmap : Bitmap) : Prop where
  /-- The bytes hold a bit for each block. -/
  held : bitmap.total ≤ bitmap.bits.size
  /-- The count is that of the set bits. -/
  marked : bitmap.marked = bitmap.bits.ones 0 bitmap.total

/-- Whether a bitmap has the blocks and the bytes of another. -/
structure Matches (bitmap changed : Bitmap) : Prop where
  /-- There are as many blocks. -/
  total : changed.total = bitmap.total
  /-- There are as many bytes. -/
  size : changed.bits.bytes.size = bitmap.bits.bytes.size

/-- The bytes of a bitmap hold a bit for each block. -/
theorem le_byteCount (total : Nat) : total ≤ 8 * byteCount total := by
  rw [byteCount]
  omega

/-- Storing bytes leaves their number. -/
theorem size_load_go (bytes : Array UInt8) (offset : Nat) (data : Bytes) :
    (load.go bytes offset data).size = bytes.size := by
  induction data generalizing bytes offset with
  | nil => rfl
  | cons byte data ih => rw [load.go, ih, Array.size_setIfInBounds]

/-- A bitmap in which every block is free, where memory has room for it. -/
theorem zeros_of_room (room : checkRoom total = .ok ()) :
    zeros total = .ok { total, marked := 0, bits := Bits.zeros (byteCount total) } := by
  rw [zeros, room]
  rfl

/-- There is room for a bitmap that was made. -/
theorem room_of_zeros (made : zeros total = .ok bitmap) : checkRoom total = .ok () := by
  cases room : checkRoom total with
  | ok => rfl
  | error error =>
    rw [zeros, room] at made
    exact nomatch made

/-- There is no bitmap where memory has no room. -/
theorem full_of_zeros {error : Error} (refused : zeros total = .error error) :
    checkRoom total = .error error := by
  cases room : checkRoom total with
  | ok _ => exact nomatch refused.symm.trans (zeros_of_room room)
  | error found =>
    rw [zeros, room] at refused
    cases refused
    rfl

/-- A bitmap in which every block is free counts none. -/
theorem counted_zeros (total : Nat) :
    Counted { total, marked := 0, bits := Bits.zeros (byteCount total) } := by
  have held : total ≤ (Bits.zeros (byteCount total)).size := by
    rw [Bits.size, Bits.zeros, Array.size_replicate]
    exact le_byteCount total
  refine ⟨held, ?_⟩
  rw [Bits.ones_eq held, List.countP_eq_zero.2 fun index _ => ?_]
  rw [Bits.test_zeros]
  exact Bool.false_ne_true

/-- A bitmap that was counted again has the right count. -/
theorem counted_recount (held : bitmap.total ≤ bitmap.bits.size) : bitmap.recount.Counted :=
  ⟨held, rfl⟩

/-- A bitmap of which a run was filled has the right count when the count gains what the run
gains. -/
theorem Counted.of_filled {value : Bool} {bits : Bits} {marked : Nat} (counted : bitmap.Counted)
    (inside : start + count ≤ bitmap.total)
    (filled : Bits.Filled value start count bitmap.bits bits)
    (gained : marked + bitmap.bits.ones start (start + count) =
      bitmap.marked + if value then count else 0) :
    Counted { bitmap with bits, marked } ∧ bitmap.Matches { bitmap with bits, marked } := by
  have held : bitmap.total ≤ bits.size := by
    rw [Bits.size, filled.size]
    exact counted.held
  have after := filled.ones_eq inside counted.held
  have before := counted.marked
  refine ⟨⟨held, ?_⟩, rfl, filled.size⟩
  show marked = bits.ones 0 bitmap.total
  omega

/-- A run that lies in the bitmap is marked, and the count stays right. -/
theorem Counted.exists_mark (counted : bitmap.Counted) (inside : start + count ≤ bitmap.total) :
    ∃ changed, bitmap.mark start count = .ok changed ∧ changed.Counted ∧ bitmap.Matches changed ∧
      Bits.Filled true start count bitmap.bits changed.bits := by
  have held : start + count ≤ bitmap.bits.size := Nat.le_trans inside counted.held
  have fewer := Bits.ones_le held
  obtain ⟨bits, fills, filled⟩ := Bits.exists_fill true held
  have gained : bitmap.marked + (count - bitmap.bits.ones start (start + count)) +
      bitmap.bits.ones start (start + count) = bitmap.marked + if true then count else 0 := by
    rw [if_pos rfl]
    omega
  obtain ⟨right, same⟩ := counted.of_filled inside filled gained
  refine ⟨_, ?_, right, same, filled⟩
  rw [mark, show bitmap.checkRun start count = .ok () from if_pos inside]
  dsimp only [bind, Except.bind]
  rw [fills]
  rfl

/-- A run that leaves the bitmap is not marked. -/
theorem mark_of_outside (outside : bitmap.total < start + count) :
    bitmap.mark start count = .error (.atBlock .beyondBitmap start) := by
  rw [mark, show bitmap.checkRun start count = .error _ from if_neg (Nat.not_le.2 outside)]
  rfl

/-- Marking a run keeps the count right. -/
theorem Counted.of_mark (counted : bitmap.Counted) (marks : bitmap.mark start count = .ok changed) :
    changed.Counted ∧ bitmap.Matches changed := by
  rcases Nat.lt_or_ge bitmap.total (start + count) with outside | inside
  · exact nomatch (mark_of_outside outside).symm.trans marks
  · obtain ⟨_, marked, right, same, _⟩ := counted.exists_mark inside
    cases marked.symm.trans marks
    exact ⟨right, same⟩

/-- A run that lies in the bitmap is cleared, and the count stays right. -/
theorem Counted.exists_clear (counted : bitmap.Counted) (inside : start + count ≤ bitmap.total) :
    ∃ changed, bitmap.clear start count = .ok changed ∧ changed.Counted ∧ bitmap.Matches changed ∧
      Bits.Filled false start count bitmap.bits changed.bits := by
  have held : start + count ≤ bitmap.bits.size := Nat.le_trans inside counted.held
  obtain ⟨bits, fills, filled⟩ := Bits.exists_fill false held
  have before := counted.marked
  have all := filled.ones_eq inside counted.held
  rw [if_neg Bool.false_ne_true] at all
  have lost : bitmap.marked - bitmap.bits.ones start (start + count) +
      bitmap.bits.ones start (start + count) = bitmap.marked + if false then count else 0 := by
    rw [if_neg Bool.false_ne_true]
    omega
  obtain ⟨right, same⟩ := counted.of_filled inside filled lost
  refine ⟨_, ?_, right, same, filled⟩
  rw [clear, show bitmap.checkRun start count = .ok () from if_pos inside]
  dsimp only [bind, Except.bind]
  rw [fills]
  rfl

/-- A run that leaves the bitmap is not cleared. -/
theorem clear_of_outside (outside : bitmap.total < start + count) :
    bitmap.clear start count = .error (.atBlock .beyondBitmap start) := by
  rw [clear, show bitmap.checkRun start count = .error _ from if_neg (Nat.not_le.2 outside)]
  rfl

/-- Clearing a run keeps the count right. -/
theorem Counted.of_clear (counted : bitmap.Counted)
    (clears : bitmap.clear start count = .ok changed) :
    changed.Counted ∧ bitmap.Matches changed := by
  rcases Nat.lt_or_ge bitmap.total (start + count) with outside | inside
  · exact nomatch (clear_of_outside outside).symm.trans clears
  · obtain ⟨_, cleared, right, same, _⟩ := counted.exists_clear inside
    cases cleared.symm.trans clears
    exact ⟨right, same⟩

end Bitmap

end JournaledVolume
