import JournaledVolume.PackStream
import JournaledVolume.Proofs.Encoding
import JournaledVolume.Proofs.Ending

/-!
# Reading pack streams

A read of a pack stream takes what it asks for from the front, or finds that the stream is too
short. Records of one size that stand one behind the other are found again by their number.
-/

namespace JournaledVolume

open JournaledVolume.Action

namespace Reader

/-- A read of bytes takes them from the front, unless there are fewer. -/
theorem ends_take (count : Nat) (unread : Bytes) :
    Ends (take count) unread
      (fun taken rest =>
        count ≤ unread.length ∧ taken = unread.take count ∧ rest = unread.drop count)
      fun error _ => error = ⟨.truncatedStream, none⟩ ∧ unread.length < count := by
  have size : (unread.take count).length = min count unread.length := List.length_take
  by_cases short : (unread.take count).length < count
  · refine ends_of_error (by simp only [take, short, if_true]; rfl) ⟨rfl, ?_⟩
    omega
  · refine ends_of_ok (by simp only [take, short, if_false]) ⟨?_, rfl, rfl⟩
    omega

/-- A read of a word of eight bytes takes it from the front. -/
theorem ends_word64 (unread : Bytes) :
    Ends word64 unread
      (fun word rest =>
        8 ≤ unread.length ∧ word = LittleEndian.decode64 unread ∧ rest = unread.drop 8)
      fun error _ => error = ⟨.truncatedStream, none⟩ ∧ unread.length < 8 := by
  refine (ends_take 8 unread).andThen ?_
  rintro _ _ ⟨enough, rfl, rfl⟩
  refine ends_pure ⟨enough, ?_, rfl⟩
  rw [LittleEndian.decode64, List.take_take, Nat.min_self, LittleEndian.decode64]

/-- A read of a word of four bytes takes it from the front. -/
theorem ends_word32 (unread : Bytes) :
    Ends word32 unread
      (fun word rest =>
        4 ≤ unread.length ∧ word = LittleEndian.decode32 unread ∧ rest = unread.drop 4)
      fun error _ => error = ⟨.truncatedStream, none⟩ ∧ unread.length < 4 := by
  refine (ends_take 4 unread).andThen ?_
  rintro _ _ ⟨enough, rfl, rfl⟩
  refine ends_pure ⟨enough, ?_, rfl⟩
  rw [LittleEndian.decode32, List.take_take, Nat.min_self, LittleEndian.decode32]

variable {count : Nat} {bytes : Bytes}

/-- A read takes what is in front of the rest. -/
theorem take_append (size : bytes.length = count) (rest : Bytes) :
    take count (bytes ++ rest) = .ok bytes rest := by
  have taken : (bytes ++ rest).take count = bytes := List.take_left' size
  have enough : ¬ bytes.length < count := by omega
  simp only [take, taken, enough, if_false, List.drop_left' size]

/-- A read of a word takes the word in front of the rest. -/
theorem word64_append (word : UInt64) (rest : Bytes) :
    word64 (LittleEndian.encode64 word ++ rest) = .ok word rest := by
  have read : LittleEndian.decode64 (LittleEndian.encode64 word) = word := by
    have alone := LittleEndian.decode64_encode64_append word []
    rwa [List.append_nil] at alone
  have taken := take_append (LittleEndian.length_encode64 word) rest
  rw [word64, bind_of_ok taken, read]
  rfl

end Reader

section Records

variable {α : Type} {records : List α} {record : Nat → List α} {size count index : Nat}

/-- The records of one size in a list, one behind the other, are its front. -/
theorem flatMap_take_drop (records : List α) (size count : Nat) :
    (List.range count).flatMap (fun index => (records.drop (index * size)).take size) =
      records.take (count * size) := by
  induction count with
  | zero => rw [Nat.zero_mul, List.take_zero]; rfl
  | succ count ih =>
    rw [List.range_succ, List.flatMap_append, ih, Nat.succ_mul, List.take_add,
      List.flatMap_singleton]

/-- Records of one size have the size of one, times their number. -/
theorem length_flatMap_range (uniform : ∀ index, (record index).length = size) (count : Nat) :
    ((List.range count).flatMap record).length = count * size := by
  induction count with
  | zero => rw [Nat.zero_mul]; rfl
  | succ count ih =>
    rw [List.range_succ, List.flatMap_append, List.length_append, ih, List.flatMap_singleton,
      uniform, Nat.succ_mul]

/-- A record of one size is found by its number, whatever follows the last one. -/
theorem take_drop_flatMap_range (uniform : ∀ index, (record index).length = size)
    (within : index < count) (rest : List α) :
    (((List.range count).flatMap record ++ rest).drop (index * size)).take size =
      record index := by
  -- The last record stands in front of the rest; the others are in front of it.
  induction count generalizing rest with
  | zero => exact absurd within (Nat.not_lt_zero _)
  | succ count ih =>
    rw [List.range_succ, List.flatMap_append, List.flatMap_singleton, List.append_assoc]
    rcases Nat.lt_succ_iff_lt_or_eq.1 within with before | rfl
    · exact ih before _
    · rw [List.drop_left' (length_flatMap_range uniform index), List.take_left' (uniform index)]

end Records

end JournaledVolume
