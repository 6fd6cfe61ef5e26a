import JournaledVolume.Adler32
import Mathlib.Algebra.Field.ZMod
import Mathlib.Tactic.LinearCombination
import Mathlib.Tactic.NormNum.Prime
import Mathlib.Tactic.Ring

/-!
# How far apart bytes with the same checksum are

Modulo 65521 the low sum of the checksum is the sum of the bytes, and the high sum counts each byte
as often as there are bytes from it on. The modulus is prime and larger than every byte, so no
single byte changes without the low sum. Two bytes that change can keep the low sum, but then the
high sum moves by their distance, and stays only if the modulus divides that.
-/

namespace JournaledVolume

/-- The number of places where bytes differ from others. -/
def Bytes.distance (old new : Bytes) : Nat := (old.zip new).countP fun pair => pair.1 ≠ pair.2

namespace Bytes

variable {old new : Bytes} {byte other : UInt8}

/-- Bytes that start alike differ behind their first. -/
@[simp]
theorem distance_cons_self : distance (byte :: old) (byte :: new) = distance old new := by
  simp [distance]

/-- Bytes that start differently differ in one more place than behind their first. -/
theorem distance_cons_of_ne (different : byte ≠ other) :
    distance (byte :: old) (other :: new) = distance old new + 1 := by
  simp [distance, different]

/-- Bytes that differ nowhere are the same. -/
theorem eq_of_distance_eq_zero (same : old.length = new.length) (nowhere : old.distance new = 0) :
    old = new := by
  induction old generalizing new with
  | nil => exact (List.length_eq_zero_iff.1 same.symm).symm
  | cons byte old ih =>
    cases new with
    | nil => exact nomatch same
    | cons other new =>
      by_cases alike : byte = other
      · subst alike
        rw [distance_cons_self] at nowhere
        rw [ih (Nat.succ.inj same) nowhere]
      · rw [distance_cons_of_ne alike] at nowhere
        exact nomatch nowhere

/-- Bytes differ in no more places in front of a place than at all. -/
theorem distance_take_le (count : Nat) :
    distance (old.take count) (new.take count) ≤ old.distance new := by
  rw [distance, distance, List.zip, ← List.take_zipWith]
  exact (List.take_sublist _ _).countP_le

/-- Bytes differ in no more places from a place on than at all. -/
theorem distance_drop_le (count : Nat) :
    distance (old.drop count) (new.drop count) ≤ old.distance new := by
  rw [distance, distance, List.zip, ← List.drop_zipWith]
  exact (List.drop_sublist _ _).countP_le

/-- The same bytes behind two lists of one length change nothing. -/
theorem distance_append_right (same : old.length = new.length) (suffix : Bytes) :
    distance (old ++ suffix) (new ++ suffix) = distance old new := by
  have nowhere : distance suffix suffix = 0 := by
    induction suffix with
    | nil => rfl
    | cons byte suffix ih => rw [distance_cons_self, ih]
  rw [distance, List.zip_append same, List.countP_append]
  exact (congrArg (distance old new + ·) nowhere).trans (Nat.add_zero _)

end Bytes

namespace Adler32

/-- The modulus is a prime number. -/
instance modulus_prime : Fact modulus.Prime := ⟨by norm_num [modulus]⟩

namespace Sums

variable {sums : Sums}

/-- Whether both sums are half words. -/
structure Small (sums : Sums) : Prop where
  /-- The low sum is. -/
  low : sums.low < 65536
  /-- The high sum is. -/
  high : sums.high < 65536

/-- The sums in a word are half words. -/
theorem small_unpack (word : UInt32) : (unpack word).Small := by
  have range := word.toNat_lt
  refine ⟨Nat.mod_lt _ (by decide), ?_⟩
  show word.toNat / 65536 < 65536
  omega

/-- They stay half words with further bytes. -/
theorem Small.foldl (small : sums.Small) (bytes : Bytes) : (bytes.foldl add sums).Small := by
  have reduced (number : Nat) : number % modulus < 65536 :=
    (Nat.mod_lt _ (by decide)).trans (by decide)
  induction bytes generalizing sums with
  | nil => exact small
  | cons byte bytes ih => exact ih ⟨reduced _, reduced _⟩

/-- Half words are read back from the word that holds them. -/
theorem Small.unpack_pack (small : sums.Small) : unpack sums.pack = sums := by
  obtain ⟨low, high⟩ := sums
  have bounds : low < 65536 ∧ high < 65536 := ⟨small.low, small.high⟩
  have held : (UInt32.ofNat (65536 * high + low)).toNat = 65536 * high + low :=
    UInt32.toNat_ofNat_of_lt' (by simp only [UInt32.size]; omega)
  rw [unpack, pack, held]
  congr 1 <;> omega

/-- The word is the one that holds its sums. -/
theorem pack_unpack (word : UInt32) : (unpack word).pack = word := by
  rw [pack, unpack, Nat.div_add_mod, UInt32.ofNat_toNat]

end Sums

/-- A computation can stop anywhere and go on from its word. -/
theorem resume_append (sum : UInt32) (front behind : Bytes) :
    resume sum (front ++ behind) = resume (resume sum front) behind := by
  have small := (Sums.small_unpack sum).foldl front
  rw [resume, resume, resume, List.foldl_append, small.unpack_pack]

/-- Chunks of padding are summed up like the padding in one piece. -/
theorem resumeOnes_eq (sum : UInt32) (pad : Nat) :
    resumeOnes sum pad = resume sum (List.replicate pad 0xFF) := by
  induction sum, pad using resumeOnes.induct with
  | case1 sum =>
    rw [resumeOnes, if_pos rfl]
    exact (Sums.pack_unpack sum).symm
  | case2 sum pad some chunk ih =>
    have within : chunk ≤ pad := Nat.min_le_left _ _
    rw [resumeOnes, if_neg some, ih, ← resume_append, List.replicate_append_replicate,
      Nat.add_sub_cancel' within]

/-- The checksum of a padded payload is that of the bytes with the padding behind them. -/
theorem padded_eq (payload : Bytes) (pad : Nat) :
    padded payload pad = checksum (payload ++ List.replicate pad 0xFF) := by
  rw [padded, resumeOnes_eq, checksum, checksum, resume_append]

/-- The sum of bytes, modulo the modulus. -/
def total : Bytes → ZMod modulus
  | [] => 0
  | byte :: bytes => byte.toNat + total bytes

/-- The sum of bytes, each counted as often as there are bytes from it on, modulo the modulus. -/
def weighted : Bytes → ZMod modulus
  | [] => 0
  | byte :: bytes => (bytes.length + 1) * byte.toNat + weighted bytes

/-- The low sum grows by the sum of the bytes. -/
theorem low_foldl_add (sums : Sums) (bytes : Bytes) :
    ((bytes.foldl Sums.add sums).low : ZMod modulus) = sums.low + total bytes := by
  induction bytes generalizing sums with
  | nil => simp [total]
  | cons byte bytes ih =>
    rw [List.foldl_cons, ih, Sums.add, total, ZMod.natCast_mod, Nat.cast_add, add_assoc]

/-- The high sum grows by the low sum at each byte, and by the weighted sum of the bytes. -/
theorem high_foldl_add (sums : Sums) (bytes : Bytes) :
    ((bytes.foldl Sums.add sums).high : ZMod modulus) =
      sums.high + bytes.length * sums.low + weighted bytes := by
  induction bytes generalizing sums with
  | nil => simp [weighted]
  | cons byte bytes ih =>
    rw [List.foldl_cons, ih, Sums.add, weighted, List.length_cons]
    simp only [ZMod.natCast_mod, Nat.cast_add, Nat.cast_one]
    ring

variable {old new : Bytes} {byte other : UInt8}

/-- Bytes of one length with the same checksum have the same sums. -/
theorem sums_eq_of_checksum (same : old.length = new.length)
    (agree : checksum old = checksum new) :
    total old = total new ∧ weighted old = weighted new := by
  have start := Sums.small_unpack 1
  have sums : old.foldl Sums.add (Sums.unpack 1) = new.foldl Sums.add (Sums.unpack 1) := by
    rw [← (start.foldl old).unpack_pack, ← (start.foldl new).unpack_pack]
    exact congrArg Sums.unpack agree
  have low := low_foldl_add (Sums.unpack 1) old
  have high := high_foldl_add (Sums.unpack 1) old
  rw [sums, low_foldl_add] at low
  rw [sums, high_foldl_add, same] at high
  exact ⟨(add_left_cancel low).symm, (add_left_cancel high).symm⟩

/-- No two bytes are the same modulo the modulus. -/
theorem byte_injective (same : (byte.toNat : ZMod modulus) = other.toNat) : byte = other := by
  have small (byte : UInt8) : byte.toNat < modulus := byte.toNat_lt.trans (by decide)
  rw [ZMod.natCast_eq_natCast_iff', Nat.mod_eq_of_lt (small _), Nat.mod_eq_of_lt (small _)] at same
  exact UInt8.toNat_inj.1 same

/-- One byte that changes moves the weighted sum by its weight times what it moves the sum by. -/
theorem exists_weight (same : old.length = new.length) (few : old.distance new ≤ 1) :
    ∃ weight ≤ old.length, weighted new - weighted old = weight * (total new - total old) := by
  induction old generalizing new with
  | nil =>
    obtain rfl := List.length_eq_zero_iff.1 same.symm
    exact ⟨0, Nat.le_refl _, by simp⟩
  | cons byte old ih =>
    cases new with
    | nil => exact nomatch same
    | cons other new =>
      have rest : old.length = new.length := Nat.succ.inj same
      by_cases alike : byte = other
      · subst alike
        rw [Bytes.distance_cons_self] at few
        obtain ⟨weight, inside, moved⟩ := ih rest few
        refine ⟨weight, Nat.le_succ_of_le inside, ?_⟩
        rw [weighted, weighted, total, total, rest]
        linear_combination moved
      · rw [Bytes.distance_cons_of_ne alike] at few
        obtain rfl := Bytes.eq_of_distance_eq_zero rest (by omega)
        refine ⟨old.length + 1, Nat.le_refl _, ?_⟩
        rw [weighted, weighted, total, total]
        push_cast
        ring

/-- Bytes that differ in one place at most differ in their sum, if at all. -/
theorem eq_of_total (same : old.length = new.length) (few : old.distance new ≤ 1)
    (totals : total old = total new) : old = new := by
  induction old generalizing new with
  | nil => exact (List.length_eq_zero_iff.1 same.symm).symm
  | cons byte old ih =>
    cases new with
    | nil => exact nomatch same
    | cons other new =>
      have rest : old.length = new.length := Nat.succ.inj same
      rw [total, total] at totals
      by_cases alike : byte = other
      · subst alike
        rw [Bytes.distance_cons_self] at few
        rw [ih rest few (add_left_cancel totals)]
      · rw [Bytes.distance_cons_of_ne alike] at few
        obtain rfl := Bytes.eq_of_distance_eq_zero rest (by omega)
        exact absurd (byte_injective (add_right_cancel totals)) alike

/-- Bytes that differ in two places at most differ in one of their sums, if at all, as long as they
are fewer than the modulus. -/
theorem eq_of_sums (same : old.length = new.length) (short : old.length < modulus)
    (few : old.distance new ≤ 2) (totals : total old = total new)
    (weights : weighted old = weighted new) : old = new := by
  induction old generalizing new with
  | nil => exact (List.length_eq_zero_iff.1 same.symm).symm
  | cons byte old ih =>
    cases new with
    | nil => exact nomatch same
    | cons other new =>
      have rest : old.length = new.length := Nat.succ.inj same
      rw [total, total] at totals
      rw [weighted, weighted, rest] at weights
      by_cases alike : byte = other
      · subst alike
        rw [Bytes.distance_cons_self] at few
        rw [ih rest (Nat.lt_of_succ_lt short) few (add_left_cancel totals)
          (add_left_cancel weights)]
      · -- The second place has a smaller weight than the first, so the two cannot make up.
        rw [Bytes.distance_cons_of_ne alike] at few
        obtain ⟨weight, inside, moved⟩ := exists_weight rest (by omega)
        have apart : ((new.length + 1 - weight : Nat) : ZMod modulus) ≠ 0 := by
          rw [Ne, ZMod.natCast_eq_zero_iff]
          refine Nat.not_dvd_of_pos_of_lt (by omega) ?_
          rw [List.length_cons] at short
          omega
        have product : ((new.length + 1 - weight : Nat) : ZMod modulus) *
            ((byte.toNat : ZMod modulus) - other.toNat) = 0 := by
          rw [Nat.cast_sub (by omega)]
          push_cast
          linear_combination weights - (weight : ZMod modulus) * totals + moved
        rcases mul_eq_zero.1 product with none | none
        · exact absurd none apart
        · exact absurd (byte_injective (sub_eq_zero.1 none)) alike

/-- Whether the checksum is certain to tell apart padded payloads of `size` bytes that differ in
`count` places. -/
def Separates (size count : Nat) : Prop := count ≤ 1 ∨ (count ≤ 2 ∧ size < modulus)

/-- Payloads that differ in few places have different checksums. -/
theorem eq_of_padded {pad : Nat} (same : old.length = new.length)
    (separates : Separates (old.length + pad) (old.distance new))
    (agree : padded old pad = padded new pad) : old = new := by
  let padding : Bytes := List.replicate pad 0xFF
  rw [padded_eq, padded_eq] at agree
  have lengths : (old ++ padding).length = (new ++ padding).length := by
    rw [List.length_append, List.length_append, same]
  have places := Bytes.distance_append_right same padding
  obtain ⟨totals, weights⟩ := sums_eq_of_checksum lengths agree
  have whole : old ++ padding = new ++ padding := by
    rcases separates with one | ⟨two, short⟩
    · exact eq_of_total lengths (places.trans_le one) totals
    · have size : (old ++ padding).length < modulus := by simpa [padding] using short
      exact eq_of_sums lengths size (places.trans_le two) totals weights
  exact List.append_cancel_right whole

end Adler32

end JournaledVolume
