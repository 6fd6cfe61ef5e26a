import JournaledVolume.Journal.Encoding
import Mathlib.Tactic.Ring

/-!
# Pointer blocks read back

The journal header and the journal footer are written as whole blocks, and decoding such a block
gives back what was encoded.
-/

namespace JournaledVolume

namespace LittleEndian

/-- A number is written with as many digits as asked for. -/
@[simp]
theorem length_encode (width number : Nat) : (encode width number).length = width := by
  induction width generalizing number with
  | zero => rfl
  | succ width ih => rw [encode, List.length_cons, ih]

/-- A number that fits in its digits is read back. -/
theorem decode_encode {width number : Nat} (fits : number < 256 ^ width) :
    decode (encode width number) = number := by
  induction width generalizing number with
  | zero =>
    rw [Nat.pow_zero] at fits
    rw [encode, decode]
    omega
  | succ width ih =>
    have rest : number / 256 < 256 ^ width := by
      rw [Nat.pow_succ] at fits
      exact Nat.div_lt_of_lt_mul (by rwa [Nat.mul_comm])
    rw [encode, decode, ih rest, UInt8.toNat_ofNat', Nat.mod_mod]
    exact Nat.mod_add_div number 256

/-- Digits spell a number below the power of the base. -/
theorem decode_lt (bytes : Bytes) : decode bytes < 256 ^ bytes.length := by
  induction bytes with
  | nil => exact Nat.one_pos
  | cons digit digits ih =>
    have small : digit.toNat < 256 := digit.toNat_lt
    rw [decode, List.length_cons, Nat.pow_succ]
    omega

/-- The digits that were read are written again. -/
theorem encode_decode (bytes : Bytes) : encode bytes.length (decode bytes) = bytes := by
  induction bytes with
  | nil => rfl
  | cons digit digits ih =>
    have small : digit.toNat < 256 := digit.toNat_lt
    have first : (digit.toNat + 256 * decode digits) % 256 = digit.toNat := by omega
    have rest : (digit.toNat + 256 * decode digits) / 256 = decode digits := by omega
    rw [decode, List.length_cons, encode, first, rest, ih, UInt8.ofNat_toNat]

/-- A word takes eight bytes. -/
@[simp]
theorem length_encode64 (word : UInt64) : (encode64 word).length = 8 := length_encode 8 _

/-- A word is read back, whatever follows it. -/
@[simp]
theorem decode64_encode64_append (word : UInt64) (rest : Bytes) :
    decode64 (encode64 word ++ rest) = word := by
  have taken : (encode64 word ++ rest).take 8 = encode64 word :=
    List.take_left' (length_encode64 word)
  rw [decode64, taken, encode64, decode_encode word.toNat_lt, UInt64.ofNat_toNat]

/-- Behind a word comes what was written behind it. -/
@[simp]
theorem drop_encode64_append (word : UInt64) (rest : Bytes) :
    (encode64 word ++ rest).drop 8 = rest := List.drop_left' (length_encode64 word)

/-- A short word takes four bytes. -/
@[simp]
theorem length_encode32 (word : UInt32) : (encode32 word).length = 4 := length_encode 4 _

/-- A short word is read back, whatever follows it. -/
@[simp]
theorem decode32_encode32_append (word : UInt32) (rest : Bytes) :
    decode32 (encode32 word ++ rest) = word := by
  have taken : (encode32 word ++ rest).take 4 = encode32 word :=
    List.take_left' (length_encode32 word)
  rw [decode32, taken, encode32, decode_encode word.toNat_lt, UInt32.ofNat_toNat]

/-- Behind a short word comes what was written behind it. -/
@[simp]
theorem drop_encode32_append (word : UInt32) (rest : Bytes) :
    (encode32 word ++ rest).drop 4 = rest := List.drop_left' (length_encode32 word)

/-- The bytes of a word that was read are written again. -/
theorem encode64_decode64 {bytes : Bytes} (enough : 8 ≤ bytes.length) :
    encode64 (decode64 bytes) = bytes.take 8 := by
  have size : (bytes.take 8).length = 8 := List.length_take_of_le enough
  have fits : decode (bytes.take 8) < 2 ^ 64 := by
    have bound := decode_lt (bytes.take 8)
    rw [size] at bound
    exact bound
  have again := encode_decode (bytes.take 8)
  rw [size] at again
  rw [encode64, decode64, UInt64.toNat_ofNat_of_lt' fits, again]

/-- The bytes of a short word that was read are written again. -/
theorem encode32_decode32 {bytes : Bytes} (enough : 4 ≤ bytes.length) :
    encode32 (decode32 bytes) = bytes.take 4 := by
  have size : (bytes.take 4).length = 4 := List.length_take_of_le enough
  have fits : decode (bytes.take 4) < 2 ^ 32 := by
    have bound := decode_lt (bytes.take 4)
    rw [size] at bound
    exact bound
  have again := encode_decode (bytes.take 4)
  rw [size] at again
  rw [encode32, decode32, UInt32.toNat_ofNat_of_lt' fits, again]

end LittleEndian

open LittleEndian

/-- Bytes that fit are filled up to the size. -/
theorem Bytes.length_padTo {bytes : Bytes} {size : Nat} (fits : bytes.length ≤ size) :
    (bytes.padTo size).length = size := by
  rw [padTo, List.length_append, List.length_replicate]
  omega

namespace Counters

/-- Counters take three words. -/
@[simp]
theorem length_encode (counters : Counters) : counters.encode.length = 24 := by
  simp [encode]

/-- Counters are read back, whatever follows them. -/
theorem decode_encode_append (counters : Counters) (rest : Bytes) :
    decode (counters.encode ++ rest) = counters := by
  have third : (counters.encode ++ rest).drop 16 = encode64 counters.nextObjectId ++ rest := by
    rw [show 16 = 8 + 8 from rfl, ← List.drop_drop]
    simp only [encode, List.append_assoc, drop_encode64_append]
  rw [decode, third]
  simp only [encode, List.append_assoc, decode64_encode64_append, drop_encode64_append]

end Counters

namespace JournalHeader

variable {size : Nat}

/-- A journal header fills a block. -/
theorem length_encode (room : 8 ≤ size) (header : JournalHeader) :
    (header.encode size).length = size :=
  Bytes.length_padTo (by simpa using room)

/-- A journal header is read back. -/
@[simp]
theorem decode_encode (size : Nat) (header : JournalHeader) :
    decode (header.encode size) = header := by
  rw [decode, encode, Bytes.padTo, decode64_encode64_append]

end JournalHeader

namespace JournalFooter

variable {size : Nat}

/-- A journal footer fills a block. -/
theorem length_encode (room : 32 ≤ size) (footer : JournalFooter) :
    (footer.encode size).length = size :=
  Bytes.length_padTo (by simpa using room)

/-- A journal footer is read back. -/
@[simp]
theorem decode_encode (size : Nat) (footer : JournalFooter) :
    decode (footer.encode size) = footer := by
  rw [decode, encode, Bytes.padTo, List.append_assoc, decode64_encode64_append,
    drop_encode64_append, Counters.decode_encode_append]

end JournalFooter

end JournaledVolume
