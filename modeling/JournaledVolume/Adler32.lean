import JournaledVolume.LittleEndian

/-!
# Adler-32

The checksum keeps two sums modulo 65521: the sum of the bytes, started at one, and the sum of the
first sum's values. It is packed into one word, and a computation can go on from that word.
-/

namespace JournaledVolume

namespace Adler32

/-- The largest prime below 65536. -/
def modulus : Nat := 65521

/-- The two running sums. -/
structure Sums where
  /-- One plus the sum of the bytes. -/
  low : Nat
  /-- The sum of the values that the low sum took after each byte. -/
  high : Nat
deriving DecidableEq, Repr

namespace Sums

/-- The sums after one more byte. -/
def add (sums : Sums) (byte : UInt8) : Sums :=
  let low := (sums.low + byte.toNat) % modulus
  ⟨low, (sums.high + low) % modulus⟩

/-- The word that holds both sums, the high sum in its upper half. -/
def pack (sums : Sums) : UInt32 := UInt32.ofNat (65536 * sums.high + sums.low)

/-- The sums that a word holds. -/
def unpack (word : UInt32) : Sums := ⟨word.toNat % 65536, word.toNat / 65536⟩

end Sums

/-- The checksum of everything summed up in `sum`, followed by further bytes. -/
def resume (sum : UInt32) (bytes : Bytes) : UInt32 :=
  (bytes.foldl Sums.add (Sums.unpack sum)).pack

/-- The checksum of bytes. -/
def checksum (bytes : Bytes) : UInt32 := resume 1 bytes

/-- The number of padding bytes that are summed up in one go. -/
def padChunk : Nat := 64

/-- The checksum of everything summed up in `sum`, followed by `pad` bytes that are all ones. The
padding is fed in chunks, so no copy of it is built. -/
def resumeOnes (sum : UInt32) (pad : Nat) : UInt32 :=
  if pad = 0 then sum
  else
    let chunk := min pad padChunk
    resumeOnes (resume sum (List.replicate chunk 0xFF)) (pad - chunk)
termination_by pad
decreasing_by simp only [padChunk]; omega

/-- The checksum of a payload followed by `pad` bytes that are all ones. -/
def padded (payload : Bytes) (pad : Nat) : UInt32 := resumeOnes (checksum payload) pad

end Adler32

end JournaledVolume
