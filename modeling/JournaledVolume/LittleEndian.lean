/-!
# Little-endian words

Every number on disk and in a stream is a word of four or eight bytes, least significant byte
first. A word is written from the low digits of a number in base 256 and read as the number that
those digits spell.
-/

namespace JournaledVolume

/-- Bytes in the order in which they are stored. -/
abbrev Bytes := List UInt8

namespace LittleEndian

/-- The low `width` digits of a number in base 256, least significant first. -/
def encode : (width number : Nat) → Bytes
  | 0, _ => []
  | width + 1, number => UInt8.ofNat (number % 256) :: encode width (number / 256)

/-- The number that digits in base 256 spell, least significant first. -/
def decode : Bytes → Nat
  | [] => 0
  | digit :: digits => digit.toNat + 256 * decode digits

/-- The eight bytes of a word. -/
def encode64 (word : UInt64) : Bytes := encode 8 word.toNat

/-- The four bytes of a word. -/
def encode32 (word : UInt32) : Bytes := encode 4 word.toNat

/-- The word in the first eight bytes. -/
def decode64 (bytes : Bytes) : UInt64 := UInt64.ofNat (decode (bytes.take 8))

/-- The word in the first four bytes. -/
def decode32 (bytes : Bytes) : UInt32 := UInt32.ofNat (decode (bytes.take 4))

end LittleEndian

/-- Bytes filled up with zero bytes to a size. -/
def Bytes.padTo (bytes : Bytes) (size : Nat) : Bytes :=
  bytes ++ List.replicate (size - bytes.length) 0

end JournaledVolume
