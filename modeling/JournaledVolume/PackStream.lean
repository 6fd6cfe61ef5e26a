import JournaledVolume.Action
import JournaledVolume.LittleEndian

/-!
# Pack streams

A pack stream is a sequence of items without separators: words and runs of raw bytes. A reader
holds the bytes that are still unread. A read that finds fewer bytes than it needs fails and
leaves them unread, so the position after a failed import shows how far it came.
-/

namespace JournaledVolume

/-- One item of a pack stream. -/
inductive Item where
  /-- A word of four bytes. -/
  | word32 (word : UInt32)
  /-- A word of eight bytes. -/
  | word64 (word : UInt64)
  /-- Bytes as they are. -/
  | raw (bytes : Bytes)
deriving DecidableEq, Repr

namespace Item

/-- The bytes of an item in the stream. -/
def encode : Item → Bytes
  | word32 word => LittleEndian.encode32 word
  | word64 word => LittleEndian.encode64 word
  | raw bytes => bytes

/-- The bytes of several items, in order. -/
def encodeAll (items : List Item) : Bytes := items.flatMap encode

end Item

/-- A computation that consumes a pack stream from the front. -/
abbrev Reader := Action Bytes

namespace Reader

/-- Consumes exactly `count` bytes. -/
def take (count : Nat) : Reader Bytes := fun unread =>
  let taken := unread.take count
  if taken.length < count then .error ⟨.truncatedStream, none⟩ unread
  else .ok taken (unread.drop count)

/-- What a successful read of `count` bytes returns and leaves. -/
theorem take_ok {count : Nat} {unread taken rest : Bytes}
    (read : take count unread = .ok taken rest) :
    count ≤ unread.length ∧ taken = unread.take count ∧ rest = unread.drop count := by
  by_cases short : (unread.take count).length < count
  · simp only [take, short, if_true] at read
    contradiction
  · simp only [take, short, if_false, EStateM.Result.ok.injEq] at read
    obtain ⟨rfl, rfl⟩ := read
    rw [List.length_take] at short
    exact ⟨by omega, rfl, rfl⟩

/-- Consumes a word of four bytes. -/
def word32 : Reader UInt32 := do
  return LittleEndian.decode32 (← take 4)

/-- Consumes a word of eight bytes. -/
def word64 : Reader UInt64 := do
  return LittleEndian.decode64 (← take 8)

/-- What a successful read of a word of eight bytes returns and leaves. -/
theorem word64_ok {unread rest : Bytes} {word : UInt64} (read : word64 unread = .ok word rest) :
    8 ≤ unread.length ∧ word = LittleEndian.decode64 unread ∧ rest = unread.drop 8 := by
  obtain ⟨bytes, behind, taken, returned⟩ := Action.of_bind_ok read
  obtain ⟨rfl, rfl⟩ := Action.of_pure_ok returned
  obtain ⟨enough, rfl, rfl⟩ := take_ok taken
  refine ⟨enough, ?_, rfl⟩
  rw [LittleEndian.decode64, List.take_take, Nat.min_self, LittleEndian.decode64]

/-- Consumes a signature of four bytes. -/
def sign : Reader Bytes := take 4

/-- The next signature, which stays unread. -/
def peekSign : Reader (Option Bytes) := fun unread =>
  match sign unread with
  | .ok found _ => .ok (some found) unread
  | .error _ _ => .ok none unread

/-- Looking at a signature consumes nothing. -/
theorem peekSign_ok {unread rest : Bytes} {found : Option Bytes}
    (peeked : peekSign unread = .ok found rest) : unread = rest := by
  cases signed : sign unread with
  | ok signature behind =>
    simp only [peekSign, signed, EStateM.Result.ok.injEq] at peeked
    exact peeked.2
  | error error behind =>
    simp only [peekSign, signed, EStateM.Result.ok.injEq] at peeked
    exact peeked.2

end Reader

end JournaledVolume
