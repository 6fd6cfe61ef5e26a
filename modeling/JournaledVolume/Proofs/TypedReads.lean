import JournaledVolume.Proofs.PackStream
import Mathlib.Data.List.Forall2

/-!
# Reading back what was written to a pack stream

A pack stream does not tell what its items are. The reader asks for each of them by its type, and
for raw bytes by their number. A read takes an item from the front, or finds too few bytes and takes
nothing. So a run of reads returns items exactly where the stream begins with their bytes, and it
leaves what comes behind them.
-/

namespace JournaledVolume

open JournaledVolume.Action

namespace Reader

variable {count : Nat} {unread : Bytes}

/-- A read takes bytes from the front when there are enough of them. -/
theorem take_of_enough (enough : count ≤ unread.length) :
    take count unread = .ok (unread.take count) (unread.drop count) := by
  have split := take_append (List.length_take_of_le enough) (unread.drop count)
  rwa [List.take_append_drop] at split

/-- A read of more bytes than there are takes nothing. -/
theorem take_of_short (short : unread.length < count) :
    take count unread = .error ⟨.truncatedStream, none⟩ unread := by
  have missing : (unread.take count).length < count := (List.length_take_le' _ _).trans_lt short
  simp only [take, missing, if_true]

end Reader

/-- A read of an item, by its type. -/
inductive ReadCall where
  /-- A signature of four bytes. -/
  | sign
  /-- A word of four bytes. -/
  | word32
  /-- A word of eight bytes. -/
  | word64
  /-- A number of bytes as they are. -/
  | raw (count : Nat)
deriving DecidableEq, Repr

namespace ReadCall

/-- The number of bytes that a read needs. -/
def size : ReadCall → Nat
  | sign => 4
  | word32 => 4
  | word64 => 8
  | raw count => count

/-- Reads an item from the front of the stream. -/
def read : ReadCall → Reader Item
  | sign => return .raw (← Reader.sign)
  | word32 => return .word32 (← Reader.word32)
  | word64 => return .word64 (← Reader.word64)
  | raw count => return .raw (← Reader.take count)

/-- The item that the bytes are which a read has taken. -/
def item : ReadCall → Bytes → Item
  | sign, bytes => .raw bytes
  | word32, bytes => .word32 (LittleEndian.decode32 bytes)
  | word64, bytes => .word64 (LittleEndian.decode64 bytes)
  | raw _, bytes => .raw bytes

/-- Whether a read is one for an item that was written. A signature is written as the bytes that it
is. -/
inductive Suits : ReadCall → Item → Prop where
  /-- Four bytes can be read as a signature. -/
  | sign {signature : Bytes} (four : signature.length = 4) : Suits .sign (.raw signature)
  /-- A short word is read as one. -/
  | word32 (word : UInt32) : Suits .word32 (.word32 word)
  /-- A word is read as one. -/
  | word64 (word : UInt64) : Suits .word64 (.word64 word)
  /-- Bytes are read by their number. -/
  | raw (bytes : Bytes) : Suits (.raw bytes.length) (.raw bytes)

variable {call : ReadCall} {item : Item} {unread rest bytes : Bytes}

/-- The bytes of an item are as many as the read for it needs, and are read as the item. -/
theorem Suits.item_encode (suits : call.Suits item) :
    item.encode.length = call.size ∧ call.item item.encode = item := by
  cases suits with
  | sign four => exact ⟨four, rfl⟩
  | word32 word =>
    have read := LittleEndian.decode32_encode32_append word []
    rw [List.append_nil] at read
    exact ⟨LittleEndian.length_encode32 word, congrArg Item.word32 read⟩
  | word64 word =>
    have read := LittleEndian.decode64_encode64_append word []
    rw [List.append_nil] at read
    exact ⟨LittleEndian.length_encode64 word, congrArg Item.word64 read⟩
  | raw bytes => exact ⟨rfl, rfl⟩

/-- As many bytes as a read needs are those of an item that it is for. -/
theorem suits_item (enough : bytes.length = call.size) :
    call.Suits (call.item bytes) ∧ (call.item bytes).encode = bytes := by
  have all : bytes.take call.size = bytes := List.take_of_length_le enough.le
  cases call with
  | sign => exact ⟨.sign enough, rfl⟩
  | word32 => exact ⟨.word32 _, (LittleEndian.encode32_decode32 enough.ge).trans all⟩
  | word64 => exact ⟨.word64 _, (LittleEndian.encode64_decode64 enough.ge).trans all⟩
  | raw count =>
    obtain rfl : bytes.length = count := enough
    exact ⟨.raw bytes, rfl⟩

/-- A read with enough bytes in front of it takes what it needs. -/
theorem read_of_enough (enough : call.size ≤ unread.length) :
    call.read unread =
      .ok (call.item (unread.take call.size)) (unread.drop call.size) := by
  have taken := Reader.take_of_enough enough
  cases call with
  | sign => exact bind_of_ok taken
  | word32 => exact bind_of_ok (bind_of_ok taken)
  | word64 => exact bind_of_ok (bind_of_ok taken)
  | raw count => exact bind_of_ok taken

/-- A read with too few bytes in front of it fails and takes nothing. -/
theorem read_of_short (short : unread.length < call.size) :
    call.read unread = .error ⟨.truncatedStream, none⟩ unread := by
  have failed := Reader.take_of_short short
  cases call with
  | sign => exact bind_of_error failed
  | word32 => exact bind_of_error (bind_of_error failed)
  | word64 => exact bind_of_error (bind_of_error failed)
  | raw count => exact bind_of_error failed

/-- A read fails exactly where fewer bytes are left than it needs. -/
theorem read_fails_iff :
    (∃ error rest, call.read unread = .error error rest) ↔ unread.length < call.size := by
  constructor
  · rintro ⟨error, rest, fails⟩
    by_contra enough
    exact nomatch (read_of_enough (Nat.le_of_not_lt enough)).symm.trans fails
  · exact fun short => ⟨_, _, read_of_short short⟩

/-- A read returns an item exactly where it is one for the item and the stream begins with the bytes
of the item. -/
theorem read_eq_ok_iff :
    call.read unread = .ok item rest ↔ call.Suits item ∧ unread = item.encode ++ rest := by
  constructor
  · intro reads
    rcases Nat.lt_or_ge unread.length call.size with short | enough
    · exact nomatch (read_of_short short).symm.trans reads
    · cases (read_of_enough enough).symm.trans reads
      obtain ⟨suits, written⟩ := suits_item (List.length_take_of_le enough)
      rw [written]
      exact ⟨suits, (List.take_append_drop _ _).symm⟩
  · rintro ⟨suits, rfl⟩
    obtain ⟨size, same⟩ := suits.item_encode
    have enough : call.size ≤ (item.encode ++ rest).length := by
      rw [List.length_append, size]
      exact Nat.le_add_right _ _
    rw [read_of_enough enough, List.take_left' size, List.drop_left' size, same]

/-- A run of reads returns items exactly where each of them is one for its item and the stream
begins with the bytes of the items. -/
theorem reads_eq_ok_iff {calls : List ReadCall} {items : List Item} :
    calls.mapM read unread = .ok items rest ↔
      List.Forall₂ Suits calls items ∧ unread = Item.encodeAll items ++ rest := by
  induction calls generalizing unread items with
  | nil =>
    constructor
    · intro reads
      obtain ⟨rfl, rfl⟩ := of_pure_ok reads
      exact ⟨.nil, rfl⟩
    · rintro ⟨suit, rfl⟩
      cases suit
      rfl
  | cons call calls ih =>
    rw [List.mapM_cons]
    constructor
    · intro reads
      obtain ⟨item, between, first, reads⟩ := of_bind_ok reads
      obtain ⟨others, behind, later, returned⟩ := of_bind_ok reads
      obtain ⟨rfl, rfl⟩ := of_pure_ok returned
      obtain ⟨suits, rfl⟩ := read_eq_ok_iff.1 first
      obtain ⟨suit, rfl⟩ := ih.1 later
      exact ⟨.cons suits suit, (List.append_assoc _ _ _).symm⟩
    · rintro ⟨suit, rfl⟩
      cases suit with
      | @cons _ item _ items suits suit =>
        have first : call.read (Item.encodeAll (item :: items) ++ rest) =
            .ok item (Item.encodeAll items ++ rest) :=
          read_eq_ok_iff.2 ⟨suits, List.append_assoc _ _ _⟩
        have later := ih.2 ⟨suit, rfl⟩
        exact (bind_of_ok first).trans (bind_of_ok later)

end ReadCall

/-- Looking at the next signature consumes nothing, and shows what reading it would return. -/
theorem Reader.exists_peekSign (unread : Bytes) :
    ∃ found, peekSign unread = .ok found unread ∧
      ∀ signature, found = some signature ↔ ∃ rest, sign unread = .ok signature rest := by
  cases signed : sign unread with
  | ok signature rest =>
    refine ⟨some signature, by simp only [peekSign, signed], fun other => ?_⟩
    simp
  | error error rest =>
    refine ⟨none, by simp only [peekSign, signed], fun other => ?_⟩
    simp

/-- Reading a pack stream inverts writing it, and a read that fails consumes nothing. A run of reads
returns items and leaves a rest exactly where the reads are those for the items and the stream is
what writing the items gives, followed by the rest. Wherever a reader stands in a stream, a read
fails exactly if it needs more bytes than are left; then the stream is corrupted and the reader
stands where it stood, and otherwise it moves by the bytes that the read needs. Looking at a
signature moves nothing, and finds the signature that a read of it would return. -/
theorem reads_invert_writes :
    (∀ (calls : List ReadCall) unread items rest,
      calls.mapM ReadCall.read unread = .ok items rest ↔
        List.Forall₂ ReadCall.Suits calls items ∧ unread = Item.encodeAll items ++ rest) ∧
    ∀ (stream : Bytes) (position : Nat),
      (∀ call : ReadCall,
        ((∃ error rest, call.read (stream.drop position) = .error error rest) ↔
          stream.length - position < call.size) ∧
        (∀ error rest, call.read (stream.drop position) = .error error rest →
          error.kind = .corrupted ∧ rest = stream.drop position) ∧
        ∀ item rest, call.read (stream.drop position) = .ok item rest →
          rest = stream.drop (position + call.size)) ∧
      ∃ found, Reader.peekSign (stream.drop position) = .ok found (stream.drop position) ∧
        ∀ signature, found = some signature ↔
          ∃ rest, Reader.sign (stream.drop position) = .ok signature rest := by
  refine ⟨fun _ _ _ _ => ReadCall.reads_eq_ok_iff, fun stream position =>
    ⟨fun call => ?_, Reader.exists_peekSign _⟩⟩
  have left : (stream.drop position).length = stream.length - position := List.length_drop
  refine ⟨left ▸ ReadCall.read_fails_iff, fun error rest fails => ?_, fun item rest reads => ?_⟩
  · have short := ReadCall.read_fails_iff.1 ⟨error, rest, fails⟩
    cases (ReadCall.read_of_short short).symm.trans fails
    exact ⟨rfl, rfl⟩
  · obtain ⟨suits, split⟩ := ReadCall.read_eq_ok_iff.1 reads
    rw [← List.drop_drop, split, List.drop_left' suits.item_encode.1]

/-- A signature, a word, a short word and two bytes are read back in front of one more byte, of
which no short word can be read. -/
theorem reads_invert_writes_sample :
    [ReadCall.sign, .word64, .word32, .raw 2].mapM ReadCall.read
        (Item.encodeAll [.raw (.ofAscii "JHDR"), .word64 0x0102030405060708, .word32 7,
          .raw [9, 9]] ++ [5]) =
      .ok [.raw (.ofAscii "JHDR"), .word64 0x0102030405060708, .word32 7, .raw [9, 9]] [5] ∧
    ∃ error, ReadCall.word32.read [5] = .error error [5] ∧ error.kind = .corrupted := by
  obtain ⟨run, calls⟩ := reads_invert_writes
  have four : (Bytes.ofAscii "JHDR").length = 4 := by decide
  have suit : List.Forall₂ ReadCall.Suits [.sign, .word64, .word32, .raw 2]
      [.raw (.ofAscii "JHDR"), .word64 0x0102030405060708, .word32 7, .raw [9, 9]] :=
    .cons (.sign four) (.cons (.word64 _) (.cons (.word32 _) (.cons (.raw [9, 9]) .nil)))
  refine ⟨(run _ _ _ _).2 ⟨suit, rfl⟩, ?_⟩
  obtain ⟨fails, corrupted, _⟩ := (calls [5] 0).1 .word32
  obtain ⟨error, rest, failed⟩ := fails.2 (by decide)
  obtain ⟨kind, rfl⟩ := corrupted error rest failed
  exact ⟨error, failed, kind⟩

end JournaledVolume
