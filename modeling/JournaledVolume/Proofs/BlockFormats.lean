import JournaledVolume.Proofs.Encoding
import Mathlib.Data.List.TakeWhile

/-!
# Journal blocks field by field

A journal block is a cleared buffer with fields written over it, each at its own offset. The fields
of the four kinds of blocks are listed here, and encoding is shown to write exactly them: the old
content of the buffer leaves no trace, and every byte that no field covers is zero.

What was encoded is read back. Only a log record can lose something: the entries that its block has
no room for, and those from the first one on that has no wandered block, since such an entry is
read as the end of the list.
-/

namespace JournaledVolume

open LittleEndian

/-- A field of a block. -/
structure Field where
  /-- Where the field starts. -/
  offset : Nat
  /-- What it holds. -/
  bytes : Bytes
deriving DecidableEq, Repr

namespace Field

variable {buffer front : Bytes} {field : Field} {fields : List Field} {size position : Nat}

/-- The first position behind a field. -/
def stop (field : Field) : Nat := field.offset + field.bytes.length

/-- A position is one of a field. -/
def Covers (field : Field) (position : Nat) : Prop :=
  field.offset ≤ position ∧ position < field.stop

/-- Writes a field over the bytes of a buffer. -/
def writeTo (field : Field) (buffer : Bytes) : Bytes :=
  buffer.take field.offset ++ field.bytes ++ buffer.drop field.stop

/-- Writes fields over the bytes of a buffer, one after another. -/
def writeAll (fields : List Field) (buffer : Bytes) : Bytes :=
  fields.foldl (fun buffer field => field.writeTo buffer) buffer

/-- Clears a buffer and writes fields over it. -/
def fill (fields : List Field) (buffer : Bytes) : Bytes :=
  writeAll fields (List.replicate buffer.length 0)

/-- Clearing a buffer leaves a block without bytes of its own. -/
theorem fill_eq (fields : List Field) (buffer : Bytes) :
    fill fields buffer = writeAll fields (Bytes.padTo [] buffer.length) := rfl

/-- What a block is when it was written over a buffer: the buffer cleared and filled with the
fields, which leaves zeros outside of them. -/
structure Fill (fields : List Field) (buffer block : Bytes) : Prop where
  /-- The fields were written over the cleared buffer. -/
  filled : block = fill fields buffer
  /-- A block is as long as the buffer. -/
  length : block.length = buffer.length
  /-- A byte that no field covers is zero. -/
  zero : ∀ position < buffer.length, (∀ field ∈ fields, ¬ field.Covers position) →
    block[position]? = some 0

/-- A field inside a buffer is written without changing its length. -/
theorem length_writeTo (inside : field.stop ≤ buffer.length) :
    (field.writeTo buffer).length = buffer.length := by
  simp only [stop] at inside
  simp only [writeTo, stop, List.length_append, List.length_take, List.length_drop]
  omega

/-- Writing a field leaves the other positions as they were. -/
theorem getElem?_writeTo (inside : field.stop ≤ buffer.length)
    (outside : ¬ field.Covers position) :
    (field.writeTo buffer)[position]? = buffer[position]? := by
  have start : (buffer.take field.offset).length = field.offset := by
    simp only [stop] at inside
    simp only [List.length_take]
    omega
  by_cases before : position < field.offset
  · rw [writeTo, List.append_assoc, List.getElem?_append_left (by omega),
      List.getElem?_take_of_lt before]
  · have behind : field.stop ≤ position := by
      simp only [Covers] at outside
      omega
    have front : (buffer.take field.offset ++ field.bytes).length = field.stop := by
      rw [List.length_append, start, stop]
    rw [writeTo, List.getElem?_append_right (by omega), front, List.getElem?_drop]
    congr 1
    omega

/-- Fields inside a buffer are written without changing its length. -/
theorem length_writeAll (inside : ∀ field ∈ fields, field.stop ≤ buffer.length) :
    (writeAll fields buffer).length = buffer.length := by
  induction fields generalizing buffer with
  | nil => rfl
  | cons field fields ih =>
    have written := length_writeTo (inside field List.mem_cons_self)
    have rest : ∀ later ∈ fields, later.stop ≤ (field.writeTo buffer).length := by
      intro later member
      rw [written]
      exact inside later (List.mem_cons_of_mem field member)
    rw [writeAll, List.foldl_cons, ← writeAll, ih rest, written]

/-- Writing fields leaves the positions of none of them as they were. -/
theorem getElem?_writeAll (inside : ∀ field ∈ fields, field.stop ≤ buffer.length)
    (outside : ∀ field ∈ fields, ¬ field.Covers position) :
    (writeAll fields buffer)[position]? = buffer[position]? := by
  induction fields generalizing buffer with
  | nil => rfl
  | cons field fields ih =>
    have written := length_writeTo (inside field List.mem_cons_self)
    have rest : ∀ later ∈ fields, later.stop ≤ (field.writeTo buffer).length := by
      intro later member
      rw [written]
      exact inside later (List.mem_cons_of_mem field member)
    rw [writeAll, List.foldl_cons, ← writeAll,
      ih rest fun later member => outside later (List.mem_cons_of_mem field member)]
    exact getElem?_writeTo (inside field List.mem_cons_self) (outside field List.mem_cons_self)

/-- A block made of fields that lie inside the buffer is zero outside of them. -/
theorem fill_of_inside {block : Bytes} (filled : block = fill fields buffer)
    (inside : ∀ field ∈ fields, field.stop ≤ buffer.length) : Fill fields buffer block := by
  have cleared : ∀ field ∈ fields,
      field.stop ≤ (List.replicate buffer.length (0 : UInt8)).length := by
    simpa only [List.length_replicate] using inside
  refine ⟨filled, ?_, fun position room outside => ?_⟩
  · rw [filled, fill, length_writeAll cleared, List.length_replicate]
  · rw [filled, fill, getElem?_writeAll cleared outside, List.getElem?_replicate, if_pos room]

/-- Writing a field right behind bytes that zeros follow goes on with its bytes. -/
theorem writeTo_padTo (start : field.offset = front.length) :
    field.writeTo (front.padTo size) = (front ++ field.bytes).padTo size := by
  have behind : (front.padTo size).drop field.stop =
      List.replicate (size - (front ++ field.bytes).length) 0 := by
    rw [stop, start, Bytes.padTo, ← List.drop_drop, List.drop_left, List.drop_replicate,
      List.length_append]
    congr 1
    omega
  rw [writeTo, behind, start, Bytes.padTo, List.take_left, ← Bytes.padTo]

/-- The first of several fields, written right behind bytes that zeros follow. -/
theorem writeAll_cons_padTo (start : field.offset = front.length) :
    writeAll (field :: fields) (front.padTo size) =
      writeAll fields ((front ++ field.bytes).padTo size) := by
  rw [writeAll, List.foldl_cons, writeTo_padTo start, ← writeAll]

/-- Fields are written one list after another. -/
theorem writeAll_append (fields rest : List Field) (buffer : Bytes) :
    writeAll (fields ++ rest) buffer = writeAll rest (writeAll fields buffer) := by
  rw [writeAll, List.foldl_append, ← writeAll, ← writeAll]

end Field

/-- Zero bytes at the end are no different from what a block is filled up with. -/
theorem Bytes.padTo_append_zeros {front : Bytes} {count size : Nat}
    (room : front.length + count ≤ size) :
    (front ++ List.replicate count 0).padTo size = front.padTo size := by
  rw [padTo, padTo, List.append_assoc, List.replicate_append_replicate, List.length_append,
    List.length_replicate]
  congr 2
  omega

namespace LittleEndian

/-- What comes behind a word of a block. -/
theorem drop_behind64 {block rest : Bytes} {word : UInt64} {offset : Nat}
    (found : block.drop offset = encode64 word ++ rest) : block.drop (offset + 8) = rest := by
  rw [← List.drop_drop, found, drop_encode64_append]

/-- What comes behind a short word of a block. -/
theorem drop_behind32 {block rest : Bytes} {word : UInt32} {offset : Nat}
    (found : block.drop offset = encode32 word ++ rest) : block.drop (offset + 4) = rest := by
  rw [← List.drop_drop, found, drop_encode32_append]

/-- A zero word reads as zero. -/
theorem decode64_zeros (count : Nat) : decode64 (List.replicate count 0) = 0 := by
  have zero : ∀ digits, decode (List.replicate digits 0) = 0 := by
    intro digits
    induction digits with
    | zero => rfl
    | succ digits ih => rw [List.replicate_succ, decode, ih]; rfl
  rw [decode64, List.take_replicate, zero]
  rfl

end LittleEndian

namespace Counters

/-- The fields of counters that start at an offset. -/
def fields (counters : Counters) (offset : Nat) : List Field :=
  [⟨offset, encode64 counters.freeBlocks⟩, ⟨offset + 8, encode64 counters.usedObjectIds⟩,
    ⟨offset + 16, encode64 counters.nextObjectId⟩]

/-- Counters written right behind bytes that zeros follow. -/
theorem writeAll_fields {front : Bytes} {offset size : Nat} (counters : Counters)
    (start : offset = front.length) :
    Field.writeAll (counters.fields offset) (front.padTo size) =
      (front ++ counters.encode).padTo size := by
  subst start
  rw [fields, Field.writeAll_cons_padTo rfl, Field.writeAll_cons_padTo (by simp),
    Field.writeAll_cons_padTo (by simp), Field.writeAll, List.foldl_nil, encode]
  simp only [List.append_assoc]

end Counters

namespace JournalHeader

/-- The fields of a journal header. -/
def fields (header : JournalHeader) : List Field := [⟨0, encode64 header.lastCommitted⟩]

/-- A journal header is written field by field. -/
theorem encode_fill {buffer : Bytes} (room : 8 ≤ buffer.length) (header : JournalHeader) :
    Field.Fill header.fields buffer (header.encode buffer.length) := by
  apply Field.fill_of_inside
  · rw [fields, Field.fill_eq, Field.writeAll_cons_padTo rfl]
    rfl
  · simp [fields, Field.stop, room]

end JournalHeader

namespace JournalFooter

/-- The fields of a journal footer. -/
def fields (footer : JournalFooter) : List Field :=
  ⟨0, encode64 footer.lastFlushed⟩ :: footer.counters.fields 8

/-- A journal footer is written field by field. -/
theorem encode_fill {buffer : Bytes} (room : 32 ≤ buffer.length) (footer : JournalFooter) :
    Field.Fill footer.fields buffer (footer.encode buffer.length) := by
  apply Field.fill_of_inside
  · rw [fields, Field.fill_eq, Field.writeAll_cons_padTo rfl,
      Counters.writeAll_fields _ (by simp)]
    rfl
  · simp only [fields, Counters.fields, Field.stop, List.forall_mem_cons, length_encode64]
    refine ⟨?_, ?_, ?_, ?_, by simp⟩ <;> omega

end JournalFooter

namespace TxHeader

/-- The fields of a transaction header. -/
def fields (header : TxHeader) : List Field :=
  ⟨0, magic⟩ :: ⟨8, encode64 header.id⟩ :: ⟨16, encode32 header.total⟩ ::
    ⟨24, encode64 header.previous⟩ :: ⟨32, encode64 header.firstRecord⟩ ::
    header.counters.fields 40

/-- A transaction header is written field by field. -/
theorem encode_fill {buffer : Bytes} (room : 72 ≤ buffer.length) (header : TxHeader) :
    Field.Fill header.fields buffer (header.encode buffer.length) := by
  have mark : magic.length = 8 := rfl
  apply Field.fill_of_inside
  · -- The four bytes behind the number of blocks belong to no field.
    have gap : ∀ front : Bytes, front.length = 20 →
        front.padTo buffer.length = Bytes.padTo (front ++ encode32 0) buffer.length := by
      intro front size
      have zeros : encode32 0 = List.replicate 4 0 := rfl
      rw [zeros, Bytes.padTo_append_zeros (by omega)]
    rw [fields, Field.fill_eq, Field.writeAll_cons_padTo rfl,
      Field.writeAll_cons_padTo (by simp [mark]), Field.writeAll_cons_padTo (by simp [mark]),
      gap _ (by simp [mark]), Field.writeAll_cons_padTo (by simp [mark]),
      Field.writeAll_cons_padTo (by simp [mark]), Counters.writeAll_fields _ (by simp [mark])]
    rfl
  · simp only [fields, Counters.fields, Field.stop, List.forall_mem_cons, length_encode64,
      length_encode32, mark]
    refine ⟨?_, ?_, ?_, ?_, ?_, ?_, ?_, ?_, by simp⟩ <;> omega

/-- A transaction header is read back, whatever else it is written over. -/
@[simp]
theorem decode?_encode (size : Nat) (header : TxHeader) :
    decode? (header.encode size) = some header := by
  have mark : magic.length = 8 := rfl
  obtain ⟨rest, shape⟩ : ∃ rest, header.encode size = magic ++ (encode64 header.id ++
      (encode32 header.total ++ (encode32 0 ++ (encode64 header.previous ++
        (encode64 header.firstRecord ++ (header.counters.encode ++ rest)))))) := by
    simp only [encode, Bytes.padTo, List.append_assoc]
    exact ⟨_, rfl⟩
  have start : (header.encode size).take 8 = magic := by rw [shape, List.take_left' mark]
  have at8 := congrArg (List.drop 8) shape
  rw [List.drop_left' mark] at at8
  have at16 := drop_behind64 at8
  have at24 := drop_behind32 (drop_behind32 at16)
  have at32 := drop_behind64 at24
  have at40 := drop_behind64 at32
  rw [decode?, if_pos start, at8, at16, at24, at32, at40, Counters.decode_encode_append]
  simp only [decode64_encode64_append, decode32_encode32_append]

end TxHeader

namespace WanderEntry

/-- The fields of the entry in a slot. -/
def fields (entry : WanderEntry) (slot : Nat) : List Field :=
  [⟨32 + 16 * slot, encode64 entry.home⟩, ⟨32 + 16 * slot + 8, encode64 entry.wandered⟩]

/-- An entry takes two words. -/
@[simp]
theorem length_encode (entry : WanderEntry) : entry.encode.length = 16 := by
  simp [encode]

/-- An entry is read back, whatever follows it. -/
theorem decode_encode_append (entry : WanderEntry) (rest : Bytes) :
    decode (entry.encode ++ rest) = entry := by
  rw [decode, encode, List.append_assoc, decode64_encode64_append, drop_encode64_append,
    decode64_encode64_append]

/-- An entry written right behind bytes that zeros follow. -/
theorem writeAll_fields {front : Bytes} {size slot : Nat} (entry : WanderEntry)
    (start : 32 + 16 * slot = front.length) :
    Field.writeAll (entry.fields slot) (front.padTo size) =
      (front ++ entry.encode).padTo size := by
  rw [fields, Field.writeAll_cons_padTo start, Field.writeAll_cons_padTo (by simp [start]),
    Field.writeAll, List.foldl_nil, encode, List.append_assoc]

/-- The entries of the slots from one on, written right behind the slots before. -/
theorem writeAll_slots {front : Bytes} {size : Nat} (entries : List WanderEntry) (slot : Nat)
    (start : 32 + 16 * slot = front.length) :
    Field.writeAll ((entries.zipIdx slot).flatMap fun placed => placed.1.fields placed.2)
        (front.padTo size) =
      (front ++ entries.flatMap encode).padTo size := by
  induction entries generalizing slot front with
  | nil => simp [Field.writeAll]
  | cons entry entries ih =>
    have next : 32 + 16 * (slot + 1) = (front ++ entry.encode).length := by
      rw [List.length_append, length_encode]
      omega
    rw [List.zipIdx_cons, List.flatMap_cons, Field.writeAll_append, writeAll_fields entry start,
      ih (slot + 1) next, List.flatMap_cons, List.append_assoc]

/-- Slots of zeros hold no entry. -/
theorem decodeSlots_zeros (slots count : Nat) :
    decodeSlots slots (List.replicate count 0) = [] := by
  cases slots with
  | zero => rfl
  | succ slots =>
    have empty : (decode (List.replicate count 0)).wandered = 0 := by
      simp only [decode, List.drop_replicate, decode64_zeros]
    simp only [decodeSlots, empty, if_true]

/-- The entries written into slots are read back up to the first one without a wandered block. -/
theorem decodeSlots_encode (entries : List WanderEntry) {slots : Nat} (count : Nat)
    (room : entries.length ≤ slots) :
    decodeSlots slots (entries.flatMap encode ++ List.replicate count 0) =
      entries.takeWhile (·.wandered ≠ 0) := by
  induction entries generalizing slots with
  | nil => exact decodeSlots_zeros slots count
  | cons entry entries ih =>
    obtain ⟨slots, rfl⟩ : ∃ fewer, slots = fewer + 1 := by
      rw [List.length_cons] at room
      exact ⟨slots - 1, by omega⟩
    have behind : (entry.encode ++ (entries.flatMap encode ++ List.replicate count 0)).drop 16 =
        entries.flatMap encode ++ List.replicate count 0 := List.drop_left' (length_encode entry)
    rw [List.flatMap_cons, List.append_assoc, decodeSlots, decode_encode_append, behind,
      ih (by simpa using room)]
    by_cases last : entry.wandered = 0
    · simp [last]
    · simp [last]

/-- The entries read from slots are no more than the slots, and each has a wandered block. -/
theorem decodeSlots_entries (slots : Nat) (bytes : Bytes) :
    (decodeSlots slots bytes).length ≤ slots ∧
      ∀ entry ∈ decodeSlots slots bytes, entry.wandered ≠ 0 := by
  induction slots generalizing bytes with
  | zero => simp [decodeSlots]
  | succ slots ih =>
    obtain ⟨short, named⟩ := ih (bytes.drop 16)
    by_cases last : (decode bytes).wandered = 0
    · simp [decodeSlots, last]
    · simp only [decodeSlots, last, if_false, List.length_cons, List.forall_mem_cons]
      exact ⟨by omega, last, named⟩

end WanderEntry

namespace LogRecord

/-- The fields of a log record in a block: those of the record itself, then those of the entries
that the block has room for. -/
def fields (blockSize : Nat) (record : LogRecord) : List Field :=
  ⟨0, magic⟩ :: ⟨8, encode64 record.id⟩ :: ⟨16, encode32 record.total⟩ ::
    ⟨20, encode32 record.serial⟩ :: ⟨24, encode64 record.next⟩ ::
    (record.entries.take (capacity blockSize)).zipIdx.flatMap fun placed =>
      placed.1.fields placed.2

/-- What a block can hold of a log record: of the entries that it has room for, those before the
first one without a wandered block. -/
def cut (blockSize : Nat) (record : LogRecord) : LogRecord :=
  { record with
    entries := (record.entries.take (capacity blockSize)).takeWhile (·.wandered ≠ 0) }

/-- A log record is written field by field. -/
theorem encode_fill {buffer : Bytes} (room : 32 ≤ buffer.length) (record : LogRecord) :
    Field.Fill (record.fields buffer.length) buffer (record.encode buffer.length) := by
  have mark : magic.length = 8 := rfl
  apply Field.fill_of_inside
  · rw [fields, Field.fill_eq, Field.writeAll_cons_padTo rfl,
      Field.writeAll_cons_padTo (by simp [mark]), Field.writeAll_cons_padTo (by simp [mark]),
      Field.writeAll_cons_padTo (by simp [mark]), Field.writeAll_cons_padTo (by simp [mark]),
      WanderEntry.writeAll_slots _ 0 (by simp [mark])]
    rfl
  · simp only [fields, Field.stop, List.forall_mem_cons, length_encode64, length_encode32, mark]
    refine ⟨by omega, by omega, by omega, by omega, by omega, fun field member => ?_⟩
    obtain ⟨⟨entry, slot⟩, placed, member⟩ := List.mem_flatMap.mp member
    have small : slot < capacity buffer.length := by
      have bound := List.snd_lt_of_mem_zipIdx placed
      rw [List.length_take] at bound
      omega
    have fits : 32 + 16 * slot + 16 ≤ buffer.length := by
      rw [capacity] at small
      omega
    simp only [WanderEntry.fields, List.mem_cons, List.not_mem_nil, or_false] at member
    rcases member with rfl | rfl
    · simp only [length_encode64]
      omega
    · simp only [length_encode64]
      omega

/-- Of a log record that was written, what its block can hold is read back. -/
theorem decode?_encode {size : Nat} (room : 32 ≤ size) (record : LogRecord) :
    decode? (record.encode size) = some (record.cut size) := by
  have mark : magic.length = 8 := rfl
  have length : (record.encode size).length = size := by
    have cleared : (List.replicate size (0 : UInt8)).length = size := List.length_replicate
    have written := (encode_fill (le_of_le_of_eq room cleared.symm) record).length
    rwa [cleared] at written
  obtain ⟨count, shape⟩ : ∃ count, record.encode size = magic ++ (encode64 record.id ++
      (encode32 record.total ++ (encode32 record.serial ++ (encode64 record.next ++
        ((record.entries.take (capacity size)).flatMap WanderEntry.encode ++
          List.replicate count 0))))) := by
    simp only [encode, Bytes.padTo, List.append_assoc]
    exact ⟨_, rfl⟩
  have start : (record.encode size).take 8 = magic := by rw [shape, List.take_left' mark]
  have at8 := congrArg (List.drop 8) shape
  rw [List.drop_left' mark] at at8
  have at16 := drop_behind64 at8
  have at20 := drop_behind32 at16
  have at24 := drop_behind32 at20
  have at32 := drop_behind64 at24
  have few : (record.entries.take (capacity size)).length ≤ capacity size :=
    List.length_take_le _ _
  rw [decode?, if_pos start, length, at8, at16, at20, at24, at32,
    WanderEntry.decodeSlots_encode _ count few, cut]
  simp only [decode64_encode64_append, decode32_encode32_append]

/-- A block can hold exactly the log records whose entries it has room for and all have a wandered
block. -/
theorem cut_eq_self_iff {size : Nat} {record : LogRecord} :
    record.cut size = record ↔
      record.entries.length ≤ capacity size ∧ ∀ entry ∈ record.entries, entry.wandered ≠ 0 := by
  have kept : record.cut size = record ↔
      (record.entries.take (capacity size)).takeWhile (·.wandered ≠ 0) = record.entries := by
    cases record
    simp only [cut, LogRecord.mk.injEq, true_and]
  rw [kept]
  constructor
  · intro same
    have few : record.entries.length ≤ capacity size := by
      have bound := (List.takeWhile_sublist (·.wandered ≠ 0)
        (l := record.entries.take (capacity size))).length_le
      rw [same, List.length_take] at bound
      omega
    refine ⟨few, fun entry member => ?_⟩
    rw [List.take_of_length_le few] at same
    rw [← same] at member
    simpa using List.mem_takeWhile_imp member
  · rintro ⟨few, named⟩
    rw [List.take_of_length_le few, List.takeWhile_eq_self_iff]
    simpa using named

/-- A log record that was read fits the block that it was read from. -/
theorem cut_of_decode? {block : Bytes} {record : LogRecord} (read : decode? block = some record) :
    record.cut block.length = record := by
  rw [decode?] at read
  split at read
  · obtain rfl := Option.some.inj read
    exact cut_eq_self_iff.mpr (WanderEntry.decodeSlots_entries _ _)
  · exact (Option.some_ne_none _ read.symm).elim

end LogRecord

namespace Journal

/-- The formats of journal blocks are read back. Whatever a buffer held before, a block is the
buffer cleared and filled with its fields; the two pointer blocks and transaction headers are read
back as they were, and of a log record what its block can hold, which is all of it exactly when its
entries fit and have a wandered block each. Of a buffer that is accepted as a transaction header or
as a log record, what is read is written and read again as the same value; no buffer is accepted
as both. -/
theorem blocks_round_trip (buffer : Bytes) :
    (8 ≤ buffer.length → ∀ header : JournalHeader,
      Field.Fill header.fields buffer (header.encode buffer.length) ∧
        JournalHeader.decode (header.encode buffer.length) = header) ∧
    (32 ≤ buffer.length → ∀ footer : JournalFooter,
      Field.Fill footer.fields buffer (footer.encode buffer.length) ∧
        JournalFooter.decode (footer.encode buffer.length) = footer) ∧
    (72 ≤ buffer.length → ∀ header : TxHeader,
      Field.Fill header.fields buffer (header.encode buffer.length) ∧
        TxHeader.decode? (header.encode buffer.length) = some header) ∧
    (32 ≤ buffer.length → ∀ record : LogRecord,
      Field.Fill (record.fields buffer.length) buffer (record.encode buffer.length) ∧
        LogRecord.decode? (record.encode buffer.length) = some (record.cut buffer.length) ∧
        (LogRecord.decode? (record.encode buffer.length) = some record ↔
          record.entries.length ≤ LogRecord.capacity buffer.length ∧
            ∀ entry ∈ record.entries, entry.wandered ≠ 0)) ∧
    (72 ≤ buffer.length → ∀ header, TxHeader.decode? buffer = some header →
      TxHeader.decode? (header.encode buffer.length) = some header) ∧
    (32 ≤ buffer.length → ∀ record, LogRecord.decode? buffer = some record →
      LogRecord.decode? (record.encode buffer.length) = some record) ∧
    (TxHeader.decode? buffer = none ∨ LogRecord.decode? buffer = none) := by
  refine ⟨fun room header => ⟨header.encode_fill room, JournalHeader.decode_encode _ header⟩,
    fun room footer => ⟨footer.encode_fill room, JournalFooter.decode_encode _ footer⟩,
    fun room header => ⟨header.encode_fill room, TxHeader.decode?_encode _ header⟩,
    fun room record => ⟨record.encode_fill room, LogRecord.decode?_encode room record, ?_⟩,
    fun _ header _ => TxHeader.decode?_encode _ header, fun room record read => ?_, ?_⟩
  · rw [LogRecord.decode?_encode room, Option.some.injEq, LogRecord.cut_eq_self_iff]
  · rw [LogRecord.decode?_encode room, LogRecord.cut_of_decode? read]
  · by_cases start : buffer.take 8 = TxHeader.magic
    · have other : buffer.take 8 ≠ LogRecord.magic := by
        rw [start]
        decide
      exact Or.inr (if_neg other)
    · exact Or.inl (if_neg start)

namespace Sample

/-- A transaction header. -/
def txHeader : TxHeader := ⟨5, 4, 300, 301, ⟨900, 12, 65548⟩⟩

/-- A block that starts with it and has foreign bytes at its end. -/
def txHeaderBlock : Bytes := txHeader.encode 72 ++ List.replicate 8 0xA5

/-- A log record of four entries, the second without a wandered block. -/
def longRecord : LogRecord := ⟨5, 1, 0, 300, [⟨7, 50⟩, ⟨8, 0⟩, ⟨9, 52⟩, ⟨10, 53⟩]⟩

/-- A block with the first entry of that record, an empty slot and foreign bytes behind. -/
def recordBlock : Bytes := longRecord.encode 64 ++ List.replicate 16 0xA5

end Sample

/-- Two blocks with foreign bytes are read, written and read again, and a record too long for its
block loses the entries from the one without a wandered block on. -/
theorem blocks_round_trip_sample :
    (TxHeader.decode? (Sample.txHeader.encode 80) = some Sample.txHeader ∧
      (Sample.txHeader.encode 80)[20]? = some 0 ∧
      LogRecord.decode? (Sample.longRecord.encode 80) =
        some { Sample.longRecord with entries := [⟨7, 50⟩] }) ∧
    LogRecord.decode? ((Sample.longRecord.cut 80).encode 80) = some (Sample.longRecord.cut 80) := by
  constructor
  · have room : Sample.txHeaderBlock.length = 80 := by decide +kernel
    have trip := blocks_round_trip Sample.txHeaderBlock
    rw [room] at trip
    obtain ⟨_, _, headers, records, again, _⟩ := trip
    refine ⟨again (by decide) Sample.txHeader (by decide +kernel), ?_,
      (records (by decide) Sample.longRecord).2.1⟩
    have fill := (headers (by decide) Sample.txHeader).1
    refine fill.zero 20 (by rw [room]; decide) fun field member => ?_
    have apart : ∀ field ∈ Sample.txHeader.fields,
        ¬ (field.offset ≤ 20 ∧ 20 < field.offset + field.bytes.length) := by decide +kernel
    exact apart field member
  · have room : Sample.recordBlock.length = 80 := by decide +kernel
    have again := (blocks_round_trip Sample.recordBlock).2.2.2.2.2.1
    rw [room] at again
    exact again (by decide) (Sample.longRecord.cut 80) (by decide +kernel)

end Journal

end JournaledVolume
