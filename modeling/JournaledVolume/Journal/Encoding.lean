import JournaledVolume.Counters
import JournaledVolume.Geometry

/-!
# Journal blocks on disk

All numbers are little-endian words, and a block is zero behind its fields.

```
header      last committed (8)
footer      last flushed (8), counters (24)
tx header   "TxMagic4", id (8), total (4), zero (4), previous (8), first record (8), counters (24)
log record  "LogMagc4", id (8), total (4), serial (4), next (8), entries: home (8), wandered (8)
```

The entries of a log record end at the first one whose wandered address is zero, or with the block.
-/

namespace JournaledVolume

/-- The bytes of a text of ASCII characters. -/
def Bytes.ofAscii (text : String) : Bytes := text.toList.map fun c => UInt8.ofNat c.toNat

open LittleEndian

namespace Counters

/-- The bytes of counters. -/
def encode (counters : Counters) : Bytes :=
  encode64 counters.freeBlocks ++ encode64 counters.usedObjectIds ++ encode64 counters.nextObjectId

/-- The counters at the front of bytes. -/
def decode (bytes : Bytes) : Counters where
  freeBlocks := decode64 bytes
  usedObjectIds := decode64 (bytes.drop 8)
  nextObjectId := decode64 (bytes.drop 16)

end Counters

/-- The journal header: where the newest committed transaction is. -/
structure JournalHeader where
  /-- The header of the newest committed transaction; zero when none was ever committed. -/
  lastCommitted : Address := 0
deriving DecidableEq, Repr, Inhabited

namespace JournalHeader

/-- A journal header as a block. -/
def encode (blockSize : Nat) (header : JournalHeader) : Bytes :=
  (encode64 header.lastCommitted).padTo blockSize

/-- The journal header that a block holds. -/
def decode (block : Bytes) : JournalHeader := ⟨decode64 block⟩

end JournalHeader

/-- The journal footer: how far the journal was replayed. -/
structure JournalFooter where
  /-- The header of the newest replayed transaction. -/
  lastFlushed : Address := 0
  /-- The counters as of that transaction. -/
  counters : Counters := {}
deriving DecidableEq, Repr, Inhabited

namespace JournalFooter

/-- A journal footer as a block. -/
def encode (blockSize : Nat) (footer : JournalFooter) : Bytes :=
  (encode64 footer.lastFlushed ++ footer.counters.encode).padTo blockSize

/-- The journal footer that a block holds. -/
def decode (block : Bytes) : JournalFooter := ⟨decode64 block, Counters.decode (block.drop 8)⟩

end JournalFooter

/-- The header of a transaction. -/
structure TxHeader where
  /-- The id of the transaction. -/
  id : UInt64 := 0
  /-- The number of blocks of the transaction. -/
  total : UInt32 := 0
  /-- The header of the transaction before. -/
  previous : Address := 0
  /-- The first log record. -/
  firstRecord : Address := 0
  /-- The counters as of the transaction. -/
  counters : Counters := {}
deriving DecidableEq, Repr, Inhabited

namespace TxHeader

/-- How a transaction header starts. -/
def magic : Bytes := Bytes.ofAscii "TxMagic4"

/-- A transaction header as a block. -/
def encode (blockSize : Nat) (header : TxHeader) : Bytes :=
  (magic ++ encode64 header.id ++ encode32 header.total ++ encode32 0 ++ encode64 header.previous ++
    encode64 header.firstRecord ++ header.counters.encode).padTo blockSize

/-- The transaction header that a block holds, if it starts like one. -/
def decode? (block : Bytes) : Option TxHeader :=
  if block.take 8 = magic then
    some
      { id := decode64 (block.drop 8)
        total := decode32 (block.drop 16)
        previous := decode64 (block.drop 24)
        firstRecord := decode64 (block.drop 32)
        counters := Counters.decode (block.drop 40) }
  else none

end TxHeader

/-- One block that a transaction changes: its new content is held elsewhere until the replay. -/
structure WanderEntry where
  /-- Where the content belongs. -/
  home : Address
  /-- Where the content is held. -/
  wandered : Address
deriving DecidableEq, Repr

namespace WanderEntry

/-- The bytes of an entry. -/
def encode (entry : WanderEntry) : Bytes := encode64 entry.home ++ encode64 entry.wandered

/-- The entry at the front of bytes. -/
def decode (bytes : Bytes) : WanderEntry := ⟨decode64 bytes, decode64 (bytes.drop 8)⟩

/-- The entries in a number of slots, up to the first empty one. -/
def decodeSlots : (slots : Nat) → Bytes → List WanderEntry
  | 0, _ => []
  | slots + 1, bytes =>
    let entry := decode bytes
    if entry.wandered = 0 then [] else entry :: decodeSlots slots (bytes.drop 16)

end WanderEntry

/-- A record of some of the blocks that a transaction changes. -/
structure LogRecord where
  /-- The id of the transaction. -/
  id : UInt64 := 0
  /-- The number of log records of the transaction. -/
  total : UInt32 := 0
  /-- The number of this record. -/
  serial : UInt32 := 0
  /-- The next log record. The last one points to the transaction header or to itself. -/
  next : Address := 0
  /-- The blocks changed. -/
  entries : List WanderEntry := []
deriving DecidableEq, Repr, Inhabited

namespace LogRecord

/-- How a log record starts. -/
def magic : Bytes := Bytes.ofAscii "LogMagc4"

/-- The number of entries that a log record in a block of this size has room for. -/
def capacity (blockSize : Nat) : Nat := (blockSize - 32) / 16

/-- A log record as a block; entries that do not fit are left out. -/
def encode (blockSize : Nat) (record : LogRecord) : Bytes :=
  (magic ++ encode64 record.id ++ encode32 record.total ++ encode32 record.serial ++
    encode64 record.next ++
    (record.entries.take (capacity blockSize)).flatMap WanderEntry.encode).padTo blockSize

/-- The log record that a block holds, if it starts like one. -/
def decode? (block : Bytes) : Option LogRecord :=
  if block.take 8 = magic then
    some
      { id := decode64 (block.drop 8)
        total := decode32 (block.drop 16)
        serial := decode32 (block.drop 20)
        next := decode64 (block.drop 24)
        entries := WanderEntry.decodeSlots (capacity block.length) (block.drop 32) }
  else none

end LogRecord

/-- A committed transaction. -/
structure Transaction where
  /-- The address of the transaction header. -/
  address : Address
  /-- The transaction header. -/
  header : TxHeader
deriving DecidableEq, Repr

end JournaledVolume
