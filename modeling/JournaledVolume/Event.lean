import JournaledVolume.Counters
import JournaledVolume.Geometry

/-!
# Events

Operations report what they did as events. An event is data; its level and its line of text are
functions of it, so the wording of the whole log stands in this module.
-/

namespace JournaledVolume

/-- How much an event matters. -/
inductive Level where
  /-- A step of an operation. -/
  | debug
  /-- The result of an operation. -/
  | info
  /-- Something that deserves attention. -/
  | warn
  /-- Something that is wrong. -/
  | error
deriving DecidableEq, Repr

/-- The word for a level. -/
def Level.name : Level → String
  | .debug => "DEBUG"
  | .info => "INFO"
  | .warn => "WARN"
  | .error => "ERROR"

/-- One block copied by a replay. -/
structure Copy where
  /-- The id of the transaction. -/
  txId : UInt64
  /-- The address of the transaction header. -/
  txAddress : Address
  /-- The block copied. -/
  wandered : Address
  /-- The block overwritten. -/
  home : Address
  /-- The number of blocks that the replay has copied so far. -/
  copied : Nat
deriving DecidableEq, Repr

/-- Something that an operation reports. -/
inductive Event where
  /-- A loaded bitmap block does not have the checksum stored with it. -/
  | checksumAtLoad (block : Nat)
  /-- An allocator was loaded. -/
  | allocatorLoaded (blocks used bitmapBlocks : Nat)
  /-- An allocator was created. -/
  | allocatorCreated (blocks : Nat)
  /-- An allocation found no free block. -/
  | nothingFree (requested : Nat)
  /-- An allocation found fewer blocks than requested. -/
  | shortAllocation (requested start length : Nat)
  /-- An allocator was written to disk. -/
  | allocatorSynced (used free : Nat)
  /-- An allocator was dropped with changes that are not on disk. -/
  | allocatorClosedDirty
  /-- A bitmap block does not have its checksum. -/
  | checksumMismatch (block : Nat)
  /-- A recorded checksum was replaced. -/
  | checksumReplaced (block : Nat) (recorded computed : UInt32)
  /-- A recorded checksum is wrong. -/
  | checksumWrong (block : Nat) (recorded computed : UInt32)
  /-- An allocator was read from a pack stream. -/
  | allocatorUnpacked (blocks : Nat)
  /-- The transaction chain returns to a block. -/
  | txChainLoops (block : Address)
  /-- A block on the transaction chain holds no transaction header. -/
  | notTxHeader (block : Address)
  /-- A transaction header was read. -/
  | txRead (id : UInt64) (block previous : Address)
  /-- The chain of log records of a transaction returns to a block. -/
  | recordChainLoops (id : UInt64) (block : Address)
  /-- A block on the chain of log records cannot be read as one. -/
  | badLogRecord (id : UInt64) (block : Address)
  /-- A journal was loaded. -/
  | journalLoaded (lastCommitted lastFlushed : Address)
  /-- Both journal pointers were set to zero. -/
  | journalInvalidated
  /-- Both journal pointers were written to disk. -/
  | journalSynced (lastCommitted lastFlushed : Address)
  /-- A journal was dropped with changes that are not on disk. -/
  | journalClosedDirty
  /-- A check found a bad transaction. -/
  | badTransaction (id : Option UInt64) (address : Nat) (cause : Cause) (block : Nat)
  /-- A check cut the journal back to an older transaction. -/
  | commitPointMoved (former current : Address)
  /-- A replay stopped at a transaction. -/
  | replayFailed (id : UInt64) (address : Address) (error : Error)
  /-- A replay is complete. -/
  | replayed (transactions blocks : Nat)
  /-- A replay copied a block. -/
  | blockCopied (copy : Copy)
  /-- A journal was packed. -/
  | journalPacked (transactions : Nat)
  /-- The blocks of a packed journal were written to disk. -/
  | blocksRestored (blocks : Nat)
deriving DecidableEq, Repr

/-- A word as eight hexadecimal digits. -/
def hexWord (word : UInt32) : String :=
  let digits := Nat.toDigits 16 word.toNat
  "0x" ++ String.ofList (List.replicate (8 - digits.length) '0' ++ digits)

/-- An id that may be unknown. -/
def optionalId : Option UInt64 → String
  | some id => s!"Some({id})"
  | none => "None"

namespace Event

/-- The level of an event. -/
def level : Event → Level
  | nothingFree .. | shortAllocation .. | allocatorUnpacked .. | txRead .. | journalSynced ..
  | blockCopied .. | journalPacked .. | blocksRestored .. => .debug
  | allocatorLoaded .. | allocatorCreated .. | allocatorSynced .. | journalLoaded ..
  | journalInvalidated | replayed .. => .info
  | checksumAtLoad .. | allocatorClosedDirty | checksumReplaced .. | journalClosedDirty
  | commitPointMoved .. => .warn
  | checksumMismatch .. | checksumWrong .. | txChainLoops .. | notTxHeader ..
  | recordChainLoops .. | badLogRecord .. | badTransaction .. | replayFailed .. => .error

/-- The line of text of an event. -/
def text : Event → String
  | checksumAtLoad block => s!"[bitmap] block {block} checksum mismatch at open"
  | allocatorLoaded blocks used bitmapBlocks =>
    s!"[bitmap] opened: {blocks} blocks, {used} used, {bitmapBlocks} bitmap blocks"
  | allocatorCreated blocks => s!"[bitmap] created: {blocks} blocks"
  | nothingFree requested => s!"[bitmap] allocate({requested}): nothing free"
  | shortAllocation requested start length =>
    s!"[bitmap] allocate({requested}): short run {start}+{length}"
  | allocatorSynced used free => s!"[bitmap] synced: {used} used, {free} free"
  | allocatorClosedDirty => "[bitmap] closed with unsynced changes"
  | checksumMismatch block => s!"[bitmap] checksum mismatch in bitmap block {block}"
  | checksumReplaced block recorded computed =>
    s!"[bitmap] block {block}: checksum {hexWord recorded} replaced by {hexWord computed}"
  | checksumWrong block recorded computed =>
    s!"[bitmap] block {block}: stored checksum {hexWord recorded}, computed {hexWord computed}"
  | allocatorUnpacked blocks => s!"[bitmap] unpacked {blocks} blocks"
  | txChainLoops block => s!"[journal] transaction chain loops at block {block}"
  | notTxHeader block => s!"[journal] block {block} is not a transaction header"
  | txRead id block previous => s!"[journal] tx {id} at block {block}, prev {previous}"
  | recordChainLoops id block => s!"[journal] tx {id}: log chain loops at block {block}"
  | badLogRecord id block => s!"[journal] tx {id}: bad log record at block {block}"
  | journalLoaded lastCommitted lastFlushed =>
    s!"[journal] opened: last committed {lastCommitted}, last flushed {lastFlushed}"
  | journalInvalidated => "[journal] invalidated"
  | journalSynced lastCommitted lastFlushed =>
    s!"[journal] synced: last committed {lastCommitted}, last flushed {lastFlushed}"
  | journalClosedDirty => "[journal] closed with unsynced header/footer"
  | badTransaction id address cause block =>
    s!"[journal] tx {optionalId id} at block {address}: {cause.message} (block {block})"
  | commitPointMoved former current =>
    s!"[journal] last committed truncated from {former} to {current}"
  | replayFailed id address error =>
    s!"[journal] replay of tx {id} at block {address} failed: {error.text}"
  | replayed transactions blocks =>
    s!"[journal] replayed {transactions} transactions, {blocks} blocks"
  | blockCopied copy => s!"[journal] tx {copy.txId}: block {copy.wandered} -> {copy.home}"
  | journalPacked transactions => s!"[journal] packed {transactions} transactions"
  | blocksRestored blocks => s!"[journal] restored {blocks} blocks"

/-- The copy that an event reports. -/
def copy? : Event → Option Copy
  | blockCopied copy => some copy
  | _ => none

/-- An event as a line of the log. -/
def line (event : Event) : String := event.level.name ++ " " ++ event.text

end Event

end JournaledVolume
