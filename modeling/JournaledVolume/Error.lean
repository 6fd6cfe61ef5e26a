/-!
# Errors

An error is a cause, with the block it concerns when one is known. The kind and the message are
functions of the cause, so every wording stands in this module. A block layer that knows the
address of a failed request adds it to an error that has none.
-/

namespace JournaledVolume

/-- The class of an error. -/
inductive ErrorKind where
  /-- A device failed to transfer data. -/
  | io
  /-- The caller passed something unusable. -/
  | invalidInput
  /-- A structure on disk or in a stream is damaged. -/
  | corrupted
  /-- No space is left. -/
  | noSpace
  /-- Memory could not be allocated. -/
  | noMemory
  /-- The operation is not offered. -/
  | unsupported
  /-- The operation does not fit the current state. -/
  | invalidState
deriving DecidableEq, Repr

namespace ErrorKind

/-- The word for a class of errors. -/
def name : ErrorKind → String
  | .io => "Io"
  | .invalidInput => "InvalidInput"
  | .corrupted => "Corrupted"
  | .noSpace => "NoSpace"
  | .noMemory => "NoMemory"
  | .unsupported => "Unsupported"
  | .invalidState => "InvalidState"

/-- Every class of errors. -/
def all : List ErrorKind :=
  [io, invalidInput, corrupted, noSpace, noMemory, unsupported, invalidState]

/-- The class of errors that a word stands for. -/
def ofName? (word : String) : Option ErrorKind := all.find? fun kind => kind.name == word

end ErrorKind

/-- What went wrong. -/
inductive Cause where
  /-- The block size is no power of two from 512 to 65536. -/
  | blockSize
  /-- The volume has no blocks. -/
  | emptyVolume
  /-- Blocks are not whole sectors. -/
  | sectorSize
  /-- The buffer is shorter than the blocks requested. -/
  | shortBuffer
  /-- The request leaves the partition. -/
  | beyondPartition
  /-- The bit lies outside the bytes that hold the bits. -/
  | beyondBits
  /-- The run of bits leaves the bitmap. -/
  | beyondBitmap
  /-- The block is not one that the allocator manages. -/
  | beyondAllocator
  /-- The device and the allocator disagree on the block size. -/
  | allocatorBlockSize
  /-- The device and the journal disagree on the block size. -/
  | journalBlockSize
  /-- A write was asked of a device that takes none. -/
  | readOnly
  /-- No allocator has this number. -/
  | unknownAllocator
  /-- No journal has this number. -/
  | unknownJournal
  /-- The device returned fewer bytes than requested. -/
  | shortRead
  /-- The device took fewer bytes than it was given. -/
  | shortWrite
  /-- The listing has no room for another line. -/
  | listingFull
  /-- The structure does not fit in memory. -/
  | outOfMemory
  /-- A bitmap block does not have the checksum recorded for it. -/
  | bitmapChecksum
  /-- A journal block does not start with its magic. -/
  | badMagic
  /-- A journal pointer leads outside the volume. -/
  | outOfRange
  /-- A chain of journal blocks returns to a block it has visited. -/
  | chainLoops
  /-- A packed journal holds another record than expected. -/
  | badStream
  /-- A packed stream ends early. -/
  | truncatedStream
  /-- A transaction header lies outside the volume. -/
  | txHeaderOutOfRange
  /-- A log record lies outside the volume. -/
  | logRecordOutOfRange
  /-- A wandered block lies outside the volume. -/
  | wanderedOutOfRange
  /-- A home block lies outside the volume. -/
  | homeOutOfRange
  /-- One transaction writes the same home block twice. -/
  | homeRepeats
  /-- A journal block lies on fixed metadata. -/
  | overlapsFixed
  /-- Two parts of the journal use the same block. -/
  | referencedTwice
  /-- An older transaction overwrites a block that a newer one still needs. -/
  | overwrittenEarlier
  /-- A home block is a block of the journal. -/
  | homeOverlaps
  /-- A failure with the kind and the wording that its reporter gave it. -/
  | reported (kind : ErrorKind) (message : String)
deriving DecidableEq, Repr

namespace Cause

/-- The class that a cause belongs to. -/
def kind : Cause → ErrorKind
  | blockSize | emptyVolume | sectorSize | shortBuffer | beyondPartition | beyondBits
  | beyondBitmap | beyondAllocator | allocatorBlockSize | journalBlockSize => .invalidInput
  | readOnly | unknownAllocator | unknownJournal => .unsupported
  | shortRead | shortWrite | listingFull => .io
  | outOfMemory => .noMemory
  | bitmapChecksum | badMagic | outOfRange | chainLoops | badStream | truncatedStream
  | txHeaderOutOfRange | logRecordOutOfRange | wanderedOutOfRange | homeOutOfRange
  | homeRepeats | overlapsFixed | referencedTwice | overwrittenEarlier
  | homeOverlaps => .corrupted
  | reported kind _ => kind

/-- The wording of a cause. -/
def message : Cause → String
  | blockSize => "Invalid block size"
  | emptyVolume => "Empty device"
  | sectorSize => "Block size is not a multiple of sector size"
  | shortBuffer => "Buffer too small for requested blocks"
  | beyondPartition => "Block address beyond device end"
  | beyondBits => "Bitmap index out of range"
  | beyondBitmap => "Region beyond bitmap end"
  | beyondAllocator => "Block beyond allocator range"
  | allocatorBlockSize => "Device block size differs from allocator geometry"
  | journalBlockSize => "Journal block size differs from device"
  | readOnly => "Device is read-only"
  | unknownAllocator => "Unknown allocator id"
  | unknownJournal => "Unknown journal kind"
  | shortRead => "Short read from device"
  | shortWrite => "Short write to device"
  | listingFull => "Formatter error"
  | outOfMemory => "out of memory"
  | bitmapChecksum => "Bitmap block checksum mismatch"
  | badMagic => "Bad journal block magic"
  | outOfRange => "Journal block out of range"
  | chainLoops => "Journal block chain loops"
  | badStream => "Bad journal pack stream"
  | truncatedStream => "Truncated pack stream"
  | txHeaderOutOfRange => "Transaction header out of range"
  | logRecordOutOfRange => "Log record out of range"
  | wanderedOutOfRange => "Wandered block out of range"
  | homeOutOfRange => "Original block out of range"
  | homeRepeats => "Original block repeats in transaction"
  | overlapsFixed => "Journal block overlaps fixed metadata"
  | referencedTwice => "Journal block referenced twice"
  | overwrittenEarlier => "Journal block overwritten by earlier transaction"
  | homeOverlaps => "Original block overlaps journal block"
  | reported _ message => message

end Cause

/-- A failure of an operation. -/
structure Error where
  /-- What went wrong. -/
  cause : Cause
  /-- The block concerned, when it is known. -/
  block : Option Nat := none
deriving DecidableEq, Repr

namespace Error

/-- A failure at a known block. -/
def atBlock (cause : Cause) (block : Nat) : Error := ⟨cause, some block⟩

/-- The class of an error. -/
def kind (error : Error) : ErrorKind := error.cause.kind

/-- The wording of an error, without its block. -/
def message (error : Error) : String := error.cause.message

/-- Adds a block to an error that names none. -/
def withBlock (error : Error) (block : Nat) : Error :=
  { error with block := error.block.or (some block) }

/-- The line that shows an error to a person. -/
def text (error : Error) : String :=
  match error.block with
  | some block => error.kind.name ++ ": " ++ error.message ++ " (block " ++ toString block ++ ")"
  | none => error.kind.name ++ ": " ++ error.message

/-- The damaged block that an error reports, with what is wrong there: damage without a block, and
failures of any other kind, are not attributed to a structure. -/
def damage? (error : Error) : Option (Nat × Cause) :=
  if error.kind = .corrupted then error.block.map fun block => (block, error.cause) else none

end Error

end JournaledVolume
