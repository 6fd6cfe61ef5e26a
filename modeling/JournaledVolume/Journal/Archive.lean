import JournaledVolume.Journal.Basic
import JournaledVolume.Journal.BlockWalk
import JournaledVolume.PackStream

/-!
# Packed journals

A packed journal is a sequence of records: a signature of four bytes, the address of a block, and
its content. The journal header comes first and the footer second, as they are in memory. The blocks
of the pending transactions follow in the order of the block walk, each once.

Reading the first two records gives the handle back. Restoring writes the records of blocks to a
disk, up to the first record of another kind, so other data may follow in the same stream.
-/

namespace JournaledVolume

/-- The signature of a record. A block that is no part of the journal's own structure is packed as
content. -/
def BlockKind.signature : BlockKind → Bytes
  | .journalHeader => .ofAscii "JHDR"
  | .journalFooter => .ofAscii "JFTR"
  | .txHeader => .ofAscii "JTXH"
  | .logRecord => .ofAscii "JLGR"
  | .wandered | .bitmap => .ofAscii "JWAN"

/-- One block in a packed journal. -/
structure PackedBlock where
  /-- The signature of its record. -/
  signature : Bytes
  /-- Where the block lies on disk. -/
  address : Address
  /-- What the block holds. -/
  content : Bytes
deriving DecidableEq, Repr

namespace PackedBlock

/-- The signatures of the records that are restored. -/
def restorable : List Bytes := [BlockKind.txHeader, .logRecord, .wandered].map BlockKind.signature

/-- The items of a record. -/
def items (block : PackedBlock) : List Item :=
  [.raw block.signature, .word64 block.address, .raw block.content]

/-- Reads a record with a given signature. -/
def read (size : Nat) (signature : Bytes) : Reader PackedBlock := do
  let found ← Reader.sign
  if found = signature then
    let address ← Reader.word64
    let content ← Reader.take size
    return { signature, address, content }
  else throw Defect.badStream.toError

/-- Reads a record that is to be restored. When none is next, nothing is consumed. -/
def readRestorable (size : Nat) : Reader (Option PackedBlock) := do
  match ← Reader.peekSign with
  | some signature =>
    if signature ∈ restorable then return some (← read size signature) else return none
  | none => return none

/-- A record that was read is no longer unread. -/
theorem unread_of_read {size : Nat} {signature unread rest : Bytes} {block : PackedBlock}
    (ran : read size signature unread = .ok block rest) : rest.length < unread.length := by
  obtain ⟨found, afterSign, signed, ran⟩ := Action.of_bind_ok ran
  obtain ⟨enough, _, rfl⟩ := Reader.take_ok signed
  by_cases same : found = signature
  · simp only [same, if_true] at ran
    obtain ⟨address, afterAddress, addressed, ran⟩ := Action.of_bind_ok ran
    obtain ⟨_, _, rfl⟩ := Reader.word64_ok addressed
    obtain ⟨content, afterContent, filled, ran⟩ := Action.of_bind_ok ran
    obtain ⟨_, _, rfl⟩ := Reader.take_ok filled
    obtain ⟨_, rfl⟩ := Action.of_pure_ok ran
    simp only [List.length_drop]
    omega
  · simp only [same, if_false] at ran
    exact (Action.throw_ne_ok ran).elim

/-- A record that was read to be restored is no longer unread. -/
theorem unread_of_readRestorable {size : Nat} {unread rest : Bytes} {block : PackedBlock}
    (ran : readRestorable size unread = .ok (some block) rest) : rest.length < unread.length := by
  obtain ⟨next, behind, peeked, ran⟩ := Action.of_bind_ok ran
  obtain rfl := Reader.peekSign_ok peeked
  cases next with
  | none => exact nomatch (Action.of_pure_ok ran).1
  | some signature =>
    by_cases known : signature ∈ restorable
    · simp only [known, if_true] at ran
      obtain ⟨found, behind, consumed, returned⟩ := Action.of_bind_ok ran
      obtain ⟨_, rfl⟩ := Action.of_pure_ok returned
      exact unread_of_read consumed
    · simp only [known, if_false] at ran
      exact nomatch (Action.of_pure_ok ran).1

end PackedBlock

/-- A journal that is being packed. -/
structure Packing where
  /-- The records so far, in order. -/
  records : Array PackedBlock := #[]
  /-- The addresses of the blocks packed. -/
  packed : List Address := []
  /-- The number of transactions visited. -/
  transactions : Nat := 0
deriving Inhabited

namespace Packing

/-- The records as a pack stream. -/
def stream (packing : Packing) : Bytes :=
  Item.encodeAll (packing.records.toList.flatMap PackedBlock.items)

/-- Adds a record. -/
def add (packing : Packing) (kind : BlockKind) (address : Address) (content : Bytes) : Packing :=
  { packing with records := packing.records.push { signature := kind.signature, address, content } }

end Packing

namespace Journal

variable {δ : Type} [BlockDevice δ]

/-- Packs a block, unless it was packed before. -/
def packBlock (partition : Partition) (address : Address) (kind : BlockKind) :
    AttachedM Packing δ Unit := do
  if kind = .txHeader then
    AttachedM.revise fun packing => { packing with transactions := packing.transactions + 1 }
  if address ∉ (← AttachedM.memory).packed then
    let content ← AttachedM.onDisk (DiskM.readPointer partition address)
    AttachedM.revise fun packing =>
      { packing.add kind address content with packed := address :: packing.packed }

/-- Packs the journal pointers in memory and the blocks of the pending transactions. What was
packed before a failure stays packed. -/
def pack (partition : Partition) (journal : Journal) : AttachedM Packing δ Unit := do
  AttachedM.revise fun packing =>
    (packing.add .journalHeader journal.area.header (journal.header.encode journal.blockSize)).add
      .journalFooter journal.area.footer (journal.footer.encode journal.blockSize)
  Walk.forEach partition (fun (address, kind) => packBlock partition address kind) journal.blocks
  AttachedM.emit (.journalPacked (← AttachedM.memory).transactions)

/-- Reads the journal pointers of a packed journal. Nothing of it is on disk yet. -/
def unpack (blockSize : Nat) : Reader Journal := do
  Action.ofExcept (checkBlockSize blockSize)
  let header ← PackedBlock.read blockSize BlockKind.journalHeader.signature
  let footer ← PackedBlock.read blockSize BlockKind.journalFooter.signature
  return {
    area := { header := header.address, footer := footer.address }
    blockSize
    header := .decode header.content
    footer := .decode footer.content
    dirty := true }

/-- Writes the blocks of a packed journal to disk, after `restored` others. The stream is kept in
memory. -/
def restoreFrom (partition : Partition) (restored : Nat) : AttachedM Bytes δ Nat := fun state =>
  match found : PackedBlock.readRestorable partition.blockSize state.memory with
  | .ok (some block) unread =>
    have := PackedBlock.unread_of_readRestorable found
    match DiskM.writeBlock partition block.address.toNat block.content state.disk with
    | .ok _ disk => restoreFrom partition (restored + 1) { memory := unread, disk }
    | .error error disk => .error error { memory := unread, disk }
  | .ok none unread => .ok restored { state with memory := unread }
  | .error error unread => .error error { state with memory := unread }
termination_by state => state.memory.length
decreasing_by assumption

/-- Writes the blocks of a packed journal to disk. Returns their number. -/
def restore (partition : Partition) : AttachedM Bytes δ Nat := do
  let restored ← restoreFrom partition 0
  AttachedM.emit (.blocksRestored restored)
  return restored

end Journal

end JournaledVolume
