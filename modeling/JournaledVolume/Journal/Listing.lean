import JournaledVolume.Journal.Basic
import JournaledVolume.Journal.ChainWalk

/-!
# Journal listings

A listing shows a journal to a person, line by line: the pointers in memory, then every pending
transaction from new to old with its log records and their entries. The lines are written while the
journal is walked, so a listing of a damaged journal ends at the damage. A listing may have limited
room; a line that does not fit is refused as a whole.
-/

namespace JournaledVolume

/-- The lines of a listing so far. -/
structure Listing where
  /-- The lines, in order. -/
  lines : Array String := #[]
  /-- The number of bytes for which there is room left; unlimited when absent. -/
  room : Option Nat := none
deriving Inhabited

namespace Listing

/-- The lines as one text, each with its end. -/
def text (listing : Listing) : String :=
  String.join (listing.lines.toList.map fun line => line ++ "\n")

/-- The room left behind a line, if the line fits. -/
def roomBehind? (line : String) : Option Nat → Option (Option Nat)
  | none => some none
  | some room =>
    let size := line.utf8ByteSize + 1
    if size ≤ room then some (some (room - size)) else none

/-- Adds a line, if it fits. -/
def add (line : String) (listing : Listing) : Except Error Listing :=
  match roomBehind? line listing.room with
  | some room => .ok { lines := listing.lines.push line, room }
  | none => .error ⟨.listingFull, none⟩

variable {δ : Type}

/-- Writes lines, one after another. -/
def writeLines (lines : List String) : AttachedM Listing δ Unit :=
  lines.forM fun line => AttachedM.tryRevise (add line)

end Listing

/-- The lines that show the journal pointers in memory. -/
def Journal.pointerLines (journal : Journal) : List String :=
  let counters := journal.footer.counters
  [ s!"journal header (block {journal.area.header}):",
    s!"  last committed: {journal.header.lastCommitted}",
    s!"journal footer (block {journal.area.footer}):",
    s!"  last flushed:   {journal.footer.lastFlushed}",
    s!"  free blocks: {counters.freeBlocks}, used oids: {counters.usedObjectIds}, " ++
      s!"next oid: {counters.nextObjectId}" ]

/-- The line that shows the header of a transaction. -/
def Transaction.line (transaction : Transaction) : String :=
  let header := transaction.header
  s!"transaction {header.id} (block {transaction.address}): total {header.total}, " ++
    s!"prev {header.previous}, next log {header.firstRecord}"

/-- The line that shows an entry. -/
def WanderEntry.line (entry : WanderEntry) : String :=
  s!"    {entry.wandered} -> {entry.home}"

/-- The lines that show a log record and its entries. -/
def LogRecord.lines (record : LogRecord) (block : Address) : List String :=
  (s!"  log record {record.serial}/{record.total} (block {block}): next {record.next}, " ++
    s!"{record.entries.length} entries") :: record.entries.map WanderEntry.line

variable {δ : Type} [BlockDevice δ]

/-- Lists a transaction. -/
def Transaction.list (partition : Partition) (transaction : Transaction) :
    AttachedM Listing δ Unit := do
  Listing.writeLines [transaction.line]
  Walk.forEach partition (fun (block, record) => Listing.writeLines (record.lines block))
    (RecordWalk.start transaction)

/-- Lists a journal. -/
def Journal.list (partition : Partition) (journal : Journal) : AttachedM Listing δ Unit := do
  Listing.writeLines journal.pointerLines
  Walk.forEach partition (Transaction.list partition) journal.chain

end JournaledVolume
