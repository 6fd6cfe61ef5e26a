import JournaledVolume.Error

/-!
# Defects of a journal

What can be wrong with a journal block or a packed journal taken by itself, and the error that each
defect is reported as.
-/

namespace JournaledVolume

/-- Something wrong with a journal. -/
inductive Defect where
  /-- A block does not start with the magic of what it should hold. -/
  | badMagic (block : Nat)
  /-- A pointer leads to block zero or past the end of the volume. -/
  | outOfRange (block : Nat)
  /-- A chain returns to a block that it has visited. -/
  | chainLoops (block : Nat)
  /-- A packed journal holds another record than expected. -/
  | badStream
deriving DecidableEq, Repr

namespace Defect

/-- A defect in words. -/
def text : Defect → String
  | badMagic block => s!"bad magic in block {block}"
  | outOfRange block => s!"block {block} out of range"
  | chainLoops block => s!"chain loops at block {block}"
  | badStream => "bad pack stream"

/-- The error that reports a defect. -/
def toError : Defect → Error
  | badMagic block => .atBlock .badMagic block
  | outOfRange block => .atBlock .outOfRange block
  | chainLoops block => .atBlock .chainLoops block
  | badStream => ⟨.badStream, none⟩

end Defect

end JournaledVolume
