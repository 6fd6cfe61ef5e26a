/-!
# Verdicts of a structure check

A check runs in a mode that says whether it may repair, and answers with the set of its findings.
Findings of several checks are joined with `|||`.
-/

namespace JournaledVolume

/-- What a check may do about the problems that it finds. -/
inductive CheckMode where
  /-- Report problems only. -/
  | check
  /-- Repair what can be repaired. -/
  | fix
  /-- Accept the state in memory, as a repair does, while a volume is built. -/
  | build
deriving DecidableEq, Repr

/-- Checks report only, unless told otherwise. -/
instance : Inhabited CheckMode := ⟨.check⟩

/-- The mode that a word stands for. -/
def CheckMode.ofName? : String → Option CheckMode
  | "check" => some .check
  | "fix" => some .fix
  | "build" => some .build
  | _ => none

/-- Whether a check in this mode may change what it checks. -/
def CheckMode.repairs : CheckMode → Bool
  | .check => false
  | .fix | .build => true

/-- The findings of a check. -/
structure Findings where
  /-- A problem was repaired, or is scheduled to be. -/
  fixed : Bool := false
  /-- A problem was found that a repair could remove. -/
  fixable : Bool := false
  /-- A problem was found that no repair removes. -/
  fatal : Bool := false
deriving DecidableEq, Repr

namespace Findings

/-- No finding. -/
instance : EmptyCollection Findings := ⟨{}⟩

instance : Inhabited Findings := ⟨∅⟩

/-- The findings of either side. -/
instance : OrOp Findings where
  or left right :=
    { fixed := left.fixed || right.fixed
      fixable := left.fixable || right.fixable
      fatal := left.fatal || right.fatal }

/-- Every finding at once. -/
def all : Findings := { fixed := true, fixable := true, fatal := true }

/-- Whether nothing was found. -/
def isClean (findings : Findings) : Bool := findings = ∅

/-- Whether every finding of `part` is among `findings`. -/
def contains (findings part : Findings) : Bool := (findings ||| part) = findings

/-- Findings as a number: 1 for repaired, 2 for repairable, 4 for fatal. -/
def toNat (findings : Findings) : Nat :=
  findings.fixed.toNat + 2 * findings.fixable.toNat + 4 * findings.fatal.toNat

/-- The findings that the three low bits of a number stand for. -/
def ofNat (number : Nat) : Findings :=
  { fixed := number.testBit 0, fixable := number.testBit 1, fatal := number.testBit 2 }

/-- The findings that a number stands for, or `none` when it has a bit that stands for none. -/
def ofNat? (number : Nat) : Option Findings :=
  if number < 8 then some (ofNat number) else none

end Findings

end JournaledVolume
