import JournaledVolume.Disk
import JournaledVolume.Journal.Defect

/-!
# Journal pointers

A pointer in a journal block is not trusted. It may lead to any block of the partition but the
first; one that leads elsewhere is a defect, and the device is not asked. What a journal operation
fails at is reported as an event when a person has to know where it happened.
-/

namespace JournaledVolume

namespace DiskM

variable {δ α : Type}

/-- Reports an event and fails with a defect. -/
def refuse (event : Event) (defect : Defect) : DiskM δ α := do
  emit event
  throw defect.toError

/-- A refusal is no success. -/
theorem refuse_ne_ok {event : Event} {defect : Defect} {disk after : Disk δ} {value : α}
    (ran : refuse event defect disk = .ok value after) : False := by
  obtain ⟨_, _, _, thrown⟩ := Action.of_bind_ok ran
  exact Action.throw_ne_ok thrown

/-- Runs an action, and reports an event on its error when it fails. -/
def orReport (event : Error → Event) (act : DiskM δ α) : DiskM δ α := fun disk =>
  match act disk with
  | .ok value disk => .ok value disk
  | .error error disk => .error error { disk with log := disk.log.push (event error) }

/-- An action that succeeds although its failure would be reported succeeds without. -/
theorem of_orReport_ok {event : Error → Event} {act : DiskM δ α} {disk after : Disk δ} {value : α}
    (ran : orReport event act disk = .ok value after) : act disk = .ok value after := by
  cases plain : act disk with
  | ok value disk => simpa only [orReport, plain] using ran
  | error error disk => simp only [orReport, plain, reduceCtorEq] at ran

/-- Fails at a block that no journal pointer may lead to: block zero and those outside the
partition. -/
def checkPointer (partition : Partition) (block : Address) : DiskM δ Unit :=
  if block = 0 ∨ partition.length ≤ block.toNat then
    throw (Defect.outOfRange block.toNat).toError
  else pure ()

/-- Reads the block that a journal pointer leads to. -/
def readPointer [BlockDevice δ] (partition : Partition) (block : Address) : DiskM δ Bytes := do
  checkPointer partition block
  readBlock partition block.toNat

/-- A pointer that passes the check leads inside the partition. -/
theorem checkPointer_inside {partition : Partition} {block : Address} {disk after : Disk δ}
    {done : Unit} (ran : checkPointer partition block disk = .ok done after) :
    block.toNat < partition.length := by
  by_cases outside : block = 0 ∨ partition.length ≤ block.toNat
  · simp only [checkPointer, outside, if_true] at ran
    exact (Action.throw_ne_ok ran).elim
  · omega

/-- A pointer whose block could be read leads inside the partition. -/
theorem readPointer_inside [BlockDevice δ] {partition : Partition} {block : Address}
    {content : Bytes} {disk after : Disk δ}
    (ran : readPointer partition block disk = .ok content after) :
    block.toNat < partition.length := by
  obtain ⟨_, _, checked, _⟩ := Action.of_bind_ok ran
  exact checkPointer_inside checked

end DiskM

end JournaledVolume
