import JournaledVolume.Proofs.Pending
import JournaledVolume.Proofs.Pursuit

/-!
# Walks follow the pointers exactly

On a device that delivers every block, a walk over the journal passes what the pointers lead past,
in this order, and ends where they come to an end: without an error where they lead back or nothing
follows, and otherwise with the error that names the first address where something is wrong. A walk
that has ended stays ended.
-/

namespace JournaledVolume

open JournaledVolume.Action

/-- Whether a disk delivers every block of a partition, and these hold an image. -/
structure Disk.Shows (disk : Disk Store) (partition : Partition) (image : Image) : Prop where
  /-- The partition has the units of the device. -/
  measured : partition.MeasuredBy disk.device.shape
  /-- The device has all its blocks. -/
  reaches : ∀ block < partition.length, partition.Reaches disk.device.shape block
  /-- The device answers every request. -/
  sound : disk.device.Sound
  /-- The blocks hold the image. -/
  same : disk.image partition = image

namespace Disk.Shows

variable {disk after : Disk Store} {partition : Partition} {image : Image} {trace : Trace}

/-- A disk that was only read shows the same image. -/
theorem ran (shows : disk.Shows partition image) (ran : disk.Ran after trace)
    (quiet : trace.effects = []) : after.Shows partition image := by
  refine ⟨shows.measured.of_shape ran.shape, ?_, ran.sound shows.sound,
    (ran.image quiet).trans shows.same⟩
  rw [ran.shape]
  exact shows.reaches

/-- A report leaves what a disk shows. -/
theorem log (shows : disk.Shows partition image) (event : Event) :
    Disk.Shows { disk with log := disk.log.push event } partition image :=
  ⟨shows.measured, shows.reaches, shows.sound, shows.same⟩

/-- A partition that lies on a sound device is shown as the device holds it. -/
theorem of_lies (lies : partition.LiesOn disk.device.shape) (sound : disk.device.Sound) :
    disk.Shows partition (disk.image partition) :=
  ⟨lies.measuredBy, fun _ inside => lies.reaches inside, sound, rfl⟩

end Disk.Shows

namespace DiskM

variable {disk : Disk Store} {partition : Partition} {image : Image} {block : Address}

/-- On a disk that delivers every block, a pointer leads to a block or out of range. -/
theorem ends_readPointer_shown (shows : disk.Shows partition image) :
    Ends (readPointer partition block) disk
      (fun content after => partition.follow image block = some content ∧
        after.Shows partition image)
      fun error after => (block = 0 ∨ partition.length ≤ block.toNat) ∧
        error = (Defect.outOfRange block.toNat).toError ∧ after.Shows partition image := by
  unfold readPointer checkPointer
  by_cases outside : block = 0 ∨ partition.length ≤ block.toNat
  · rw [if_pos outside]
    exact ends_throw ⟨outside, rfl, shows⟩
  · rw [if_neg outside, Partition.follow, if_neg outside]
    have inside := (Partition.not_outside.1 outside).2
    have reads := ends_readBlock_of_reaches shows.measured (shows.reaches _ inside)
    refine reads.mono ?_ fun _ _ broke => (broke.not_sound shows.sound).elim
    rintro _ after ⟨rfl, ran⟩
    exact ⟨by rw [shows.same], shows.ran ran rfl⟩

/-- A refusal fails with its defect. -/
theorem ends_refuse_shown {α : Type} {event : Event} {defect : Defect}
    {returns : α → Disk Store → Prop} (shows : disk.Shows partition image) :
    Ends (refuse event defect : DiskM Store α) disk returns fun error after =>
      error = defect.toError ∧ after.Shows partition image :=
  ends_refuse.allow fun _ _ refused => ⟨refused.1, shows.ran refused.2 rfl⟩

end DiskM

namespace Walk

/-- A walk whose steps are known exactly, and also how they fail. -/
class Exact (κ : Type) (α : outParam Type) [Walk κ α] where
  /-- What a step finds, or what is wrong. -/
  sight (partition : Partition) (image : Image) (walk : κ) : Except Defect (Option (α × κ))
  /-- A walk that has ended finds nothing. -/
  sight_ended (partition : Partition) (image : Image) : sight partition image ended = .ok none
  /-- A step finds what is in sight, and fails with what is wrong. -/
  ends_step {partition : Partition} {image : Image} {disk : Disk Store} (walk : κ)
    (shows : disk.Shows partition image) :
    Ends (step partition walk) disk
      (fun found after => sight partition image walk = .ok found ∧ after.Shows partition image)
      fun error after => ∃ defect, sight partition image walk = .error defect ∧
        error = defect.toError ∧ after.Shows partition image

export Exact (sight)

variable {κ α : Type} [Walk κ α] [Exact κ α] {partition : Partition} {image : Image}
  {walk : κ} {items : List α} {failure : Option Defect} {disk : Disk Store}

/-- The items that a walk passes, and how it fails, if it does. -/
inductive Course (partition : Partition) (image : Image) : κ → List α → Option Defect → Prop where
  /-- The walk is over. -/
  | finished {walk : κ} (seen : sight partition image walk = .ok none) :
    Course partition image walk [] none
  /-- The walk fails. -/
  | failed {walk : κ} {defect : Defect} (seen : sight partition image walk = .error defect) :
    Course partition image walk [] (some defect)
  /-- The walk passes an item and goes on. -/
  | step {walk rest : κ} {item : α} {items : List α} {failure : Option Defect}
    (seen : sight partition image walk = .ok (some (item, rest)))
    (course : Course partition image rest items failure) :
    Course partition image walk (item :: items) failure

/-- Every walk comes to an end, since each step leaves it less room. -/
theorem exists_course (shows : disk.Shows partition image) (walk : κ) :
    ∃ items failure, Course partition image walk items failure := by
  induction walk using room_induction κ partition with
  | _ walk smaller =>
    have ends := Exact.ends_step walk shows
    cases stepped : step partition walk disk with
    | error error after =>
      obtain ⟨defect, seen, _⟩ := ends.of_error stepped
      exact ⟨[], some defect, .failed seen⟩
    | ok found after =>
      have seen := (ends.of_ok stepped).1
      rcases found with _ | ⟨item, rest⟩
      · exact ⟨[], none, .finished seen⟩
      · obtain ⟨items, failure, course⟩ := smaller rest (step_room stepped)
        exact ⟨item :: items, failure, .step seen course⟩

/-- What is in sight decides the step. -/
theorem step_of_sight (shows : disk.Shows partition image) (walk : κ) :
    ∃ after, after.Shows partition image ∧ step partition walk disk =
      match sight partition image walk with
      | .ok found => .ok found after
      | .error defect => .error defect.toError after := by
  have ends := Exact.ends_step walk shows
  cases stepped : step partition walk disk with
  | ok found after =>
    obtain ⟨seen, still⟩ := ends.of_ok stepped
    exact ⟨after, still, by rw [seen]⟩
  | error error after =>
    obtain ⟨defect, seen, same, still⟩ := ends.of_error stepped
    exact ⟨after, still, by rw [seen, same]⟩

/-- Collecting the items of a walk returns what its course passes, or fails as its course does. -/
theorem Course.ends_collect (course : Course partition image walk items failure)
    (shows : disk.Shows partition image) :
    Ends (collect partition walk) disk (fun found _ => failure = none ∧ found = items)
      fun error _ => ∃ defect, failure = some defect ∧ error = defect.toError := by
  have gathers (start : Array α) :
      Ends (forEach partition (fun item => AttachedM.revise fun items => items.push item) walk)
        { memory := start, disk }
        (fun _ after => failure = none ∧ after.memory = start ++ items.toArray)
        fun error _ => ∃ defect, failure = some defect ∧ error = defect.toError := by
    induction course generalizing disk start with
    | @finished walk seen =>
      obtain ⟨after, _, stepped⟩ := step_of_sight shows walk
      rw [seen] at stepped
      exact ends_of_ok (forEach_of_end stepped) ⟨rfl, by simp⟩
    | @failed walk defect seen =>
      obtain ⟨after, _, stepped⟩ := step_of_sight shows walk
      rw [seen] at stepped
      exact ends_of_error (forEach_of_error stepped) ⟨defect, rfl, rfl⟩
    | @step walk rest item items failure seen _ ih =>
      obtain ⟨after, still, stepped⟩ := step_of_sight shows walk
      rw [seen] at stepped
      have goes := ih still (start.push item)
      unfold Ends
      rw [forEach_of_item stepped]
      refine ends_modify (goes.mono ?_ fun _ _ failed => failed)
      intro _ last gathered
      exact ⟨gathered.1, by simp [gathered.2]⟩
  have collects : Ends (DiskM.accumulate #[]
        (forEach partition (fun item => AttachedM.revise fun items => items.push item) walk)) disk
      (fun found _ => failure = none ∧ found = items.toArray)
      fun error _ => ∃ defect, failure = some defect ∧ error = defect.toError := by
    apply DiskM.ends_accumulate
    simpa using gathers #[]
  refine collects.andThen fun found _ gathered => ends_pure ⟨gathered.1, ?_⟩
  rw [gathered.2]

/-- The answers of a walk that is advanced again and again, also behind its end. -/
def outcomes {δ : Type} [BlockDevice δ] (partition : Partition) :
    (count : Nat) → Attached κ δ → List (Except Error (Option α))
  | 0, _ => []
  | count + 1, state =>
    match advance partition state with
    | .ok found after => .ok found :: outcomes partition count after
    | .error error after => .error error :: outcomes partition count after

/-- The first `count` answers of a walk that passes items, fails once if it fails, and has ended. -/
def answers (items : List α) (failure : Option Defect) (count : Nat) :
    List (Except Error (Option α)) :=
  let passed : List (Except Error (Option α)) := items.map fun item => .ok (some item)
  let failed : List (Except Error (Option α)) := failure.toList.map fun defect =>
    .error defect.toError
  let behind : List (Except Error (Option α)) := List.replicate count (.ok none)
  (passed ++ failed ++ behind).take count

/-- The answers go on behind the first item. -/
theorem answers_cons (item : α) (items : List α) (failure : Option Defect) (count : Nat) :
    answers (item :: items) failure (count + 1) =
      .ok (some item) :: answers items failure count := by
  simp only [answers, List.map_cons, List.cons_append, List.take_succ_cons, List.replicate_succ',
    ← List.append_assoc]
  rw [List.take_append_of_le_length]
  simp only [List.length_append, List.length_map, List.length_replicate]
  omega

/-- A walk that has ended stays ended. -/
theorem outcomes_ended (shows : disk.Shows partition image) (count : Nat) :
    outcomes partition count { memory := (ended : κ), disk } = List.replicate count (.ok none) := by
  induction count generalizing disk with
  | zero => rfl
  | succ count ih =>
    obtain ⟨after, still, stepped⟩ := step_of_sight shows (ended : κ)
    rw [Exact.sight_ended] at stepped
    simp only [outcomes, advance, stepped, ih still, List.replicate_succ]

/-- A walk that has ended passes nothing. -/
theorem Course.of_ended (course : Course partition image (ended : κ) items failure) :
    items = [] ∧ failure = none := by
  generalize start : (ended : κ) = walk at course
  cases course with
  | finished => exact ⟨rfl, rfl⟩
  | failed seen =>
    rw [← start, Exact.sight_ended] at seen
    exact nomatch seen
  | step seen =>
    rw [← start, Exact.sight_ended] at seen
    exact nomatch seen

/-- A walk that is advanced answers as its course says. -/
theorem Course.outcomes_eq (course : Course partition image walk items failure)
    (shows : disk.Shows partition image) (count : Nat) :
    outcomes partition count { memory := walk, disk } = answers items failure count := by
  induction course generalizing disk count with
  | @finished walk seen =>
    cases count with
    | zero => rfl
    | succ count =>
      obtain ⟨after, still, stepped⟩ := step_of_sight shows walk
      rw [seen] at stepped
      simp [outcomes, advance, stepped, outcomes_ended still, answers, List.replicate_succ]
  | @failed walk defect seen =>
    cases count with
    | zero => rfl
    | succ count =>
      obtain ⟨after, still, stepped⟩ := step_of_sight shows walk
      rw [seen] at stepped
      simp [outcomes, advance, stepped, outcomes_ended still, answers]
  | @step walk rest item items failure seen _ ih =>
    cases count with
    | zero => rfl
    | succ count =>
      obtain ⟨after, still, stepped⟩ := step_of_sight shows walk
      rw [seen] at stepped
      simp only [outcomes, advance, stepped, ih still, answers_cons]

end Walk

namespace Links

variable {α κ : Type} {partition : Partition} {image : Image} {links : Links partition α}
  {final : α → Prop} [DecidablePred final] {stop : Address}
  {finished rest : κ} {going : Address → List Address → κ} {next : Address}
  {visited : List Address} {item : α} {items : List α} {defect : Defect}
  {failure : Option Defect}

/-- What a walk along pointers sees: that it is over, an item with the walk behind it, or what is
wrong. -/
def sight (links : Links partition α) (final : α → Prop) [DecidablePred final] (stop : Address)
    (finished : κ) (going : Address → List Address → κ) (next : Address) (visited : List Address) :
    Except Defect (Option (α × κ)) :=
  if next = stop then .ok none
  else (links.visit visited next).map fun item =>
    some (item, if final item then finished else going (links.link item) (next :: visited))

/-- The walk is over where it stops. -/
theorem sight_eq_over :
    links.sight final stop finished going next visited = .ok none ↔ next = stop := by
  unfold sight
  split
  · next stops => simp [stops]
  · next differs => cases links.visit visited next <;> simp [Except.map, differs]

/-- The walk sees what is wrong with an address. -/
theorem sight_eq_error :
    links.sight final stop finished going next visited = .error defect ↔
      next ≠ stop ∧ links.Flawed visited next defect := by
  rw [← visit_eq_error]
  unfold sight
  split
  · next stops => simp [stops]
  · next differs => cases links.visit visited next <;> simp [Except.map, differs]

/-- The walk sees an item at an address that it has not visited. -/
theorem sight_eq_item :
    links.sight final stop finished going next visited = .ok (some (item, rest)) ↔
      next ≠ stop ∧ (next ∉ visited ∧ links.read next = some item) ∧
        rest = if final item then finished else going (links.link item) (next :: visited) := by
  rw [← visit_eq_ok]
  unfold sight
  split
  · next stops => simp [stops]
  · next differs =>
    cases links.visit visited next with
    | error defect => simp [Except.map]
    | ok other =>
      simp only [Except.map, Except.ok.injEq, Option.some.injEq, Prod.mk.injEq, ne_eq, differs,
        not_false_eq_true, true_and]
      constructor
      · rintro ⟨rfl, rfl⟩
        exact ⟨rfl, rfl⟩
      · rintro ⟨rfl, rfl⟩
        exact ⟨rfl, rfl⟩

variable [Walk κ α] [Walk.Exact κ α]

/-- The course of a walk along pointers pursues them. -/
theorem pursuit_of_course (going : Address → List Address → κ)
    (sees : ∀ next visited, Walk.sight partition image (going next visited) =
      links.sight final stop Walk.ended going next visited)
    (course : Walk.Course partition image (going next visited) items failure) :
    links.Pursuit final stop visited next items failure := by
  generalize same : going next visited = walk at course
  induction course generalizing next visited with
  | finished seen =>
    rw [← same, sees, sight_eq_over] at seen
    rw [seen]
    exact .stopped
  | failed seen =>
    rw [← same, sees, sight_eq_error] at seen
    exact .failed seen.1 seen.2
  | @step walk rest item items failure seen course ih =>
    rw [← same, sees, sight_eq_item] at seen
    obtain ⟨differs, ⟨new, found⟩, behind⟩ := seen
    by_cases ends : final item
    · rw [if_pos ends] at behind
      rw [behind] at course
      obtain ⟨rfl, rfl⟩ := course.of_ended
      exact .last differs new found ends
    · rw [if_neg ends] at behind
      exact .on differs new found ends (ih behind.symm)

end Links

namespace ChainWalk

variable {partition : Partition} {image : Image} {disk : Disk Store}

/-- What is in sight of the transaction chain. -/
def sight (partition : Partition) (image : Image) :
    ChainWalk → Except Defect (Option (Transaction × ChainWalk))
  | ended => .ok none
  | walking next stop visited =>
    (partition.transactions image).sight (fun _ => False) stop ended
      (fun next visited => walking next stop visited) next visited

/-- A walk along the transaction chain that is not over sees what the pointers lead to. -/
theorem sight_walking (next stop : Address) (visited : List Address) :
    sight partition image (walking next stop visited) =
      (partition.transactions image).sight (fun _ => False) stop ended
        (fun next visited => walking next stop visited) next visited := rfl

/-- A step along the transaction chain finds what is in sight, or fails with what is wrong. -/
theorem ends_exact_step (walk : ChainWalk) (shows : disk.Shows partition image) :
    Ends (step partition walk) disk
      (fun found after => sight partition image walk = .ok found ∧ after.Shows partition image)
      fun error after => ∃ defect, sight partition image walk = .error defect ∧
        error = defect.toError ∧ after.Shows partition image := by
  cases walk with
  | ended => exact ends_pure ⟨rfl, shows⟩
  | walking next stop visited =>
    by_cases last : next = stop
    · simp only [step, if_pos last]
      refine ends_pure ⟨?_, shows⟩
      rw [sight_walking, Links.sight_eq_over]
      exact last
    have fails {defect : Defect}
        (flawed : (partition.transactions image).Flawed visited next defect) :
        sight partition image (walking next stop visited) = .error defect := by
      rw [sight_walking, Links.sight_eq_error]
      exact ⟨last, flawed⟩
    by_cases known : next ∈ visited
    · simp only [step, if_neg last, if_pos known]
      have wrong := fails (.loops known)
      exact (DiskM.ends_refuse_shown shows).allow fun _ _ refused => ⟨_, wrong, refused⟩
    simp only [step, if_neg last, if_neg known]
    refine Ends.bind (DiskM.ends_readPointer_shown shows) ?_ ?_
    · rintro content between ⟨leads, still⟩
      have read : (partition.transactions image).read next =
          (TxHeader.decode? content).map fun header => ⟨next, header⟩ := by
        rw [Partition.read_transactions, Partition.txHeaderAt, leads, Option.bind_some]
      cases decoded : TxHeader.decode? content with
      | none =>
        rw [decoded] at read
        have inside := Partition.named_of_follow leads
        apply (DiskM.ends_refuse_shown still).allow
        exact fun _ _ refused => ⟨_, fails (.untagged known inside read), refused⟩
      | some header =>
        rw [decoded] at read
        refine Ends.andThen DiskM.ends_emit ?_
        rintro _ after told
        refine ends_pure ⟨?_, still.ran told rfl⟩
        rw [sight_walking, Links.sight_eq_item]
        exact ⟨last, ⟨known, read⟩, rfl⟩
    · rintro error after ⟨outside, refused⟩
      exact ⟨_, fails (.outside known outside), refused⟩

end ChainWalk

instance : Walk.Exact ChainWalk Transaction where
  sight := ChainWalk.sight
  sight_ended _ _ := rfl
  ends_step := ChainWalk.ends_exact_step

/-- The course of a walk along the transaction chain pursues the pointers to what was committed
before. -/
theorem ChainWalk.pursuit_of_course {partition : Partition} {image : Image} {next stop : Address}
    {visited : List Address} {items : List Transaction} {failure : Option Defect}
    (course : Walk.Course partition image (walking next stop visited) items failure) :
    (partition.transactions image).Pursuit (fun _ => False) stop visited next items failure := by
  apply Links.pursuit_of_course fun next visited => walking next stop visited
  · exact fun next visited => sight_walking next stop visited
  · exact course

namespace RecordWalk

variable {partition : Partition} {image : Image} {disk : Disk Store}

/-- What is in sight of a chain of log records. -/
def sight (partition : Partition) (image : Image) :
    RecordWalk → Except Defect (Option ((Address × LogRecord) × RecordWalk))
  | ended => .ok none
  | walking address id next visited =>
    (partition.records image).sight (fun item => item.2.next = item.1) address ended
      (fun next visited => walking address id next visited) next visited

/-- A walk along log records that is not over sees what the pointers lead to. -/
theorem sight_walking (address : Address) (id : UInt64) (next : Address)
    (visited : List Address) :
    sight partition image (walking address id next visited) =
      (partition.records image).sight (fun item => item.2.next = item.1) address ended
        (fun next visited => walking address id next visited) next visited := rfl

/-- On a disk that delivers every block, a log record is read, or its address is out of range or
holds something else. -/
theorem ends_readRecord_shown {block : Address} {visited : List Address} (new : block ∉ visited)
    (shows : disk.Shows partition image) :
    Ends (readRecord partition block) disk
      (fun record after => (partition.records image).read block = some (block, record) ∧
        after.Shows partition image)
      fun error after => ∃ defect, (partition.records image).Flawed visited block defect ∧
        error = defect.toError ∧ after.Shows partition image := by
  refine Ends.bind (DiskM.ends_readPointer_shown shows) ?_ ?_
  · rintro content after ⟨leads, still⟩
    have read : (partition.records image).read block =
        (LogRecord.decode? content).map fun record => (block, record) := by
      rw [Partition.read_records, Partition.recordAt, leads, Option.bind_some]
    cases decoded : LogRecord.decode? content with
    | none =>
      rw [decoded] at read
      have inside := Partition.named_of_follow leads
      exact ends_throw ⟨_, .untagged new inside read, rfl, still⟩
    | some record =>
      rw [decoded] at read
      exact ends_pure ⟨read, still⟩
  · rintro error after ⟨outside, refused⟩
    exact ⟨_, .outside new outside, refused⟩

/-- A step along a chain of log records finds what is in sight, or fails with what is wrong. -/
theorem ends_exact_step (walk : RecordWalk) (shows : disk.Shows partition image) :
    Ends (step partition walk) disk
      (fun found after => sight partition image walk = .ok found ∧ after.Shows partition image)
      fun error after => ∃ defect, sight partition image walk = .error defect ∧
        error = defect.toError ∧ after.Shows partition image := by
  cases walk with
  | ended => exact ends_pure ⟨rfl, shows⟩
  | walking address id next visited =>
    by_cases last : next = address
    · simp only [step, if_pos last]
      refine ends_pure ⟨?_, shows⟩
      rw [sight_walking, Links.sight_eq_over]
      exact last
    have fails {defect : Defect}
        (flawed : (partition.records image).Flawed visited next defect) :
        sight partition image (walking address id next visited) = .error defect := by
      rw [sight_walking, Links.sight_eq_error]
      exact ⟨last, flawed⟩
    by_cases known : next ∈ visited
    · simp only [step, if_neg last, if_pos known]
      have wrong := fails (.loops known)
      exact (DiskM.ends_refuse_shown shows).allow fun _ _ refused => ⟨_, wrong, refused⟩
    simp only [step, if_neg last, if_neg known]
    have reads : Ends
        (DiskM.orReport (fun _ => .badLogRecord id next) (readRecord partition next)) disk
        (fun record after => (partition.records image).read next = some (next, record) ∧
          after.Shows partition image)
        fun error after => ∃ defect, sight partition image (walking address id next visited) =
          .error defect ∧ error = defect.toError ∧ after.Shows partition image := by
      apply DiskM.ends_orReport
      apply (ends_readRecord_shown known shows).allow
      rintro error after ⟨defect, flawed, same, still⟩
      exact ⟨defect, fails flawed, same, still.log _⟩
    refine reads.andThen ?_
    rintro record after ⟨found, still⟩
    refine ends_pure ⟨?_, still⟩
    rw [sight_walking, Links.sight_eq_item]
    exact ⟨last, ⟨known, found⟩, rfl⟩

end RecordWalk

instance : Walk.Exact RecordWalk (Address × LogRecord) where
  sight := RecordWalk.sight
  sight_ended _ _ := rfl
  ends_step := RecordWalk.ends_exact_step

/-- The course of a walk along the log records of a transaction pursues their pointers, up to a
record that points to itself. -/
theorem RecordWalk.pursuit_of_course {partition : Partition} {image : Image}
    {address next : Address} {id : UInt64} {visited : List Address}
    {items : List (Address × LogRecord)} {failure : Option Defect}
    (course : Walk.Course partition image (walking address id next visited) items failure) :
    (partition.records image).Pursuit (fun item => item.2.next = item.1) address visited next items
      failure := by
  apply Links.pursuit_of_course fun next visited => walking address id next visited
  · exact fun next visited => sight_walking address id next visited
  · exact course

section

variable {partition : Partition} {image : Image} {disk : Disk Store}

/-- The pending transactions are those that the pointers lead past, or the collection fails where
the pointers come to something that is wrong. -/
theorem Journal.ends_pending_exact (journal : Journal) (shows : disk.Shows partition image) :
    ∃ items last failure,
      (partition.transactions image).Passes journal.footer.lastFlushed
        journal.header.lastCommitted items last ∧
      (partition.transactions image).Closes (fun _ => False) journal.footer.lastFlushed [] items
        last failure ∧
      Ends (journal.pending partition) disk
        (fun pending _ => failure = none ∧ pending = items.reverse)
        fun error _ => ∃ defect, failure = some defect ∧ error = defect.toError := by
  obtain ⟨items, failure, course⟩ := Walk.exists_course shows journal.chain
  obtain ⟨last, passes, _, closes⟩ := (ChainWalk.pursuit_of_course course).exists_passes
  refine ⟨items, last, failure, passes, closes, ?_⟩
  refine (course.ends_collect shows).andThen fun found _ collected => ?_
  exact ends_pure ⟨collected.1, by rw [collected.2]⟩

/-- A walk along the log records of a transaction passes what the pointers lead past, fails once if
they come to something that is wrong, and stays ended. -/
theorem RecordWalk.exists_answers (transaction : Transaction)
    (shows : disk.Shows partition image) :
    ∃ records next failure,
      (partition.records image).Passes transaction.address transaction.header.firstRecord records
        next ∧
      (partition.records image).Closes (fun item => item.2.next = item.1) transaction.address []
        records next failure ∧
      ∀ count, Walk.outcomes partition count { memory := RecordWalk.start transaction, disk } =
        Walk.answers records failure count := by
  obtain ⟨records, failure, course⟩ := Walk.exists_course shows (RecordWalk.start transaction)
  obtain ⟨next, passes, _, closes⟩ := (RecordWalk.pursuit_of_course course).exists_passes
  exact ⟨records, next, failure, passes, closes, course.outcomes_eq shows⟩

/-- On a disk that delivers every block, walks follow the pointers exactly. The pending transactions
can be collected just where the pointers lead from the newest committed transaction to the newest
flushed one; they are then what the pointers lead past, from old to new, and otherwise the error
names the first address where something is wrong. The log records of a transaction come in the order
of their pointers, up to one that leads back to the header or to itself, or up to the first address
where something is wrong, which the walk reports once. -/
theorem walks_follow_pointers (shows : disk.Shows partition image) :
    (∀ journal : Journal,
      ((∃ pending after, journal.pending partition disk = .ok pending after) ↔
        ∃ path, (partition.transactions image).Leads journal.header.lastCommitted path
          journal.footer.lastFlushed) ∧
      Ends (journal.pending partition) disk
        (fun pending _ =>
          (partition.transactions image).Passes journal.footer.lastFlushed
            journal.header.lastCommitted pending.reverse journal.footer.lastFlushed ∧
          (pending = [] ↔ journal.header.lastCommitted = journal.footer.lastFlushed))
        fun error _ => ∃ passed next defect,
          (partition.transactions image).Passes journal.footer.lastFlushed
            journal.header.lastCommitted passed next ∧
          next ≠ journal.footer.lastFlushed ∧
          (partition.transactions image).Flawed (passed.map Transaction.address) next defect ∧
          error = defect.toError ∧ error.kind = .corrupted ∧ error.block = some next.toNat) ∧
    ∀ transaction : Transaction, ∃ records next failure,
      (partition.records image).Passes transaction.address transaction.header.firstRecord records
        next ∧
      (partition.records image).Closes (fun item => item.2.next = item.1) transaction.address []
        records next failure ∧
      (transaction.header.firstRecord = transaction.address → records = []) ∧
      (∀ defect ∈ failure, defect.toError.kind = .corrupted ∧
        defect.toError.block = some next.toNat) ∧
      ∀ count, Walk.outcomes partition count { memory := RecordWalk.start transaction, disk } =
        Walk.answers records failure count := by
  constructor
  · intro journal
    obtain ⟨items, last, failure, passes, closes, ends⟩ := journal.ends_pending_exact shows
    rcases closes.cases_end with ⟨rfl, rfl | ⟨_, _, never⟩⟩ | ⟨defect, rfl, differs, flawed⟩
    · have never (error : Error) :
          ¬ ∃ defect : Defect, none = some defect ∧ error = defect.toError := by
        rintro ⟨_, impossible, _⟩
        exact nomatch impossible
      constructor
      · constructor
        · exact fun _ => ⟨items, passes.leads⟩
        · intro _
          obtain ⟨pending, after, ran, _⟩ := ends.exists_ok fun error _ => never error
          exact ⟨pending, after, ran⟩
      · refine ends.mono ?_ fun error _ failed => (never error failed).elim
        rintro pending _ ⟨_, rfl⟩
        rw [List.reverse_reverse, List.reverse_eq_nil_iff]
        exact ⟨passes, passes.eq_nil_iff⟩
    · exact never.elim
    · rw [List.append_nil] at flawed
      constructor
      · constructor
        · rintro ⟨pending, after, ran⟩
          exact nomatch (ends.of_ok ran).1
        · rintro ⟨path, leads⟩
          exact (passes.not_leads differs flawed leads).elim
      · refine ends.mono (fun _ _ returned => nomatch returned.1) ?_
        rintro error _ ⟨other, same, rfl⟩
        cases same
        exact ⟨items, last, defect, passes, differs, flawed, rfl, flawed.reported⟩
  · intro transaction
    obtain ⟨records, next, failure, passes, closes, answers⟩ :=
      RecordWalk.exists_answers transaction shows
    refine ⟨records, next, failure, passes, closes, ?_, ?_, answers⟩
    · intro back
      rw [back] at passes
      exact passes.eq_nil
    · rintro defect failed
      rcases closes.cases_end with ⟨rfl, _⟩ | ⟨_, rfl, _, flawed⟩
      · exact nomatch failed
      · cases failed
        exact flawed.reported

end

namespace Sample

/-- The small volume is shown as its device holds it. -/
theorem disk_shows : disk.Shows partition (disk.image partition) := .of_lies lies serves.toSound

/-- Its transaction is found in block 3. -/
theorem read_header : (partition.transactions (disk.image partition)).read 3 =
    some logged.transaction := by
  rw [Partition.read_transactions, txHeaderAt_eq]
  rfl

/-- Its log record is found in block 4. -/
theorem read_record : (partition.records (disk.image partition)).read 4 = some (4, record) := by
  rw [Partition.read_records, recordAt_eq]
  rfl

/-- No transaction is found there. -/
theorem read_no_header : (partition.transactions (disk.image partition)).read 4 = none := by
  have nothing : partition.txHeaderAt (disk.image partition) 4 = none := by decide +kernel
  rw [Partition.read_transactions, nothing]
  rfl

/-- The pointers lead past the log record and back to the header. -/
theorem eq_of_passes {records : List (Address × LogRecord)} {next : Address}
    {failure : Option Defect}
    (passes : (partition.records (disk.image partition)).Passes 3 4 records next)
    (closes : (partition.records (disk.image partition)).Closes (fun item => item.2.next = item.1)
      3 [] records next failure) : records = [(4, record)] ∧ failure = none := by
  rcases passes.leads.cases_start with ⟨rfl, rfl⟩ | ⟨item, rest, rfl, found, further⟩
  · rcases closes.cases_end with ⟨_, same | ⟨_, listed, _⟩⟩ | ⟨_, _, _, flawed⟩
    · exact absurd same (by decide)
    · exact nomatch listed
    · have visits := Links.visit_eq_ok.2 ⟨List.not_mem_nil, read_record⟩
      exact nomatch visits.symm.trans (Links.visit_eq_error.2 flawed)
  · cases read_record.symm.trans found
    rcases further.cases_start with ⟨rfl, rfl⟩ | ⟨back, later, rfl, again, _⟩
    · rcases closes.cases_end with ⟨none, _⟩ | ⟨_, _, differs, _⟩
      · exact ⟨rfl, none⟩
      · exact (differs rfl).elim
    · have place := Links.address_of_read _ again
      have listed : (3 : Address) ∈ ((4, record) :: back :: later).map
          (partition.records (disk.image partition)).address :=
        List.mem_cons_of_mem _ (List.mem_map.2 ⟨back, List.mem_cons_self, place⟩)
      exact (passes.unstopped listed).elim

end Sample

/-- On the small volume the one transaction is pending; a journal that names its log record instead
of its header has none that can be collected; and the walk along the log records passes one of
them. -/
theorem walks_follow_pointers_sample :
    (∃ pending after, Sample.journal.pending Sample.partition Sample.disk = .ok pending after ∧
      pending ≠ []) ∧
    (∃ error after, { Sample.journal with header.lastCommitted := 4 }.pending Sample.partition
      Sample.disk = .error error after ∧ error.kind = .corrupted ∧ error.block = some 4) ∧
    Walk.outcomes Sample.partition 3
        { memory := RecordWalk.start Sample.logged.transaction, disk := Sample.disk } =
      [.ok (some (4, Sample.record)), .ok none, .ok none] := by
  obtain ⟨collects, walks⟩ := walks_follow_pointers Sample.disk_shows
  refine ⟨?_, ?_, ?_⟩
  · obtain ⟨decides, ends⟩ := collects Sample.journal
    obtain ⟨pending, after, ran⟩ := decides.2 ⟨_, .on Sample.read_header .here⟩
    refine ⟨pending, after, ran, fun none => ?_⟩
    exact absurd ((ends.of_ok ran).2.1 none) (by decide)
  · obtain ⟨_, ends⟩ := collects { Sample.journal with header.lastCommitted := 4 }
    obtain ⟨error, after, ran, _, _, _, passes, _, _, _, kind, block⟩ :=
      ends.exists_error fun _ _ returned =>
        absurd (returned.1.leads.of_unread Sample.read_no_header) (by decide)
    rw [passes.leads.of_unread Sample.read_no_header] at block
    exact ⟨error, after, ran, kind, block⟩
  · obtain ⟨records, next, failure, passes, closes, _, _, answers⟩ :=
      walks Sample.logged.transaction
    obtain ⟨rfl, rfl⟩ := Sample.eq_of_passes passes closes
    rw [answers]
    rfl

end JournaledVolume
