import JournaledVolume.Proofs.Reordering
import Mathlib.Logic.Relation

/-!
# Attempts to bring a volume into service

An attempt loads the journal and activates it. When a fault cuts it short another one is made, with
the counters that are in memory by then. `Waiting` holds of a volume while its journal still waits
for a replay, and `Passed` once nothing is left that a replay could hand on. An attempt keeps a
volume waiting or takes it from `Waiting` to `Passed`: with the counters of the newest transaction
when its replay returns, and with those that are in memory when it fails after its footer has
reached the disk. No attempt leads out of `Passed`.
-/

namespace JournaledVolume

open JournaledVolume.Action

/-- Whether every fault of a plan lets writes of a size reach the device as a whole or not at
all. -/
def AtomicPlan (size : Nat) (plan : Nat → Option Fault) : Prop :=
  ∀ number fault, plan number = some fault → fault.Atomic size

namespace Disk

/-- The disk with faults to come as planned. -/
def planned (plan : Nat → Option Fault) (disk : Disk Store) : Disk Store :=
  { disk with device.plan := plan }

/-- Whether effects have reached the device, and nothing else that matters has changed. -/
structure Took (before after : Disk Store) (effects : List Effect) : Prop where
  /-- The shape is the same. -/
  shape : after.device.shape = before.device.shape
  /-- So is what the device allows. -/
  readOnly : after.device.readOnly = before.device.readOnly
  /-- So are the faults that are planned. -/
  plan : after.device.plan = before.device.plan
  /-- The effects have changed the content. -/
  content : after.device.content = before.device.content.afterAll effects

variable {before after : Disk Store} {effects whole : List Effect} {trace : Trace}
  {partition : Partition} {error : Error} {orderly : Prop}

/-- A partition that lies on the device still does. -/
theorem Took.lies (took : before.Took after effects)
    (lies : partition.LiesOn before.device.shape) : partition.LiesOn after.device.shape := by
  rw [took.shape]
  exact lies

/-- A device that takes writes still does. -/
theorem Took.writable (took : before.Took after effects)
    (writable : before.device.readOnly = false) : after.device.readOnly = false :=
  took.readOnly.trans writable

/-- Where nothing has reached the device, it holds the same blocks. -/
theorem Took.image (took : before.Took after []) :
    after.image partition = before.image partition := by
  rw [Disk.image, took.content]
  rfl

/-- Calls leave what their effects leave. -/
theorem took_of_advance {requests : Nat} {part : List Effect}
    (device : after.device = before.device.advance requests part)
    (same : before.device.content.afterAll part = before.device.content.afterAll effects) :
    before.Took after effects := by
  refine ⟨?_, ?_, ?_, ?_⟩
  · rw [device, Store.shape_advance]
  · rw [device, Store.readOnly_advance]
  · rw [device, Store.plan_advance]
  · rw [device, Store.content_advance, same]

/-- The effects of an operation have reached the device. -/
theorem Ran.took (ran : before.Ran after trace) : before.Took after trace.effects :=
  took_of_advance ran.device rfl

/-- An operation that breaks off while it reads leaves the device. -/
theorem Broke.took_nil (broke : before.Broke after []) : before.Took after [] := by
  obtain ⟨requests, fault, part, device, _, _, torn⟩ := broke
  cases torn
  exact took_of_advance device rfl

/-- A refusal leaves the device. -/
theorem Refused.took_nil (refused : before.Refused after error orderly) : before.Took after [] := by
  rcases refused with broke | ⟨_, _, count, ran⟩
  · exact broke.took_nil
  · exact ran.took

/-- Where faults leave blocks whole, the first block writes of an operation that breaks off have
reached the device. -/
theorem Broke.exists_took {size : Nat} (broke : before.Broke after whole)
    (atomic : AtomicPlan size before.device.plan) (spans : ∀ effect ∈ whole, effect.Spans size) :
    ∃ count, before.Took after ((whole.filter Effect.isWrite).take count) := by
  obtain ⟨requests, fault, part, device, _, planned, torn⟩ := broke
  obtain ⟨count, left⟩ := torn.exists_take (atomic _ _ planned) spans before.device.content
  exact ⟨count, took_of_advance device left⟩

end Disk

namespace Journal

variable {partition : Partition} {area : JournalArea} {journal : Journal} {image : Image}
  {content : Content}

/-- Whether a journal has nothing to hand on: it is empty, or only its committed pointer is zero, so
that it cannot be replayed. -/
def Spent (journal : Journal) : Prop :=
  journal.state = .empty ∨ (journal.header.lastCommitted = 0 ∧ journal.footer.lastFlushed ≠ 0)

/-- No transactions wait where only the committed pointer is zero. -/
theorem not_waits_of_zero {transactions : List Transaction}
    (committed : journal.header.lastCommitted = 0) (flushed : journal.footer.lastFlushed ≠ 0) :
    ¬ journal.Waits partition image transactions := by
  intro waits
  rw [Waits, committed] at waits
  generalize transactions.reverse = items at waits
  generalize journal.footer.lastFlushed = stop at waits flushed
  cases waits with
  | stop => exact flushed rfl
  | link _ found _ _ =>
    have nowhere : partition.txHeaderAt image 0 = none := rfl
    cases nowhere.symm.trans found

/-- An empty journal is spent after any of the block writes that retire it. -/
theorem spent_of_retire_take (journal : Journal) (count : Nat) (empty : journal.state = .empty)
    (sectored : partition.Sectored) (fits : journal.Fits partition)
    (apart : journal.area.header ≠ journal.area.footer)
    (stored : journal = Journal.stored partition journal.area (partition.image content)) :
    (Journal.stored partition journal.area (partition.image
      (content.afterAll ((journal.retireWrites partition).take count)))).Spent := by
  rcases Nat.eq_zero_or_pos count with rfl | positive
  · rw [List.take_zero, Content.afterAll_nil, ← stored]
    exact .inl empty
  rcases Nat.lt_or_ge count (journal.retireWrites partition).length with early | late
  · have named := named_of_lt_length early
    rw [length_retireWrites partition named] at early
    obtain rfl : count = 1 := by omega
    rw [stored_between_retireWrites sectored fits stored named apart]
    exact .inr ⟨rfl, fun zero => named (zeroed_of_empty empty zero)⟩
  · rw [List.take_of_length_le late]
    exact .inl (zeroed_after_retireWrites sectored fits stored).state

end Journal

namespace Mount

section attempt

variable {δ : Type} [BlockDevice δ]

/-- Loads the journal of a volume for a mount. -/
def takeUp (partition : Partition) (area : JournalArea) : AttachedM Mount δ Unit := do
  let journal ← AttachedM.onDisk (Journal.load partition area)
  AttachedM.revise fun mount => { mount with journal }

/-- Loads the journal of a volume and activates it. -/
def attempt (partition : Partition) (area : JournalArea) : AttachedM Mount δ ReplayReport := do
  takeUp partition area
  activate partition

end attempt

variable {partition : Partition} {area : JournalArea} {mount : Mount} {disk : Disk Store}
  {state loaded between after : Attached Mount Store} {report : ReplayReport}

/-- An attempt fails while it loads the journal or replays it, or leaves what retiring the journal
leaves. -/
theorem attempt_cases (leaves : (attempt partition area).Leaves state after) :
    (∃ error, takeUp partition area state = .error error after) ∨
      ∃ loaded, takeUp partition area state = .ok () loaded ∧
        ((∃ error, replay partition loaded = .error error after) ∨
          ∃ report between, replay partition loaded = .ok report between ∧
            (retire partition report).Leaves between after) := by
  rcases leaves.of_bind with failed | ⟨_, loaded, loads, rest⟩
  · exact .inl failed
  · rw [activate_eq] at rest
    exact .inr ⟨loaded, loads, rest.of_bind⟩

/-- A mount takes up the journal that is stored, or this breaks off. -/
theorem ends_takeUp (mount : Mount) (disk : Disk Store)
    (lies : partition.LiesOn disk.device.shape)
    (fits : (Journal.stored partition area (disk.image partition)).Fits partition) :
    Ends (takeUp partition area) { memory := mount, disk }
      (fun _ after => after.memory =
          { mount with journal := Journal.stored partition area (disk.image partition) } ∧
        disk.Took after.disk [])
      fun _ after => after.memory = mount ∧ disk.Took after.disk [] := by
  refine AttachedM.ends_onDisk_andThen ((Journal.ends_load lies fits).mono ?_ ?_)
  · rintro _ after ⟨rfl, ran⟩
    exact ⟨rfl, ran.took⟩
  · exact fun _ _ broke => ⟨rfl, broke.took_nil⟩

/-- A spent journal is empty and nothing happens, or its replay fails and leaves the device. -/
theorem ends_replay_of_spent (spent : mount.journal.Spent)
    (lies : partition.LiesOn disk.device.shape) :
    Ends (replay partition) { memory := mount, disk }
      (fun _ after => after = { memory := mount, disk } ∧ mount.journal.state = .empty)
      fun _ after => after.memory = mount ∧ disk.Took after.disk [] ∧
        mount.journal.state = .pending := by
  rcases spent with empty | ⟨committed, flushed⟩
  · exact ends_of_ok (replay_of_empty empty) ⟨rfl, empty⟩
  · have pending : mount.journal.state = .pending := by
      apply if_neg
      rw [committed]
      exact flushed.symm
    have full : ¬ mount.journal.isEmpty = true := by
      rw [Journal.isEmpty, pending]
      decide
    refine ends_get ?_
    show Ends (if mount.journal.isEmpty then _ else _) _ _ _
    rw [if_neg full]
    refine AttachedM.ends_onDisk_andThen ?_
    refine Ends.bind (Journal.ends_pending lies) ?_ ?_
    · rintro transactions after ⟨waits, _⟩
      exact (Journal.not_waits_of_zero committed flushed waits).elim
    · exact fun _ _ refused => ⟨rfl, refused.took_nil, pending⟩

/-- Retiring a journal that is on disk writes the first of the blocks that it should. -/
theorem ends_retire_take (mount : Mount) (report : ReplayReport)
    (clean : mount.journal.dirty = false) (fits : mount.journal.Fits partition)
    (lies : partition.LiesOn disk.device.shape) (writable : disk.device.readOnly = false)
    (atomic : AtomicPlan partition.blockSize disk.device.plan) :
    Ends (retire partition report) { memory := mount, disk }
      (fun _ after => ∃ count,
        disk.Took after.disk ((mount.journal.retireWrites partition).take count))
      fun _ after => ∃ count,
        disk.Took after.disk ((mount.journal.retireWrites partition).take count) := by
  by_cases zeroed : mount.journal.Zeroed
  · exact ends_of_ok (retire_of_zeroed zeroed clean) ⟨0, rfl, rfl, rfl, rfl⟩
  · refine (ends_retire mount report zeroed fits lies writable).mono ?_ ?_
    · rintro _ after ⟨_, ran⟩
      refine ⟨(mount.journal.retireWrites partition).length, ?_⟩
      rw [List.take_length]
      exact ran.took
    · intro _ after broke
      have spans : ∀ effect ∈ mount.journal.retireWrites partition,
          effect.Spans partition.blockSize := by
        rw [Journal.retireWrites, if_neg zeroed]
        exact fits.invalidate.writes_span
      obtain ⟨count, took⟩ := broke.exists_took atomic spans
      rw [Journal.filter_retireWrites] at took
      exact ⟨count, took⟩

/-- Whether a mount has counters. -/
def Counts (superblock : Superblock) (objectIds : ObjectIds) (mount : Mount) : Prop :=
  mount.superblock = superblock ∧ mount.objectIds = objectIds

variable {superblock : Superblock} {objectIds : ObjectIds}

/-- Writing a journal leaves the counters. -/
theorem ends_sync_counters (counts : mount.Counts superblock objectIds) :
    Ends (sync partition) { memory := mount, disk }
      (fun _ after => after.memory.Counts superblock objectIds)
      fun _ after => after.memory.Counts superblock objectIds := by
  refine ends_get (AttachedM.ends_onDisk_andThen ?_)
  cases ran : mount.journal.sync partition disk with
  | ok synced after => exact ends_of_ok ran counts
  | error error after => exact ends_of_error ran counts

/-- Retiring a journal leaves the counters. -/
theorem ends_retire_counters (counts : mount.Counts superblock objectIds) :
    Ends (retire partition report) { memory := mount, disk }
      (fun _ after => after.memory.Counts superblock objectIds)
      fun _ after => after.memory.Counts superblock objectIds := by
  refine ends_get ?_
  dsimp only
  split
  · refine ends_invalidate.andThen ?_
    rintro _ ⟨_, between⟩ ⟨rfl, _⟩
    have kept : Counts superblock objectIds { mount with journal := mount.journal.invalidate } :=
      counts
    exact (ends_sync_counters kept).andThen fun _ _ kept => ends_pure kept
  · refine (ends_sync_counters counts).andThen ?_
    exact fun _ _ kept => ends_pure kept

/-- Whether an attempt on a disk with some faults to come leaves a state. -/
def Attempted (partition : Partition) (area : JournalArea) (before after : Attached Mount Store) :
    Prop :=
  ∃ plan, AtomicPlan partition.blockSize plan ∧
    (attempt partition area).Leaves { before with disk := before.disk.planned plan } after

/-- Whether an attempt leaves a state since its replay failed, although the journal on disk is empty
by then. -/
def Strands (partition : Partition) (area : JournalArea) (before after : Attached Mount Store) :
    Prop :=
  ∃ plan loaded error, AtomicPlan partition.blockSize plan ∧
    takeUp partition area { before with disk := before.disk.planned plan } = .ok () loaded ∧
    replay partition loaded = .error error after ∧
    (Journal.stored partition area (after.disk.image partition)).state = .empty

/-- Whether a state can be worked on, with counters in memory and nothing on disk that could be
handed on. -/
structure Passed (partition : Partition) (area : JournalArea) (superblock : Superblock)
    (objectIds : ObjectIds) (state : Attached Mount Store) : Prop where
  /-- The partition lies on the device. -/
  lies : partition.LiesOn state.disk.device.shape
  /-- The device takes writes. -/
  writable : state.disk.device.readOnly = false
  /-- The journal on disk is spent. -/
  spent : (Journal.stored partition area (state.disk.image partition)).Spent
  /-- The counters are in memory. -/
  counts : state.memory.Counts superblock objectIds

/-- Retiring an empty journal that is on disk leaves nothing that could be handed on. -/
theorem passed_of_retire (mount : Mount) (counts : mount.Counts superblock objectIds)
    (empty : mount.journal.state = .empty) (clean : mount.journal.dirty = false)
    (located : mount.journal.area = area) (apart : area.header ≠ area.footer)
    (fits : mount.journal.Fits partition)
    (stored : mount.journal = Journal.stored partition area (disk.image partition))
    (lies : partition.LiesOn disk.device.shape) (writable : disk.device.readOnly = false)
    (atomic : AtomicPlan partition.blockSize disk.device.plan)
    (leaves : (retire partition report).Leaves { memory := mount, disk } after) :
    Passed partition area superblock objectIds after := by
  subst located
  obtain ⟨count, took⟩ := (ends_retire_take mount report clean fits lies writable atomic).of_leaves
    leaves
  refine ⟨took.lies lies, took.writable writable, ?_,
    (ends_retire_counters counts).of_leaves leaves⟩
  rw [Disk.image, took.content]
  exact Journal.spent_of_retire_take mount.journal count empty lies.toSectored fits apart stored

/-- A state from which nothing can be handed on is one whatever reads follow. -/
theorem Passed.of_took_nil (passed : Passed partition area superblock objectIds state)
    (took : state.disk.Took after.disk []) (counts : after.memory.Counts superblock objectIds) :
    Passed partition area superblock objectIds after := by
  refine ⟨took.lies passed.lies, took.writable passed.writable, ?_, counts⟩
  rw [took.image]
  exact passed.spent

/-- Other faults to come leave a state from which nothing can be handed on. -/
theorem Passed.planned (passed : Passed partition area superblock objectIds state)
    (plan : Nat → Option Fault) :
    Passed partition area superblock objectIds
      { state with disk := state.disk.planned plan } :=
  ⟨passed.lies, passed.writable, passed.spent, passed.counts⟩

/-- A spent journal is taken up. -/
theorem Passed.of_takeUp (passed : Passed partition area superblock objectIds state)
    (fits : ∀ image, (Journal.stored partition area image).Fits partition)
    (loads : takeUp partition area state = .ok () loaded) :
    Passed partition area superblock objectIds loaded ∧
      loaded.memory.journal = Journal.stored partition area (loaded.disk.image partition) ∧
      loaded.disk.device.plan = state.disk.device.plan := by
  obtain ⟨taken, took⟩ := (ends_takeUp state.memory state.disk passed.lies (fits _)).of_ok loads
  refine ⟨passed.of_took_nil took ?_, ?_, took.plan⟩
  · rw [taken]
    exact passed.counts
  · rw [taken, took.image]

/-- An attempt keeps a state from which nothing can be handed on. -/
theorem Passed.attempted (passed : Passed partition area superblock objectIds state)
    (fits : ∀ image, (Journal.stored partition area image).Fits partition)
    (apart : area.header ≠ area.footer) (tried : Attempted partition area state after) :
    Passed partition area superblock objectIds after := by
  obtain ⟨plan, atomic, leaves⟩ := tried
  have begun := passed.planned plan
  rcases attempt_cases leaves with ⟨_, failed⟩ | ⟨⟨mount, disk⟩, loads, rest⟩
  · obtain ⟨memory, took⟩ :=
      (ends_takeUp state.memory (state.disk.planned plan) begun.lies (fits _)).of_error failed
    refine begun.of_took_nil took ?_
    rw [memory]
    exact passed.counts
  obtain ⟨ready, journal, samePlan⟩ := begun.of_takeUp fits loads
  have spent : mount.journal.Spent := by
    rw [show mount.journal = _ from journal]
    exact ready.spent
  have replaying := ends_replay_of_spent spent ready.lies
  rcases rest with ⟨_, failed⟩ | ⟨report, between, replays, retires⟩
  · obtain ⟨memory, more, _⟩ := replaying.of_error failed
    refine ready.of_took_nil more ?_
    rw [memory]
    exact ready.counts
  · obtain ⟨rfl, empty⟩ := replaying.of_ok replays
    have clean : mount.journal.dirty = false := congrArg Journal.dirty journal
    have located : mount.journal.area = area := congrArg Journal.area journal
    have fitting : mount.journal.Fits partition := journal ▸ fits _
    have plans : AtomicPlan partition.blockSize disk.device.plan := by
      rw [show disk.device.plan = plan from samePlan]
      exact atomic
    exact passed_of_retire mount ready.counts empty clean located apart fitting journal ready.lies
      ready.writable plans retires

/-- A replay does not strand a state from which nothing can be handed on. -/
theorem Passed.not_strands (passed : Passed partition area superblock objectIds state)
    (fits : ∀ image, (Journal.stored partition area image).Fits partition) :
    ¬ Strands partition area state after := by
  rintro ⟨plan, ⟨mount, disk⟩, error, _, loads, failed, empty⟩
  obtain ⟨ready, journal, _⟩ := (passed.planned plan).of_takeUp fits loads
  have spent : mount.journal.Spent := by
    rw [show mount.journal = _ from journal]
    exact ready.spent
  obtain ⟨_, more, pending⟩ := (ends_replay_of_spent spent ready.lies).of_error failed
  rw [more.image, ← show mount.journal = _ from journal, pending] at empty
  exact nomatch empty

variable {journal : Journal} {older : List Logged} {newest : Logged} {content : Content}
  {first : Mount}

/-- Whether a state can be worked on, with the counters of a mount in memory, and its journal on
disk waits for a replay of which some block writes may have been done. -/
structure Waiting (partition : Partition) (journal : Journal) (older : List Logged)
    (newest : Logged) (content : Content) (first : Mount) (state : Attached Mount Store) :
    Prop where
  /-- The partition lies on the device. -/
  lies : partition.LiesOn state.disk.device.shape
  /-- The device takes writes. -/
  writable : state.disk.device.readOnly = false
  /-- Any block writes of a replay may have been done, except for that of the footer. -/
  part : ∃ part, part ⊆ journal.replayWrites partition (partition.image content) older newest ∧
    journal.footerWrite partition newest ∉ part ∧
    state.disk.device.content = content.afterAll part
  /-- The counters are in memory. -/
  counts : state.memory.Counts first.superblock first.objectIds

/-- A state that waits still does after reads. -/
theorem Waiting.of_took_nil (waiting : Waiting partition journal older newest content first state)
    (took : state.disk.Took after.disk [])
    (counts : after.memory.Counts first.superblock first.objectIds) :
    Waiting partition journal older newest content first after := by
  obtain ⟨part, early, lost, cut⟩ := waiting.part
  exact ⟨took.lies waiting.lies, took.writable waiting.writable,
    ⟨part, early, lost, took.content.trans cut⟩, counts⟩

/-- Other faults to come leave a state that waits. -/
theorem Waiting.planned (waiting : Waiting partition journal older newest content first state)
    (plan : Nat → Option Fault) :
    Waiting partition journal older newest content first
      { state with disk := state.disk.planned plan } :=
  ⟨waiting.lies, waiting.writable, waiting.part, waiting.counts⟩

/-- The journal on disk of a state that waits is the one that waits. -/
theorem Waiting.stored (waiting : Waiting partition journal older newest content first state)
    (shielded : journal.Shielded partition (partition.image content) older newest) :
    Journal.stored partition journal.area (state.disk.image partition) = journal := by
  obtain ⟨part, early, lost, cut⟩ := waiting.part
  rw [Disk.image, cut, shielded.stored_of_part waiting.lies.toSectored early, if_neg lost]

/-- A replay of the journal that waits hands on the counters and leaves the replayed journal. When
it fails, the journal still waits, or the counters are as before and the journal is not pending any
more. -/
theorem Waiting.ends_replay (waiting : Waiting partition journal older newest content first state)
    (shielded : journal.Shielded partition (partition.image content) older newest)
    (taken : state.memory.journal = journal)
    (atomic : AtomicPlan partition.blockSize state.disk.device.plan) :
    Ends (replay partition) state
      (fun _ after => after.memory = state.memory.accept (journal.replayed newest) ∧
        after.disk.device.plan = state.disk.device.plan ∧
        partition.LiesOn after.disk.device.shape ∧ after.disk.device.readOnly = false ∧
        Journal.stored partition journal.area (after.disk.image partition) =
          journal.replayed newest)
      fun _ after => Waiting partition journal older newest content first after ∨
        ((Journal.stored partition journal.area (after.disk.image partition)).state = .empty ∧
          Passed partition journal.area first.superblock first.objectIds after) := by
  obtain ⟨mount, disk⟩ := state
  obtain rfl : mount.journal = journal := taken
  obtain ⟨lies, writable, ⟨part, early, lost, cut⟩, counts⟩ := waiting
  have sectored : partition.Sectored := lies.toSectored
  have steady := shielded.steady_of_part lies writable early cut
  refine (Mount.ends_replay shielded.pending shielded.toReady steady).mono ?_ ?_
  · rintro _ ⟨_, done⟩ ⟨_, rfl, did⟩
    have took := did.took
    have left : done.device.content = content.afterAll
        (mount.journal.replayWrites partition (partition.image content) older newest) := by
      rw [did.content, Journal.effects_replayTrace, Content.afterAll_append, cut,
        Content.afterAll_absorb fun effect known _ covers => ⟨effect, early known, covers⟩]
      rfl
    refine ⟨rfl, took.plan, took.lies lies, took.writable writable, ?_⟩
    rw [Disk.image, left]
    exact shielded.stored_replayed sectored
  · rintro _ ⟨memory, broken⟩ ⟨same, broke⟩
    obtain rfl : mount = memory := same.symm
    obtain ⟨count, took⟩ := broke.exists_took atomic shielded.trace_spans
    rw [Journal.filter_replayTrace] at took
    have further : part ++ (mount.journal.replayWrites partition (partition.image content) older
        newest).take count ⊆
          mount.journal.replayWrites partition (partition.image content) older newest :=
      List.append_subset.2 ⟨early, List.take_subset _ _⟩
    have left := took.content.trans (congrArg (Content.afterAll · _) cut)
    rw [← Content.afterAll_append] at left
    -- The footer decides what the next attempt finds, whichever copies are on disk.
    by_cases reached : mount.journal.footerWrite partition newest ∈
        part ++ (mount.journal.replayWrites partition (partition.image content) older newest).take
          count
    · have empty : (Journal.stored partition mount.journal.area
          (broken.image partition)).state = .empty := by
        rw [Disk.image, left, shielded.stored_of_part sectored further, if_pos reached]
        exact shielded.empty_replayed
      exact .inr ⟨empty, took.lies lies, took.writable writable, .inl empty, counts⟩
    · exact .inl ⟨took.lies lies, took.writable writable, ⟨_, further, reached, left⟩, counts⟩

/-- The journal that waits is taken up. -/
theorem Waiting.of_takeUp {plan : Nat → Option Fault}
    (waiting : Waiting partition journal older newest content first state)
    (shielded : journal.Shielded partition (partition.image content) older newest)
    (loads : takeUp partition journal.area { state with disk := state.disk.planned plan } =
      .ok () loaded) :
    Waiting partition journal older newest content first loaded ∧
      loaded.memory.journal = journal ∧ loaded.disk.device.plan = plan := by
  have begun := waiting.planned plan
  have fits : (Journal.stored partition journal.area
      ((state.disk.planned plan).image partition)).Fits partition := shielded.fits.stored
  obtain ⟨taken, took⟩ :=
    (ends_takeUp state.memory (state.disk.planned plan) begun.lies fits).of_ok loads
  rw [begun.stored shielded] at taken
  refine ⟨begun.of_took_nil took ?_, congrArg Mount.journal taken, took.plan⟩
  rw [taken]
  exact waiting.counts

/-- Once a replay of the journal that waits has returned, the counters are handed on. -/
theorem Waiting.passed_of_replay
    (waiting : Waiting partition journal older newest content first loaded)
    (shielded : journal.Shielded partition (partition.image content) older newest)
    (taken : loaded.memory.journal = journal)
    (atomic : AtomicPlan partition.blockSize loaded.disk.device.plan)
    (replays : replay partition loaded = .ok report between)
    (retires : (retire partition report).Leaves between after) :
    Passed partition journal.area (first.superblock.accept newest.transaction.header.counters)
      (first.objectIds.accept newest.transaction.header.counters) after := by
  obtain ⟨mount, disk⟩ := between
  obtain ⟨accepted, samePlan, lies, writable, stored⟩ :=
    (waiting.ends_replay shielded taken atomic).of_ok replays
  obtain rfl : mount = loaded.memory.accept (journal.replayed newest) := accepted
  have handed : (loaded.memory.accept (journal.replayed newest)).Counts
      (first.superblock.accept newest.transaction.header.counters)
      (first.objectIds.accept newest.transaction.header.counters) := by
    rw [← waiting.counts.1, ← waiting.counts.2]
    exact ⟨rfl, rfl⟩
  have planned : AtomicPlan partition.blockSize disk.device.plan := by
    rw [show disk.device.plan = _ from samePlan]
    exact atomic
  exact passed_of_retire _ handed shielded.empty_replayed rfl rfl shielded.header_ne_footer
    shielded.fits_replayed stored.symm lies writable planned retires

/-- An attempt that finds the journal waiting leaves it waiting, or hands on the counters, or
strands them. -/
theorem Waiting.attempted (waiting : Waiting partition journal older newest content first state)
    (shielded : journal.Shielded partition (partition.image content) older newest)
    (tried : Attempted partition journal.area state after) :
    Waiting partition journal older newest content first after ∨
      Passed partition journal.area
        (first.superblock.accept newest.transaction.header.counters)
        (first.objectIds.accept newest.transaction.header.counters) after ∨
      Strands partition journal.area state after := by
  obtain ⟨plan, atomic, leaves⟩ := tried
  rcases attempt_cases leaves with ⟨_, failed⟩ | ⟨loaded, loads, rest⟩
  · have fits : (Journal.stored partition journal.area
        ((state.disk.planned plan).image partition)).Fits partition := shielded.fits.stored
    obtain ⟨memory, took⟩ :=
      (ends_takeUp state.memory (state.disk.planned plan) waiting.lies fits).of_error failed
    refine .inl ((waiting.planned plan).of_took_nil took ?_)
    rw [memory]
    exact waiting.counts
  · obtain ⟨ready, taken, samePlan⟩ := waiting.of_takeUp shielded loads
    rcases rest with ⟨error, failed⟩ | ⟨report, between, replays, retires⟩
    · rcases (ready.ends_replay shielded taken (samePlan ▸ atomic)).of_error failed with
        still | ⟨empty, _⟩
      · exact .inl still
      · exact .inr (.inr ⟨plan, loaded, error, atomic, loads, failed, empty⟩)
    · exact .inr (.inl (ready.passed_of_replay shielded taken (samePlan ▸ atomic) replays retires))

/-- An attempt that strands the counters leaves them as they were, with nothing on disk to hand
on. -/
theorem Waiting.passed_of_strands
    (waiting : Waiting partition journal older newest content first state)
    (shielded : journal.Shielded partition (partition.image content) older newest)
    (strands : Strands partition journal.area state after) :
    Passed partition journal.area first.superblock first.objectIds after := by
  obtain ⟨plan, loaded, error, atomic, loads, failed, empty⟩ := strands
  obtain ⟨ready, taken, samePlan⟩ := waiting.of_takeUp shielded loads
  rcases (ready.ends_replay shielded taken (samePlan ▸ atomic)).of_error failed with
    still | ⟨_, passed⟩
  · rw [still.stored shielded, shielded.pending] at empty
    exact nomatch empty
  · exact passed

/-- An attempt that returns while the journal waits hands on the counters. -/
theorem Waiting.passed_of_ok {plan : Nat → Option Fault}
    (waiting : Waiting partition journal older newest content first state)
    (shielded : journal.Shielded partition (partition.image content) older newest)
    (atomic : AtomicPlan partition.blockSize plan)
    (ran : attempt partition journal.area { state with disk := state.disk.planned plan } =
      .ok report after) :
    Passed partition journal.area (first.superblock.accept newest.transaction.header.counters)
      (first.objectIds.accept newest.transaction.header.counters) after := by
  obtain ⟨_, loaded, loads, activates⟩ := of_bind_ok ran
  rw [activate_eq] at activates
  obtain ⟨report, between, replays, retires⟩ := of_bind_ok activates
  obtain ⟨ready, taken, samePlan⟩ := waiting.of_takeUp shielded loads
  exact ready.passed_of_replay shielded taken (samePlan ▸ atomic) replays (.inl ⟨_, retires⟩)

/-- The attempts of a run in which none strands the counters leave the journal waiting or hand on
the counters. -/
theorem Waiting.run (waiting : Waiting partition journal older newest content first state)
    (shielded : journal.Shielded partition (partition.image content) older newest)
    (run : Relation.ReflTransGen
      (fun before after => Attempted partition journal.area before after ∧
        ¬ Strands partition journal.area before after) state after) :
    Waiting partition journal older newest content first after ∨
      Passed partition journal.area
        (first.superblock.accept newest.transaction.header.counters)
        (first.objectIds.accept newest.transaction.header.counters) after := by
  induction run with
  | refl => exact .inl waiting
  | tail _ step ih =>
    obtain ⟨tried, fine⟩ := step
    rcases ih with waits | passed
    · rcases waits.attempted shielded tried with still | handed | stranded
      · exact .inl still
      · exact .inr handed
      · exact (fine stranded).elim
    · exact .inr (passed.attempted (fun _ => shielded.fits.stored) shielded.header_ne_footer tried)

/-- Once there is nothing to hand on, no run of attempts changes the counters. -/
theorem Passed.run (passed : Passed partition area superblock objectIds state)
    (fits : ∀ image, (Journal.stored partition area image).Fits partition)
    (apart : area.header ≠ area.footer)
    (run : Relation.ReflTransGen (Attempted partition area) state after) :
    Passed partition area superblock objectIds after := by
  induction run with
  | refl => exact passed
  | tail _ tried ih => exact ih.attempted fits apart tried

/-- An attempt that strands the counters finds the journal waiting, whatever attempts came
before. -/
theorem Waiting.of_run_strands
    (waiting : Waiting partition journal older newest content first state)
    (shielded : journal.Shielded partition (partition.image content) older newest)
    (run : Relation.ReflTransGen (Attempted partition journal.area) state between)
    (strands : Strands partition journal.area between after) :
    Waiting partition journal older newest content first between := by
  have fits (image : Image) : (Journal.stored partition journal.area image).Fits partition :=
    shielded.fits.stored
  -- Each state of the run waits or has nothing to hand on, and only one that waits can strand.
  have known : Waiting partition journal older newest content first between ∨
      ∃ superblock objectIds, Passed partition journal.area superblock objectIds between := by
    clear strands
    induction run with
    | refl => exact .inl waiting
    | tail _ tried ih =>
      rcases ih with waits | ⟨superblock, objectIds, passed⟩
      · rcases waits.attempted shielded tried with still | handed | stranded
        · exact .inl still
        · exact .inr ⟨_, _, handed⟩
        · exact .inr ⟨_, _, waits.passed_of_strands shielded stranded⟩
      · exact .inr ⟨_, _, passed.attempted fits shielded.header_ne_footer tried⟩
  rcases known with waits | ⟨_, _, passed⟩
  · exact waits
  · exact (passed.not_strands fits strands).elim

end Mount

end JournaledVolume
