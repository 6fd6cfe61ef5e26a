import JournaledVolume.Proofs.Attempts

/-!
# Handing counters on

An attempt to bring a volume into service hands on the counters of the newest transaction. However
many attempts faults have cut short before, the first one that returns hands them on, and no later
one changes them. But a replay hands them on last: when it fails and its footer has reached the
disk, later attempts find nothing to replay, and the counters are lost. All of this is for journal
pointers that no entry overwrites, and for faults that tear no block write.
-/

namespace JournaledVolume

namespace Mount

variable {partition : Partition} {area : JournalArea}

/-- A volume whose journal waits for a replay, in which an inspection finds nothing bad, and
attempts to bring it into service. The journal pointers lie on fixed blocks (`headerFixed`,
`footerFixed`) that are the home of no entry (`kept`), and whatever goes wrong in an attempt, each
block write reaches the device as a whole or not at all (`AtomicPlan`, also in `Attempted` and
`Strands`): nothing is said of torn writes. When an attempt returns and none before it has stranded
the counters, they are those of the newest transaction that waited at first. Once an attempt has
stranded them, they are what they were before the first attempt whenever one returns. -/
theorem counters_after_attempts {opening opened checked : Disk Store} {journal handle : Journal}
    {fixed : Bitmap} {inspection : Inspection} (mount : Mount)
    (lies : partition.LiesOn opening.device.shape) (writable : opening.device.readOnly = false)
    (loaded : Journal.load partition area opening = .ok journal opened)
    (pending : journal.state = .pending)
    (checks : journal.check partition fixed .check opened = .ok (inspection, handle) checked)
    (clean : inspection.bad = none) (headerFixed : fixed.test area.header.toNat = true)
    (footerFixed : fixed.test area.footer.toNat = true)
    (kept : ∀ logged, journal.Pends partition (opening.image partition) logged →
      ∀ home ∈ logged.flatMap Logged.homes, home ≠ area.header ∧ home ≠ area.footer) :
    ∃ older newest, journal.Pends partition (opening.image partition) (older ++ [newest]) ∧
      (∀ last plan report after,
        Relation.ReflTransGen (fun before after => Attempted partition area before after ∧
          ¬ Strands partition area before after) { memory := mount, disk := opening } last →
        AtomicPlan partition.blockSize plan →
        attempt partition area { last with disk := last.disk.planned plan } = .ok report after →
        after.memory.superblock.counters = newest.transaction.header.counters ∧
          after.memory.objectIds =
            { next := newest.transaction.header.counters.nextObjectId
              used := newest.transaction.header.counters.usedObjectIds }) ∧
      ∀ before stranded last plan report after,
        Relation.ReflTransGen (Attempted partition area) { memory := mount, disk := opening }
          before →
        Strands partition area before stranded →
        Relation.ReflTransGen (Attempted partition area) stranded last →
        AtomicPlan partition.blockSize plan →
        attempt partition area { last with disk := last.disk.planned plan } = .ok report after →
        after.memory.superblock = mount.superblock ∧ after.memory.objectIds = mount.objectIds := by
  obtain ⟨_, fitting, opens⟩ := Journal.of_load lies loaded
  obtain ⟨_, ⟨_, looks⟩, _⟩ := Journal.ready_of_check (opens.lies lies) fitting pending checks clean
  have same : checked.image partition = opening.image partition :=
    (looks.image rfl).trans (opens.image rfl)
  rw [← same] at kept
  obtain ⟨_, rfl, _, older, newest, shielded⟩ := Journal.shielded_of_check lies loaded pending
    checks clean headerFixed footerFixed kept
  rw [same] at shielded
  have waiting : Waiting partition journal older newest opening.device.content mount
      { memory := mount, disk := opening } :=
    ⟨lies, writable, ⟨[], List.nil_subset _, List.not_mem_nil, rfl⟩, rfl, rfl⟩
  have fits (image : Image) : (Journal.stored partition journal.area image).Fits partition :=
    shielded.fits.stored
  refine ⟨older, newest, shielded.pends, ?_, ?_⟩
  · intro last plan report after run atomic ran
    have handed : Passed partition journal.area
        (mount.superblock.accept newest.transaction.header.counters)
        (mount.objectIds.accept newest.transaction.header.counters) after := by
      rcases waiting.run shielded run with waits | passed
      · exact waits.passed_of_ok shielded atomic ran
      · exact passed.attempted fits shielded.header_ne_footer ⟨plan, atomic, .inl ⟨report, ran⟩⟩
    rw [handed.counts.1, handed.counts.2]
    exact ⟨rfl, rfl⟩
  · intro before stranded last plan report after reaches strands run atomic ran
    have waits := waiting.of_run_strands shielded reaches strands
    have lost := (waits.passed_of_strands shielded strands).run fits shielded.header_ne_footer run
    exact (lost.attempted fits shielded.header_ne_footer ⟨plan, atomic, .inl ⟨report, ran⟩⟩).counts

/-- The small volume before the first attempt. -/
def Sample.start : Attached Mount Store where
  memory := { journal := Sample.journal, superblock := .fresh 512 8, objectIds := {} }
  disk := Sample.disk

/-- The plan in which one call is not answered, and does nothing. -/
def failAt (number : Nat) : Nat → Option Fault :=
  fun call => if call = number then some {} else none

/-- Calls that do nothing leave blocks whole. -/
theorem atomicPlan_failAt (size number : Nat) : AtomicPlan size (failAt number) := by
  intro call fault planned
  rw [failAt] at planned
  split at planned
  · cases planned
    exact .inl rfl
  · exact nomatch planned

/-- What two attempts do of which a fault at a call cuts the first one short: the state of the
journal on disk between them, and the counters after them. -/
def attempts (partition : Partition) (area : JournalArea) (start : Attached Mount Store)
    (number : Nat) : Option (JournalState × Counters) :=
  match attempt partition area { start with disk := start.disk.planned (failAt number) } with
  | .ok _ _ => none
  | .error _ broken =>
    match attempt partition area { broken with disk := broken.disk.planned fun _ => none } with
    | .ok _ after =>
      some ((Journal.stored partition area (broken.disk.image partition)).state,
        after.memory.superblock.counters)
    | .error _ _ => none

/-- The states behind what two attempts do. -/
theorem exists_attempts {start : Attached Mount Store} {number : Nat} {left : JournalState}
    {counters : Counters} (found : attempts partition area start number = some (left, counters)) :
    ∃ error broken report after,
      attempt partition area { start with disk := start.disk.planned (failAt number) } =
          .error error broken ∧
      (Journal.stored partition area (broken.disk.image partition)).state = left ∧
      attempt partition area { broken with disk := broken.disk.planned fun _ => none } =
          .ok report after ∧
      after.memory.superblock.counters = counters := by
  rw [attempts] at found
  split at found
  · exact nomatch found
  · next error broken failed =>
    split at found
    · next report after ran =>
      cases found
      exact ⟨error, broken, report, after, failed, rfl, ran, rfl⟩
    · exact nomatch found

/-- When the header cannot be written, the journal still waits, and the next attempt hands on the
counters. -/
theorem Sample.attempts_header :
    attempts Sample.partition Sample.area Sample.start 6 = some (.pending, {}) := by
  simp only [attempts, attempt, activate, takeUp, replay, Journal.replay, Journal.pending,
    Walk.collect, Transaction.replay, Walk.forEach_eq_unrolled 3]
  decide +kernel

/-- When the flush fails, the journal is empty, and the next attempt leaves the counters. -/
theorem Sample.attempts_flush : attempts Sample.partition Sample.area Sample.start 8 =
    some (.empty, { freeBlocks := 8 }) := by
  simp only [attempts, attempt, activate, takeUp, replay, Journal.replay, Journal.pending,
    Walk.collect, Transaction.replay, Walk.forEach_eq_unrolled 3]
  decide +kernel

/-- On the small volume an attempt follows one that failed to write the header. -/
theorem counters_after_attempts_sample : ∃ error broken report after,
    attempt Sample.partition Sample.area
      { Sample.start with disk := Sample.start.disk.planned (failAt 6) } = .error error broken ∧
    attempt Sample.partition Sample.area
      { broken with disk := broken.disk.planned fun _ => none } = .ok report after ∧
    Sample.start.memory.superblock.counters ≠ Sample.logged.transaction.header.counters ∧
    after.memory.superblock.counters = Sample.logged.transaction.header.counters ∧
    after.memory.objectIds = {} := by
  obtain ⟨error, broken, report, after, failed, waits, ran, _⟩ :=
    exists_attempts Sample.attempts_header
  obtain ⟨opened, checked, loads, checks, _, same⟩ := Sample.exists_checked
  have kept := Sample.homes_kept same
  rw [same] at kept
  obtain ⟨older, newest, pends, handed, _⟩ := counters_after_attempts Sample.start.memory
    Sample.lies rfl loads rfl checks rfl (by decide) (by decide) kept
  have all : older ++ [newest] = [] ++ [Sample.logged] := pends.unique Sample.pends
  obtain ⟨rfl, rfl⟩ := List.append_singleton_inj.1 all
  have tried : Attempted Sample.partition Sample.area Sample.start broken :=
    ⟨failAt 6, atomicPlan_failAt _ 6, .inr ⟨error, failed⟩⟩
  have fine : ¬ Strands Sample.partition Sample.area Sample.start broken := by
    rintro ⟨_, _, _, _, _, _, empty⟩
    exact nomatch waits.symm.trans empty
  have counters := handed broken (fun _ => none) report after (.single ⟨tried, fine⟩)
    (fun _ _ planned => nomatch planned) ran
  exact ⟨error, broken, report, after, failed, ran, by decide, counters.1, counters.2⟩

/-- The counters are not handed on after every fault: a journal that an inspection accepts, whose
pointers lie on fixed blocks that are no home blocks, and an attempt that a failing flush cuts
short. The next attempt returns, but the counters are not those of the transaction that waited. -/
theorem attempts_lose_counters : ∃ opened checked error broken report after,
    Journal.load Sample.partition Sample.area Sample.disk = .ok Sample.journal opened ∧
    Sample.journal.state = .pending ∧
    Sample.journal.check Sample.partition Sample.fixed .check opened =
      .ok ({ valid := 1, commitPoint := 3 }, Sample.journal) checked ∧
    Sample.fixed.test Sample.area.header.toNat = true ∧
    Sample.fixed.test Sample.area.footer.toNat = true ∧
    Sample.journal.Pends Sample.partition (Sample.disk.image Sample.partition) [Sample.logged] ∧
    (∀ home ∈ [Sample.logged].flatMap Logged.homes,
      home ≠ Sample.area.header ∧ home ≠ Sample.area.footer) ∧
    AtomicPlan Sample.partition.blockSize (failAt 8) ∧
    attempt Sample.partition Sample.area
      { Sample.start with disk := Sample.start.disk.planned (failAt 8) } = .error error broken ∧
    attempt Sample.partition Sample.area
      { broken with disk := broken.disk.planned fun _ => none } = .ok report after ∧
    after.memory.superblock.counters ≠ Sample.logged.transaction.header.counters := by
  obtain ⟨error, broken, report, after, failed, _, ran, counters⟩ :=
    exists_attempts Sample.attempts_flush
  obtain ⟨opened, checked, loads, checks, _, same⟩ := Sample.exists_checked
  refine ⟨opened, checked, error, broken, report, after, loads, rfl, checks, by decide, by decide,
    Sample.pends, ?_, atomicPlan_failAt _ 8, failed, ran, ?_⟩
  · have kept := Sample.homes_kept same
    rw [same] at kept
    exact kept _ Sample.pends
  · rw [counters]
    decide

end Mount

end JournaledVolume
