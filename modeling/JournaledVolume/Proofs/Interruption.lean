import JournaledVolume.Proofs.Restoration

/-!
# Work that breaks off

Where a device takes each write as a whole or not at all, an operation that breaks off leaves what
the first of its block writes leave. For a replay this is a state to start from again: no copy
touches the journal pointers, so the old handle is found until the footer is written, and the new
one from then on.
-/

namespace JournaledVolume

open JournaledVolume.Action

namespace Effect

/-- Whether an effect writes something. -/
def isWrite : Effect → Bool
  | write _ _ => true
  | flush => false

/-- Whether an effect writes so many bytes, if it writes any. -/
def Spans (size : Nat) : Effect → Prop
  | write _ data => data.length = size
  | flush => True

end Effect

namespace Content

variable {content : Content} {effects : List Effect}

/-- Only writes change what a device holds. -/
theorem afterAll_filter_isWrite :
    content.afterAll (effects.filter Effect.isWrite) = content.afterAll effects := by
  induction effects generalizing content with
  | nil => rfl
  | cons effect effects ih =>
    cases effect with
    | write offset data =>
      rw [List.filter_cons_of_pos rfl, afterAll_cons, afterAll_cons, ih]
    | flush =>
      rw [List.filter_cons_of_neg Bool.false_ne_true, afterAll_cons, ih]
      rfl

end Content

/-- Where each write reaches the device as a whole or not at all, what broke off leaves what its
first writes leave. -/
theorem Torn.exists_take {size : Nat} {fault : Fault} {whole part : List Effect}
    (torn : Torn fault.reached whole part) (atomic : fault.Atomic size)
    (spans : ∀ effect ∈ whole, effect.Spans size) (content : Content) :
    ∃ count, content.afterAll part =
      content.afterAll ((whole.filter Effect.isWrite).take count) := by
  induction torn generalizing content with
  | nothing whole => exact ⟨0, rfl⟩
  | last effect rest =>
    cases effect with
    | flush => exact ⟨0, rfl⟩
    | write offset data =>
      rcases atomic with lost | kept
      · refine ⟨0, ?_⟩
        rw [Effect.cut, lost, List.take_zero, Content.afterAll_cons, Content.after_write_nil]
        rfl
      · have full : data.length = size := spans _ List.mem_cons_self
        refine ⟨1, ?_⟩
        rw [Effect.cut, List.take_of_length_le (by omega), List.filter_cons_of_pos rfl]
        rfl
  | step effect torn ih =>
    obtain ⟨_, later⟩ := List.forall_mem_cons.1 spans
    obtain ⟨count, same⟩ := ih later (content.after effect)
    cases effect with
    | flush => exact ⟨count, same⟩
    | write offset data =>
      refine ⟨count + 1, ?_⟩
      rw [List.filter_cons_of_pos rfl, List.take_succ_cons, Content.afterAll_cons,
        Content.afterAll_cons, same]

namespace Disk

variable {disk after : Disk Store} {trace : Trace} {number : Nat} {fault : Fault}
  {whole : List Effect}

/-- The disk with a fault at one call and at no other. -/
def withFault (number : Nat) (fault : Fault) (disk : Disk Store) : Disk Store :=
  { disk with device.plan := fun call => if call = number then some fault else none }

/-- The disk with no fault to come. -/
def repaired (disk : Disk Store) : Disk Store := { disk with device.plan := fun _ => none }

/-- The block writes that reached the device from one moment to another. -/
def written (before after : Disk Store) : List Effect :=
  (after.device.effects.drop before.device.effects.length).filter Effect.isWrite

/-- A disk without faults answers every request. -/
theorem sound_repaired (disk : Disk Store) : disk.repaired.device.Sound := ⟨fun _ _ => rfl⟩

/-- An operation cannot run past the call with the fault. -/
theorem Ran.lt_of_withFault (ran : (disk.withFault number fault).Ran after trace)
    (ahead : disk.device.calls ≤ number) : disk.device.calls + trace.requests ≤ number := by
  by_contra within
  have answered := ran.unharmed (number - disk.device.calls) (by omega)
  have meets : disk.device.calls + (number - disk.device.calls) = number := by omega
  have planned : (if disk.device.calls + (number - disk.device.calls) = number then some fault
      else none) = none := answered
  rw [if_pos meets] at planned
  exact nomatch planned

/-- What breaks off does so at the call with the fault. -/
theorem Broke.of_withFault (broke : (disk.withFault number fault).Broke after whole) :
    ∃ requests part, after.device = (disk.withFault number fault).device.advance requests part ∧
      Torn fault.reached whole part := by
  obtain ⟨requests, met, part, device, _, planned, torn⟩ := broke
  have struck : (if disk.device.calls + requests = number then some fault else none) =
      some met := planned
  split at struck
  · cases struck
    exact ⟨_, part, device, torn⟩
  · exact nomatch struck

/-- The block writes among the effects that have changed a device. -/
theorem written_of_added {effects : List Effect}
    (added : disk.device.Added after.device effects) :
    disk.written after = effects.filter Effect.isWrite := by
  obtain ⟨requests, device⟩ := added
  rw [Disk.written, device, Store.effects_advance, List.drop_left]

/-- The block writes of an operation. -/
theorem Ran.written (ran : disk.Ran after trace) :
    disk.written after = trace.effects.filter Effect.isWrite :=
  written_of_added ran.added

/-- What the device holds after an operation is what its block writes leave. -/
theorem Ran.content_written (ran : disk.Ran after trace) :
    after.device.content = disk.device.content.afterAll (disk.written after) := by
  rw [ran.content, ran.written, Content.afterAll_filter_isWrite]

end Disk

namespace Journal

variable {partition : Partition} {image : Image} {journal : Journal} {older : List Logged}
  {newest : Logged} {content : Content} {count : Nat}

/-- A handle that fits is written in whole blocks. -/
theorem Fits.writes_span (fits : journal.Fits partition) :
    ∀ effect ∈ journal.writes partition, effect.Spans partition.blockSize :=
  List.forall_mem_cons.2 ⟨fits.length_header, List.forall_mem_singleton.2 fits.length_footer⟩

/-- A replay writes a block for each entry, and the two blocks of the pointers. -/
theorem length_replayWrites : (journal.replayWrites partition image older newest).length =
    ((older ++ [newest]).flatMap Logged.entries).length + 2 := by
  rw [replayWrites, List.length_append, List.length_map]
  rfl

/-- The block writes of a replay are writes. -/
theorem isWrite_of_mem_replayWrites :
    ∀ effect ∈ journal.replayWrites partition image older newest, effect.isWrite = true := by
  refine List.forall_mem_append.2 ⟨?_, ?_⟩
  · exact List.forall_mem_map.2 fun _ _ => rfl
  · exact List.forall_mem_cons.2 ⟨rfl, List.forall_mem_singleton.2 rfl⟩

/-- What a replay writes to the device are its block writes. -/
theorem filter_replayTrace :
    (journal.replayTrace partition image older newest).effects.filter Effect.isWrite =
      journal.replayWrites partition image older newest := by
  rw [effects_replayTrace, List.filter_append, List.filter_eq_self.2 isWrite_of_mem_replayWrites]
  exact List.append_nil _

/-- Whether a journal is ready for a replay that leaves its pointers alone until the end. -/
structure Shielded (partition : Partition) (image : Image) (journal : Journal)
    (older : List Logged) (newest : Logged) : Prop
    extends journal.Ready partition image older newest where
  /-- There is something to replay. -/
  pending : journal.state = .pending
  /-- The handle is the one on disk. -/
  stored : journal = Journal.stored partition journal.area image
  /-- The header block is none of the journal blocks. -/
  header_free : journal.area.header ∉ (older ++ [newest]).flatMap Logged.blocks
  /-- Neither is the footer block. -/
  footer_free : journal.area.footer ∉ (older ++ [newest]).flatMap Logged.blocks
  /-- No copy overwrites the header or the footer. -/
  homes : ∀ home ∈ (older ++ [newest]).flatMap Logged.homes,
    home ≠ journal.area.header ∧ home ≠ journal.area.footer
  /-- Nor does one overwrite a journal block. -/
  apart : ∀ home ∈ (older ++ [newest]).flatMap Logged.homes,
    home ∉ (older ++ [newest]).flatMap Logged.blocks

namespace Shielded

/-- The pointers lie in two blocks, since each starts its block and they differ. -/
theorem header_ne_footer (shielded : journal.Shielded partition image older newest) :
    journal.area.header ≠ journal.area.footer := by
  intro same
  apply differs_of_pending shielded.pending
  rw [shielded.stored]
  show LittleEndian.decode64 (image journal.area.header.toNat) =
    LittleEndian.decode64 (image journal.area.footer.toNat)
  rw [same]

/-- A replayed journal is empty. -/
theorem empty_replayed (shielded : journal.Shielded partition image older newest) :
    (journal.replayed newest).state = .empty :=
  if_pos (shielded.pends.newest_address shielded.pending).symm

variable (shielded : journal.Shielded partition (partition.image content) older newest)

include shielded

/-- The handle behind the replay belongs on the partition. -/
theorem fits_replayed : (journal.replayed newest).Fits partition := shielded.fits.moved rfl rfl

/-- Copies leave the journal blocks and the pointers. -/
theorem copies_spare (sectored : partition.Sectored) :
    ∀ effect ∈ ((older ++ [newest]).flatMap Logged.entries).map
        (WanderEntry.copyEffect partition (partition.image content)),
      effect.Spares partition (journal.area.header :: journal.area.footer ::
        (older ++ [newest]).flatMap Logged.blocks) := by
  intro effect copied
  obtain ⟨entry, entered, rfl⟩ := List.mem_map.1 copied
  have home : entry.home ∈ (older ++ [newest]).flatMap Logged.homes :=
    Logged.home_mem_homes entered
  apply Effect.spares_blockWrite sectored (Partition.length_image _ _).le
  simp only [List.mem_cons, not_or]
  exact ⟨(shielded.homes _ home).1, (shielded.homes _ home).2, shielded.apart _ home⟩

/-- The block writes of a replay leave the journal blocks. -/
theorem writes_spare (sectored : partition.Sectored) :
    ∀ effect ∈ journal.replayWrites partition (partition.image content) older newest,
      effect.Spares partition ((older ++ [newest]).flatMap Logged.blocks) := by
  refine List.forall_mem_append.2 ⟨?_, ?_⟩
  · intro effect copied content block known
    exact shielded.copies_spare sectored effect copied content block
      (List.mem_cons_of_mem _ (List.mem_cons_of_mem _ known))
  · refine List.forall_mem_cons.2 ⟨?_, List.forall_mem_singleton.2 ?_⟩
    · exact Effect.spares_blockWrite sectored shielded.fits_replayed.length_header.le
        shielded.header_free
    · exact Effect.spares_blockWrite sectored shielded.fits_replayed.length_footer.le
        shielded.footer_free

/-- A replay writes whole blocks. -/
theorem trace_spans :
    ∀ effect ∈ (journal.replayTrace partition (partition.image content) older newest).effects,
      effect.Spans partition.blockSize := by
  rw [effects_replayTrace]
  refine List.forall_mem_append.2 ⟨List.forall_mem_append.2 ⟨?_, ?_⟩, ?_⟩
  · exact List.forall_mem_map.2 fun entry _ => Partition.length_image _ _
  · exact shielded.fits_replayed.writes_span
  · exact List.forall_mem_singleton.2 trivial

/-- A disk is steady after any of the block writes of a replay. -/
theorem steady_of_part {disk : Disk Store} {part : List Effect}
    (lies : partition.LiesOn disk.device.shape) (writable : disk.device.readOnly = false)
    (early : part ⊆ journal.replayWrites partition (partition.image content) older newest)
    (cut : disk.device.content = content.afterAll part) :
    Steady partition (partition.image content) ((older ++ [newest]).flatMap Logged.blocks)
      disk := by
  refine ⟨lies, writable, ?_⟩
  rw [Disk.image, cut]
  exact Effect.image_afterAll fun effect known =>
    shielded.writes_spare lies.toSectored effect (early known)

/-- Until the footer is written, a load finds the handle as it was. -/
theorem stored_of_take (sectored : partition.Sectored)
    (early : count ≤ ((older ++ [newest]).flatMap Logged.entries).length + 1) :
    Journal.stored partition journal.area (partition.image (content.afterAll
      ((journal.replayWrites partition (partition.image content) older newest).take count))) =
      journal := by
  let copies := ((older ++ [newest]).flatMap Logged.entries).map
    (WanderEntry.copyEffect partition (partition.image content))
  have pointers (copied : Nat) : Journal.stored partition journal.area
      (partition.image (content.afterAll (copies.take copied))) = journal := by
    have spare : ∀ effect ∈ copies.take copied, effect.Spares partition
        (journal.area.header :: journal.area.footer ::
          (older ++ [newest]).flatMap Logged.blocks) := fun effect first =>
      shielded.copies_spare sectored effect (List.mem_of_mem_take first)
    have header : partition.image (content.afterAll (copies.take copied))
        journal.area.header.toNat = partition.image content journal.area.header.toNat :=
      Effect.image_afterAll spare _ List.mem_cons_self
    have footer : partition.image (content.afterAll (copies.take copied))
        journal.area.footer.toNat = partition.image content journal.area.footer.toNat :=
      Effect.image_afterAll spare _ (List.mem_cons_of_mem _ List.mem_cons_self)
    rw [Journal.stored, header, footer]
    exact shielded.stored.symm
  have counted : copies.length = ((older ++ [newest]).flatMap Logged.entries).length :=
    List.length_map _
  rw [replayWrites]
  -- The footer is the last block written, so the last case is the header behind all copies.
  rcases Nat.lt_or_ge copies.length count with behind | within
  · have last : count = copies.length + 1 := by omega
    have all := pointers copies.length
    rw [List.take_length] at all
    rw [last, List.take_length_add_append, Content.afterAll_append]
    refine (stored_after_header (journal.replayed newest) sectored shielded.fits_replayed
      shielded.header_ne_footer).trans ?_
    exact congrArg (fun found : Journal => { found with header := journal.header }) all
  · rw [List.take_append_of_le_length within]
    exact pointers count

/-- Once all is written, a load finds the handle behind the replay. -/
theorem stored_replayed (sectored : partition.Sectored) :
    Journal.stored partition journal.area (partition.image (content.afterAll
      (journal.replayWrites partition (partition.image content) older newest))) =
      journal.replayed newest := by
  rw [replayWrites, Content.afterAll_append]
  exact stored_after_writes (journal.replayed newest) sectored shielded.fits_replayed
    (.inl shielded.header_ne_footer)

end Shielded

variable {area : JournalArea} {fixed : Bitmap} {handle : Journal} {inspection : Inspection}
  {opening opened checked : Disk Store}

/-- A pending journal that was just loaded, and that an inspection finds nothing bad in, is shielded
if its pointers are fixed blocks and no home blocks. -/
theorem shielded_of_check (lies : partition.LiesOn opening.device.shape)
    (loaded : load partition area opening = .ok journal opened)
    (pending : journal.state = .pending)
    (checks : journal.check partition fixed .check opened = .ok (inspection, handle) checked)
    (clean : inspection.bad = none) (headerFixed : fixed.test area.header.toNat = true)
    (footerFixed : fixed.test area.footer.toNat = true)
    (kept : ∀ logged, journal.Pends partition (checked.image partition) logged →
      ∀ home ∈ logged.flatMap Logged.homes, home ≠ area.header ∧ home ≠ area.footer) :
    handle = journal ∧ journal.area = area ∧ partition.LiesOn checked.device.shape ∧
      ∃ older newest, journal.Shielded partition (checked.image partition) older newest := by
  obtain ⟨same, stored, checkedLies, older, newest, ready, ordered⟩ :=
    ready_of_loaded lies loaded pending checks clean
  have located : journal.area = area := congrArg Journal.area stored
  have free {pointer : Address} (marked : fixed.test pointer.toNat = true) :
      pointer ∉ (older ++ [newest]).flatMap Logged.blocks := by
    intro used
    rw [ordered.free _ used] at marked
    exact nomatch marked
  refine ⟨same, located, checkedLies, older, newest, ready, pending, ?_, ?_, ?_, ?_,
    ordered.apart⟩
  · rw [located]
    exact stored
  · rw [located]
    exact free headerFixed
  · rw [located]
    exact free footerFixed
  · rw [located]
    exact kept _ ready.pends

end Journal

/-- The home block of the small volume holds no pointer. -/
theorem Sample.homes_kept {disk : Disk Store}
    (same : disk.image Sample.partition = Sample.disk.image Sample.partition) :
    ∀ logged, Sample.journal.Pends Sample.partition (disk.image Sample.partition) logged →
      ∀ home ∈ logged.flatMap Logged.homes,
        home ≠ Sample.area.header ∧ home ≠ Sample.area.footer := by
  intro logged pends
  rw [same] at pends
  rw [pends.unique Sample.pends, Sample.homes_eq]
  exact List.forall_mem_singleton.2 (by decide)

/-- Nor do those of the volume with two transactions. -/
theorem Sample.Twice.homes_kept {disk : Disk Store}
    (same : disk.image Sample.Twice.partition =
      Sample.Twice.disk.image Sample.Twice.partition) :
    ∀ logged,
      Sample.Twice.journal.Pends Sample.Twice.partition (disk.image Sample.Twice.partition) logged →
      ∀ home ∈ logged.flatMap Logged.homes,
        home ≠ Sample.area.header ∧ home ≠ Sample.area.footer := by
  intro logged pends
  rw [same] at pends
  rw [pends.unique Sample.Twice.pends, Sample.Twice.homes_eq]
  simp only [List.forall_mem_cons]
  exact ⟨by decide, by decide, by decide, nofun⟩

end JournaledVolume
