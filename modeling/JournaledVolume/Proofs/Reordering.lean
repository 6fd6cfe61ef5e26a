import JournaledVolume.Proofs.PowerLoss

/-!
# Losing writes that are not yet stable

A device may hold back what it was given until a flush, and put it into stable storage in another
order. When power is lost, what was written before the last flush is there, and of what was written
since then any part. A replay flushes only behind the journal pointers. The copies are safe as long
as the new footer is not: the next replay makes them again. Once the footer is on disk the journal
is empty, and a copy that was lost stays lost.
-/

namespace JournaledVolume

open JournaledVolume.Action

/-- A device that may hold writes back. -/
structure WriteCache where
  /-- What is in stable storage. -/
  stable : Content
  /-- What was written since then. -/
  volatile : List Effect := []

namespace WriteCache

/-- The device after an effect. -/
def take (cache : WriteCache) : Effect → WriteCache
  | .write offset data => { cache with volatile := cache.volatile ++ [.write offset data] }
  | .flush => { stable := cache.stable.afterAll cache.volatile }

/-- The device after effects in order. -/
def takeAll (cache : WriteCache) (effects : List Effect) : WriteCache := effects.foldl take cache

/-- Whether power loss may leave a content: any part of what is not stable was written, in any
order. -/
def MayLeave (cache : WriteCache) (content : Content) : Prop :=
  ∃ kept, kept ⊆ cache.volatile ∧ content = cache.stable.afterAll kept

variable {cache : WriteCache} {effects : List Effect} {start content : Content}

/-- Effects after effects. -/
theorem takeAll_append (more : List Effect) :
    cache.takeAll (effects ++ more) = (cache.takeAll effects).takeAll more := List.foldl_append

/-- Nothing that is written becomes stable by itself. -/
theorem takeAll_of_writes (writes : ∀ effect ∈ effects, effect.isWrite = true) :
    cache.takeAll effects = { cache with volatile := cache.volatile ++ effects } := by
  induction effects generalizing cache with
  | nil => rw [List.append_nil]; rfl
  | cons effect effects ih =>
    obtain ⟨first, later⟩ := List.forall_mem_cons.1 writes
    cases effect with
    | write offset data =>
      refine (ih later).trans ?_
      rw [take, List.append_assoc]
      rfl
    | flush => exact nomatch first

/-- At any moment of writes that a flush ends, power loss leaves a part of these writes. -/
theorem MayLeave.exists_part {moment : Nat} (writes : ∀ effect ∈ effects, effect.isWrite = true)
    (leaves : ((WriteCache.mk start []).takeAll ((effects ++ [Effect.flush]).take moment)).MayLeave
      content) :
    ∃ part, part ⊆ effects ∧ content = start.afterAll part := by
  -- Behind the flush all writes are stable, and before it none is.
  rcases Nat.lt_or_ge effects.length moment with behind | within
  · have all : (effects ++ [Effect.flush]).take moment = effects ++ [.flush] := by
      apply List.take_of_length_le
      rw [List.length_append, List.length_singleton]
      omega
    rw [all, takeAll_append, takeAll_of_writes writes] at leaves
    obtain ⟨kept, sub, rfl⟩ := leaves
    obtain rfl := List.subset_nil.1 sub
    exact ⟨effects, List.Subset.refl _, rfl⟩
  · rw [List.take_append_of_le_length within,
      takeAll_of_writes fun effect early => writes effect (List.mem_of_mem_take early)] at leaves
    obtain ⟨kept, sub, rfl⟩ := leaves
    exact ⟨kept, fun effect known => List.mem_of_mem_take (sub known), rfl⟩

end WriteCache

/-- The disk as it comes up with a content. -/
def Disk.restarted (disk : Disk Store) (content : Content) : Disk Store where
  device := { shape := disk.device.shape, start := content }

/-- A disk that comes up serves every request. -/
theorem Disk.serves_restarted (disk : Disk Store) (content : Content) :
    (disk.restarted content).device.Serves := ⟨⟨fun _ _ => rfl⟩, rfl⟩

namespace Journal

variable {partition : Partition} {journal : Journal} {older : List Logged} {newest : Logged}
  {content : Content} {part : List Effect}

/-- The last block write of a replay. -/
def footerWrite (partition : Partition) (journal : Journal) (newest : Logged) : Effect :=
  partition.blockWrite journal.area.footer.toNat
    ((journal.replayed newest).footer.encode journal.blockSize)

namespace Shielded

variable (shielded : journal.Shielded partition (partition.image content) older newest)

include shielded

/-- After any of the block writes of a replay, the footer is the new one if it was among them. -/
theorem image_footer_of_part (sectored : partition.Sectored)
    (early : part ⊆ journal.replayWrites partition (partition.image content) older newest) :
    partition.image (content.afterAll part) journal.area.footer.toNat =
      if journal.footerWrite partition newest ∈ part then
        (journal.replayed newest).footer.encode journal.blockSize
      else partition.image content journal.area.footer.toNat := by
  apply Effect.image_afterAll_of_write sectored shielded.fits_replayed.length_footer
  intro effect known other
  have written := early known
  rcases List.mem_append.1 written with copied | pointer
  · intro content block isFooter
    obtain rfl := List.mem_singleton.1 isFooter
    exact shielded.copies_spare sectored effect copied content _
      (List.mem_cons_of_mem _ List.mem_cons_self)
  · rcases List.mem_cons.1 pointer with rfl | last
    · apply Effect.spares_blockWrite sectored shielded.fits_replayed.length_header.le
      rw [List.mem_singleton]
      exact shielded.header_ne_footer
    · exact (other (List.mem_singleton.1 last)).elim

/-- After all block writes of a replay, the footer is the new one. -/
theorem image_footer_replayed (sectored : partition.Sectored) :
    partition.image (content.afterAll
        (journal.replayWrites partition (partition.image content) older newest))
      journal.area.footer.toNat = (journal.replayed newest).footer.encode journal.blockSize := by
  rw [image_after_replayWrites sectored shielded.fits, Function.update_self]

/-- After any of the block writes of a replay, the header is read as before. -/
theorem header_of_part (sectored : partition.Sectored)
    (early : part ⊆ journal.replayWrites partition (partition.image content) older newest) :
    JournalHeader.decode (partition.image (content.afterAll part) journal.area.header.toNat) =
      journal.header := by
  have image : partition.image (content.afterAll part) journal.area.header.toNat =
      if partition.blockWrite journal.area.header.toNat
          ((journal.replayed newest).header.encode journal.blockSize) ∈ part then
        (journal.replayed newest).header.encode journal.blockSize
      else partition.image content journal.area.header.toNat := by
    apply Effect.image_afterAll_of_write sectored shielded.fits_replayed.length_header
    intro effect known other
    rcases List.mem_append.1 (early known) with copied | pointer
    · intro content block isHeader
      obtain rfl := List.mem_singleton.1 isHeader
      exact shielded.copies_spare sectored effect copied content _ List.mem_cons_self
    · rcases List.mem_cons.1 pointer with first | last
      · exact (other first).elim
      · obtain rfl := List.mem_singleton.1 last
        apply Effect.spares_blockWrite sectored shielded.fits_replayed.length_footer.le
        rw [List.mem_singleton]
        exact shielded.header_ne_footer.symm
  rw [image]
  split
  · exact JournalHeader.decode_encode _ _
  · exact congrArg Journal.header shielded.stored.symm

/-- After any of the block writes of a replay, a load finds the replayed handle if the footer was
among them, and the old one otherwise. -/
theorem stored_of_part (sectored : partition.Sectored)
    (early : part ⊆ journal.replayWrites partition (partition.image content) older newest) :
    Journal.stored partition journal.area (partition.image (content.afterAll part)) =
      if journal.footerWrite partition newest ∈ part then journal.replayed newest else journal := by
  have clean : journal.dirty = false := congrArg Journal.dirty shielded.stored
  have size : partition.blockSize = journal.blockSize := shielded.fits.same
  rw [Journal.stored, shielded.header_of_part sectored early,
    shielded.image_footer_of_part sectored early, size]
  split
  · rw [JournalFooter.decode_encode]
    rfl
  · have footer : JournalFooter.decode (partition.image content journal.area.footer.toNat) =
        journal.footer := congrArg Journal.footer shielded.stored.symm
    rw [footer, ← clean]

/-- The new footer differs from the old one. -/
theorem footer_ne :
    partition.image content journal.area.footer.toNat ≠
      (journal.replayed newest).footer.encode journal.blockSize := by
  intro same
  have footer : JournalFooter.decode (partition.image content journal.area.footer.toNat) =
      journal.footer := congrArg Journal.footer shielded.stored.symm
  rw [same, JournalFooter.decode_encode] at footer
  have address : newest.transaction.address = journal.footer.lastFlushed :=
    congrArg JournalFooter.lastFlushed footer
  rw [shielded.pends.newest_address shielded.pending] at address
  exact differs_of_pending shielded.pending address

end Shielded

end Journal

/-- What an operation sent to the device. -/
def Disk.issued (before after : Disk Store) : List Effect :=
  after.device.effects.drop before.device.effects.length

/-- What an operation sent to the device is what it did. -/
theorem Disk.Ran.issued {before after : Disk Store} {trace : Trace}
    (ran : before.Ran after trace) : before.issued after = trace.effects := by
  rw [Disk.issued, ran.device, Store.effects_advance, List.drop_left]

namespace Mount

variable {partition : Partition} {older : List Logged} {newest : Logged} {content : Content}
  {disk : Disk Store}

/-- Whether the journal that is on disk can be loaded and replayed, which leaves all blocks but
those of the pointers as in an image. -/
def Replays (partition : Partition) (area : JournalArea) (image : Image) (disk : Disk Store) :
    Prop :=
  ∀ superblock objectIds, ∃ journal loaded report after,
    Journal.load partition area disk = .ok journal loaded ∧
    replay partition { memory := { journal, superblock, objectIds }, disk := loaded } =
      .ok report after ∧
    ∀ block, block ≠ area.header.toNat → block ≠ area.footer.toNat →
      after.disk.image partition block = image block

variable {journal : Journal} {part : List Effect}

/-- With the new footer on disk the next replay has nothing to do, whatever copies are lost. -/
theorem replays_of_footer
    (shielded : journal.Shielded partition (partition.image content) older newest)
    (lies : partition.LiesOn disk.device.shape) (serves : disk.device.Serves)
    (early : part ⊆ journal.replayWrites partition (partition.image content) older newest)
    (cut : disk.device.content = content.afterAll part)
    (reached : journal.footerWrite partition newest ∈ part) :
    Replays partition journal.area (disk.image partition) disk := by
  intro superblock objectIds
  have stored := shielded.stored_of_part lies.toSectored early
  rw [← cut, if_pos reached] at stored
  obtain ⟨loaded, loads, read⟩ := Journal.exists_load shielded.fits_replayed stored lies serves
  refine ⟨_, loaded, _, _, loads, replay_of_empty shielded.empty_replayed, ?_⟩
  intro block _ _
  exact congrFun (read.image rfl) block

/-- With the old footer on disk the next replay makes all copies again. -/
theorem replays_of_no_footer
    (shielded : journal.Shielded partition (partition.image content) older newest)
    (lies : partition.LiesOn disk.device.shape) (serves : disk.device.Serves)
    (early : part ⊆ journal.replayWrites partition (partition.image content) older newest)
    (cut : disk.device.content = content.afterAll part)
    (lost : journal.footerWrite partition newest ∉ part) :
    Replays partition journal.area (partition.image (content.afterAll
      (journal.replayWrites partition (partition.image content) older newest))) disk := by
  intro superblock objectIds
  have stored := shielded.stored_of_part lies.toSectored early
  rw [← cut, if_neg lost] at stored
  obtain ⟨loaded, loads, read⟩ := Journal.exists_load shielded.fits stored lies serves
  have same : loaded.device.content = disk.device.content := read.content
  obtain ⟨after, replays, _, left, _⟩ := replay_after_part { journal, superblock, objectIds }
    shielded (read.lies lies) (read.serves serves) early (same.trans cut)
  refine ⟨journal, loaded, _, after, loads, replays, ?_⟩
  intro block _ _
  rw [Disk.image, left]

/-- After any of the block writes of a replay, it matters whether the footer on disk is the new
one. -/
theorem replays_after_part
    (shielded : journal.Shielded partition (partition.image content) older newest)
    (lies : partition.LiesOn disk.device.shape) (serves : disk.device.Serves)
    (early : part ⊆ journal.replayWrites partition (partition.image content) older newest)
    (cut : disk.device.content = content.afterAll part) :
    Replays partition journal.area
      (if disk.image partition journal.area.footer.toNat =
          (journal.replayed newest).footer.encode journal.blockSize then
        disk.image partition
      else partition.image (content.afterAll
        (journal.replayWrites partition (partition.image content) older newest))) disk := by
  have footer := shielded.image_footer_of_part lies.toSectored early
  rw [← cut, ← Disk.image] at footer
  by_cases reached : journal.footerWrite partition newest ∈ part
  · rw [if_pos reached] at footer
    rw [if_pos footer]
    exact replays_of_footer shielded lies serves early cut reached
  · rw [if_neg reached] at footer
    rw [if_neg (footer ▸ shielded.footer_ne)]
    exact replays_of_no_footer shielded lies serves early cut reached

variable {area : JournalArea} {fixed : Bitmap} {handle : Journal} {inspection : Inspection}
  {opening opened checked : Disk Store}

/-- What losing writes during a replay comes to. Take a pending journal that was just loaded and
that an inspection finds nothing bad in, with the journal pointers on fixed blocks that are no home
blocks, and replay it on a device that serves all requests. At any moment of the replay, let power
be lost on a device that has kept what was flushed and any part of what was written since then. Then
the journal can be loaded and replayed. If the new footer is not on disk this leaves each block but
those of the pointers as the undisturbed replay does. If it is, each such block stays as power loss
left it. -/
theorem replay_after_reordering (superblock : Superblock) (objectIds : ObjectIds)
    (lies : partition.LiesOn opening.device.shape)
    (loaded : Journal.load partition area opening = .ok journal opened)
    (pending : journal.state = .pending)
    (checks : journal.check partition fixed .check opened = .ok (inspection, handle) checked)
    (clean : inspection.bad = none) (headerFixed : fixed.test area.header.toNat = true)
    (footerFixed : fixed.test area.footer.toNat = true)
    (kept : ∀ logged, journal.Pends partition (checked.image partition) logged →
      ∀ home ∈ logged.flatMap Logged.homes, home ≠ area.header ∧ home ≠ area.footer)
    (serves : checked.device.Serves) :
    ∃ report done,
      replay partition { memory := { journal := handle, superblock, objectIds }, disk := checked } =
        .ok report done ∧
      ∀ moment content,
        ((WriteCache.mk checked.device.content []).takeAll
          ((checked.issued done.disk).take moment)).MayLeave content →
        Replays partition area
          (if partition.image content area.footer.toNat =
              done.disk.image partition area.footer.toNat then
            partition.image content
          else done.disk.image partition)
          (checked.restarted content) := by
  obtain ⟨rfl, rfl, lying, older, newest, shielded⟩ := Journal.shielded_of_check lies loaded
    pending checks clean headerFixed footerFixed kept
  obtain ⟨done, ran, _, left, did⟩ := replay_after_part
    { journal := handle, superblock, objectIds } shielded lying serves (List.nil_subset _) rfl
  refine ⟨_, done, ran, ?_⟩
  intro moment content leaves
  rw [did.issued, Journal.effects_replayTrace] at leaves
  obtain ⟨part, early, rfl⟩ := leaves.exists_part Journal.isWrite_of_mem_replayWrites
  have footer : done.disk.image partition handle.area.footer.toNat =
      (handle.replayed newest).footer.encode handle.blockSize := by
    rw [Disk.image, left]
    exact shielded.image_footer_replayed lying.toSectored
  rw [footer, Disk.image, left]
  exact replays_after_part shielded lying (checked.serves_restarted _) early rfl

/-- The small volume is replayed with three block writes, none of which is stable before the
flush. -/
theorem exists_replayed_sample : ∃ opened checked report done,
    Journal.load Sample.partition Sample.area Sample.disk = .ok Sample.journal opened ∧
    Sample.journal.check Sample.partition Sample.fixed .check opened =
      .ok ({ valid := 1, commitPoint := 3 }, Sample.journal) checked ∧
    checked.device.Serves ∧ checked.image Sample.partition = Sample.disk.image Sample.partition ∧
    Sample.partition.LiesOn checked.device.shape ∧
    Sample.journal.Shielded Sample.partition (checked.image Sample.partition) [] Sample.logged ∧
    replay Sample.partition
        { memory := { journal := Sample.journal, superblock := .fresh 512 8, objectIds := {} }
          disk := checked } = .ok report done ∧
    (WriteCache.mk checked.device.content []).takeAll ((checked.issued done.disk).take 3) =
      { stable := checked.device.content
        volatile := Sample.journal.replayWrites Sample.partition
          (checked.image Sample.partition) [] Sample.logged } ∧
    done.disk.device.content = checked.device.content.afterAll (Sample.journal.replayWrites
      Sample.partition (checked.image Sample.partition) [] Sample.logged) := by
  obtain ⟨opened, checked, loads, checks, serves, same⟩ := Sample.exists_checked
  obtain ⟨_, _, lies, older, newest, shielded⟩ := Journal.shielded_of_check Sample.lies loads rfl
    checks rfl (by decide) (by decide) (Sample.homes_kept same)
  have pends := shielded.pends
  rw [same] at pends
  have all : older ++ [newest] = [] ++ [Sample.logged] := pends.unique Sample.pends
  obtain ⟨rfl, rfl⟩ := List.append_singleton_inj.1 all
  obtain ⟨done, replays, _, left, did⟩ := replay_after_part
    { journal := Sample.journal, superblock := .fresh 512 8, objectIds := {} } shielded lies serves
    (List.nil_subset _) rfl
  refine ⟨opened, checked, _, done, loads, checks, serves, same, lies, shielded, replays, ?_, left⟩
  have three : (Sample.journal.replayWrites Sample.partition (checked.image Sample.partition) []
      Sample.logged).length = 3 := Journal.length_replayWrites
  rw [did.issued, Journal.effects_replayTrace]
  exact (congrArg (WriteCache.takeAll _) (List.take_left' three)).trans
    (WriteCache.takeAll_of_writes Journal.isWrite_of_mem_replayWrites)

/-- On the small volume nothing is lost when power is lost before the flush and no write
survives. -/
theorem replay_after_reordering_sample : ∃ checked report done,
    replay Sample.partition
        { memory := { journal := Sample.journal, superblock := .fresh 512 8, objectIds := {} }
          disk := checked } = .ok report done ∧
    Replays Sample.partition Sample.area (done.disk.image Sample.partition)
      (checked.restarted checked.device.content) := by
  obtain ⟨opened, checked, _, _, loads, checks, serves, same, _, shielded, ran, held, left⟩ :=
    exists_replayed_sample
  obtain ⟨report, done, replays, outcome⟩ := replay_after_reordering (.fresh 512 8) {} Sample.lies
    loads rfl checks rfl (by decide) (by decide) (Sample.homes_kept same) serves
  obtain ⟨rfl, rfl⟩ := Action.of_pure_ok (replays.symm.trans ran)
  have stable : ((WriteCache.mk checked.device.content []).takeAll
      ((checked.issued done.disk).take 3)).MayLeave checked.device.content := by
    rw [held]
    exact ⟨[], List.nil_subset _, rfl⟩
  have lost := outcome 3 checked.device.content stable
  have differs : Sample.partition.image checked.device.content Sample.area.footer.toNat ≠
      done.disk.image Sample.partition Sample.area.footer.toNat := by
    rw [Disk.image, left]
    exact fun same => shielded.footer_ne
      (same.trans (shielded.image_footer_replayed Sample.lies.toSectored))
  rw [if_neg differs] at lost
  exact ⟨checked, report, done, replays, lost⟩

/-- Not every loss of writes during a replay is harmless: a journal that an inspection accepts,
whose pointers lie on fixed blocks that are no home blocks, is replayed on a device that serves all
requests, but when power is lost before the flush and some of the block writes survive, the next
replay leaves a home block with another content. -/
theorem reordering_not_harmless : ∃ opened checked report done,
    Journal.load Sample.partition Sample.area Sample.disk = .ok Sample.journal opened ∧
    Sample.journal.state = .pending ∧
    Sample.journal.check Sample.partition Sample.fixed .check opened =
      .ok ({ valid := 1, commitPoint := 3 }, Sample.journal) checked ∧
    Sample.fixed.test Sample.area.header.toNat = true ∧
    Sample.fixed.test Sample.area.footer.toNat = true ∧
    (∀ logged, Sample.journal.Pends Sample.partition (checked.image Sample.partition) logged →
      ∀ home ∈ logged.flatMap Logged.homes,
        home ≠ Sample.area.header ∧ home ≠ Sample.area.footer) ∧
    checked.device.Serves ∧
    replay Sample.partition
        { memory := { journal := Sample.journal, superblock := .fresh 512 8, objectIds := {} }
          disk := checked } = .ok report done ∧
    ∃ moment kept, kept.Sublist ((WriteCache.mk checked.device.content []).takeAll
        ((checked.issued done.disk).take moment)).volatile ∧
      ∃ reopened loaded later again,
        Journal.load Sample.partition Sample.area
          (checked.restarted (checked.device.content.afterAll kept)) = .ok reopened loaded ∧
        replay Sample.partition
            { memory := { journal := reopened, superblock := .fresh 512 8, objectIds := {} }
              disk := loaded } = .ok later again ∧
        ∃ home ∈ [Sample.logged].flatMap Logged.homes,
          again.disk.image Sample.partition home.toNat ≠
            done.disk.image Sample.partition home.toNat := by
  obtain ⟨opened, checked, report, done, loads, checks, serves, same, lies, shielded, replays, held,
    left⟩ := exists_replayed_sample
  refine ⟨opened, checked, report, done, loads, rfl, checks, by decide, by decide,
    Sample.homes_kept same, serves, replays, 3,
    (Sample.journal.replayed Sample.logged).writes Sample.partition, ?_, ?_⟩
  · rw [held]
    exact List.sublist_append_right _ _
  · have lying : Sample.partition.LiesOn (checked.restarted (checked.device.content.afterAll
        ((Sample.journal.replayed Sample.logged).writes Sample.partition))).device.shape := lies
    obtain ⟨reopened, loaded, later, again, reloads, replays, outcome⟩ := replays_of_footer
      shielded lying (checked.serves_restarted _) (List.subset_append_right _ _) rfl
      (List.mem_cons_of_mem _ List.mem_cons_self) (.fresh 512 8) {}
    refine ⟨reopened, loaded, later, again, reloads, replays, 6, by decide, ?_⟩
    have sectored : Sample.partition.Sectored := lies.toSectored
    have lost : again.disk.image Sample.partition 6 = Sample.disk.image Sample.partition 6 := by
      rw [outcome 6 (by decide) (by decide)]
      refine (congrFun (Journal.image_after_writes sectored shielded.fits_replayed) 6).trans ?_
      rw [Function.update_of_ne (by decide), Function.update_of_ne (by decide)]
      exact congrFun same 6
    have home : done.disk.image Sample.partition 6 = Sample.disk.image Sample.partition 5 := by
      rw [Disk.image, left]
      refine (congrFun (Journal.image_after_replayWrites sectored shielded.fits) 6).trans ?_
      rw [Function.update_of_ne (by decide), Function.update_of_ne (by decide)]
      exact congrFun same 5
    have differs : Sample.disk.image Sample.partition 6 ≠ Sample.disk.image Sample.partition 5 := by
      decide +kernel
    intro restored
    exact differs (lost.symm.trans (restored.trans home))

end Mount

end JournaledVolume
