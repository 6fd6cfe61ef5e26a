import JournaledVolume.Proofs.Store

/-!
# Requests for blocks of a store

How the requests that operations are made of end on a store: reading a block, writing a block,
flushing, and reporting an event. Each is answered in full or breaks off at a fault; the lemmas on
`Ran` and `Broke` put what the parts of an operation did together.
-/

namespace JournaledVolume

open JournaledVolume.Action

namespace Trace

variable {first second third : Trace}

/-- The requests of two traces add up. -/
@[simp]
theorem requests_append : (first ++ second).requests = first.requests + second.requests := rfl

/-- The effects of two traces follow each other. -/
@[simp]
theorem effects_append : (first ++ second).effects = first.effects ++ second.effects := rfl

/-- The reports of two traces follow each other. -/
@[simp]
theorem copies_append : (first ++ second).copies = first.copies ++ second.copies := rfl

/-- Reads have no effect. -/
@[simp]
theorem effects_reads (count : Nat) : (reads count).effects = [] := rfl

/-- Reads report no copies. -/
@[simp]
theorem copies_reads (count : Nat) : (reads count).copies = [] := rfl

/-- Reads after reads. -/
theorem reads_append (count more : Nat) : reads count ++ reads more = reads (count + more) := rfl

end Trace

namespace Store

variable {store : Store} {requests more : Nat} {effects later : List Effect}

/-- Calls after calls. -/
theorem advance_advance : (store.advance requests effects).advance more later =
    store.advance (requests + more) (effects ++ later) := by
  simp only [advance, Nat.add_assoc, List.append_assoc]

/-- The content follows the effects. -/
@[simp]
theorem content_advance :
    (store.advance requests effects).content = store.content.afterAll effects :=
  Content.afterAll_append

/-- Calls leave the shape of a device. -/
@[simp]
theorem shape_advance : (store.advance requests effects).shape = store.shape := rfl

/-- Calls leave whether a device takes writes. -/
@[simp]
theorem readOnly_advance : (store.advance requests effects).readOnly = store.readOnly := rfl

/-- Calls leave the faults to come. -/
@[simp]
theorem plan_advance : (store.advance requests effects).plan = store.plan := rfl

/-- Calls are counted. -/
@[simp]
theorem calls_advance : (store.advance requests effects).calls = store.calls + requests := rfl

/-- The effects come behind those before. -/
@[simp]
theorem effects_advance : (store.advance requests effects).effects = store.effects ++ effects := rfl

/-- A device that answers every request goes on to do so. -/
theorem Sound.advance (sound : store.Sound) : (store.advance requests effects).Sound :=
  ⟨fun number later => sound.answers number (Nat.le_of_add_right_le later)⟩

/-- A device that serves every request goes on to do so. -/
theorem Serves.advance (serves : store.Serves) : (store.advance requests effects).Serves :=
  ⟨serves.toSound.advance, serves.writable⟩

end Store

namespace Torn

variable {reached : Nat} {whole part more : List Effect}

/-- What breaks off early breaks off a longer list. -/
theorem append_right (torn : Torn reached whole part) : Torn reached (whole ++ more) part := by
  induction torn with
  | nothing whole => exact .nothing _
  | last effect rest => exact .last _ _
  | step effect _ ih => exact .step _ ih

/-- What breaks off after other effects breaks off the longer list. -/
theorem append_left (torn : Torn reached whole part) :
    Torn reached (more ++ whole) (more ++ part) := by
  induction more with
  | nil => exact torn
  | cons effect more ih => exact .step _ ih

end Torn

namespace Disk

variable {before between after : Disk Store} {first second : Trace} {whole more : List Effect}
  {partition : Partition}

/-- An operation that asks for nothing and reports no copy. -/
theorem Ran.nothing (same : after.device = before.device) (silent : after.copies = before.copies) :
    before.Ran after {} := by
  refine ⟨?_, fun number none => absurd none (Nat.not_lt_zero _), by simp [silent]⟩
  simp only [same, Store.advance, Nat.add_zero, List.append_nil]

/-- Reporting what is no copy leaves what an operation did. -/
theorem Ran.report {event : Event} (ran : before.Ran after first) (silent : event.copy? = none) :
    before.Ran { after with log := after.log.push event } first := by
  refine ⟨ran.device, ran.unharmed, ?_⟩
  rw [← ran.copies]
  simp [Disk.copies, silent]

/-- Reporting an event asks nothing of the device. -/
theorem ran_report (disk : Disk Store) (event : Event) :
    disk.Ran { disk with log := disk.log.push event } { copies := event.copy?.toList } := by
  refine ⟨?_, fun number none => absurd none (Nat.not_lt_zero _), ?_⟩
  · simp only [Store.advance, Nat.add_zero, List.append_nil]
  · cases copied : event.copy? with
    | none => simp [Disk.copies, copied]
    | some copy => simp [Disk.copies, copied]

/-- One operation after another. -/
theorem Ran.trans (left : before.Ran between first) (right : between.Ran after second) :
    before.Ran after (first ++ second) := by
  refine ⟨?_, fun number within => ?_, ?_⟩
  · rw [right.device, left.device, Store.advance_advance]
    rfl
  · by_cases early : number < first.requests
    · exact left.unharmed number early
    · have later := right.unharmed (number - first.requests) (by
        simp only [Trace.requests_append] at within
        omega)
      rw [left.device, Store.plan_advance, Store.calls_advance] at later
      rwa [show before.device.calls + first.requests + (number - first.requests) =
        before.device.calls + number by omega] at later
  · rw [right.copies, left.copies, List.append_assoc, Trace.copies_append]

/-- What the device holds after an operation. -/
theorem Ran.content (ran : before.Ran after first) :
    after.device.content = before.device.content.afterAll first.effects := by
  rw [ran.device, Store.content_advance]

/-- An operation leaves the units and the capacity. -/
theorem Ran.shape (ran : before.Ran after first) : after.device.shape = before.device.shape := by
  rw [ran.device, Store.shape_advance]

/-- A partition that lies on a device does so after an operation. -/
theorem Ran.lies (ran : before.Ran after first) (lies : partition.LiesOn before.device.shape) :
    partition.LiesOn after.device.shape := by
  rw [ran.shape]
  exact lies

/-- A device that takes writes does so after an operation. -/
theorem Ran.writable (ran : before.Ran after first) (writable : before.device.readOnly = false) :
    after.device.readOnly = false := by
  rw [ran.device, Store.readOnly_advance]
  exact writable

/-- A device that answers every request does so after an operation. -/
theorem Ran.sound (ran : before.Ran after first) (sound : before.device.Sound) :
    after.device.Sound := by
  rw [ran.device]
  exact sound.advance

/-- A device that serves every request does so after an operation. -/
theorem Ran.serves (ran : before.Ran after first) (serves : before.device.Serves) :
    after.device.Serves := by
  rw [ran.device]
  exact serves.advance

/-- An operation that only reads leaves what the blocks hold. -/
theorem Ran.image (ran : before.Ran after first) (quiet : first.effects = []) :
    after.image partition = before.image partition := by
  rw [Disk.image, ran.content, quiet, Content.afterAll_nil, Disk.image]

/-- Breaking off does not depend on what would have come after. -/
theorem Broke.append (broke : before.Broke after whole) : before.Broke after (whole ++ more) := by
  obtain ⟨requests, fault, part, device, unharmed, planned, torn⟩ := broke
  exact ⟨requests, fault, part, device, unharmed, planned, torn.append_right⟩

/-- A read that breaks off leaves the device as anything else that breaks off at once. -/
theorem Broke.of_nil (broke : before.Broke after []) : before.Broke after whole :=
  broke.append

/-- Breaking off after another operation. -/
theorem Ran.broke (ran : before.Ran between first) (broke : between.Broke after whole) :
    before.Broke after (first.effects ++ whole) := by
  obtain ⟨requests, fault, part, device, unharmed, planned, torn⟩ := broke
  refine ⟨first.requests + requests, fault, first.effects ++ part, ?_, ?_, ?_, torn.append_left⟩
  · rw [device, ran.device, Store.advance_advance, Nat.add_assoc]
  · intro number within
    by_cases early : number < first.requests
    · exact ran.unharmed number early
    · have later := unharmed (number - first.requests) (by omega)
      rw [ran.device, Store.plan_advance, Store.calls_advance] at later
      rwa [show before.device.calls + first.requests + (number - first.requests) =
        before.device.calls + number by omega] at later
  · rw [ran.device, Store.plan_advance, Store.calls_advance] at planned
    rwa [← Nat.add_assoc]

/-- A device that answers every request lets nothing break off. -/
theorem Broke.not_sound (broke : before.Broke after whole) : ¬ before.device.Sound := by
  obtain ⟨requests, fault, _, _, _, planned, _⟩ := broke
  intro sound
  rw [sound.answers _ (Nat.le_add_right _ _)] at planned
  exact nomatch planned

/-- The log does not matter for what an operation asked of the device. -/
theorem Broke.log (broke : before.Broke after whole) (log : Array Event) :
    before.Broke { after with log } whole := broke

end Disk

namespace Store

variable {first between last : Store} {effects more : List Effect}

/-- Whether a device changed by effects alone, whatever was asked of it. -/
def Added (first last : Store) (effects : List Effect) : Prop :=
  ∃ requests, last = first.advance requests effects

/-- Nothing has reached a device that was asked for nothing. -/
theorem Added.nothing (store : Store) : store.Added store [] :=
  ⟨0, by simp only [advance, Nat.add_zero, List.append_nil]⟩

/-- Effects after effects. -/
theorem Added.trans (early : first.Added between effects) (late : between.Added last more) :
    first.Added last (effects ++ more) := by
  obtain ⟨requests, rfl⟩ := early
  obtain ⟨further, rfl⟩ := late
  exact ⟨requests + further, advance_advance⟩

/-- Effects leave the units and the capacity. -/
theorem Added.shape (added : first.Added last effects) : last.shape = first.shape := by
  obtain ⟨requests, rfl⟩ := added
  rfl

/-- The content follows the effects. -/
theorem Added.content (added : first.Added last effects) :
    last.content = first.content.afterAll effects := by
  obtain ⟨requests, rfl⟩ := added
  exact content_advance

/-- Whether a device changed by a part of effects that broke off, whatever was asked of it. -/
def Cut (first last : Store) (whole : List Effect) : Prop :=
  ∃ reached part, Torn reached whole part ∧ first.Added last part

/-- What leaves a device breaks off anything. -/
theorem Added.cut (added : first.Added last []) : first.Cut last effects :=
  ⟨0, [], .nothing _, added⟩

/-- Breaking off does not depend on what would have come after. -/
theorem Cut.append (cut : first.Cut last effects) : first.Cut last (effects ++ more) := by
  obtain ⟨reached, part, torn, added⟩ := cut
  exact ⟨reached, part, torn.append_right, added⟩

/-- Breaking off after other effects. -/
theorem Added.cut_append (early : first.Added between effects) (cut : between.Cut last more) :
    first.Cut last (effects ++ more) := by
  obtain ⟨reached, part, torn, late⟩ := cut
  exact ⟨reached, effects ++ part, torn.append_left, early.trans late⟩

/-- What breaks off leaves the units and the capacity. -/
theorem Cut.shape (cut : first.Cut last effects) : last.shape = first.shape := by
  obtain ⟨_, _, _, added⟩ := cut
  exact added.shape

end Store

namespace Disk

variable {disk after : Disk Store} {trace : Trace} {whole : List Effect}

/-- An operation that had every request answered changed the device by its effects. -/
theorem Ran.added (ran : disk.Ran after trace) : disk.device.Added after.device trace.effects :=
  ⟨trace.requests, ran.device⟩

/-- An operation that broke off at a fault changed the device by a part of its effects. -/
theorem Broke.cut (broke : disk.Broke after whole) : disk.device.Cut after.device whole := by
  obtain ⟨requests, fault, part, device, _, _, torn⟩ := broke
  exact ⟨fault.reached, part, torn, _, device⟩

end Disk

namespace Store

variable {store after : Store} {first count size : Nat} {effect : Option Effect}
  {whole : List Effect} {data : Bytes}

/-- A single call that met a fault. -/
def Struck (store after : Store) (whole : List Effect) : Prop :=
  ∃ fault part, store.plan store.calls = some fault ∧ after = store.advance 1 part ∧
    Torn fault.reached whole part

/-- A transfer within the capacity is answered in full or meets a fault. -/
theorem ends_transfer (inside : first + count ≤ store.sectorCount) :
    Ends (transfer first count size effect) store
      (fun moved after =>
        (moved = size ∧ store.plan store.calls = none ∧ after = store.advance 1 effect.toList) ∨
        (moved ≤ size - 1 ∧ store.Struck after effect.toList))
      fun _ after => store.Struck after effect.toList := by
  have within : ¬ store.sectorCount < first + count := by omega
  have torn (fault : Fault) :
      Torn fault.reached effect.toList (effect.map (Effect.cut fault.reached)).toList := by
    cases effect with
    | none => exact .nothing []
    | some effect => exact .last effect []
  unfold Ends transfer
  rw [if_neg within]
  cases planned : store.plan store.calls with
  | none => exact .inl ⟨rfl, rfl, rfl⟩
  | some fault =>
    have struck := torn fault
    cases answered : fault.answer size with
    | error error =>
      simp only [answered]
      exact ⟨fault, _, planned, rfl, struck⟩
    | ok moved =>
      simp only [answered]
      refine .inr ⟨?_, fault, _, planned, rfl, struck⟩
      cases short : fault.short with
      | none => simp [Fault.answer, short] at answered
      | some count =>
        simp only [Fault.answer, short, Except.ok.injEq] at answered
        omega

/-- A transfer beyond the capacity fails. -/
theorem ends_transfer_of_outside (outside : store.sectorCount < first + count) :
    Ends (transfer first count size effect) store (fun _ _ => False)
      fun _ after => after = store.advance 1 [] :=
  ends_of_error (if_pos outside) rfl

/-- A read within the capacity delivers what the device holds, or meets a fault. -/
theorem ends_readSectors (store : Store) (inside : first + count ≤ store.sectorCount) :
    Ends (BlockDevice.readSectors first count : Action Store Bytes) store
      (fun data after =>
        (data = store.content.slice (first * store.shape.sectorSize)
            (count * store.shape.sectorSize) ∧
          store.plan store.calls = none ∧ after = store.advance 1 []) ∨
        (data.length ≤ count * store.shape.sectorSize - 1 ∧ store.Struck after []))
      fun _ after => store.Struck after [] := by
  refine ends_get ((ends_transfer inside).andThen ?_)
  rintro moved after (⟨rfl, sound, rfl⟩ | ⟨short, struck⟩)
  · exact ends_pure (.inl ⟨List.take_of_length_le (by simp), sound, rfl⟩)
  · refine ends_pure (.inr ⟨?_, struck⟩)
    rw [List.length_take, Content.length_slice]
    omega

/-- A write of whole sectors within the capacity takes all bytes, or meets a fault. -/
theorem ends_writeSectors (store : Store)
    (inside : first + data.length / store.shape.sectorSize ≤ store.sectorCount) :
    Ends (BlockDevice.writeSectors first data : Action Store Nat) store
      (fun moved after =>
        (moved = data.length ∧ store.plan store.calls = none ∧
          after = store.advance 1 [.write (first * store.shape.sectorSize) data]) ∨
        (moved ≤ data.length - 1 ∧
          store.Struck after [.write (first * store.shape.sectorSize) data]))
      fun _ after => store.Struck after [.write (first * store.shape.sectorSize) data] :=
  ends_transfer inside

/-- A read beyond the capacity fails. -/
theorem ends_readSectors_of_outside (store : Store) (outside : store.sectorCount < first + count) :
    Ends (BlockDevice.readSectors first count : Action Store Bytes) store (fun _ _ => False)
      fun _ after => after = store.advance 1 [] :=
  ends_get (Ends.stop (ends_transfer_of_outside outside))

/-- A write beyond the capacity fails. -/
theorem ends_writeSectors_of_outside (store : Store)
    (outside : store.sectorCount < first + data.length / store.shape.sectorSize) :
    Ends (BlockDevice.writeSectors first data : Action Store Nat) store (fun _ _ => False)
      fun _ after => after = store.advance 1 [] :=
  ends_transfer_of_outside outside

end Store

namespace Partition

variable {partition : Partition} {shape : Shape} {block : Nat}

/-- Whether a partition is measured in the units of a device. -/
structure MeasuredBy (partition : Partition) (shape : Shape) : Prop
    extends partition.Sectored where
  /-- Blocks are those of the device. -/
  blockSize_eq : partition.blockSize = shape.blockSize
  /-- Sectors are those of the device. -/
  sectorSize_eq : partition.sectorSize = shape.sectorSize

/-- Whether a partition has a block and the device has its sectors. -/
structure Reaches (partition : Partition) (shape : Shape) (block : Nat) : Prop where
  /-- The block lies in the partition. -/
  inside : block < partition.length
  /-- Its sectors lie within the capacity. -/
  within : partition.sectorOf block + partition.sectorsPerBlock ≤
    shape.totalBlocks * shape.blockSize / shape.sectorSize

/-- A block that a partition does not refuse lies in it. -/
theorem inside_of_checkRange (accepted : partition.checkRange block 1 = .ok ()) :
    block < partition.length := by
  by_contra outside
  rw [checkRange, if_neg (show ¬ block + 1 ≤ partition.length from outside)] at accepted
  exact nomatch accepted

/-- A partition is measured in the units of every device of the same shape. -/
theorem MeasuredBy.of_shape {other : Shape} (measured : partition.MeasuredBy shape)
    (same : other = shape) : partition.MeasuredBy other := by
  rw [same]
  exact measured

/-- A partition that lies on a device has its units. -/
theorem LiesOn.measuredBy (lies : partition.LiesOn shape) : partition.MeasuredBy shape :=
  ⟨lies.toSectored, lies.blockSize_eq, lies.sectorSize_eq⟩

/-- A block of a partition lies within the device. -/
theorem LiesOn.block_inside (lies : partition.LiesOn shape) (inside : block < partition.length) :
    partition.sectorOf block + partition.sectorsPerBlock ≤
      shape.totalBlocks * shape.blockSize / shape.sectorSize := by
  have ends : (block + 1) * partition.blockSize ≤ partition.size :=
    le_trans (Nat.mul_le_mul_right _ inside) (Nat.div_mul_le_self _ _)
  have bytes : (partition.sectorOf block + partition.sectorsPerBlock) * partition.sectorSize ≤
      shape.totalBlocks * shape.blockSize := by
    rw [Nat.add_mul, sectorsPerBlock_mul lies.toSectored]
    calc
      partition.sectorOf block * partition.sectorSize + partition.blockSize
        ≤ block * partition.blockSize + partition.offset + partition.blockSize :=
          Nat.add_le_add_right (Nat.div_mul_le_self _ _) _
      _ = partition.offset + (block + 1) * partition.blockSize := by ring
      _ ≤ partition.offset + partition.size := Nat.add_le_add_left ends _
      _ ≤ shape.totalBlocks * shape.blockSize := lies.inside
  rw [← lies.sectorSize_eq]
  exact (Nat.le_div_iff_mul_le lies.sector_pos).2 bytes

/-- A partition that lies on a device reaches its blocks. -/
theorem LiesOn.reaches (lies : partition.LiesOn shape) (inside : block < partition.length) :
    partition.Reaches shape block := ⟨inside, lies.block_inside inside⟩

/-- A partition with blocks has blocks that hold something. -/
theorem blockSize_pos (inside : block < partition.length) : 0 < partition.blockSize := by
  rcases Nat.eq_zero_or_pos partition.blockSize with zero | positive
  · simp [length, zero] at inside
  · exact positive

end Partition

namespace Disk

variable {disk after : Disk Store} {whole : List Effect}

/-- A single call that meets a fault breaks an operation off. -/
theorem Broke.of_struck (struck : disk.device.Struck after.device whole) :
    disk.Broke after whole := by
  obtain ⟨fault, part, planned, device, torn⟩ := struck
  exact ⟨0, fault, part, device, fun number none => absurd none (Nat.not_lt_zero _), planned, torn⟩

/-- A single call that is answered in full. -/
theorem Ran.single {effects : List Effect} (sound : disk.device.plan disk.device.calls = none)
    (device : after.device = disk.device.advance 1 effects) (silent : after.copies = disk.copies) :
    disk.Ran after { requests := 1, effects } := by
  refine ⟨device, fun number first => ?_, by simp [silent]⟩
  rwa [Nat.lt_one_iff.1 first]

end Disk

namespace DiskM

variable {partition : Partition} {disk : Disk Store} {block : Nat} {data : Bytes}

/-- A device acts for a block as it acts by itself. -/
theorem ends_transfer {α : Type} {act : Action Store α} {returns : α → Disk Store → Prop}
    {fails : Error → Disk Store → Prop}
    (ends : Ends act disk.device (fun value device => returns value { disk with device })
      fun error device => fails (error.withBlock block) { disk with device }) :
    Ends (transfer block act) disk returns fails := by
  cases ran : act disk.device with
  | ok value device =>
    exact ends_of_ok (by simp only [transfer, onDevice, ran]) (ends.of_ok ran)
  | error error device =>
    exact ends_of_error (by simp only [transfer, onDevice, ran]) (ends.of_error ran)

/-- Reporting an event asks nothing of the device. -/
theorem ends_emit {event : Event} {fails : Error → Disk Store → Prop} :
    Ends (emit event) disk (fun _ after => disk.Ran after { copies := event.copy?.toList })
      fails := disk.ran_report event

/-- What follows a report starts with the longer log. -/
theorem ends_emit_andThen {β : Type} {event : Event} {next : Unit → DiskM Store β}
    {last : β → Disk Store → Prop} {stopped : Error → Disk Store → Prop}
    (ends : Ends (next ()) { disk with log := disk.log.push event } last stopped) :
    Ends (emit event >>= next) disk last stopped := ends

/-- The device delivers a block of the partition as it holds it, or meets a fault. -/
theorem ends_transferRead (disk : Disk Store) (measured : partition.MeasuredBy disk.device.shape)
    (reaches : partition.Reaches disk.device.shape block) :
    Ends (transfer block
        (BlockDevice.readSectors (partition.sectorOf block) (1 * partition.sectorsPerBlock))) disk
      (fun data after =>
        (data = disk.image partition block ∧ disk.Ran after (.reads 1)) ∨
        (data.length < partition.blockSize ∧ disk.Broke after []))
      fun _ after => disk.Broke after [] := by
  have within : partition.sectorOf block + 1 * partition.sectorsPerBlock ≤
      disk.device.sectorCount := by
    rw [Nat.one_mul]
    exact reaches.within
  have size : 1 * partition.sectorsPerBlock * disk.device.shape.sectorSize =
      partition.blockSize := by
    rw [Nat.one_mul, ← measured.sectorSize_eq, Partition.sectorsPerBlock_mul measured.toSectored]
  have positive := Partition.blockSize_pos reaches.inside
  have answers := Store.ends_readSectors disk.device within
  rw [size, ← measured.sectorSize_eq] at answers
  refine ends_transfer (answers.mono ?_ fun _ _ struck => .of_struck struck)
  rintro data device (⟨rfl, sound, rfl⟩ | ⟨short, struck⟩)
  · exact .inl ⟨rfl, .single sound rfl rfl⟩
  · exact .inr ⟨Nat.lt_of_le_pred positive short, .of_struck struck⟩

/-- A block that the partition reaches is read as the disk holds it, or the read breaks off. -/
theorem ends_readBlock_of_reaches (measured : partition.MeasuredBy disk.device.shape)
    (reaches : partition.Reaches disk.device.shape block) :
    Ends (readBlock partition block) disk
      (fun content after => content = disk.image partition block ∧ disk.Ran after (.reads 1))
      fun _ after => disk.Broke after [] := by
  have range : partition.checkRange block 1 = .ok () := if_pos reaches.inside
  unfold readBlock readBlocks
  rw [range]
  refine ends_ofExcept (fun _ _ => ends_modify ?_) nofun
  refine (ends_transferRead { disk with reads := disk.reads + 1 } measured reaches).andThen ?_
  rintro data after (⟨rfl, ran⟩ | ⟨short, broke⟩)
  · have full : (partition.image disk.device.content block).length = partition.blockSize :=
      Partition.length_image _ _
    simp only [Disk.image, full, Nat.one_mul, lt_irrefl, if_false]
    exact ends_pure ⟨List.take_of_length_le full.le, ran.device, ran.unharmed, ran.copies⟩
  · rw [if_pos (by omega)]
    exact ends_throw broke

/-- A block of the partition is read as the disk holds it, or the read breaks off. -/
theorem ends_readBlock (lies : partition.LiesOn disk.device.shape)
    (inside : block < partition.length) :
    Ends (readBlock partition block) disk
      (fun content after => content = disk.image partition block ∧ disk.Ran after (.reads 1))
      fun _ after => disk.Broke after [] :=
  ends_readBlock_of_reaches lies.measuredBy (lies.reaches inside)

/-- A block is read as the disk holds it, unless it is out of the partition's reach or a fault
comes. -/
theorem ends_readBlock_measured (measured : partition.MeasuredBy disk.device.shape)
    (block : Nat) :
    Ends (readBlock partition block) disk
      (fun content after => partition.Reaches disk.device.shape block ∧
        content = disk.image partition block ∧ disk.Ran after (.reads 1))
      fun _ _ => ¬ (partition.Reaches disk.device.shape block ∧ disk.device.Sound) := by
  by_cases reaches : partition.Reaches disk.device.shape block
  · refine (ends_readBlock_of_reaches measured reaches).mono ?_ ?_
    · exact fun _ _ read => ⟨reaches, read⟩
    · exact fun _ _ broke sound => broke.not_sound sound.2
  · have fails (error : Error) (after : Disk Store) :
        ¬ (partition.Reaches disk.device.shape block ∧ disk.device.Sound) :=
      fun sound => reaches sound.1
    unfold readBlock readBlocks
    refine ends_ofExcept (fun _ accepted => ends_modify ?_) fun error _ => fails error disk
    have outside : disk.device.sectorCount <
        partition.sectorOf block + 1 * partition.sectorsPerBlock := by
      by_contra within
      rw [Nat.one_mul] at within
      exact reaches ⟨Partition.inside_of_checkRange accepted, Nat.le_of_not_lt within⟩
    refine Ends.stop (ends_transfer ?_)
    refine (Store.ends_readSectors_of_outside disk.device outside).mono (fun _ _ never => never) ?_
    exact fun error device _ => fails error { disk with device }

/-- The device takes a block of the partition, or meets a fault. -/
theorem ends_transferWrite (disk : Disk Store) (measured : partition.MeasuredBy disk.device.shape)
    (reaches : partition.Reaches disk.device.shape block)
    (full : data.length = partition.blockSize) :
    Ends (transfer block (BlockDevice.writeSectors (partition.sectorOf block) data)) disk
      (fun taken after =>
        (taken = partition.blockSize ∧
          disk.Ran after { requests := 1, effects := [partition.blockWrite block data] }) ∨
        (taken < partition.blockSize ∧ disk.Broke after [partition.blockWrite block data]))
      fun _ after => disk.Broke after [partition.blockWrite block data] := by
  have within : partition.sectorOf block + data.length / disk.device.shape.sectorSize ≤
      disk.device.sectorCount := by
    rw [full, ← measured.sectorSize_eq]
    exact reaches.within
  have positive := Partition.blockSize_pos reaches.inside
  have answers := Store.ends_writeSectors disk.device within
  rw [full, ← measured.sectorSize_eq] at answers
  refine ends_transfer (answers.mono ?_ fun _ _ struck => .of_struck struck)
  rintro taken device (⟨rfl, sound, rfl⟩ | ⟨short, struck⟩)
  · exact .inl ⟨rfl, .single sound rfl rfl⟩
  · exact .inr ⟨Nat.lt_of_le_pred positive short, .of_struck struck⟩

/-- A block that the partition reaches is written, or the write breaks off. -/
theorem ends_writeBlock_of_reaches (measured : partition.MeasuredBy disk.device.shape)
    (writable : disk.device.readOnly = false)
    (reaches : partition.Reaches disk.device.shape block)
    (full : data.length = partition.blockSize) :
    Ends (writeBlock partition block data) disk
      (fun _ after =>
        disk.Ran after { requests := 1, effects := [partition.blockWrite block data] })
      fun _ after => disk.Broke after [partition.blockWrite block data] := by
  have range : partition.checkRange block 1 = .ok () := if_pos reaches.inside
  have enough : ¬ data.length < 1 * partition.blockSize := by omega
  have takes : ¬ BlockDevice.readOnly disk.device = true := by
    rw [show BlockDevice.readOnly disk.device = false from writable]
    exact Bool.false_ne_true
  have whole : data.take (1 * partition.blockSize) = data := List.take_of_length_le (by omega)
  unfold writeBlock writeBlocks
  refine Ends.andThen ?_ fun _ _ ran => ends_pure ran
  simp only [if_neg enough, whole, range]
  refine ends_get ?_
  rw [if_neg takes]
  refine ends_ofExcept (fun _ _ => ends_modify ?_) nofun
  have counted := ends_transferWrite { disk with writes := disk.writes + 1 } measured reaches full
  refine counted.andThen ?_
  rintro taken after (⟨rfl, ran⟩ | ⟨short, broke⟩)
  · rw [Nat.one_mul, if_neg (lt_irrefl _)]
    exact ends_pure ⟨ran.device, ran.unharmed, ran.copies⟩
  · rw [if_pos (by omega)]
    exact ends_throw broke

/-- A block of the partition is written, or the write breaks off. -/
theorem ends_writeBlock (lies : partition.LiesOn disk.device.shape)
    (writable : disk.device.readOnly = false) (inside : block < partition.length)
    (full : data.length = partition.blockSize) :
    Ends (writeBlock partition block data) disk
      (fun _ after =>
        disk.Ran after { requests := 1, effects := [partition.blockWrite block data] })
      fun _ after => disk.Broke after [partition.blockWrite block data] :=
  ends_writeBlock_of_reaches lies.measuredBy writable (lies.reaches inside) full

/-- A block is written and reached by the partition, or a part of it has reached the
device. -/
theorem ends_writeBlock_measured (measured : partition.MeasuredBy disk.device.shape)
    (block : Nat) (full : data.length = partition.blockSize) :
    Ends (writeBlock partition block data) disk
      (fun _ after => partition.Reaches disk.device.shape block ∧
        disk.Ran after { requests := 1, effects := [partition.blockWrite block data] })
      fun _ after => disk.device.Cut after.device [partition.blockWrite block data] := by
  by_cases ready : disk.device.readOnly = false ∧ partition.Reaches disk.device.shape block
  · refine (ends_writeBlock_of_reaches measured ready.1 ready.2 full).mono ?_ ?_
    · exact fun _ _ ran => ⟨ready.2, ran⟩
    · exact fun _ _ broke => broke.cut
  · have enough : ¬ data.length < 1 * partition.blockSize := by omega
    have whole : data.take (1 * partition.blockSize) = data := List.take_of_length_le (by omega)
    have untouched : disk.device.Cut disk.device [partition.blockWrite block data] :=
      (Store.Added.nothing _).cut
    unfold writeBlock writeBlocks
    refine Ends.stop ?_
    dsimp only
    rw [if_neg enough, whole]
    refine ends_get ?_
    split
    · exact ends_throw untouched
    · next writable =>
      refine ends_ofExcept (fun _ accepted => ends_modify ?_) fun _ _ => untouched
      have outside : disk.device.sectorCount < partition.sectorOf block +
          data.length / disk.device.shape.sectorSize := by
        by_contra within
        rw [full, ← measured.sectorSize_eq] at within
        exact ready ⟨Bool.eq_false_of_not_eq_true writable,
          Partition.inside_of_checkRange accepted, Nat.le_of_not_lt within⟩
      have refused := Store.ends_writeSectors_of_outside disk.device outside
      refine Ends.stop (ends_transfer (refused.mono (fun _ _ never => never) ?_))
      rintro _ device rfl
      exact Store.Added.cut ⟨1, rfl⟩

/-- A flush is carried out, or breaks off. -/
theorem ends_flush :
    Ends flush disk (fun _ after => disk.Ran after { requests := 1, effects := [.flush] })
      fun _ after => disk.Broke after [.flush] := by
  cases planned : disk.device.plan disk.device.calls with
  | none =>
    simp only [Ends, flush, onDevice, BlockDevice.flush, planned]
    exact .single planned rfl rfl
  | some fault =>
    simp only [Ends, flush, onDevice, BlockDevice.flush, planned]
    exact .of_struck ⟨fault, [], planned, rfl, .nothing _⟩

/-- Breaking off stays so when it is reported. -/
theorem ends_orReport_broke {α : Type} {event : Error → Event} {act : DiskM Store α}
    {returns : α → Disk Store → Prop} {whole : List Effect}
    (ends : Ends act disk returns fun _ after => disk.Broke after whole) :
    Ends (orReport event act) disk returns fun _ after => disk.Broke after whole := by
  apply ends_orReport
  exact ends.allow fun _ _ broke => broke.log _

/-- Refusing reports an event and fails. -/
theorem ends_refuse {α : Type} {event : Event} {defect : Defect} {returns : α → Disk Store → Prop} :
    Ends (refuse event defect : DiskM Store α) disk returns fun error after =>
      error = defect.toError ∧ disk.Ran after { copies := event.copy?.toList } :=
  ends_emit.andThen fun _ _ ran => ends_throw ⟨rfl, ran⟩

end DiskM

end JournaledVolume
