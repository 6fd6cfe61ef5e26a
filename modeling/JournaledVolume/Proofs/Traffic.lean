import JournaledVolume.Proofs.Chain

/-!
# What operations cost

The traffic of a disk is the number of blocks that were requested from the device or handed to it.
`Costs` says how much an action adds to it at most, however it ends, and what holds of the value if
the action returns one. What an operation costs is put together from what its parts cost. Nothing is
said of the device: it may hold anything, answer in any way and change while it is read.
-/

namespace JournaledVolume

namespace Action

variable {σ α β : Type} {count : σ → Nat} {act : Action σ α} {next : α → Action σ β}
  {bound more : Nat} {good : α → Prop} {better : β → Prop}

/-- Whether an action adds at most a number to a count of the state, however it ends, and returns
what is good if it returns. -/
def Costs (count : σ → Nat) (act : Action σ α) (bound : Nat) (good : α → Prop) : Prop :=
  ∀ state, Ends act state (fun value after => count after ≤ count state + bound ∧ good value)
    fun _ after => count after ≤ count state + bound

/-- An action that costs little costs no more than much, and its value may be less good. -/
theorem Costs.mono {also : α → Prop} (costs : act.Costs count bound good) (fits : bound ≤ more)
    (weaker : ∀ value, good value → also value) : act.Costs count more also := by
  intro state
  apply (costs state).mono
  · intro value after spent
    exact ⟨Nat.le_trans spent.1 (Nat.add_le_add_left fits _), weaker value spent.2⟩
  · intro error after spent
    exact Nat.le_trans spent (Nat.add_le_add_left fits _)

/-- An action that costs little costs no more than much. -/
theorem Costs.le (costs : act.Costs count bound good) (fits : bound ≤ more) :
    act.Costs count more good :=
  costs.mono fits fun _ fine => fine

/-- A sequence costs what its parts cost. -/
theorem Costs.bind (first : act.Costs count bound good)
    (second : ∀ value, good value → (next value).Costs count more better) :
    (act >>= next).Costs count (bound + more) better := by
  intro state
  apply Ends.bind (first state)
  · intro value between spent
    have further := second value spent.2 between
    apply further.mono
    · intro result after more
      exact ⟨by omega, more.2⟩
    · intro error after more
      omega
  · intro error after spent
    omega

/-- A sequence costs what its first part costs, when nothing behind it costs more. -/
theorem Costs.andThen (first : act.Costs count bound good)
    (second : ∀ value, good value → (next value).Costs count 0 better) :
    (act >>= next).Costs count bound better :=
  first.bind second

/-- A sequence costs what its second part costs, when its first part costs nothing. -/
theorem Costs.freeThen (first : act.Costs count 0 good)
    (second : ∀ value, good value → (next value).Costs count bound better) :
    (act >>= next).Costs count bound better :=
  (first.bind second).le (Nat.le_of_eq (Nat.zero_add bound))

/-- Returning a value costs nothing. -/
theorem costs_pure {value : α} (fine : good value) : (pure value : Action σ α).Costs count 0 good :=
  fun _ => ends_pure ⟨Nat.le_refl _, fine⟩

/-- Returning a value costs no more than anything. -/
theorem costs_pure_le {value : α} (fine : good value) :
    (pure value : Action σ α).Costs count bound good :=
  (costs_pure fine).le (Nat.zero_le bound)

/-- Failing costs nothing. -/
theorem costs_throw (error : Error) : (throw error : Action σ α).Costs count bound good :=
  fun _ => ends_throw (Nat.le_add_right _ _)

/-- Nothing follows a failure. -/
theorem costs_throw_bind (error : Error) :
    ((throw error : Action σ α) >>= next).Costs count bound better :=
  fun _ => ends_throw (Nat.le_add_right _ _)

/-- A computation without state costs nothing. -/
theorem costs_ofExcept (result : Except Error α) :
    (ofExcept result : Action σ α).Costs count 0 fun _ => True := by
  cases result with
  | ok value => exact costs_pure trivial
  | error error => exact costs_throw error

/-- Steps for the items of a list cost at most as much as that many of the dearest. -/
theorem costs_forM {step : β → Action σ Unit} {items : List β}
    (steps : ∀ item ∈ items, (step item).Costs count bound fun _ => True) :
    (items.forM step).Costs count (items.length * bound) fun _ => True := by
  induction items with
  | nil => exact costs_pure_le trivial
  | cons item items ih =>
    have first := steps item List.mem_cons_self
    have later := ih fun other known => steps other (List.mem_cons_of_mem item known)
    apply (first.bind fun _ _ => later).le
    rw [List.length_cons, Nat.succ_mul, Nat.add_comm]

/-- So does a fold over a list. -/
theorem costs_foldlM {step : β → α → Action σ β} (start : β) (items : List α)
    (steps : ∀ value item, (step value item).Costs count bound fun _ => True) :
    (items.foldlM step start).Costs count (items.length * bound) fun _ => True := by
  induction items generalizing start with
  | nil => exact costs_pure_le trivial
  | cons item items ih =>
    rw [List.foldlM_cons]
    apply ((steps start item).bind fun value _ => ih value).le
    rw [List.length_cons, Nat.succ_mul, Nat.add_comm]

end Action

open JournaledVolume.Action

variable {σ δ α : Type}

/-- The number of blocks that were requested from the device of a disk or handed to it. -/
def Disk.traffic (disk : Disk δ) : Nat := disk.reads + disk.writes

/-- The traffic of the disk that a structure is kept on. -/
def Attached.traffic (state : Attached σ δ) : Nat := state.disk.traffic

namespace AttachedM

variable {bound : Nat} {good : α → Prop}

/-- An action on the disk costs what it costs there. -/
theorem costs_onDisk {act : DiskM δ α} (costs : act.Costs Disk.traffic bound good) :
    (onDisk act : AttachedM σ δ α).Costs Attached.traffic bound good :=
  fun state => ends_onDisk (costs state.disk)

/-- A change in memory costs nothing. -/
theorem costs_revise (change : σ → σ) :
    (revise change : AttachedM σ δ Unit).Costs Attached.traffic 0 fun _ => True :=
  fun _ => ⟨Nat.le_refl _, trivial⟩

/-- A change in memory that may fail costs nothing. -/
theorem costs_tryRevise (change : σ → Except Error σ) :
    (tryRevise change : AttachedM σ δ Unit).Costs Attached.traffic 0 fun _ => True :=
  fun _ => ends_tryRevise (fun _ _ => ⟨Nat.le_refl _, trivial⟩) fun _ _ => Nat.le_refl _

/-- A look at the memory costs nothing. -/
theorem costs_memory : (memory : AttachedM σ δ σ).Costs Attached.traffic 0 fun _ => True :=
  fun _ => ⟨Nat.le_refl _, trivial⟩

end AttachedM

namespace DiskM

variable {act : DiskM δ α} {bound : Nat} {good : α → Prop}

/-- A report costs nothing. -/
theorem costs_emit (event : Event) :
    (emit event : DiskM δ Unit).Costs Disk.traffic 0 fun _ => True :=
  fun _ => ⟨Nat.le_refl _, trivial⟩

/-- A refusal costs nothing. -/
theorem costs_refuse (event : Event) (defect : Defect) :
    (refuse event defect : DiskM δ α).Costs Disk.traffic 0 good := by
  have fails : (throw defect.toError : DiskM δ α).Costs Disk.traffic 0 good := costs_throw _
  exact (costs_emit event).bind fun _ _ => fails

/-- Reporting a failure costs nothing more. -/
theorem costs_orReport (event : Error → Event) (costs : act.Costs Disk.traffic bound good) :
    (orReport event act).Costs Disk.traffic bound good :=
  fun disk => ends_orReport (costs disk)

/-- Finding damage costs nothing more. -/
theorem costs_findDamage (costs : act.Costs Disk.traffic bound good) :
    (findDamage act).Costs Disk.traffic bound
      fun found => ∀ value, found = .ok value → good value := by
  intro disk
  apply ends_findDamage
  apply (costs disk).mono
  · intro value after spent
    exact ⟨spent.1, fun _ same => Except.ok.inj same ▸ spent.2⟩
  · intro error after spent
    split
    · exact ⟨spent, nofun⟩
    · exact spent

/-- An action on a structure of its own costs what it costs on the disk. -/
theorem costs_accumulate {start : σ} {act : AttachedM σ δ Unit}
    (costs : act.Costs Attached.traffic bound fun _ => True) :
    (accumulate start act).Costs Disk.traffic bound fun _ => True :=
  fun disk => ends_accumulate (costs { memory := start, disk })

/-- What the device does on behalf of a block adds no traffic: that was counted before. -/
theorem costs_transfer (block : Nat) (act : Action δ α) :
    (transfer block act).Costs Disk.traffic 0 fun _ => True := by
  intro disk
  unfold Ends transfer onDevice
  cases act disk.device with
  | ok value device => exact ⟨Nat.le_refl _, trivial⟩
  | error error device => exact Nat.le_refl _

variable [BlockDevice δ] {partition : Partition}

/-- A flush adds no traffic. -/
theorem costs_flush : (flush : DiskM δ Unit).Costs Disk.traffic 0 fun _ => True := by
  intro disk
  unfold Ends flush onDevice
  cases BlockDevice.flush disk.device with
  | ok value device => exact ⟨Nat.le_refl _, trivial⟩
  | error error device => exact Nat.le_refl _

/-- A read of blocks costs as many, and returns no more than they have room for. -/
theorem costs_readBlocks (partition : Partition) (block count : Nat) :
    (readBlocks partition block count : DiskM δ Bytes).Costs Disk.traffic count
      fun data => data.length ≤ count * partition.blockSize := by
  have delivers := costs_transfer block (BlockDevice.readSectors (partition.sectorOf block)
    (count * partition.sectorsPerBlock) : Action δ Bytes)
  have asks : (modify fun disk => { disk with reads := disk.reads + count } :
      DiskM δ Unit).Costs Disk.traffic count fun _ => True := by
    intro disk
    refine ⟨?_, trivial⟩
    show disk.reads + count + disk.writes ≤ disk.reads + disk.writes + count
    omega
  have returns (data : Bytes) : (do
      if data.length < count * partition.blockSize then throw (.atBlock .shortRead block)
      return data.take (count * partition.blockSize) : DiskM δ Bytes).Costs Disk.traffic 0
        fun data => data.length ≤ count * partition.blockSize := by
    by_cases short : data.length < count * partition.blockSize
    · rw [if_pos short]
      exact costs_throw_bind _
    · rw [if_neg short]
      exact costs_pure (List.length_take_le _ _)
  have whole := (costs_ofExcept (partition.checkRange block count)).bind fun _ _ =>
    asks.bind fun _ _ => delivers.bind fun data _ => returns data
  exact whole.le (by omega)

/-- A write of blocks costs as many. -/
theorem costs_writeBlocks (partition : Partition) (block count : Nat) (buffer : Bytes) :
    (writeBlocks partition block count buffer : DiskM δ Nat).Costs Disk.traffic count
      fun _ => True := by
  let required := count * partition.blockSize
  have takes := costs_transfer block (BlockDevice.writeSectors (partition.sectorOf block)
    (buffer.take required) : Action δ Nat)
  have hands : (modify fun disk => { disk with writes := disk.writes + count } :
      DiskM δ Unit).Costs Disk.traffic count fun _ => True := by
    intro disk
    refine ⟨?_, trivial⟩
    show disk.reads + (disk.writes + count) ≤ disk.reads + disk.writes + count
    omega
  have returns (taken : Nat) : (do
      if taken < required then throw (.atBlock .shortWrite block)
      return required : DiskM δ Nat).Costs Disk.traffic 0 fun _ => True := by
    by_cases short : taken < required
    · rw [if_pos short]
      exact costs_throw_bind _
    · rw [if_neg short]
      exact costs_pure trivial
  have whole := (costs_ofExcept (partition.checkRange block count)).bind fun _ _ =>
    hands.bind fun _ _ => takes.bind fun taken _ => returns taken
  have fits : 0 + (count + (0 + 0)) ≤ count := by omega
  have allowed := whole.le fits
  intro disk
  unfold writeBlocks
  dsimp only
  split
  · exact costs_throw_bind _ disk
  · refine ends_get ?_
    split
    · exact costs_throw_bind _ disk
    · exact allowed disk

/-- A write of a block costs one. -/
theorem costs_writeBlock (partition : Partition) (block : Nat) (buffer : Bytes) :
    (writeBlock partition block buffer : DiskM δ Unit).Costs Disk.traffic 1 fun _ => True :=
  (costs_writeBlocks partition block 1 buffer).andThen fun _ _ => costs_pure trivial

omit [BlockDevice δ] in
/-- The check of a pointer costs nothing, and passes those that may be named. -/
theorem costs_checkPointer (partition : Partition) (block : Address) :
    (checkPointer partition block : DiskM δ Unit).Costs Disk.traffic 0
      fun _ => block ≠ 0 ∧ block.toNat < partition.length := by
  unfold checkPointer
  by_cases outside : block = 0 ∨ partition.length ≤ block.toNat
  · rw [if_pos outside]
    exact costs_throw _
  · rw [if_neg outside]
    exact costs_pure (Partition.not_outside.1 outside)

/-- Following a pointer costs one block. -/
theorem costs_readPointer (partition : Partition) (block : Address) :
    (readPointer partition block : DiskM δ Bytes).Costs Disk.traffic 1 fun content =>
      (block ≠ 0 ∧ block.toNat < partition.length) ∧ content.length ≤ partition.blockSize := by
  have reads := costs_readBlocks (δ := δ) partition block.toNat 1
  have whole := (costs_checkPointer (δ := δ) partition block).bind fun _ named =>
    reads.mono (Nat.le_refl 1) fun content fits =>
      show (block ≠ 0 ∧ block.toNat < partition.length) ∧ content.length ≤ partition.blockSize from
        ⟨named, by omega⟩
  exact whole.le (by omega)

end DiskM

end JournaledVolume
