import JournaledVolume.Journal.BlockWalk
import JournaledVolume.Proofs.Chain

/-!
# The trail over the blocks of transactions

The walk over the blocks of the pending transactions follows the transaction chain, and between two
transactions the log records of the first one. Its trail depends on the headers and the log records
that it passes and on nothing else: on another device, with more blocks, that holds the same in
these blocks, the walk has the same trail. So has the walk along the transaction chain.
-/

namespace JournaledVolume

open JournaledVolume.Action

namespace BlockWalk

variable {partition : Partition} {disk : Disk Store}

/-- What is to be seen of the next transaction. -/
def lookTransaction (partition : Partition) (image : Image) (transactions : ChainWalk) :
    Option (Option ((Address × BlockKind) × BlockWalk)) :=
  (transactions.look partition image).map fun found =>
    found.map fun (transaction, rest) =>
      ((transaction.address, .txHeader), walking rest (.start transaction) [])

/-- What is to be seen of the next log record, or of the next transaction. -/
def lookRecord (partition : Partition) (image : Image) (transactions : ChainWalk)
    (records : RecordWalk) : Option (Option ((Address × BlockKind) × BlockWalk)) :=
  (records.look partition image).bind fun found =>
    match found with
    | some ((block, record), rest) =>
      some (some ((block, .logRecord),
        walking transactions rest (record.entries.map WanderEntry.wandered)))
    | none => lookTransaction partition image transactions

/-- What is to be seen of the blocks of transactions. -/
def look (partition : Partition) (image : Image) :
    BlockWalk → Option (Option ((Address × BlockKind) × BlockWalk))
  | ended => some none
  | walking transactions records (block :: wandered) =>
    some (some ((block, .wandered), walking transactions records wandered))
  | walking transactions records [] => lookRecord partition image transactions records

/-- The number of requests that finding a block takes. -/
def cost (item : Address × BlockKind) : Nat := if item.2 = .wandered then 0 else 1

/-- A step to the next transaction finds what is to be seen. -/
theorem ends_stepTransaction (transactions : ChainWalk)
    (lies : partition.LiesOn disk.device.shape) :
    Ends (stepTransaction partition transactions) disk
      (fun found after => lookTransaction partition (disk.image partition) transactions =
          some found ∧
        disk.Ran after (.reads (found.elim 0 fun next => cost next.1)))
      fun error after => disk.Refused after error
        (lookTransaction partition (disk.image partition) transactions).isSome := by
  refine (ChainWalk.ends_step transactions lies).bind ?_ ?_
  · rintro (_ | ⟨transaction, rest⟩) after ⟨seen, ran⟩
    · exact ends_pure ⟨by rw [lookTransaction, seen]; rfl, ran⟩
    · exact ends_pure ⟨by rw [lookTransaction, seen]; rfl, ran⟩
  · intro error after refused
    exact refused.mono fun sees => by rwa [lookTransaction, Option.isSome_map] at sees

/-- A step to the next log record or transaction finds what is to be seen. -/
theorem ends_stepRecord (transactions : ChainWalk) (records : RecordWalk)
    (lies : partition.LiesOn disk.device.shape) :
    Ends (stepRecord partition transactions records) disk
      (fun found after => lookRecord partition (disk.image partition) transactions records =
          some found ∧
        disk.Ran after (.reads (found.elim 0 fun next => cost next.1)))
      fun error after => disk.Refused after error
        (lookRecord partition (disk.image partition) transactions records).isSome := by
  refine (RecordWalk.ends_step records lies).bind ?_ ?_
  · rintro (_ | ⟨⟨block, record⟩, rest⟩) between ⟨seen, ran⟩
    · have same : between.image partition = disk.image partition := ran.image rfl
      have further := ends_stepTransaction transactions (ran.lies lies)
      rw [same] at further
      rw [lookRecord, seen]
      refine further.mono ?_ fun _ _ refused => ran.refused refused
      rintro found after ⟨sees, more⟩
      have total := ran.trans more
      rw [Trace.reads_append, Option.elim_none, Nat.zero_add] at total
      exact ⟨sees, total⟩
    · exact ends_pure ⟨by rw [lookRecord, seen]; rfl, ran⟩
  · intro error after refused
    exact refused.mono fun sees => Option.isSome_of_isSome_bind sees

/-- A step to the next block finds what is to be seen. -/
theorem ends_step (walk : BlockWalk) (lies : partition.LiesOn disk.device.shape) :
    Ends (step partition walk) disk
      (fun found after => look partition (disk.image partition) walk = some found ∧
        disk.Ran after (.reads (found.elim 0 fun next => cost next.1)))
      fun error after =>
        disk.Refused after error (look partition (disk.image partition) walk).isSome := by
  cases walk with
  | ended => exact ends_pure ⟨rfl, .nothing rfl rfl⟩
  | walking transactions records wandered =>
    cases wandered with
    | nil => exact ends_stepRecord transactions records lies
    | cons block wandered => exact ends_pure ⟨rfl, .nothing rfl rfl⟩

end BlockWalk

instance : Walk.Sighted BlockWalk (Address × BlockKind) where
  look := BlockWalk.look
  cost := BlockWalk.cost
  ends_step := BlockWalk.ends_step

namespace BlockWalk

variable {partition longer : Partition} {image target : Image} {transactions : ChainWalk}
  {records : RecordWalk} {found : Option ((Address × BlockKind) × BlockWalk)}

/-- What is seen of the next transaction depends on the block of its header only. -/
theorem lookTransaction_transfer (fits : partition.length ≤ longer.length)
    (seen : lookTransaction partition image transactions = some found)
    (same : ∀ next ∈ found, target next.1.1.toNat = image next.1.1.toNat) :
    lookTransaction longer target transactions = some found := by
  obtain ⟨sees, chained, rfl⟩ := Option.map_eq_some_iff.1 seen
  have still : transactions.look longer target = some sees := by
    refine ChainWalk.look_transfer fits chained fun next held => ?_
    obtain rfl : sees = some next := held
    exact same _ rfl
  rw [lookTransaction, still]
  rfl

/-- What is seen of the next log record or transaction depends on its block only. -/
theorem lookRecord_transfer (fits : partition.length ≤ longer.length)
    (seen : lookRecord partition image transactions records = some found)
    (same : ∀ next ∈ found, target next.1.1.toNat = image next.1.1.toNat) :
    lookRecord longer target transactions records = some found := by
  obtain ⟨sees, recorded, further⟩ := Option.bind_eq_some_iff.1 seen
  rcases sees with _ | ⟨⟨block, record⟩, rest⟩
  · have still : records.look longer target = some none :=
      RecordWalk.look_transfer fits recorded nofun
    rw [lookRecord, still]
    exact lookTransaction_transfer fits further same
  · obtain rfl := Option.some.inj further
    have still : records.look longer target = some (some ((block, record), rest)) := by
      refine RecordWalk.look_transfer fits recorded fun next held => ?_
      cases held
      exact same _ rfl
    rw [lookRecord, still]
    rfl

/-- What is seen of the blocks of transactions depends on the block at hand only. -/
theorem look_transfer {walk : BlockWalk} (fits : partition.length ≤ longer.length)
    (seen : Walk.look partition image walk = some found)
    (same : ∀ next ∈ found, target next.1.1.toNat = image next.1.1.toNat) :
    Walk.look longer target walk = some found := by
  cases walk with
  | ended => exact seen
  | walking transactions records wandered =>
    cases wandered with
    | nil => exact lookRecord_transfer fits seen same
    | cons block wandered => exact seen

instance : Walk.Located BlockWalk (Address × BlockKind) where
  address := Prod.fst
  look_transfer := look_transfer

/-- The kinds of the blocks that transactions occupy. -/
def kinds : List BlockKind := [.txHeader, .logRecord, .wandered]

/-- A block that is seen is one that a transaction occupies. -/
theorem kind_of_look {walk rest : BlockWalk} {item : Address × BlockKind}
    (seen : Walk.look partition image walk = some (some (item, rest))) : item.2 ∈ kinds := by
  cases walk with
  | ended => exact nomatch seen
  | walking transactions records wandered =>
    cases wandered with
    | cons block wandered =>
      cases seen
      exact List.mem_cons_of_mem _ (List.mem_cons_of_mem _ List.mem_cons_self)
    | nil =>
      obtain ⟨sees, _, further⟩ := Option.bind_eq_some_iff.1 seen
      rcases sees with _ | sees
      · obtain ⟨found, _, leads⟩ := Option.map_eq_some_iff.1 further
        obtain ⟨_, _, same⟩ := Option.map_eq_some_iff.1 leads
        cases same
        exact List.mem_cons_self
      · cases further
        exact List.mem_cons_of_mem _ List.mem_cons_self

/-- The blocks on a trail are those that transactions occupy. -/
theorem kind_of_trail {walk : BlockWalk} {items : List (Address × BlockKind)}
    (trail : Walk.Trail partition image walk items) : ∀ item ∈ items, item.2 ∈ kinds := by
  induction trail with
  | ended => exact nofun
  | step seen _ ih => exact List.forall_mem_cons.2 ⟨kind_of_look seen, ih⟩

/-- Between the blocks of a trail lie the headers of the transactions on the chain. -/
theorem exists_transactions {walk : BlockWalk} {items : List (Address × BlockKind)}
    (trail : Walk.Trail partition image walk items) :
    ∀ transactions records wandered, walk = walking transactions records wandered →
      ∃ passed, Walk.Trail partition image transactions passed ∧
        ∀ transaction ∈ passed, (transaction.address, .txHeader) ∈ items := by
  induction trail with
  | ended seen =>
    rintro transactions records (_ | ⟨block, wandered⟩) rfl
    · obtain ⟨sees, _, further⟩ := Option.bind_eq_some_iff.1 seen
      rcases sees with _ | sees
      · obtain ⟨_, chained, none⟩ := Option.map_eq_some_iff.1 further
        rw [Option.map_eq_none_iff.1 none] at chained
        exact ⟨[], .ended chained, nofun⟩
      · exact nomatch further
    · exact nomatch seen
  | @step walk rest item items seen _ ih =>
    rintro transactions records (_ | ⟨block, wandered⟩) rfl
    · obtain ⟨sees, _, further⟩ := Option.bind_eq_some_iff.1 seen
      rcases sees with _ | ⟨record, later⟩
      · obtain ⟨found, chained, leads⟩ := Option.map_eq_some_iff.1 further
        obtain ⟨⟨transaction, behind⟩, rfl, same⟩ := Option.map_eq_some_iff.1 leads
        cases same
        obtain ⟨passed, trail, listed⟩ := ih _ _ _ rfl
        refine ⟨transaction :: passed, .step chained trail, ?_⟩
        refine List.forall_mem_cons.2 ⟨List.mem_cons_self, ?_⟩
        exact fun older held => List.mem_cons_of_mem _ (listed older held)
      · cases further
        obtain ⟨passed, trail, listed⟩ := ih _ _ _ rfl
        exact ⟨passed, trail, fun older held => List.mem_cons_of_mem _ (listed older held)⟩
    · cases seen
      obtain ⟨passed, trail, listed⟩ := ih _ _ _ rfl
      exact ⟨passed, trail, fun older held => List.mem_cons_of_mem _ (listed older held)⟩

end BlockWalk

end JournaledVolume
