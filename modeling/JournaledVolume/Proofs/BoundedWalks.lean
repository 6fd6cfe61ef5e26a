import JournaledVolume.Journal.BlockWalk
import JournaledVolume.Proofs.Traffic
import Mathlib.Order.Interval.Finset.Nat

/-!
# Walks are bounded whatever the device holds

A walk visits no block twice and none that a journal pointer may not lead to, whatever it reads. So
the partition bounds it, also when the device is written between its steps, by a replay or by anyone
else. Operations that walk the journal come to an end after a number of requests that depends on the
length of the partition and on the size of its blocks only.
-/

namespace JournaledVolume

open JournaledVolume.Action

namespace Partition

variable {partition : Partition} {visited : List Address} {block : Address}

/-- The blocks that a journal pointer may lead to and that were not visited. -/
def unseen (partition : Partition) (visited : List Address) : Finset Nat :=
  (Finset.Ico 1 partition.length).filter fun block => block ∉ visited.map UInt64.toNat

/-- A journal pointer may lead to every block but the first. -/
theorem unseen_subset : partition.unseen visited ⊆ Finset.Ico 1 partition.length :=
  Finset.filter_subset _ _

/-- A block that a pointer leads to was not visited, unless it is in the list. -/
theorem mem_unseen (named : block ≠ 0 ∧ block.toNat < partition.length)
    (new : block ∉ visited) : block.toNat ∈ partition.unseen visited := by
  have positive : block.toNat ≠ 0 := fun zero => named.1 (UInt64.toNat_inj.1 zero)
  have inside : block.toNat ∈ Finset.Ico 1 partition.length :=
    Finset.mem_Ico.2 ⟨Nat.one_le_iff_ne_zero.2 positive, named.2⟩
  refine Finset.mem_filter.2 ⟨inside, fun known => ?_⟩
  obtain ⟨other, listed, same⟩ := List.mem_map.1 known
  exact new (UInt64.toNat_inj.1 same ▸ listed)

/-- A visit takes a block out. -/
theorem unseen_cons : partition.unseen (block :: visited) ⊆
    (partition.unseen visited).erase block.toNat := by
  intro other remains
  have known := Finset.mem_filter.1 remains
  rw [List.map_cons, List.mem_cons, not_or] at known
  exact Finset.mem_erase.2 ⟨known.2.1, Finset.mem_filter.2 ⟨known.1, known.2.2⟩⟩

end Partition

namespace LogRecord

/-- There are no more entries than slots. -/
theorem length_decodeSlots_le (slots : Nat) (bytes : Bytes) :
    (WanderEntry.decodeSlots slots bytes).length ≤ slots := by
  induction slots generalizing bytes with
  | zero => exact Nat.le_refl 0
  | succ slots ih =>
    rw [WanderEntry.decodeSlots]
    split
    · exact Nat.zero_le _
    · exact Nat.succ_le_succ (ih _)

/-- A log record has no more entries than its block has room for. -/
theorem length_entries_le {content : Bytes} {record : LogRecord} {size : Nat}
    (decoded : decode? content = some record) (fits : content.length ≤ size) :
    record.entries.length ≤ capacity size := by
  unfold decode? at decoded
  split at decoded
  · obtain rfl := Option.some.inj decoded
    apply Nat.le_trans (length_decodeSlots_le _ _)
    exact Nat.div_le_div_right (Nat.sub_le_sub_right fits 32)
  · exact nomatch decoded

end LogRecord

variable {δ : Type} [BlockDevice δ]

namespace Walk

/-- A walk that goes to a new block with each step, whatever it reads there. -/
class Roaming (κ : Type) (α : outParam Type) [Walk κ α] where
  /-- The block of an item. -/
  place : α → Address
  /-- The blocks that a walk may still go to. -/
  fresh (partition : Partition) (walk : κ) : Finset Nat
  /-- What is known of an item that is passed. -/
  fine (partition : Partition) (item : α) : Prop
  /-- A journal pointer may lead to each of these blocks. -/
  fresh_subset (partition : Partition) (walk : κ) :
    fresh partition walk ⊆ Finset.Ico 1 partition.length
  /-- A walk that has ended stays ended, and asks nothing. -/
  step_ended {δ : Type} [BlockDevice δ] (partition : Partition) (disk : Disk δ) :
    step partition (ended : κ) disk = .ok none disk
  /-- A step asks for one block at most, and takes the block of what it finds out. -/
  costs_step {δ : Type} [BlockDevice δ] (partition : Partition) (walk : κ) :
    (step partition walk : DiskM δ (Option (α × κ))).Costs Disk.traffic 1 fun found =>
      ∀ next ∈ found, fine partition next.1 ∧ (place next.1).toNat ∈ fresh partition walk ∧
        fresh partition next.2 ⊆ (fresh partition walk).erase (place next.1).toNat

export Roaming (place fresh)

/-- A walk of which each step leaves fewer, whatever it reads. -/
class Limited (κ : Type) (α : outParam Type) [Walk κ α] where
  /-- The number of items that a walk may still pass. -/
  limit (partition : Partition) (walk : κ) : Nat
  /-- The number of blocks that a step asks for at most. -/
  ask : Nat
  /-- What is known of an item that is passed. -/
  fine (partition : Partition) (item : α) : Prop
  /-- A walk that has ended stays ended, and asks nothing. -/
  step_ended {δ : Type} [BlockDevice δ] (partition : Partition) (disk : Disk δ) :
    step partition (ended : κ) disk = .ok none disk
  /-- A step leaves fewer items to pass. -/
  costs_step {δ : Type} [BlockDevice δ] (partition : Partition) (walk : κ) :
    (step partition walk : DiskM δ (Option (α × κ))).Costs Disk.traffic ask fun found =>
      ∀ next ∈ found, fine partition next.1 ∧ limit partition next.2 < limit partition walk

export Limited (limit ask fine)

variable {κ α σ : Type} [Walk κ α]

/-- A walk that goes to a new block with each step is limited by the blocks that are left. -/
instance [Roaming κ α] : Limited κ α where
  limit partition walk := (fresh partition walk).card
  ask := 1
  fine := Roaming.fine κ
  step_ended := Roaming.step_ended
  costs_step partition walk := by
    apply (Roaming.costs_step partition walk).mono (Nat.le_refl 1)
    intro found narrows next known
    have taken := narrows next known
    refine ⟨taken.1, ?_⟩
    have fewer := Finset.card_le_card taken.2.2
    have one := Finset.card_erase_lt_of_mem taken.2.1
    exact Nat.lt_of_le_of_lt fewer one

/-- The answers of a walk that is advanced again and again, on a disk that others change before each
call. -/
def outcomesAmid (partition : Partition) :
    (changes : List (Disk δ → Disk δ)) → Attached κ δ → List (Except Error (Option α))
  | [], _ => []
  | change :: changes, state =>
    match advance partition { state with disk := change state.disk } with
    | .ok found after => .ok found :: outcomesAmid partition changes after
    | .error error after => .error error :: outcomesAmid partition changes after

/-- The first `count` answers of a walk that passes items, fails once if it fails, and has ended. -/
def replies (items : List α) (failure : Option Error) (count : Nat) :
    List (Except Error (Option α)) :=
  let passed : List (Except Error (Option α)) := items.map fun item => .ok (some item)
  let failed : List (Except Error (Option α)) := failure.toList.map fun error => .error error
  let behind : List (Except Error (Option α)) := List.replicate count (.ok none)
  (passed ++ failed ++ behind).take count

/-- The replies go on behind the first item. -/
theorem replies_cons (item : α) (items : List α) (failure : Option Error) (count : Nat) :
    replies (item :: items) failure (count + 1) =
      .ok (some item) :: replies items failure count := by
  simp only [replies, List.map_cons, List.cons_append, List.take_succ_cons, List.replicate_succ',
    ← List.append_assoc]
  rw [List.take_append_of_le_length]
  simp only [List.length_append, List.length_map, List.length_replicate]
  omega

section Limited

variable [Limited κ α] {partition : Partition}

/-- A walk that has ended stays ended, whatever others do. -/
theorem outcomesAmid_ended (changes : List (Disk δ → Disk δ)) (disk : Disk δ) :
    outcomesAmid partition changes { memory := (ended : κ), disk } =
      List.replicate changes.length (.ok none) := by
  induction changes generalizing disk with
  | nil => rfl
  | cons change changes ih =>
    have stays := Limited.step_ended (κ := κ) partition (change disk)
    simp only [outcomesAmid, advance, stays, ih, List.length_cons, List.replicate_succ]

/-- A walk passes items, fails at most once and stays ended, whatever others do. What holds of no
items, and of an item with those that are passed behind it, holds of the items that it passes. -/
theorem exists_replies (passed : κ → List α → Prop) (nothing : ∀ walk, passed walk [])
    (more : ∀ {walk rest : κ} {item : α} {items : List α} {disk after : Disk δ},
      step partition walk disk = .ok (some (item, rest)) after → passed rest items →
        passed walk (item :: items))
    (changes : List (Disk δ → Disk δ)) (walk : κ) (disk : Disk δ) :
    ∃ items failure, passed walk items ∧
      outcomesAmid partition changes { memory := walk, disk } =
        replies items failure changes.length := by
  induction changes generalizing walk disk with
  | nil => exact ⟨[], none, nothing walk, rfl⟩
  | cons change changes ih =>
    cases stepped : step partition walk (change disk) with
    | error error after =>
      refine ⟨[], some error, nothing walk, ?_⟩
      simp [outcomesAmid, advance, stepped, outcomesAmid_ended, replies]
    | ok found after =>
      cases found with
      | none =>
        refine ⟨[], none, nothing walk, ?_⟩
        simp [outcomesAmid, advance, stepped, outcomesAmid_ended, replies, List.replicate_succ]
      | some next =>
        obtain ⟨item, rest⟩ := next
        obtain ⟨items, failure, known, same⟩ := ih rest after
        refine ⟨item :: items, failure, more stepped known, ?_⟩
        rw [List.length_cons, replies_cons, ← same]
        simp only [outcomesAmid, advance, stepped]

/-- What a step finds is fine, and leaves fewer items to pass. -/
theorem limit_of_step {walk rest : κ} {item : α} {disk after : Disk δ}
    (stepped : step partition walk disk = .ok (some (item, rest)) after) :
    fine κ partition item ∧ limit partition rest < limit partition walk :=
  ((Limited.costs_step partition walk disk).of_ok stepped).2 _ rfl

variable (partition) in
/-- A walk passes no more items than its limit says, whatever others do. -/
theorem exists_replies_limited (changes : List (Disk δ → Disk δ)) (walk : κ) (disk : Disk δ) :
    ∃ items failure, items.length ≤ limit partition walk ∧
      outcomesAmid partition changes { memory := walk, disk } =
        replies items failure changes.length := by
  have more {walk rest : κ} {item : α} {items : List α} {disk after : Disk δ}
      (stepped : step partition walk disk = .ok (some (item, rest)) after)
      (fewer : items.length ≤ limit partition rest) :
      (item :: items).length ≤ limit partition walk := by
    have shrinks := (limit_of_step stepped).2
    rw [List.length_cons]
    omega
  exact exists_replies (fun walk items => items.length ≤ limit partition walk)
    (fun _ => Nat.zero_le _) more changes walk disk

/-- The visits of a walk, cut off after a number of steps. -/
def forEachWithin (partition : Partition) (visit : α → AttachedM σ δ Unit)
    (giveUp : AttachedM σ δ Unit) : (count : Nat) → κ → AttachedM σ δ Unit
  | 0, _ => giveUp
  | count + 1, walk => fun state =>
    match step partition walk state.disk with
    | .ok (some (item, rest)) disk =>
      (visit item >>= fun _ => forEachWithin partition visit giveUp count rest) { state with disk }
    | .ok none disk => .ok () { state with disk }
    | .error error disk => .error error { state with disk }

/-- Visits take no more steps than the limit of the walk and one more, whatever the visits do to
the disk: a loop that is cut off behind them does the same. -/
theorem forEach_eq_within (visit : α → AttachedM σ δ Unit) (giveUp : AttachedM σ δ Unit)
    {count : Nat} {walk : κ} (enough : limit partition walk < count) :
    forEach partition visit walk = forEachWithin partition visit giveUp count walk := by
  induction count generalizing walk with
  | zero => exact absurd enough (Nat.not_lt_zero _)
  | succ count ih =>
    funext ⟨memory, disk⟩
    cases stepped : step partition walk disk with
    | error error after =>
      rw [forEach_of_error stepped]
      simp only [forEachWithin, stepped]
    | ok found after =>
      cases found with
      | none =>
        rw [forEach_of_end stepped]
        simp only [forEachWithin, stepped]
      | some next =>
        have shrinks := (limit_of_step stepped).2
        rw [forEach_of_item stepped, funext fun _ => ih (by omega : limit partition next.2 < count)]
        simp only [forEachWithin, stepped]

/-- Visits cost what the steps and the visits of as many items as the limit says cost, and another
step. -/
theorem costs_forEach {count : Attached σ δ → Nat} {first spend : Nat}
    {visit : α → AttachedM σ δ Unit}
    (steps : ∀ (walk : κ) (memory : σ) (disk : Disk δ), Ends (step partition walk) disk
      (fun _ after => count { memory, disk := after } ≤ count { memory, disk } + first)
      fun _ after => count { memory, disk := after } ≤ count { memory, disk } + first)
    (visits : ∀ item, fine κ partition item → (visit item).Costs count spend fun _ => True)
    (walk : κ) :
    (forEach partition visit walk).Costs count (limit partition walk * (first + spend) + first)
      fun _ => True := by
  -- The recursion of the visits ends with the room of the walk. The limit only counts them.
  induction walk using room_induction κ partition with
  | smaller walk ih =>
    rintro ⟨memory, disk⟩
    have ends := steps walk memory disk
    unfold Ends
    cases stepped : step partition walk disk with
    | error error after =>
      rw [forEach_of_error stepped]
      have spent := ends.of_error stepped
      dsimp only
      omega
    | ok found after =>
      have spent := ends.of_ok stepped
      cases found with
      | none =>
        rw [forEach_of_end stepped]
        refine ⟨?_, trivial⟩
        omega
      | some next =>
        obtain ⟨known, shrinks⟩ := limit_of_step stepped
        have scaled := Nat.mul_le_mul_right (first + spend) (Nat.succ_le_of_lt shrinks)
        rw [Nat.succ_mul] at scaled
        rw [forEach_of_item stepped]
        have rest := (visits next.1 known).bind fun _ _ => ih next.2 (step_room stepped)
        apply (rest { memory, disk := after }).mono
        · intro _ last total
          refine ⟨?_, trivial⟩
          omega
        · intro _ last total
          omega

/-- Visits ask for as many blocks as the steps of the walk and the visits ask for. -/
theorem costs_forEach_traffic {spend : Nat} {visit : α → AttachedM σ δ Unit}
    (visits : ∀ item, fine κ partition item →
      (visit item).Costs Attached.traffic spend fun _ => True) (walk : κ) :
    (forEach partition visit walk).Costs Attached.traffic
      (limit partition walk * (ask κ + spend) + ask κ) fun _ => True := by
  apply costs_forEach _ visits
  intro walk memory disk
  exact (Limited.costs_step partition walk disk).mono (fun _ _ spent => spent.1)
    fun _ _ spent => spent

/-- An array to which the items of a walk are added grows no further than the limit says. -/
theorem costs_forEach_push (walk : κ) :
    (forEach partition (fun item => AttachedM.revise fun items => items.push item) walk :
      AttachedM (Array α) δ Unit).Costs (fun state => state.memory.size) (limit partition walk)
        fun _ => True := by
  have grows (item : α) : (AttachedM.revise fun items => items.push item :
      AttachedM (Array α) δ Unit).Costs (fun state => state.memory.size) 1 fun _ => True :=
    fun state => ⟨Nat.le_of_eq (Array.size_push item), trivial⟩
  -- Steps leave the array as it is, so their part of the bound is zero.
  have counted : (forEach partition (fun item => AttachedM.revise fun items => items.push item)
      walk : AttachedM (Array α) δ Unit).Costs (fun state => state.memory.size)
        (limit partition walk * (0 + 1) + 0) fun _ => True := by
    apply costs_forEach _ fun item _ => grows item
    intro walk memory disk
    exact (ends_anyhow (step partition walk) disk).mono (fun _ _ _ => Nat.le_refl _)
      fun _ _ _ => Nat.le_refl _
  exact counted.le (by omega)

/-- A walk collects no more items than its limit says, and asks for blocks with each step. -/
theorem costs_collect (walk : κ) :
    (collect partition walk : DiskM δ (List α)).Costs Disk.traffic
      (limit partition walk * ask κ + ask κ)
      fun items => items.length ≤ limit partition walk := by
  intro disk
  have asks : (forEach partition (fun item => AttachedM.revise fun items => items.push item)
      walk : AttachedM (Array α) δ Unit).Costs Attached.traffic
        (limit partition walk * (ask κ + 0) + ask κ) fun _ => True :=
    costs_forEach_traffic (fun _ _ => AttachedM.costs_revise _) walk
  have both := (asks { memory := #[], disk }).and
    (costs_forEach_push walk { memory := #[], disk })
  have collected : Ends (DiskM.accumulate #[] (forEach partition
      (fun item => AttachedM.revise fun items => items.push item) walk)) disk
      (fun items after => after.traffic ≤ disk.traffic + (limit partition walk * ask κ + ask κ) ∧
        items.toList.length ≤ limit partition walk)
      fun _ after => after.traffic ≤ disk.traffic + (limit partition walk * ask κ + ask κ) := by
    apply DiskM.ends_accumulate
    apply both.mono
    · intro _ after spent
      have size := spent.2.1
      simp only [List.size_toArray, List.length_nil, Nat.zero_add] at size
      exact ⟨spent.1.1, by rwa [Array.length_toList]⟩
    · intro _ after spent
      exact spent.1
  exact collected.andThen fun items after spent => ends_pure spent

end Limited

section Roaming

variable [Roaming κ α] {partition : Partition}

/-- Whether items lie at different places, each of which a walk may still go to. -/
def Ahead (partition : Partition) (walk : κ) (items : List α) : Prop :=
  (items.map fun item => (place κ item).toNat).Nodup ∧
    ∀ item ∈ items, (place κ item).toNat ∈ fresh partition walk ∧ Roaming.fine κ partition item

/-- A step takes the place of its item out, so the item lies apart from those behind it. -/
theorem Ahead.cons {walk rest : κ} {item : α} {items : List α} {disk after : Disk δ}
    (stepped : step partition walk disk = .ok (some (item, rest)) after)
    (ahead : Ahead partition rest items) : Ahead partition walk (item :: items) := by
  obtain ⟨fine, taken, narrower⟩ :=
    ((Roaming.costs_step partition walk disk).of_ok stepped).2 _ rfl
  have later (other : α) (among : other ∈ items) :
      (place κ other).toNat ∈ (fresh partition walk).erase (place κ item).toNat :=
    narrower (ahead.2 other among).1
  constructor
  · apply List.nodup_cons.2
    refine ⟨?_, ahead.1⟩
    intro again
    obtain ⟨other, among, same⟩ := List.mem_map.1 again
    exact (Finset.mem_erase.1 (later other among)).1 same
  · intro other among
    rcases List.mem_cons.1 among with rfl | among
    · exact ⟨taken, fine⟩
    · exact ⟨(Finset.mem_erase.1 (later other among)).2, (ahead.2 other among).2⟩

/-- A journal pointer may lead to each of the places. -/
theorem Ahead.inside {walk : κ} {items : List α} {item : α} (ahead : Ahead partition walk items)
    (among : item ∈ items) : (place κ item).toNat ∈ Finset.Ico 1 partition.length :=
  Roaming.fresh_subset partition walk (ahead.2 item among).1

/-- There are fewer such items than blocks. -/
theorem Ahead.length_le {walk : κ} {items : List α} (ahead : Ahead partition walk items) :
    items.length ≤ partition.length - 1 := by
  have counted := List.toFinset_card_of_nodup ahead.1
  have among : (items.map fun item => (place κ item).toNat).toFinset ⊆
      Finset.Ico 1 partition.length := by
    intro block listed
    obtain ⟨item, passes, rfl⟩ := List.mem_map.1 (List.mem_toFinset.1 listed)
    exact ahead.inside passes
  have fewer := Finset.card_le_card among
  rwa [counted, List.length_map, Nat.card_Ico] at fewer

variable (partition) in
/-- A walk that goes to a new block with each step passes no block twice, whatever others do, and
none that a journal pointer may not lead to. -/
theorem exists_replies_roaming (changes : List (Disk δ → Disk δ)) (walk : κ) (disk : Disk δ) :
    ∃ items failure, items.length ≤ partition.length - 1 ∧
      (items.map (place κ)).Nodup ∧
      (∀ item ∈ items, (place κ item).toNat ∈ Finset.Ico 1 partition.length ∧
        Roaming.fine κ partition item) ∧
      outcomesAmid partition changes { memory := walk, disk } =
        replies items failure changes.length := by
  obtain ⟨items, failure, ahead, same⟩ := exists_replies (Ahead partition)
    (fun _ => ⟨List.nodup_nil, nofun⟩) Ahead.cons changes walk disk
  refine ⟨items, failure, ahead.length_le, ?_, ?_, same⟩
  · apply List.Nodup.of_map UInt64.toNat
    rw [List.map_map]
    exact ahead.1
  · intro item among
    exact ⟨ahead.inside among, (ahead.2 item among).2⟩

/-- A walk that goes to a new block with each step passes fewer items than there are blocks. -/
theorem limit_le (walk : κ) : limit partition walk ≤ partition.length - 1 := by
  have fewer := Finset.card_le_card (Roaming.fresh_subset partition walk)
  rwa [Nat.card_Ico] at fewer

end Roaming

end Walk

open Walk

namespace ChainWalk

/-- The blocks that a walk along the transactions may still go to. -/
def fresh (partition : Partition) : ChainWalk → Finset Nat
  | ended => ∅
  | walking _ _ visited => partition.unseen visited

/-- A step along the transactions asks for one block at most, a new one. -/
theorem costs_step (partition : Partition) (walk : ChainWalk) :
    (walk.step partition : DiskM δ (Option (Transaction × ChainWalk))).Costs Disk.traffic 1
      fun found => ∀ next ∈ found, next.1.address.toNat ∈ walk.fresh partition ∧
        next.2.fresh partition ⊆ (walk.fresh partition).erase next.1.address.toNat := by
  cases walk with
  | ended => exact costs_pure_le nofun
  | walking next stop visited =>
    rw [step]
    by_cases last : next = stop
    · rw [if_pos last]
      exact costs_pure_le nofun
    rw [if_neg last]
    by_cases known : next ∈ visited
    · rw [if_pos known]
      exact (DiskM.costs_refuse _ _).le (Nat.zero_le 1)
    rw [if_neg known]
    apply (DiskM.costs_readPointer partition next).andThen
    intro content read
    cases decoded : TxHeader.decode? content with
    | none => exact DiskM.costs_refuse _ _
    | some header =>
      apply (DiskM.costs_emit _).andThen
      intro _ _
      apply costs_pure
      intro found same
      cases same
      exact ⟨Partition.mem_unseen read.1 known, Partition.unseen_cons⟩

end ChainWalk

instance : Walk.Roaming ChainWalk Transaction where
  place := Transaction.address
  fresh := ChainWalk.fresh
  fine _ _ := True
  fresh_subset partition walk := by
    cases walk with
    | ended => exact Finset.empty_subset _
    | walking next stop visited => exact Partition.unseen_subset
  step_ended _ _ := rfl
  costs_step partition walk :=
    (ChainWalk.costs_step partition walk).mono (Nat.le_refl 1)
      fun _ narrows next known => ⟨trivial, narrows next known⟩

namespace RecordWalk

/-- Reading a log record asks for one block, which has room for the entries. -/
theorem costs_readRecord (partition : Partition) (block : Address) :
    (readRecord partition block : DiskM δ LogRecord).Costs Disk.traffic 1 fun record =>
      (block ≠ 0 ∧ block.toNat < partition.length) ∧
        record.entries.length ≤ LogRecord.capacity partition.blockSize := by
  unfold readRecord
  apply (DiskM.costs_readPointer partition block).andThen
  intro content read
  cases decoded : LogRecord.decode? content with
  | none => exact costs_throw _
  | some record => exact costs_pure ⟨read.1, LogRecord.length_entries_le decoded read.2⟩

/-- The blocks that a walk along log records may still go to. -/
def fresh (partition : Partition) : RecordWalk → Finset Nat
  | ended => ∅
  | walking _ _ _ visited => partition.unseen visited

/-- A step along log records asks for one block at most, a new one. -/
theorem costs_step (partition : Partition) (walk : RecordWalk) :
    (walk.step partition : DiskM δ (Option ((Address × LogRecord) × RecordWalk))).Costs
      Disk.traffic 1 fun found => ∀ next ∈ found,
        next.1.2.entries.length ≤ LogRecord.capacity partition.blockSize ∧
        next.1.1.toNat ∈ walk.fresh partition ∧
        next.2.fresh partition ⊆ (walk.fresh partition).erase next.1.1.toNat := by
  cases walk with
  | ended => exact costs_pure_le nofun
  | walking address id next visited =>
    rw [step]
    by_cases last : next = address
    · rw [if_pos last]
      exact costs_pure_le nofun
    rw [if_neg last]
    by_cases known : next ∈ visited
    · rw [if_pos known]
      exact (DiskM.costs_refuse _ _).le (Nat.zero_le 1)
    rw [if_neg known]
    apply (DiskM.costs_orReport _ (costs_readRecord partition next)).andThen
    intro record read
    apply costs_pure
    intro found same
    cases same
    refine ⟨read.2, Partition.mem_unseen read.1 known, ?_⟩
    by_cases loops : record.next = next
    · simp only [loops, if_true, fresh, Finset.empty_subset]
    · simp only [loops, if_false, fresh, Partition.unseen_cons]

end RecordWalk

instance : Walk.Roaming RecordWalk (Address × LogRecord) where
  place := Prod.fst
  fresh := RecordWalk.fresh
  fine partition item := item.2.entries.length ≤ LogRecord.capacity partition.blockSize
  fresh_subset partition walk := by
    cases walk with
    | ended => exact Finset.empty_subset _
    | walking address id next visited => exact Partition.unseen_subset
  step_ended _ _ := rfl
  costs_step := RecordWalk.costs_step

namespace Partition

/-- The number of blocks that a journal pointer may lead to. -/
def places (partition : Partition) : Nat := partition.length - 1

/-- The number of entries that a log record has room for. -/
def slots (partition : Partition) : Nat := LogRecord.capacity partition.blockSize

/-- How many blocks a transaction has at most. -/
def txLimit (partition : Partition) : Nat := 1 + partition.places * (1 + partition.slots)

/-- How many blocks transactions have at most. -/
def blockLimit (partition : Partition) : Nat := partition.places * partition.txLimit

end Partition

namespace BlockWalk

/-- The number of blocks that a walk may still pass. -/
def limit (partition : Partition) : BlockWalk → Nat
  | ended => 0
  | walking transactions records wandered =>
    Walk.limit partition transactions * partition.txLimit +
      Walk.limit partition records * (1 + partition.slots) + wandered.length

/-- A step to the next transaction leaves fewer blocks. -/
theorem costs_stepTransaction (partition : Partition) (transactions : ChainWalk)
    (records : RecordWalk) :
    (stepTransaction partition transactions :
      DiskM δ (Option ((Address × BlockKind) × BlockWalk))).Costs Disk.traffic 1 fun found =>
        ∀ next ∈ found,
          next.2.limit partition < (walking transactions records []).limit partition := by
  apply (Limited.costs_step partition transactions).andThen
  intro found shrinks
  cases found with
  | none => exact costs_pure nofun
  | some next =>
    apply costs_pure
    intro found same
    cases same
    have scaled := Nat.mul_le_mul_right partition.txLimit (shrinks next rfl).2
    have started : Walk.limit partition (RecordWalk.start next.1) ≤ partition.places := limit_le _
    have filled := Nat.mul_le_mul_right (1 + partition.slots) started
    rw [Nat.succ_mul] at scaled
    simp only [limit, List.length_nil, Nat.add_zero]
    unfold Partition.txLimit at scaled ⊢
    omega

/-- A step to the next log record or transaction leaves fewer blocks. -/
theorem costs_stepRecord (partition : Partition) (transactions : ChainWalk)
    (records : RecordWalk) :
    (stepRecord partition transactions records :
      DiskM δ (Option ((Address × BlockKind) × BlockWalk))).Costs Disk.traffic (1 + 1) fun found =>
        ∀ next ∈ found,
          next.2.limit partition < (walking transactions records []).limit partition := by
  apply (Limited.costs_step partition records).bind
  intro found shrinks
  cases found with
  | none => exact costs_stepTransaction partition transactions records
  | some next =>
    obtain ⟨⟨block, record⟩, rest⟩ := next
    have known := shrinks _ rfl
    have filled : record.entries.length ≤ partition.slots := known.1
    have fewer : Walk.limit partition rest < Walk.limit partition records := known.2
    have scaled := Nat.mul_le_mul_right (1 + partition.slots) (Nat.succ_le_of_lt fewer)
    apply costs_pure_le
    intro found same
    cases same
    rw [Nat.succ_mul] at scaled
    simp only [limit, List.length_map, List.length_nil, Nat.add_zero]
    omega

/-- A step to the next block leaves fewer blocks. -/
theorem costs_step (partition : Partition) (walk : BlockWalk) :
    (step partition walk : DiskM δ (Option ((Address × BlockKind) × BlockWalk))).Costs
      Disk.traffic 2 fun found =>
        ∀ next ∈ found, True ∧ next.2.limit partition < walk.limit partition := by
  cases walk with
  | ended => exact costs_pure_le nofun
  | walking transactions records wandered =>
    cases wandered with
    | nil =>
      apply (costs_stepRecord partition transactions records).mono (Nat.le_refl 2)
      exact fun _ shrinks next known => ⟨trivial, shrinks next known⟩
    | cons block wandered =>
      apply costs_pure_le
      intro found same
      cases same
      exact ⟨trivial, Nat.lt_succ_self _⟩

/-- The walk over the blocks of transactions passes as many as these have at most. -/
theorem limit_start_le (partition : Partition) (newest stop : Address) :
    (start newest stop).limit partition ≤ partition.blockLimit := by
  have chained : Walk.limit partition (ChainWalk.start newest stop) ≤ partition.places := limit_le _
  have none : Walk.limit partition RecordWalk.ended = 0 := rfl
  have scaled := Nat.mul_le_mul_right partition.txLimit chained
  simp only [start, limit, none, Nat.zero_mul, List.length_nil, Nat.add_zero]
  exact scaled

end BlockWalk

instance : Walk.Limited BlockWalk (Address × BlockKind) where
  limit := BlockWalk.limit
  ask := 2
  fine _ _ := True
  step_ended _ _ := rfl
  costs_step := BlockWalk.costs_step

end JournaledVolume
