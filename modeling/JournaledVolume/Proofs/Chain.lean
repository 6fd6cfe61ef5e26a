import JournaledVolume.Journal.ChainWalk
import JournaledVolume.Proofs.Trail

/-!
# The chains on disk

`TxChain` and `RecordChain` say what the pointers on disk spell: the transactions from one down to
where a chain stops, and the log records of a transaction up to the one that leads back to its
header or to itself. No block occurs twice on a chain.

The walks over the journal follow exactly these chains, and fail where there is none.
-/

namespace JournaledVolume

open JournaledVolume.Action

namespace Partition

variable (partition : Partition) (image : Image)

/-- What the block holds that a journal pointer leads to, if the pointer may lead there. -/
def follow (block : Address) : Option Bytes :=
  if block = 0 ∨ partition.length ≤ block.toNat then none else some (image block.toNat)

/-- The transaction header that a journal pointer leads to. -/
def txHeaderAt (block : Address) : Option TxHeader :=
  (partition.follow image block).bind TxHeader.decode?

/-- The log record that a journal pointer leads to. -/
def recordAt (block : Address) : Option LogRecord :=
  (partition.follow image block).bind LogRecord.decode?

variable {partition image} {other : Image} {block : Address}

/-- A pointer may lead to any block of the partition but the first. -/
theorem not_outside : ¬ (block = 0 ∨ partition.length ≤ block.toNat) ↔
    block ≠ 0 ∧ block.toNat < partition.length := by
  rw [not_or, not_le]

/-- Images that agree on a block agree on what a pointer to it leads to. -/
theorem follow_congr (same : image block.toNat = other block.toNat) :
    partition.follow image block = partition.follow other block := by
  rw [follow, follow, same]

/-- A pointer that leads to a block leads there in a longer partition as well. -/
theorem follow_transfer {longer : Partition} {target : Image} {content : Bytes}
    (fits : partition.length ≤ longer.length) (same : target block.toNat = image block.toNat)
    (found : partition.follow image block = some content) :
    longer.follow target block = some content := by
  unfold follow at found
  split at found
  · exact nomatch found
  · next named =>
    have inside := not_outside.1 named
    rw [follow, if_neg (not_outside.2 ⟨inside.1, lt_of_lt_of_le inside.2 fits⟩), same]
    exact found

/-- What is read where a pointer leads is read there in a longer partition as well. -/
theorem bind_follow_transfer {α : Type} {decode : Bytes → Option α} {value : α}
    {longer : Partition} {target : Image} (fits : partition.length ≤ longer.length)
    (same : target block.toNat = image block.toNat)
    (found : (partition.follow image block).bind decode = some value) :
    (longer.follow target block).bind decode = some value := by
  obtain ⟨content, leads, decoded⟩ := Option.bind_eq_some_iff.1 found
  rw [follow_transfer fits same leads]
  exact decoded

end Partition

/-- The transactions from one down to where a chain stops, newest first. -/
inductive TxChain (read : Address → Option TxHeader) (stop : Address) :
    Address → List Transaction → Prop where
  /-- The chain leaves out the transaction that it stops at. -/
  | stop : TxChain read stop stop []
  /-- A header leads to the transaction before it. -/
  | link {next : Address} {header : TxHeader} {older : List Transaction} (differs : next ≠ stop)
    (found : read next = some header) (new : next ∉ older.map Transaction.address)
    (chain : TxChain read stop header.previous older) :
    TxChain read stop next (⟨next, header⟩ :: older)

/-- The log records of the transaction with its header at `home`, from one of them on. -/
inductive RecordChain (read : Address → Option LogRecord) (home : Address) :
    Address → List (Address × LogRecord) → Prop where
  /-- The chain is back at the transaction header. -/
  | back : RecordChain read home home []
  /-- A record that points to itself is the last one. -/
  | last {next : Address} {record : LogRecord} (differs : next ≠ home)
    (found : read next = some record) (loops : record.next = next) :
    RecordChain read home next [(next, record)]
  /-- A record leads to the one behind it. -/
  | link {next : Address} {record : LogRecord} {later : List (Address × LogRecord)}
    (differs : next ≠ home) (found : read next = some record) (goes : record.next ≠ next)
    (new : next ∉ later.map Prod.fst) (chain : RecordChain read home record.next later) :
    RecordChain read home next ((next, record) :: later)

namespace TxChain

variable {read other : Address → Option TxHeader} {stop next : Address} {items : List Transaction}

/-- Every transaction on the chain is as its header says. -/
theorem found (chain : TxChain read stop next items) :
    ∀ transaction ∈ items, read transaction.address = some transaction.header := by
  induction chain with
  | stop => nofun
  | link _ found _ _ ih => exact List.forall_mem_cons.2 ⟨found, ih⟩

/-- A chain with something on it starts with the transaction that the pointer leads to. -/
theorem exists_newest (chain : TxChain read stop next items) (differs : next ≠ stop) :
    ∃ newest older, items = newest :: older ∧ newest.address = next := by
  cases chain with
  | stop => exact (differs rfl).elim
  | link => exact ⟨_, _, rfl, rfl⟩

/-- Where the headers of a chain read the same, it is a chain. -/
theorem congr (chain : TxChain read stop next items)
    (same : ∀ transaction ∈ items, read transaction.address = other transaction.address) :
    TxChain other stop next items := by
  induction chain with
  | stop => exact .stop
  | link differs found new _ ih =>
    obtain ⟨first, later⟩ := List.forall_mem_cons.1 same
    exact .link differs (first ▸ found) new (ih later)

end TxChain

namespace RecordChain

variable {read other : Address → Option LogRecord} {home next : Address}
  {items : List (Address × LogRecord)}

/-- Where the records of a chain read the same, it is a chain. -/
theorem congr (chain : RecordChain read home next items)
    (same : ∀ item ∈ items, read item.1 = other item.1) : RecordChain other home next items := by
  induction chain with
  | back => exact .back
  | last differs found loops =>
    exact .last differs ((List.forall_mem_cons.1 same).1 ▸ found) loops
  | link differs found goes new _ ih =>
    obtain ⟨first, later⟩ := List.forall_mem_cons.1 same
    exact .link differs (first ▸ found) goes new (ih later)

end RecordChain

namespace DiskM

variable {partition : Partition} {disk : Disk Store} {block : Address}

/-- A pointer that may be followed passes the check. -/
theorem checkPointer_of_named (named : block ≠ 0 ∧ block.toNat < partition.length) :
    (checkPointer partition block : DiskM Store Unit) = pure () :=
  if_neg (Partition.not_outside.2 named)

/-- The block that a pointer leads to is read, or the pointer is refused. -/
theorem ends_readPointer (lies : partition.LiesOn disk.device.shape) :
    Ends (readPointer partition block) disk
      (fun content after => partition.follow (disk.image partition) block = some content ∧
        disk.Ran after (.reads 1))
      fun error after =>
        disk.Refused after error (partition.follow (disk.image partition) block).isSome := by
  unfold readPointer checkPointer
  by_cases outside : block = 0 ∨ partition.length ≤ block.toNat
  · have nothing : partition.follow (disk.image partition) block = none := if_pos outside
    rw [if_pos outside, nothing]
    exact ends_throw (.inr ⟨nofun, rfl, 0, .nothing rfl rfl⟩)
  · have found : partition.follow (disk.image partition) block =
        some (disk.image partition block.toNat) := if_neg outside
    have inside : block.toNat < partition.length := by omega
    rw [if_neg outside, found]
    refine (ends_readBlock lies inside).mono ?_ fun _ _ broke => .inl broke
    rintro content after ⟨rfl, ran⟩
    exact ⟨rfl, ran⟩

/-- A refusal stays one when it is reported. -/
theorem ends_orReport_refused {α : Type} {event : Error → Event} {act : DiskM Store α}
    {returns : α → Disk Store → Prop} {orderly : Prop}
    (silent : ∀ error, (event error).copy? = none)
    (ends : Ends act disk returns fun error after => disk.Refused after error orderly) :
    Ends (orReport event act) disk returns fun error after => disk.Refused after error orderly := by
  apply ends_orReport
  exact ends.allow fun error _ refused => refused.report (silent error)

/-- A refusal to go on reads nothing. -/
theorem ends_refuse_damage {α : Type} {event : Event} {defect : Defect}
    {returns : α → Disk Store → Prop} {orderly : Prop} (disorder : ¬ orderly)
    (silent : event.copy? = none) (damage : defect.toError.damage?.isSome) :
    Ends (refuse event defect : DiskM Store α) disk returns fun error after =>
      disk.Refused after error orderly := by
  apply ends_refuse.allow
  rintro error after ⟨rfl, ran⟩
  rw [silent] at ran
  exact .inr ⟨disorder, damage, 0, ran⟩

end DiskM

namespace ChainWalk

variable {partition : Partition} {image : Image} {disk : Disk Store}

/-- What is to be seen of the transaction chain. -/
def look (partition : Partition) (image : Image) :
    ChainWalk → Option (Option (Transaction × ChainWalk))
  | ended => some none
  | walking next stop visited =>
    if next = stop then some none
    else if next ∈ visited then none
    else (partition.txHeaderAt image next).map fun header =>
      some (⟨next, header⟩, walking header.previous stop (next :: visited))

/-- A step along the transaction chain finds what is to be seen. -/
theorem ends_step (walk : ChainWalk) (lies : partition.LiesOn disk.device.shape) :
    Ends (step partition walk) disk
      (fun found after => look partition (disk.image partition) walk = some found ∧
        disk.Ran after (.reads (found.elim 0 fun _ => 1)))
      fun error after =>
        disk.Refused after error (look partition (disk.image partition) walk).isSome := by
  cases walk with
  | ended => exact ends_pure ⟨rfl, .nothing rfl rfl⟩
  | walking next stop visited =>
    by_cases last : next = stop
    · simp only [step, look, if_pos last]
      exact ends_pure ⟨rfl, .nothing rfl rfl⟩
    by_cases known : next ∈ visited
    · simp only [step, look, if_neg last, if_pos known]
      exact DiskM.ends_refuse_damage Bool.false_ne_true rfl rfl
    simp only [step, look, if_neg last, if_neg known, Partition.txHeaderAt]
    refine Ends.bind (DiskM.ends_readPointer lies) ?_ ?_
    · rintro content between ⟨found, ran⟩
      simp only [found, Option.bind_some]
      cases decoded : TxHeader.decode? content with
      | none =>
        apply (DiskM.ends_refuse_damage Bool.false_ne_true rfl rfl).allow
        exact fun _ _ refused => ran.refused refused
      | some header =>
        refine Ends.andThen DiskM.ends_emit ?_
        rintro _ after told
        exact ends_pure ⟨rfl, ran.trans told⟩
    · intro error after refused
      refine refused.mono fun sees => ?_
      rw [Option.isSome_map] at sees
      exact Option.isSome_of_isSome_bind sees

end ChainWalk

instance : Walk.Sighted ChainWalk Transaction where
  look := ChainWalk.look
  cost _ := 1
  ends_step := ChainWalk.ends_step

namespace ChainWalk

variable {partition : Partition} {image : Image} {next stop : Address} {visited : List Address}
  {items : List Transaction}

/-- The walk is over where it stops. -/
theorem look_eq_over : Walk.look partition image (walking next stop visited) = some none ↔
    next = stop := by
  simp only [Walk.look, look]
  split
  · next last => simp only [last]
  · next differs => split <;> simp [differs]

/-- The walk finds a header that it has not visited. -/
theorem look_eq_item {item : Transaction} {rest : ChainWalk} :
    Walk.look partition image (walking next stop visited) = some (some (item, rest)) ↔
      next ≠ stop ∧ next ∉ visited ∧ ∃ header, partition.txHeaderAt image next = some header ∧
        item = ⟨next, header⟩ ∧ rest = walking header.previous stop (next :: visited) := by
  simp only [Walk.look, look]
  split
  · next last => simp [last]
  · next differs =>
    split
    · next known => simp [known]
    · next new => simp [differs, new, eq_comm]

/-- What is seen of the transaction chain depends on the block of the transaction only. -/
theorem look_transfer {longer : Partition} {target : Image} {walk : ChainWalk}
    {found : Option (Transaction × ChainWalk)} (fits : partition.length ≤ longer.length)
    (seen : Walk.look partition image walk = some found)
    (same : ∀ next ∈ found, target next.1.address.toNat = image next.1.address.toNat) :
    Walk.look longer target walk = some found := by
  cases walk with
  | ended => exact seen
  | walking next stop visited =>
    rcases found with _ | ⟨transaction, rest⟩
    · exact look_eq_over.2 (look_eq_over.1 seen)
    · obtain ⟨differs, new, header, found, rfl, rfl⟩ := look_eq_item.1 seen
      have holds := Partition.bind_follow_transfer fits (same _ rfl) found
      exact look_eq_item.2 ⟨differs, new, header, holds, rfl, rfl⟩

instance : Walk.Located ChainWalk Transaction where
  address := Transaction.address
  look_transfer := look_transfer

/-- The trail of a walk along the transaction chain is this chain, if none of it was visited. -/
theorem trail_iff : Walk.Trail partition image (walking next stop visited) items ↔
    TxChain (partition.txHeaderAt image) stop next items ∧
      ∀ transaction ∈ items, transaction.address ∉ visited := by
  constructor
  · intro trail
    generalize start : walking next stop visited = walk at trail
    induction trail generalizing next visited with
    | ended seen =>
      subst start
      rw [look_eq_over.1 seen]
      exact ⟨.stop, nofun⟩
    | step seen trail ih =>
      subst start
      obtain ⟨differs, new, header, found, rfl, rfl⟩ := look_eq_item.1 seen
      obtain ⟨chain, fresh⟩ := ih rfl
      simp only [List.mem_cons, not_or] at fresh
      refine ⟨.link differs found ?_ chain, List.forall_mem_cons.2 ⟨new, ?_⟩⟩
      · rintro repeats
        obtain ⟨transaction, member, same⟩ := List.mem_map.1 repeats
        exact (fresh transaction member).1 same
      · exact fun transaction member => (fresh transaction member).2
  · rintro ⟨chain, new⟩
    induction chain generalizing visited with
    | stop => exact .ended (look_eq_over.2 rfl)
    | link differs found fresh chain ih =>
      obtain ⟨first, later⟩ := List.forall_mem_cons.1 new
      refine .step (look_eq_item.2 ⟨differs, first, _, found, rfl, rfl⟩) (ih ?_)
      intro transaction member
      rw [List.mem_cons, not_or]
      constructor
      · intro same
        exact fresh (List.mem_map.2 ⟨_, member, same⟩)
      · exact later transaction member

/-- Each transaction of a chain takes one request. -/
theorem sum_cost (items : List Transaction) :
    (items.map (Walk.cost ChainWalk)).sum = items.length := by
  show (items.map fun _ => 1).sum = items.length
  rw [List.map_const', List.sum_replicate_nat, Nat.mul_one]

/-- What the blocks hold decides the chain of transactions. -/
theorem chain_unique {others : List Transaction}
    (left : TxChain (partition.txHeaderAt image) stop next items)
    (right : TxChain (partition.txHeaderAt image) stop next others) : items = others :=
  (trail_iff.2 ⟨left, fun _ _ => List.not_mem_nil⟩).unique
    (trail_iff.2 ⟨right, fun _ _ => List.not_mem_nil⟩)

end ChainWalk

namespace RecordWalk

variable {partition : Partition} {image : Image} {disk : Disk Store}

/-- What is to be seen of a chain of log records. -/
def look (partition : Partition) (image : Image) :
    RecordWalk → Option (Option ((Address × LogRecord) × RecordWalk))
  | ended => some none
  | walking address id next visited =>
    if next = address then some none
    else if next ∈ visited then none
    else (partition.recordAt image next).map fun record =>
      some ((next, record), if record.next = next then ended
        else walking address id record.next (next :: visited))

/-- The log record that a pointer leads to is read, or refused. -/
theorem ends_readRecord {block : Address} (lies : partition.LiesOn disk.device.shape) :
    Ends (readRecord partition block) disk
      (fun record after => partition.recordAt (disk.image partition) block = some record ∧
        disk.Ran after (.reads 1))
      fun error after =>
        disk.Refused after error (partition.recordAt (disk.image partition) block).isSome := by
  refine Ends.bind (DiskM.ends_readPointer lies) ?_ ?_
  · rintro content after ⟨found, ran⟩
    simp only [Partition.recordAt, found, Option.bind_some]
    cases decoded : LogRecord.decode? content with
    | none => exact ends_throw (.inr ⟨nofun, rfl, 1, ran⟩)
    | some record => exact ends_pure ⟨rfl, ran⟩
  · intro error after refused
    exact refused.mono Option.isSome_of_isSome_bind

/-- A step along a chain of log records finds what is to be seen. -/
theorem ends_step (walk : RecordWalk) (lies : partition.LiesOn disk.device.shape) :
    Ends (step partition walk) disk
      (fun found after => look partition (disk.image partition) walk = some found ∧
        disk.Ran after (.reads (found.elim 0 fun _ => 1)))
      fun error after =>
        disk.Refused after error (look partition (disk.image partition) walk).isSome := by
  cases walk with
  | ended => exact ends_pure ⟨rfl, .nothing rfl rfl⟩
  | walking address id next visited =>
    by_cases last : next = address
    · simp only [step, look, if_pos last]
      exact ends_pure ⟨rfl, .nothing rfl rfl⟩
    by_cases known : next ∈ visited
    · simp only [step, look, if_neg last, if_pos known]
      exact DiskM.ends_refuse_damage Bool.false_ne_true rfl rfl
    simp only [step, look, if_neg last, if_neg known]
    refine Ends.bind (DiskM.ends_orReport_refused (fun _ => rfl) (ends_readRecord lies)) ?_ ?_
    · rintro record after ⟨found, ran⟩
      rw [found]
      exact ends_pure ⟨rfl, ran⟩
    · intro error after refused
      refine refused.mono fun sees => ?_
      rwa [Option.isSome_map] at sees

end RecordWalk

instance : Walk.Sighted RecordWalk (Address × LogRecord) where
  look := RecordWalk.look
  cost _ := 1
  ends_step := RecordWalk.ends_step

namespace RecordWalk

variable {partition : Partition} {image : Image} {address next : Address} {id : UInt64}
  {visited : List Address} {items : List (Address × LogRecord)}

/-- The walk is over at the transaction header. -/
theorem look_eq_over : Walk.look partition image (walking address id next visited) = some none ↔
    next = address := by
  simp only [Walk.look, look]
  split
  · next last => simp only [last]
  · next differs => split <;> simp [differs]

/-- The walk finds a record that it has not visited. -/
theorem look_eq_item {item : Address × LogRecord} {rest : RecordWalk} :
    Walk.look partition image (walking address id next visited) = some (some (item, rest)) ↔
      next ≠ address ∧ next ∉ visited ∧ ∃ record, partition.recordAt image next = some record ∧
        item = (next, record) ∧ rest = if record.next = next then ended
          else walking address id record.next (next :: visited) := by
  simp only [Walk.look, look]
  split
  · next last => simp [last]
  · next differs =>
    split
    · next known => simp [known]
    · next new => simp [differs, new, eq_comm]

/-- What is seen of a chain of log records depends on the block of the record only. -/
theorem look_transfer {longer : Partition} {target : Image} {walk : RecordWalk}
    {found : Option ((Address × LogRecord) × RecordWalk)}
    (fits : partition.length ≤ longer.length)
    (seen : Walk.look partition image walk = some found)
    (same : ∀ next ∈ found, target next.1.1.toNat = image next.1.1.toNat) :
    Walk.look longer target walk = some found := by
  cases walk with
  | ended => exact seen
  | walking address id next visited =>
    rcases found with _ | ⟨item, rest⟩
    · exact look_eq_over.2 (look_eq_over.1 seen)
    · obtain ⟨differs, new, record, found, rfl, rfl⟩ := look_eq_item.1 seen
      have holds := Partition.bind_follow_transfer fits (same _ rfl) found
      exact look_eq_item.2 ⟨differs, new, record, holds, rfl, rfl⟩

/-- A walk that is over has passed everything. -/
theorem trail_ended : Walk.Trail partition image RecordWalk.ended items ↔ items = [] := by
  constructor
  · rintro (_ | ⟨seen, _⟩)
    · rfl
    · exact nomatch seen
  · rintro rfl
    exact .ended rfl

/-- The trail of a walk along the log records of a transaction is their chain, if none of it was
visited. -/
theorem trail_iff : Walk.Trail partition image (walking address id next visited) items ↔
    RecordChain (partition.recordAt image) address next items ∧
      ∀ item ∈ items, item.1 ∉ visited := by
  constructor
  · intro trail
    generalize start : walking address id next visited = walk at trail
    induction trail generalizing next visited with
    | ended seen =>
      subst start
      rw [look_eq_over.1 seen]
      exact ⟨.back, nofun⟩
    | step seen trail ih =>
      subst start
      obtain ⟨differs, new, record, found, rfl, rfl⟩ := look_eq_item.1 seen
      by_cases loops : record.next = next
      · rw [if_pos loops, trail_ended] at trail
        subst trail
        exact ⟨.last differs found loops, List.forall_mem_cons.2 ⟨new, nofun⟩⟩
      · obtain ⟨chain, fresh⟩ := ih (if_neg loops).symm
        simp only [List.mem_cons, not_or] at fresh
        refine ⟨.link differs found loops ?_ chain, List.forall_mem_cons.2 ⟨new, ?_⟩⟩
        · rintro repeats
          obtain ⟨item, member, same⟩ := List.mem_map.1 repeats
          exact (fresh item member).1 same
        · exact fun item member => (fresh item member).2
  · rintro ⟨chain, new⟩
    induction chain generalizing visited with
    | back => exact .ended (look_eq_over.2 rfl)
    | last differs found loops =>
      obtain ⟨first, _⟩ := List.forall_mem_cons.1 new
      refine .step (look_eq_item.2 ⟨differs, first, _, found, rfl, rfl⟩) ?_
      rw [if_pos loops, trail_ended]
    | link differs found goes fresh chain ih =>
      obtain ⟨first, later⟩ := List.forall_mem_cons.1 new
      refine .step (look_eq_item.2 ⟨differs, first, _, found, rfl, rfl⟩) ?_
      rw [if_neg goes]
      apply ih
      intro item member
      rw [List.mem_cons, not_or]
      constructor
      · intro same
        exact fresh (List.mem_map.2 ⟨_, member, same⟩)
      · exact later item member

/-- Each record of a chain takes one request. -/
theorem sum_cost (items : List (Address × LogRecord)) :
    (items.map (Walk.cost RecordWalk)).sum = items.length := by
  show (items.map fun _ => 1).sum = items.length
  rw [List.map_const', List.sum_replicate_nat, Nat.mul_one]

/-- What the blocks hold decides the chain of log records. -/
theorem chain_unique {others : List (Address × LogRecord)}
    (left : RecordChain (partition.recordAt image) address next items)
    (right : RecordChain (partition.recordAt image) address next others) : items = others := by
  have passed {records : List (Address × LogRecord)}
      (chain : RecordChain (partition.recordAt image) address next records) :
      Walk.Trail partition image (walking address 0 next []) records :=
    trail_iff.2 ⟨chain, fun _ _ => List.not_mem_nil⟩
  exact (passed left).unique (passed right)

end RecordWalk

end JournaledVolume
