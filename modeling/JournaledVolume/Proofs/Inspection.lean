import JournaledVolume.Proofs.Usage
import Mathlib.Order.Bounds.Basic

/-!
# What an inspection finds

An inspection reads the chain of pending transactions and examines them from old to new. It is
right: where the chain can be followed, the transactions that it finds good are the longest run of
them, from the oldest on, that can be trusted.
-/

namespace JournaledVolume

open JournaledVolume.Action

namespace Transaction

variable {partition : Partition} {fixed : Bitmap} {transaction : Transaction} {disk : Disk Store}

/-- A transaction is examined by taking all its blocks, or refused. -/
theorem ends_examine (lies : partition.LiesOn disk.device.shape) (usage : Usage) :
    Ends (transaction.examine partition fixed usage) disk
      (fun changed after => ∃ logged : Logged, logged.transaction = transaction ∧
        logged.Read partition (disk.image partition) ∧
        usage.addLogged fixed partition.length logged = .ok changed ∧
        disk.Ran after (.reads logged.records.length))
      fun error after => disk.Refused after error
        (∃ (logged : Logged) (changed : Usage), logged.transaction = transaction ∧
          logged.Read partition (disk.image partition) ∧
          usage.addLogged fixed partition.length logged = .ok changed) := by
  unfold examine
  refine DiskM.ends_accumulate (AttachedM.ends_tryRevise_andThen (fun claimed first => ?_) ?_)
  · have visits := Walk.ends_forEach_tryRevise
      (fun record => Usage.addRecord fixed partition.length record.1 record.2)
      (fun record => (Usage.takes_addRecord record).damage) lies (RecordWalk.start transaction)
      claimed
    refine visits.bind ?_ ?_
    · rintro _ ⟨taken, behind⟩ ⟨records, trail, folded, ran⟩
      obtain ⟨chain, _⟩ := RecordWalk.trail_iff.1 trail
      have spelled : Logged.Read partition (disk.image partition) ⟨transaction, records⟩ := chain
      rw [RecordWalk.sum_cost] at ran
      have added :
          usage.addLogged fixed partition.length ⟨transaction, records⟩ = taken.settle := by
        simp only [Usage.addLogged, Usage.addBlocks, first, bind, Except.bind]
        rw [folded]
      refine AttachedM.ends_tryRevise (fun settled last => ?_) fun error failed => ?_
      · exact ⟨⟨transaction, records⟩, rfl, spelled, added.trans last, ran⟩
      · refine .inr ⟨?_, Usage.settle_damage failed, _, ran⟩
        rintro ⟨logged, changed, rfl, read, taken⟩
        rw [read.unique spelled rfl, added, failed] at taken
        exact nomatch taken
    · intro error after refused
      refine refused.mono ?_
      rintro ⟨logged, changed, rfl, read, added⟩
      obtain ⟨taken, folded⟩ : ∃ taken, logged.records.foldlM (fun usage record =>
          Usage.addRecord fixed partition.length record.1 record.2 usage) claimed = .ok taken := by
        simp only [Usage.addLogged, Usage.addBlocks, first, bind, Except.bind] at added
        split at added
        · exact nomatch added
        · exact ⟨_, ‹_›⟩
      refine ⟨logged.records, taken, ?_, folded⟩
      exact RecordWalk.trail_iff.2 ⟨read, fun _ _ => List.not_mem_nil⟩
  · intro error failed
    refine .inr ⟨?_, (Usage.takes_claim rfl _).damage _ _ failed, 0, .nothing rfl rfl⟩
    rintro ⟨logged, changed, rfl, read, added⟩
    simp only [Usage.addLogged, Usage.addBlocks, failed] at added
    exact nomatch added

/-- How transactions that follow older ones are examined right: all of them can be trusted, or those
before one that cannot. -/
inductive Examined (trusted : List Transaction → Prop) (older : List Transaction) :
    (transactions good : List Transaction) → Option BadTransaction → Prop where
  /-- All can be trusted. -/
  | good {transactions : List Transaction} (holds : trusted (older ++ transactions)) :
    Examined trusted older transactions transactions none
  /-- One cannot be trusted. -/
  | bad {good newer : List Transaction} {next : Transaction} {fault : BadTransaction}
    (holds : trusted (older ++ good)) (fails : ¬ trusted (older ++ good ++ [next]))
    (address : fault.address = next.address.toNat) (id : fault.id = some next.header.id) :
    Examined trusted older (good ++ next :: newer) good (some fault)

/-- A transaction that can be trusted goes over to the older ones. -/
theorem Examined.cons {trusted : List Transaction → Prop} {older newer good : List Transaction}
    {next : Transaction} {bad : Option BadTransaction}
    (examined : Examined trusted (older ++ [next]) newer good bad) :
    Examined trusted older (next :: newer) (next :: good) bad := by
  cases examined with
  | good holds =>
    rw [List.append_assoc] at holds
    exact .good holds
  | bad holds fails address id =>
    rw [List.append_assoc older] at holds fails
    exact .bad holds fails address id

/-- The good transactions are the longest run that can be trusted, from the oldest on. -/
theorem Examined.isGreatest {trusted : List Transaction → Prop}
    {transactions good : List Transaction} {bad : Option BadTransaction}
    (closed : ∀ older newer, trusted (older ++ newer) → trusted older)
    (examined : Examined trusted [] transactions good bad) :
    transactions.take good.length = good ∧
      IsGreatest {count | count ≤ transactions.length ∧ trusted (transactions.take count)}
        good.length := by
  cases examined with
  | good holds =>
    have whole : trusted (transactions.take transactions.length) := by
      rw [List.take_length]
      exact holds
    exact ⟨List.take_length, ⟨le_rfl, whole⟩, fun count within => within.1⟩
  | @bad _ newer next _ holds fails =>
    have taken : (good ++ next :: newer).take good.length = good := List.take_left
    have within : good.length ≤ (good ++ next :: newer).length := by
      rw [List.length_append]
      omega
    have trusts : trusted ((good ++ next :: newer).take good.length) := by
      rw [taken]
      exact holds
    refine ⟨taken, ⟨within, trusts⟩, ?_⟩
    rintro count ⟨_, longer⟩
    -- A longer run holds the transaction behind the good ones, which cannot be trusted.
    by_contra beyond
    obtain ⟨more, rfl⟩ : ∃ more, count = good.length + (more + 1) :=
      ⟨count - good.length - 1, by omega⟩
    rw [List.take_length_add_append, List.take_succ_cons, List.append_cons] at longer
    exact fails (closed _ _ longer)

/-- Where all transactions can be trusted, all are good. -/
theorem Examined.of_trusted {trusted : List Transaction → Prop}
    {older transactions good : List Transaction} {bad : Option BadTransaction}
    (closed : ∀ older newer, trusted (older ++ newer) → trusted older)
    (all : trusted (older ++ transactions))
    (examined : Examined trusted older transactions good bad) :
    good = transactions ∧ bad = none := by
  cases examined with
  | good => exact ⟨rfl, rfl⟩
  | @bad _ newer next _ _ fails =>
    rw [List.append_cons, ← List.append_assoc, ← List.append_assoc] at all
    exact (fails (closed _ _ all)).elim

/-- The transactions are examined up to the first one that cannot be trusted. -/
theorem ends_examineAll (lies : partition.LiesOn disk.device.shape)
    (transactions : List Transaction)
    {older : List Logged} (read : ∀ logged ∈ older, logged.Read partition (disk.image partition))
    (ordered : InOrder fixed partition.length older) :
    Ends (examineAll partition fixed transactions (.behind older)) disk
      (fun result after =>
        (Examined (Trusted partition fixed (disk.image partition))
          (older.map Logged.transaction) transactions result.1 result.2 ∧
          ∃ count, disk.Ran after (.reads count)) ∨
        (disk.Broke after [] ∧ result.2.isSome))
      fun _ after => disk.Broke after [] := by
  induction transactions generalizing older disk with
  | nil =>
    refine ends_pure (.inl ⟨.good ?_, 0, .nothing rfl rfl⟩)
    exact ⟨older, (List.append_nil _).symm, read, ordered⟩
  | cons next newer ih =>
    unfold examineAll
    refine (DiskM.ends_findDamage_refused (ends_examine lies (.behind older))).andThen ?_
    rintro (⟨block, cause⟩ | usage) after found
    · rcases found with broke | ⟨disorder, ran⟩
      · exact ends_pure (.inr ⟨broke, rfl⟩)
      · have holds : Trusted partition fixed (disk.image partition)
            (older.map Logged.transaction ++ []) := ⟨older, (List.append_nil _).symm, read, ordered⟩
        refine ends_pure (.inl ⟨.bad holds ?_ rfl rfl, ran⟩)
        rw [List.append_nil, Trusted.append_singleton read]
        rintro ⟨last, rfl, known, further⟩
        exact disorder ⟨last, _, rfl, known, (Usage.addLogged_behind ordered).2 ⟨further, rfl⟩⟩
    · obtain ⟨last, rfl, known, added, ran⟩ := found
      obtain ⟨further, rfl⟩ := (Usage.addLogged_behind ordered).1 added
      have shape : partition.LiesOn after.device.shape := ran.lies lies
      have all : ∀ logged ∈ older ++ [last], logged.Read partition (after.image partition) := by
        rw [ran.image rfl]
        exact List.forall_mem_append.2 ⟨read, List.forall_mem_singleton.2 known⟩
      have rest := ih shape all further
      rw [ran.image rfl, List.map_append] at rest
      refine Ends.bind rest ?_ fun _ _ broke => ran.broke broke
      rintro ⟨good, bad⟩ behind (⟨examined, count, more⟩ | ⟨broke, found⟩)
      · exact ends_pure (.inl ⟨examined.cons, _, ran.trans more⟩)
      · exact ends_pure (.inr ⟨ran.broke broke, found⟩)

end Transaction

namespace Journal

variable {partition : Partition} {fixed : Bitmap} {journal : Journal} {disk : Disk Store}

/-- The pending transactions are collected, or refused where the chain cannot be followed. -/
theorem ends_pending (lies : partition.LiesOn disk.device.shape) :
    Ends (journal.pending partition) disk
      (fun transactions after => journal.Waits partition (disk.image partition) transactions ∧
        disk.Ran after (.reads transactions.length))
      fun error after => disk.Refused after error
        (∃ transactions, journal.Waits partition (disk.image partition) transactions) := by
  refine Ends.bind (Walk.ends_collect lies journal.chain) ?_ ?_
  · rintro items after ⟨trail, ran⟩
    rw [ChainWalk.sum_cost] at ran
    have chain := (ChainWalk.trail_iff.1 trail).1
    have waits : journal.Waits partition (disk.image partition) items.reverse := by
      rw [Waits, List.reverse_reverse]
      exact chain
    rw [← List.length_reverse] at ran
    exact ends_pure ⟨waits, ran⟩
  · intro error after refused
    refine refused.mono ?_
    rintro ⟨transactions, waits⟩
    exact ⟨_, ChainWalk.trail_iff.2 ⟨waits, fun _ _ => List.not_mem_nil⟩⟩

/-- What an examination of a journal finds out: either how far the pending transactions can be
trusted, or that the chain cannot be followed. -/
inductive Examined (partition : Partition) (fixed : Bitmap) (image : Image) (journal : Journal) :
    List Transaction → Option BadTransaction → Prop where
  /-- The chain leads to the transactions examined. -/
  | chain {transactions good : List Transaction} {bad : Option BadTransaction}
    (waits : journal.Waits partition image transactions)
    (examined : Transaction.Examined (Trusted partition fixed image) [] transactions good bad) :
    Examined partition fixed image journal good bad
  /-- The chain leads nowhere. -/
  | broken {fault : BadTransaction}
    (nowhere : ¬ ∃ transactions, journal.Waits partition image transactions)
    (id : fault.id = none) :
    Examined partition fixed image journal [] (some fault)

/-- Whether an examination found out what there is to be found, or broke off and found a fault. -/
def Found (partition : Partition) (fixed : Bitmap) (journal : Journal) (before after : Disk Store)
    (good : List Transaction) (bad : Option BadTransaction) : Prop :=
  (journal.Examined partition fixed (before.image partition) good bad ∧
    ∃ count, before.Ran after (.reads count)) ∨
  (before.Broke after [] ∧ bad.isSome)

/-- Reporting what is no copy leaves what was found. -/
theorem Found.report {after : Disk Store} {good : List Transaction} {bad : Option BadTransaction}
    {event : Event} (found : journal.Found partition fixed disk after good bad)
    (silent : event.copy? = none) :
    journal.Found partition fixed disk { after with log := after.log.push event } good bad := by
  rcases found with ⟨examined, count, ran⟩ | ⟨broke, known⟩
  · exact .inl ⟨examined, count, ran.report silent⟩
  · exact .inr ⟨broke.log _, known⟩

/-- The examination finds out what there is to be found, unless it breaks off. -/
theorem ends_examine (lies : partition.LiesOn disk.device.shape) :
    Ends (journal.examine partition fixed) disk
      (fun result after => journal.Found partition fixed disk after result.1 result.2)
      fun _ after => disk.Broke after [] := by
  refine (DiskM.ends_findDamage_refused (ends_pending lies)).andThen ?_
  rintro (⟨block, cause⟩ | transactions) after found
  · rcases found with broke | ⟨nowhere, ran⟩
    · exact ends_pure (.inr ⟨broke, rfl⟩)
    · exact ends_pure (.inl ⟨.broken nowhere rfl, ran⟩)
  · obtain ⟨waits, ran⟩ := found
    have shape : partition.LiesOn after.device.shape := ran.lies lies
    have rest := Transaction.ends_examineAll shape transactions (List.forall_mem_nil _)
      (Usage.inOrder_nil : InOrder fixed partition.length [])
    rw [ran.image rfl] at rest
    refine rest.mono ?_ fun _ _ broke => ran.broke broke
    rintro ⟨good, bad⟩ behind (⟨examined, count, more⟩ | ⟨broke, found⟩)
    · exact .inl ⟨.chain waits examined, _, ran.trans more⟩
    · exact .inr ⟨ran.broke broke, found⟩

/-- The answer of a check, and the handle that it leaves, after an examination. -/
def verdict (journal : Journal) (mode : CheckMode) (good : List Transaction) :
    Option BadTransaction → Inspection × Journal
  | none => ({ valid := good.length, commitPoint := journal.header.lastCommitted }, journal)
  | some fault =>
    let commitPoint := (good.getLast?.map Transaction.address).getD journal.footer.lastFlushed
    if mode.repairs then
      ({ findings := { fixed := true }, valid := good.length, bad := some fault, commitPoint },
        journal.commitAt commitPoint)
    else
      ({ findings := { fixable := true }, valid := good.length, bad := some fault, commitPoint },
        journal)

/-- A check of a pending journal answers what the examination found out. It fails where memory has
no room for the bitmaps, or breaks off. -/
theorem ends_check {mode : CheckMode} (pending : journal.state = .pending)
    (lies : partition.LiesOn disk.device.shape) :
    Ends (journal.check partition fixed mode) disk
      (fun result after => ∃ good bad, result = journal.verdict mode good bad ∧
        journal.Found partition fixed disk after good bad)
      fun error after => Bitmap.checkRoom partition.length = .error error ∨
        disk.Broke after [] := by
  have full : journal.isEmpty = false := by
    rw [isEmpty, pending]
    rfl
  unfold check
  simp only [full, Bool.false_eq_true, if_false]
  refine ends_ofExcept (fun _ _ => ?_) fun error refused => .inl refused
  refine Ends.bind (ends_examine lies) ?_ fun _ _ broke => .inr broke
  rintro ⟨good, bad⟩ after found
  cases bad with
  | none => exact ends_pure ⟨good, none, rfl, found⟩
  | some fault =>
    refine DiskM.ends_emit_andThen ?_
    cases repairs : mode.repairs with
    | false =>
      refine ends_pure ⟨good, some fault, ?_, found.report rfl⟩
      simp only [verdict, repairs, Bool.false_eq_true, if_false]
    | true =>
      refine DiskM.ends_emit_andThen (ends_pure ⟨good, some fault, ?_, ?_⟩)
      · simp only [verdict, repairs, if_true]
      · exact (found.report rfl).report rfl

/-- A check leaves an empty journal, and reads nothing. -/
theorem of_check_of_empty {inspection : Inspection} {handle : Journal} {after : Disk Store}
    (empty : journal.state = .empty)
    (checks : journal.check partition fixed mode disk = .ok (inspection, handle) after) :
    handle = journal ∧ after = disk := by
  have isEmpty : journal.isEmpty = true := by rw [isEmpty, empty]; rfl
  rw [check, if_pos isEmpty] at checks
  obtain ⟨same, left⟩ := of_pure_ok checks
  exact ⟨(congrArg Prod.snd same).symm, left.symm⟩

/-- A check of a pending journal answers on a device that answers every request, where memory has
room for the bitmaps. -/
theorem exists_check (fixed : Bitmap) (mode : CheckMode) (pending : journal.state = .pending)
    (lies : partition.LiesOn disk.device.shape) (sound : disk.device.Sound)
    (room : Bitmap.checkRoom partition.length = .ok ()) :
    ∃ good bad after,
      journal.check partition fixed mode disk = .ok (journal.verdict mode good bad) after ∧
      journal.Found partition fixed disk after good bad := by
  have never (error : Error) (after : Disk Store) :
      ¬ (Bitmap.checkRoom partition.length = .error error ∨ disk.Broke after []) := by
    rintro (refused | broke)
    · exact nomatch room.symm.trans refused
    · exact broke.not_sound sound
  obtain ⟨_, after, ran, good, bad, rfl, found⟩ := (ends_check pending lies).exists_ok never
  exact ⟨good, bad, after, ran, found⟩

/-- A check of a pending journal accepts transactions that are in order, where memory has room for
the bitmaps. -/
theorem check_of_inOrder (mode : CheckMode) {logged : List Logged}
    (pending : journal.state = .pending) (lies : partition.LiesOn disk.device.shape)
    (sound : disk.device.Sound) (room : Bitmap.checkRoom partition.length = .ok ())
    (pends : journal.Pends partition (disk.image partition) logged)
    (ordered : InOrder fixed partition.length logged) :
    ∃ after, journal.check partition fixed mode disk = .ok
        ({ valid := logged.length, commitPoint := journal.header.lastCommitted }, journal) after ∧
      ∃ count, disk.Ran after (.reads count) := by
  obtain ⟨good, bad, after, ran, found⟩ := exists_check fixed mode pending lies sound room
  rcases found with ⟨examined, looked⟩ | ⟨broke, _⟩
  · cases examined with
    | broken nowhere => exact (nowhere ⟨_, pends.chain⟩).elim
    | chain waits examined =>
      obtain rfl := waits.unique pends.chain
      obtain ⟨rfl, rfl⟩ := examined.of_trusted (fun _ _ => Trusted.of_append)
        ⟨logged, rfl, pends.records, ordered⟩
      rw [verdict, List.length_map] at ran
      exact ⟨after, ran, looked⟩
  · exact (broke.not_sound sound).elim

end Journal

/-- Whether an answer cuts the pending transactions back to the longest run of them, from the oldest
on, that can be trusted. -/
structure Inspection.Salvages (trusted : List Transaction → Prop) (lastFlushed : Address)
    (transactions : List Transaction) (inspection : Inspection) : Prop where
  /-- The good transactions are the longest such run. -/
  longest : IsGreatest {count | count ≤ transactions.length ∧ trusted (transactions.take count)}
    inspection.valid
  /-- There is no bad transaction only if all are good. -/
  clean : inspection.bad = none ↔ inspection.valid = transactions.length
  /-- The bad transaction is the one behind the good ones. -/
  names : ∀ fault, inspection.bad = some fault → ∃ next,
    transactions[inspection.valid]? = some next ∧ fault.address = next.address.toNat ∧
      fault.id = some next.header.id
  /-- The commit point is the newest good transaction; without one it is where the chain stops. -/
  commitPoint : inspection.commitPoint =
    ((transactions.take inspection.valid).getLast?.map Transaction.address).getD lastFlushed

/-- Whether an answer trusts none of the pending transactions, since their chain is damaged. -/
structure Inspection.Dismisses (lastFlushed : Address) (inspection : Inspection) : Prop where
  /-- A fault is reported, but no transaction is known to have it. -/
  unknown : ∃ fault, inspection.bad = some fault ∧ fault.id = none
  /-- No transaction is good. -/
  valid : inspection.valid = 0
  /-- The commit point is where the chain stops. -/
  commitPoint : inspection.commitPoint = lastFlushed

/-- Whether a check in a mode does to a journal handle what its answer says. -/
structure Journal.Settles (mode : CheckMode) (journal : Journal) (inspection : Inspection)
    (handle : Journal) : Prop where
  /-- Without a bad transaction there is nothing to do. -/
  clean : inspection.bad = none → inspection.findings = ∅ ∧ handle = journal
  /-- A mode that repairs moves the commit point in memory. -/
  repairs : inspection.bad ≠ none → mode ≠ .check → inspection.findings = { fixed := true } ∧
    handle = { journal with header.lastCommitted := inspection.commitPoint, dirty := true }
  /-- A mode that does not repair reports that a repair could. -/
  reports : inspection.bad ≠ none → mode = .check → inspection.findings = { fixable := true } ∧
    handle = journal

namespace Journal

variable {partition : Partition} {fixed : Bitmap} {journal handle : Journal}
  {disk after : Disk Store} {mode : CheckMode} {inspection : Inspection}
  {good : List Transaction} {bad : Option BadTransaction}

/-- The answer says what is done. -/
theorem settles_verdict : journal.Settles mode (journal.verdict mode good bad).1
    (journal.verdict mode good bad).2 := by
  cases bad with
  | none =>
    exact ⟨fun _ => ⟨rfl, rfl⟩, fun found => (found rfl).elim, fun found => (found rfl).elim⟩
  | some fault =>
    cases mode with
    | check => exact ⟨nofun, fun _ differs => (differs rfl).elim, fun _ _ => ⟨rfl, rfl⟩⟩
    | fix => exact ⟨nofun, fun _ _ => ⟨rfl, rfl⟩, nofun⟩
    | build => exact ⟨nofun, fun _ _ => ⟨rfl, rfl⟩, nofun⟩

/-- The answer counts the good transactions. -/
theorem valid_verdict : (journal.verdict mode good bad).1.valid = good.length := by
  cases bad with
  | none => rfl
  | some fault => cases mode <;> rfl

/-- The answer passes the fault on. -/
theorem bad_verdict : (journal.verdict mode good bad).1.bad = bad := by
  cases bad with
  | none => rfl
  | some fault => cases mode <;> rfl

/-- The newest transaction that waits behind a pending journal is the newest committed one. -/
theorem Waits.getLast?_address {image : Image} {transactions : List Transaction}
    (waits : journal.Waits partition image transactions) (pending : journal.state = .pending) :
    transactions.getLast?.map Transaction.address = some journal.header.lastCommitted := by
  obtain ⟨newest, older, spelled, address⟩ :=
    TxChain.exists_newest waits (differs_of_pending pending)
  rw [List.getLast?_eq_head?_reverse, spelled, List.head?_cons, Option.map_some, address]

/-- After an examination of the chain, the answer salvages what can be trusted. -/
theorem salvages_verdict {image : Image} {transactions : List Transaction}
    (pending : journal.state = .pending) (waits : journal.Waits partition image transactions)
    (examined : Transaction.Examined (Trusted partition fixed image) [] transactions good bad) :
    (journal.verdict mode good bad).1.Salvages (Trusted partition fixed image)
      journal.footer.lastFlushed transactions := by
  obtain ⟨taken, greatest⟩ := examined.isGreatest fun _ _ => Trusted.of_append
  refine ⟨?_, ?_, ?_, ?_⟩
  · rwa [valid_verdict]
  · rw [valid_verdict, bad_verdict]
    cases examined with
    | good => exact ⟨fun _ => rfl, fun _ => rfl⟩
    | bad =>
      refine ⟨nofun, fun all => ?_⟩
      rw [List.length_append, List.length_cons] at all
      omega
  · rw [valid_verdict, bad_verdict]
    rintro fault rfl
    cases examined with
    | bad _ _ address id =>
      refine ⟨_, ?_, address, id⟩
      rw [List.getElem?_append_right le_rfl, Nat.sub_self, List.getElem?_cons_zero]
  · rw [valid_verdict, taken]
    cases bad with
    | some fault => cases mode <;> rfl
    | none =>
      cases examined with
      | good =>
        rw [waits.getLast?_address pending]
        rfl

/-- After an examination of a damaged chain, the answer trusts nothing. -/
theorem dismisses_verdict {fault : BadTransaction} (id : fault.id = none) :
    (journal.verdict mode [] (some fault)).1.Dismisses journal.footer.lastFlushed := by
  refine ⟨⟨fault, bad_verdict, id⟩, valid_verdict, ?_⟩
  cases mode <;> rfl

/-- A check decides what can be trusted of a pending journal. Where the chain of transactions cannot
be followed it trusts none of them; where it can, the longest run of them from the oldest on whose
logs can be read and whose blocks are in order. In memory it does what the mode allows, and it
leaves what the device holds. -/
theorem check_decides (lies : partition.LiesOn disk.device.shape) (sound : disk.device.Sound)
    (pending : journal.state = .pending)
    (ran : journal.check partition fixed mode disk = .ok (inspection, handle) after) :
    ((¬ ∃ transactions, journal.Waits partition (disk.image partition) transactions) →
      inspection.Dismisses journal.footer.lastFlushed) ∧
    (∀ transactions, journal.Waits partition (disk.image partition) transactions →
      inspection.Salvages (Trusted partition fixed (disk.image partition))
        journal.footer.lastFlushed transactions) ∧
    journal.Settles mode inspection handle ∧
    after.device.content = disk.device.content := by
  obtain ⟨good, bad, same, found⟩ := (ends_check pending lies).of_ok ran
  obtain rfl : inspection = (journal.verdict mode good bad).1 := congrArg Prod.fst same
  obtain rfl : handle = (journal.verdict mode good bad).2 := congrArg Prod.snd same
  rcases found with ⟨examined, count, looked⟩ | ⟨broke, _⟩
  · refine ⟨?_, ?_, settles_verdict, looked.content⟩
    · intro nowhere
      cases examined with
      | chain waits _ => exact (nowhere ⟨_, waits⟩).elim
      | broken _ id => exact dismisses_verdict id
    · intro transactions waits
      cases examined with
      | chain others examined =>
        obtain rfl := waits.unique others
        exact salvages_verdict pending waits examined
      | broken nowhere _ => exact (nowhere ⟨_, waits⟩).elim
  · exact (broke.not_sound sound).elim

/-- On the small volume the check finds its one transaction good. -/
theorem check_decides_sample : ∃ inspection handle after,
    Sample.journal.check Sample.partition Sample.fixed .check Sample.disk =
      .ok (inspection, handle) after ∧
    inspection.valid = 1 ∧ inspection.bad = none ∧ inspection.commitPoint = 3 ∧
    handle = Sample.journal ∧ after.device.content = Sample.disk.device.content := by
  have sound : Sample.disk.device.Sound := Sample.serves.toSound
  obtain ⟨after, ran, _⟩ :=
    check_of_inOrder .check rfl Sample.lies sound rfl Sample.pends Sample.ordered
  obtain ⟨_, salvages, settles, content⟩ := check_decides Sample.lies sound rfl ran
  have salvaged := salvages _ Sample.pends.chain
  have trusted : Trusted Sample.partition Sample.fixed (Sample.disk.image Sample.partition)
      [Sample.logged.transaction] := ⟨_, rfl, Sample.pends.records, Sample.ordered⟩
  have most := salvaged.longest.1.1
  have least := salvaged.longest.2 ⟨le_rfl, trusted⟩
  have valid := Nat.le_antisymm most least
  have clean := salvaged.clean.2 valid
  refine ⟨_, _, after, ran, valid, clean, ?_, (settles.clean clean).2, content⟩
  rw [salvaged.commitPoint, valid]
  rfl

end Journal

end JournaledVolume
