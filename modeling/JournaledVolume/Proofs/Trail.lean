import JournaledVolume.Proofs.Requests
import JournaledVolume.Walk

/-!
# The trail of a walk

On a store, the steps of a walk are determined by what the blocks hold: `Sighted` says how. The
trail of a walk is the list of items that it passes, and there is one only if the walk comes to its
end. `forEach` visits the items of the trail in order, and fails where there is no trail.

What only looks at the journal may also be refused: it reads some blocks and then reports damage.
-/

namespace JournaledVolume

open JournaledVolume.Action

/-- Whether an operation that only reads failed: it broke off, or what it looked at is not in order
and it reports damage. -/
def Disk.Refused (before after : Disk Store) (error : Error) (orderly : Prop) : Prop :=
  before.Broke after [] ∨
    (¬ orderly ∧ error.damage?.isSome ∧ ∃ count, before.Ran after (.reads count))

namespace Disk

variable {before between after : Disk Store} {error : Error} {orderly other : Prop} {count : Nat}

/-- A refusal stays one when less would be in order. -/
theorem Refused.mono (refused : before.Refused after error orderly) (less : other → orderly) :
    before.Refused after error other := by
  rcases refused with broke | ⟨disorder, damage⟩
  · exact .inl broke
  · exact .inr ⟨mt less disorder, damage⟩

/-- What is in order is refused only if the operation broke off. -/
theorem Refused.of_orderly (refused : before.Refused after error orderly) (holds : orderly) :
    before.Broke after [] := by
  rcases refused with broke | ⟨disorder, _⟩
  · exact broke
  · exact (disorder holds).elim

/-- A refusal after reads. -/
theorem Ran.refused (ran : before.Ran between (.reads count))
    (refused : between.Refused after error orderly) : before.Refused after error orderly := by
  rcases refused with broke | ⟨disorder, damage, more, further⟩
  · exact .inl (ran.broke broke)
  · exact .inr ⟨disorder, damage, count + more, ran.trans further⟩

/-- Reporting what is no copy leaves a refusal. -/
theorem Refused.report {event : Event} (refused : before.Refused after error orderly)
    (silent : event.copy? = none) :
    before.Refused { after with log := after.log.push event } error orderly := by
  rcases refused with broke | ⟨disorder, damage, count, ran⟩
  · exact .inl (broke.log _)
  · exact .inr ⟨disorder, damage, count, ran.report silent⟩

end Disk

/-- Damage that an operation finds is returned, and it fails only where it breaks off. -/
theorem DiskM.ends_findDamage_refused {α : Type} {act : DiskM Store α} {disk : Disk Store}
    {returns : α → Disk Store → Prop} {orderly : Prop}
    (ends : Ends act disk returns fun error after => disk.Refused after error orderly) :
    Ends (findDamage act) disk
      (fun result after =>
        match result with
        | .ok value => returns value after
        | .error _ => disk.Broke after [] ∨
          (¬ orderly ∧ ∃ count, disk.Ran after (.reads count)))
      fun _ after => disk.Broke after [] := by
  refine ends_findDamage (ends.allow fun error after refused => ?_)
  cases damaged : error.damage? with
  | some damage =>
    rcases refused with broke | ⟨disorder, _, ran⟩
    · exact .inl broke
    · exact .inr ⟨disorder, ran⟩
  | none =>
    rcases refused with broke | ⟨_, damage, _⟩
    · exact broke
    · rw [damaged] at damage
      exact nomatch damage

namespace Walk

/-- A walk whose steps are determined by what the blocks hold. -/
class Sighted (κ : Type) (α : outParam Type) [Walk κ α] where
  /-- The next item with the walk behind it, or that the walk is over; `none` where it fails. -/
  look (partition : Partition) (image : Image) (walk : κ) : Option (Option (α × κ))
  /-- The number of requests that an item takes. -/
  cost : α → Nat
  /-- A step finds what is to be seen, or is refused. -/
  ends_step {partition : Partition} {disk : Disk Store} (walk : κ)
    (lies : partition.LiesOn disk.device.shape) :
    Ends (step partition walk) disk
      (fun found after => look partition (disk.image partition) walk = some found ∧
        disk.Ran after (.reads (found.elim 0 fun next => cost next.1)))
      fun error after =>
        disk.Refused after error (look partition (disk.image partition) walk).isSome

export Sighted (look cost)

variable {κ α σ : Type} [Walk κ α]

/-- What holds of a walk if it holds of every walk with less room holds of all walks. -/
theorem room_induction (κ : Type) {α : Type} [Walk κ α] (partition : Partition)
    {motive : κ → Prop}
    (smaller : ∀ walk, (∀ rest, WellFoundedRelation.rel (room partition rest)
      (room partition walk) → motive rest) → motive walk)
    (walk : κ) : motive walk :=
  (InvImage.wf (room partition) WellFoundedRelation.wf).induction walk smaller

section forEach

variable {δ : Type} [BlockDevice δ] {partition : Partition} {visit : α → AttachedM σ δ Unit}
  {walk rest : κ} {memory : σ} {disk after : Disk δ} {item : α} {error : Error}

/-- Where a walk finds an item, the item is visited and the walk goes on. -/
theorem forEach_of_item (stepped : step partition walk disk = .ok (some (item, rest)) after) :
    forEach partition visit walk { memory, disk } =
      (visit item >>= fun _ => forEach partition visit rest) { memory, disk := after } := by
  rw [forEach]
  split
  · next found =>
    cases stepped.symm.trans found
    simp only [bind, EStateM.bind]
    cases visit item { memory, disk := after } <;> rfl
  · next found => cases stepped.symm.trans found
  · next found => cases stepped.symm.trans found

/-- Where a walk is over, nothing is visited any more. -/
theorem forEach_of_end (stepped : step partition walk disk = .ok none after) :
    forEach partition visit walk { memory, disk } = .ok () { memory, disk := after } := by
  rw [forEach]
  split
  · next found => cases stepped.symm.trans found
  · next found =>
    cases stepped.symm.trans found
    rfl
  · next found => cases stepped.symm.trans found

/-- Where a walk fails, the visits fail. -/
theorem forEach_of_error (stepped : step partition walk disk = .error error after) :
    forEach partition visit walk { memory, disk } = .error error { memory, disk := after } := by
  rw [forEach]
  split
  · next found => cases stepped.symm.trans found
  · next found => cases stepped.symm.trans found
  · next found =>
    cases stepped.symm.trans found
    rfl

/-- The visits of a walk, with the first of them spelled out. The recursion of `forEach` ends for a
reason that no evaluation sees through, so a walk is evaluated in this form. -/
def unrolled (partition : Partition) (visit : α → AttachedM σ δ Unit) :
    (count : Nat) → κ → AttachedM σ δ Unit
  | 0, walk => forEach partition visit walk
  | count + 1, walk => fun state =>
    match step partition walk state.disk with
    | .ok (some (item, rest)) disk =>
      (visit item >>= fun _ => unrolled partition visit count rest) { state with disk }
    | .ok none disk => .ok () { state with disk }
    | .error error disk => .error error { state with disk }

/-- Visits do the same when the first of them are spelled out. -/
theorem forEach_eq_unrolled (count : Nat) (walk : κ) :
    forEach partition visit walk = unrolled partition visit count walk := by
  induction count generalizing walk with
  | zero => rfl
  | succ count ih =>
    funext ⟨memory, disk⟩
    cases stepped : step partition walk disk with
    | ok found after =>
      rcases found with _ | ⟨item, rest⟩
      · rw [forEach_of_end stepped]
        simp only [unrolled, stepped]
      · rw [forEach_of_item stepped, funext (fun _ => ih rest)]
        simp only [unrolled, stepped]
    | error error after =>
      rw [forEach_of_error stepped]
      simp only [unrolled, stepped]

end forEach

variable [Sighted κ α]

/-- The items that a walk passes until it is over. -/
inductive Trail (partition : Partition) (image : Image) : κ → List α → Prop where
  /-- The walk is over. -/
  | ended {walk : κ} (seen : look partition image walk = some none) : Trail partition image walk []
  /-- The walk passes an item and goes on. -/
  | step {walk rest : κ} {item : α} {items : List α}
    (seen : look partition image walk = some (some (item, rest)))
    (trail : Trail partition image rest items) : Trail partition image walk (item :: items)

variable {partition : Partition} {image : Image} {walk rest : κ} {item : α}
  {items others : List α} {disk : Disk Store}

/-- Where an item is seen, the trail starts with it. -/
theorem Trail.of_seen (trail : Trail partition image walk items)
    (seen : look partition image walk = some (some (item, rest))) :
    ∃ behind, items = item :: behind ∧ Trail partition image rest behind := by
  cases trail with
  | ended other => exact nomatch seen.symm.trans other
  | step other trail =>
    cases seen.symm.trans other
    exact ⟨_, rfl, trail⟩

/-- What is seen decides the trail. -/
theorem Trail.unique (left : Trail partition image walk items)
    (right : Trail partition image walk others) : items = others := by
  induction left generalizing others with
  | ended seen =>
    cases right with
    | ended _ => rfl
    | step other _ => exact nomatch seen.symm.trans other
  | step seen _ ih =>
    obtain ⟨rest, rfl, trail⟩ := right.of_seen seen
    rw [ih trail]

/-- There is a trail only if something is seen. -/
theorem Trail.isSome_look (trail : Trail partition image walk items) :
    (look partition image walk).isSome := by
  cases trail with
  | ended seen => rw [seen, Option.isSome_some]
  | step seen _ => rw [seen, Option.isSome_some]

/-- A walk whose items are found in blocks, each by what its block holds and no other. -/
class Located (κ : Type) (α : outParam Type) [Walk κ α] [Sighted κ α] where
  /-- The block in which an item is found. -/
  address : α → Address
  /-- What is seen is seen in a longer partition with the same content of its block. -/
  look_transfer {partition other : Partition} {image target : Image} {walk : κ}
    {found : Option (α × κ)} (longer : partition.length ≤ other.length)
    (seen : look partition image walk = some found)
    (same : ∀ next ∈ found, target (address next.1).toNat = image (address next.1).toNat) :
    look other target walk = some found

export Located (address)

/-- Where the blocks of the items hold the same in a longer partition, a walk has the same trail. -/
theorem Trail.transfer {κ α : Type} [Walk κ α] [Sighted κ α] [Located κ α]
    {partition other : Partition} {image target : Image} {walk : κ} {items : List α}
    (trail : Trail partition image walk items) (longer : partition.length ≤ other.length)
    (same : ∀ item ∈ items,
      target (address κ item).toNat = image (address κ item).toNat) :
    Trail other target walk items := by
  induction trail with
  | ended seen => exact .ended (Located.look_transfer longer seen nofun)
  | step seen _ ih =>
    obtain ⟨first, later⟩ := List.forall_mem_cons.1 same
    refine .step (Located.look_transfer longer seen ?_) (ih later)
    intro next held
    cases held
    exact first

/-- The visits of a walk end as its first step and what follows it end. -/
theorem ends_forEach {visit : α → AttachedM σ Store Unit} {memory : σ}
    {returns : Unit → Attached σ Store → Prop} {fails : Error → Attached σ Store → Prop}
    (lies : partition.LiesOn disk.device.shape)
    (ends : ∀ after, look partition (disk.image partition) walk = some none →
      disk.Ran after (.reads 0) → returns () { memory, disk := after })
    (passes : ∀ item rest after, look partition (disk.image partition) walk =
      some (some (item, rest)) → disk.Ran after (.reads (cost κ item)) →
      WellFoundedRelation.rel (room partition rest) (room partition walk) →
      Ends (visit item >>= fun _ => forEach partition visit rest) { memory, disk := after }
        returns fails)
    (refused : ∀ error after,
      disk.Refused after error (look partition (disk.image partition) walk).isSome →
      fails error { memory, disk := after }) :
    Ends (forEach partition visit walk) { memory, disk } returns fails := by
  have sees := Sighted.ends_step walk lies
  unfold Ends
  cases stepped : step partition walk disk with
  | error error after =>
    rw [forEach_of_error stepped]
    exact refused error after (sees.of_error stepped)
  | ok found after =>
    obtain ⟨seen, ran⟩ := sees.of_ok stepped
    cases found with
    | none =>
      rw [forEach_of_end stepped]
      exact ends after seen ran
    | some next =>
      rw [forEach_of_item stepped]
      exact passes next.1 next.2 after seen ran (step_room stepped)

/-- Where the walk is seen to be over, nothing is visited. -/
theorem ends_forEach_over {visit : α → AttachedM σ Store Unit} {memory : σ}
    (lies : partition.LiesOn disk.device.shape)
    (seen : look partition (disk.image partition) walk = some none) :
    Ends (forEach partition visit walk) { memory, disk }
      (fun _ after => after.memory = memory ∧ disk.Ran after.disk (.reads 0))
      fun _ after => disk.Broke after.disk [] := by
  refine ends_forEach lies (fun after _ ran => ⟨rfl, ran⟩) ?_ ?_
  · exact fun item rest after other => nomatch seen.symm.trans other
  · exact fun error after refused => refused.of_orderly (by rw [seen, Option.isSome_some])

/-- Where an item is seen, it is visited and the walk goes on. -/
theorem ends_forEach_item {visit : α → AttachedM σ Store Unit} {memory : σ}
    {returns : Unit → Attached σ Store → Prop} {fails : Error → Attached σ Store → Prop}
    (lies : partition.LiesOn disk.device.shape)
    (seen : look partition (disk.image partition) walk = some (some (item, rest)))
    (goes : ∀ after, disk.Ran after (.reads (cost κ item)) →
      Ends (visit item >>= fun _ => forEach partition visit rest) { memory, disk := after }
        returns fails)
    (stops : ∀ error after, disk.Broke after [] → fails error { memory, disk := after }) :
    Ends (forEach partition visit walk) { memory, disk } returns fails := by
  refine ends_forEach lies ?_ ?_ ?_
  · exact fun after other => nomatch seen.symm.trans other
  · intro other behind after otherwise ran _
    cases seen.symm.trans otherwise
    exact goes after ran
  · exact fun error after refused =>
      stops error after (refused.of_orderly (by rw [seen, Option.isSome_some]))

/-- Visits that only change the structure in memory work through the trail, or are refused where
there is no trail or one of the changes fails. -/
theorem ends_forEach_tryRevise (change : α → σ → Except Error σ)
    (damaging : ∀ item memory error, change item memory = .error error → error.damage?.isSome)
    (lies : partition.LiesOn disk.device.shape) (walk : κ) (memory : σ) :
    Ends (forEach partition (fun item => AttachedM.tryRevise (change item)) walk) { memory, disk }
      (fun _ after => ∃ items, Trail partition (disk.image partition) walk items ∧
        items.foldlM (fun memory item => change item memory) memory = .ok after.memory ∧
        disk.Ran after.disk (.reads (items.map (cost κ)).sum))
      fun error after => disk.Refused after.disk error
        (∃ items changed, Trail partition (disk.image partition) walk items ∧
          items.foldlM (fun memory item => change item memory) memory = .ok changed) := by
  induction walk using room_induction κ partition generalizing memory disk with
  | smaller walk ih =>
    refine ends_forEach lies ?_ ?_ ?_
    · intro after seen ran
      exact ⟨[], .ended seen, rfl, ran⟩
    · intro item rest after seen ran shrinks
      have same : after.image partition = disk.image partition := ran.image rfl
      refine AttachedM.ends_tryRevise_andThen (fun changed revised => ?_) fun error failed => ?_
      · have shape : partition.LiesOn after.device.shape := ran.lies lies
        refine (ih rest shrinks shape changed).mono ?_ ?_
        · rintro _ behind ⟨items, trail, folded, further⟩
          rw [same] at trail
          refine ⟨item :: items, .step seen trail, ?_, ran.trans further⟩
          rw [List.foldlM_cons, revised]
          exact folded
        · intro error behind refused
          rw [same] at refused
          refine (ran.refused refused).mono ?_
          rintro ⟨items, result, trail, folded⟩
          obtain ⟨behind, rfl, passed⟩ := trail.of_seen seen
          rw [List.foldlM_cons, revised] at folded
          exact ⟨behind, result, passed, folded⟩
      · refine .inr ⟨?_, damaging _ _ _ failed, _, ran⟩
        rintro ⟨items, result, trail, folded⟩
        obtain ⟨rest, rfl, trail⟩ := trail.of_seen seen
        rw [List.foldlM_cons, failed] at folded
        exact nomatch folded
    · intro error after refused
      exact refused.mono fun ⟨_, _, trail, _⟩ => trail.isSome_look

/-- A walk is collected to its trail, or refused where it has none. -/
theorem ends_collect (lies : partition.LiesOn disk.device.shape) (walk : κ) :
    Ends (collect partition walk) disk
      (fun items after => Trail partition (disk.image partition) walk items ∧
        disk.Ran after (.reads (items.map (cost κ)).sum))
      fun error after => disk.Refused after error
        (∃ items, Trail partition (disk.image partition) walk items) := by
  have pushed (items : List α) :
      items.foldlM (fun collected item => .ok (collected.push item)) #[] =
        (.ok items.toArray : Except Error (Array α)) := by
    show items.foldlM (fun collected item => pure (collected.push item)) #[] = pure items.toArray
    simp
  have visits := ends_forEach_tryRevise
    (fun item (collected : Array α) => .ok (collected.push item))
    nofun lies walk #[]
  simp only [pushed] at visits
  have gathers : Ends (DiskM.accumulate #[]
        (forEach partition (fun item => AttachedM.revise fun items => items.push item) walk)) disk
      (fun items after => Trail partition (disk.image partition) walk items.toList ∧
        disk.Ran after (.reads (items.toList.map (cost κ)).sum))
      fun error after => disk.Refused after error
        (∃ items, Trail partition (disk.image partition) walk items) := by
    refine DiskM.ends_accumulate (visits.mono ?_ ?_)
    · rintro _ after ⟨items, trail, same, ran⟩
      rw [← Except.ok.inj same]
      exact ⟨trail, ran⟩
    · intro error after refused
      exact refused.mono fun ⟨items, trail⟩ => ⟨items, _, trail, rfl⟩
  exact gathers.andThen fun _ _ holds => ends_pure holds

end Walk

end JournaledVolume
