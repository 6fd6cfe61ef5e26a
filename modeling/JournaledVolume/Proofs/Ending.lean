import JournaledVolume.Journal.Pointer

/-!
# How actions end

`Ends` says of an action, started in a given state, what holds when it returns and what holds when
it fails. One of the two happens, so an ending that excludes failure is a proof of success. The
ending of a sequence is put together from the endings of its parts, and proofs about an operation
cite the endings of what it calls instead of unfolding it.
-/

namespace JournaledVolume.Action

variable {σ α β : Type}

/-- How an action ends from a state: `returns` holds of its value and the state behind it, or
`fails` holds of its error and the state that it left. -/
def Ends (act : Action σ α) (state : σ) (returns : α → σ → Prop) (fails : Error → σ → Prop) :
    Prop :=
  match act state with
  | .ok value after => returns value after
  | .error error after => fails error after

variable {act : Action σ α} {next : α → Action σ β} {state after : σ} {value : α} {error : Error}
  {returns between : α → σ → Prop} {fails failed : Error → σ → Prop} {last : β → σ → Prop}

/-- What holds when an action returns holds of a run that returned. -/
theorem Ends.of_ok (ends : Ends act state returns fails) (ran : act state = .ok value after) :
    returns value after := by
  simpa only [Ends, ran] using ends

/-- What holds when an action fails holds of a run that failed. -/
theorem Ends.of_error (ends : Ends act state returns fails)
    (ran : act state = .error error after) : fails error after := by
  simpa only [Ends, ran] using ends

/-- A run that returned ends as its result says. -/
theorem ends_of_ok (ran : act state = .ok value after) (holds : returns value after) :
    Ends act state returns fails := by
  simpa only [Ends, ran] using holds

/-- A run that failed ends as its error says. -/
theorem ends_of_error (ran : act state = .error error after) (holds : fails error after) :
    Ends act state returns fails := by
  simpa only [Ends, ran] using holds

/-- An action that never fails returns. -/
theorem Ends.exists_ok (ends : Ends act state returns fails)
    (never : ∀ error after, ¬ fails error after) :
    ∃ value after, act state = .ok value after ∧ returns value after := by
  cases ran : act state with
  | ok value after => exact ⟨value, after, rfl, ends.of_ok ran⟩
  | error error after => exact (never error after (ends.of_error ran)).elim

/-- An action that never returns fails. -/
theorem Ends.exists_error (ends : Ends act state returns fails)
    (never : ∀ value after, ¬ returns value after) :
    ∃ error after, act state = .error error after ∧ fails error after := by
  cases ran : act state with
  | ok value after => exact (never value after (ends.of_ok ran)).elim
  | error error after => exact ⟨error, after, rfl, ends.of_error ran⟩

/-- An action ends. -/
theorem ends_anyhow (act : Action σ α) (state : σ) :
    Ends act state (fun _ _ => True) fun _ _ => True := by
  cases ran : act state with
  | ok value after => exact ends_of_ok ran trivial
  | error error after => exact ends_of_error ran trivial

/-- An ending implies every weaker one. -/
theorem Ends.mono (ends : Ends act state between failed)
    (returned : ∀ value after, between value after → returns value after)
    (stopped : ∀ error after, failed error after → fails error after) :
    Ends act state returns fails := by
  cases ran : act state with
  | ok value after => exact ends_of_ok ran (returned _ _ (ends.of_ok ran))
  | error error after => exact ends_of_error ran (stopped _ _ (ends.of_error ran))

/-- An ending implies those that allow more failures. -/
theorem Ends.allow (ends : Ends act state returns failed)
    (stopped : ∀ error after, failed error after → fails error after) :
    Ends act state returns fails :=
  ends.mono (fun _ _ holds => holds) stopped

/-- An action ends as its run does. -/
theorem ends_run (act : Action σ α) (state : σ) :
    Ends act state (fun value after => act state = .ok value after)
      fun error after => act state = .error error after := by
  cases ran : act state with
  | ok value after => exact ends_of_ok ran rfl
  | error error after => exact ends_of_error ran rfl

/-- Two endings hold together. -/
theorem Ends.and (ends : Ends act state returns fails) (also : Ends act state between failed) :
    Ends act state (fun value after => returns value after ∧ between value after)
      fun error after => fails error after ∧ failed error after := by
  cases ran : act state with
  | ok value after => exact ends_of_ok ran ⟨ends.of_ok ran, also.of_ok ran⟩
  | error error after => exact ends_of_error ran ⟨ends.of_error ran, also.of_error ran⟩

/-- Whether an action leaves a state, when it returns or when it fails. -/
def Leaves (act : Action σ α) (state after : σ) : Prop :=
  (∃ value, act state = .ok value after) ∨ ∃ error, act state = .error error after

/-- What holds of every ending holds of the state that is left. -/
theorem Ends.of_leaves {holds : σ → Prop}
    (ends : Ends act state (fun _ after => holds after) fun _ after => holds after)
    (leaves : act.Leaves state after) : holds after := by
  rcases leaves with ⟨value, ran⟩ | ⟨error, ran⟩
  · exact ends.of_ok ran
  · exact ends.of_error ran

/-- A sequence leaves what its first part leaves when it fails, or what its second part leaves. -/
theorem Leaves.of_bind (leaves : (act >>= next).Leaves state after) :
    (∃ error, act state = .error error after) ∨
      ∃ value between, act state = .ok value between ∧ (next value).Leaves between after := by
  cases ran : act state with
  | ok value between =>
    refine .inr ⟨value, between, rfl, ?_⟩
    rwa [Leaves, bind_of_ok ran] at leaves
  | error error between =>
    rw [Leaves, bind_of_error ran] at leaves
    rcases leaves with ⟨value, returned⟩ | ⟨error, failed⟩
    · exact nomatch returned
    · cases failed
      exact .inl ⟨_, rfl⟩

/-- Returning a value ends with it and leaves the state. -/
theorem ends_pure (holds : returns value state) :
    Ends (pure value : Action σ α) state returns fails := holds

/-- A failure ends with its error and leaves the state. -/
theorem ends_throw (holds : fails error state) :
    Ends (throw error : Action σ α) state returns fails := holds

/-- A sequence ends as its second part does after the first returned, or as the first failed. -/
theorem Ends.bind {stopped : Error → σ → Prop} (ends : Ends act state between failed)
    (continues : ∀ value after, between value after → Ends (next value) after last stopped)
    (stops : ∀ error after, failed error after → stopped error after) :
    Ends (act >>= next) state last stopped := by
  cases ran : act state with
  | ok value after =>
    have rest := continues _ _ (ends.of_ok ran)
    unfold Ends
    rw [bind_of_ok ran]
    exact rest
  | error error after => exact ends_of_error (bind_of_error ran) (stops _ _ (ends.of_error ran))

/-- A sequence whose first part fails only as the whole may. -/
theorem Ends.andThen {stopped : Error → σ → Prop} (ends : Ends act state between stopped)
    (continues : ∀ value after, between value after → Ends (next value) after last stopped) :
    Ends (act >>= next) state last stopped :=
  ends.bind continues fun _ _ stops => stops

/-- Nothing follows an action that cannot return. -/
theorem Ends.stop {stopped : Error → σ → Prop} (ends : Ends act state (fun _ _ => False) stopped) :
    Ends (act >>= next) state last stopped :=
  ends.andThen fun _ _ impossible => impossible.elim

/-- What follows a look at the state starts from it. -/
theorem ends_get {next : σ → Action σ β} {stopped : Error → σ → Prop}
    (ends : Ends (next state) state last stopped) :
    Ends (get >>= next) state last stopped := ends

/-- What follows a change of the state starts from the changed one. -/
theorem ends_modify {change : σ → σ} {next : Unit → Action σ β} {stopped : Error → σ → Prop}
    (ends : Ends (next ()) (change state) last stopped) :
    Ends (modify change >>= next) state last stopped := ends

/-- What follows a computation without state starts from the same state. -/
theorem ends_ofExcept {result : Except Error α} {stopped : Error → σ → Prop}
    (continues : ∀ value, result = .ok value → Ends (next value) state last stopped)
    (stops : ∀ error, result = .error error → stopped error state) :
    Ends (ofExcept result >>= next) state last stopped := by
  cases result with
  | ok value => exact continues value rfl
  | error error => exact stops error rfl

/-- A fold over the first numbers ends with what each step keeps. -/
theorem ends_foldlM_range {step : β → Nat → Action σ β} {start : β} {count : Nat}
    {done : Nat → β → σ → Prop} (begins : done 0 start state)
    (steps : ∀ index < count, ∀ value state, done index value state →
      Ends (step value index) state (done (index + 1)) fails) :
    Ends ((List.range count).foldlM step start) state (done count) fails := by
  induction count with
  | zero => exact ends_pure begins
  | succ count ih =>
    rw [List.range_succ, List.foldlM_append]
    refine (ih fun index before => steps index (Nat.lt_succ_of_lt before)).andThen ?_
    intro value state holds
    rw [List.foldlM_cons]
    refine (steps count (Nat.lt_succ_self count) value state holds).andThen ?_
    exact fun _ _ done => ends_pure done

/-- Steps for the first numbers end with what each of them keeps. -/
theorem ends_forM_range {step : Nat → Action σ Unit} {count : Nat}
    {done : Nat → σ → Prop} (begins : done 0 state)
    (steps : ∀ index < count, ∀ state, done index state →
      Ends (step index) state (fun _ after => done (index + 1) after) fails) :
    Ends ((List.range count).forM step) state (fun _ after => done count after) fails := by
  induction count with
  | zero => exact ends_pure begins
  | succ count ih =>
    rw [List.range_succ, List.forM_eq_forM, List.forM_append]
    refine (ih fun index before => steps index (Nat.lt_succ_of_lt before)).andThen ?_
    intro _ state holds
    rw [List.forM_cons]
    refine (steps count (Nat.lt_succ_self count) state holds).andThen ?_
    exact fun _ _ done => ends_pure done

end JournaledVolume.Action

namespace JournaledVolume

open JournaledVolume.Action

variable {σ δ α : Type}

namespace AttachedM

variable {memory : σ} {disk : Disk δ} {returns : α → Attached σ δ → Prop}
  {fails : Error → Attached σ δ → Prop}

/-- An action on the disk alone leaves the structure in memory. -/
theorem ends_onDisk {act : DiskM δ α}
    (ends : Ends act disk (fun value after => returns value { memory, disk := after })
      fun error after => fails error { memory, disk := after }) :
    Ends (onDisk act) { memory, disk } returns fails := by
  cases ran : act disk with
  | ok value after => exact ends_of_ok (by simp only [onDisk, ran]) (ends.of_ok ran)
  | error error after => exact ends_of_error (by simp only [onDisk, ran]) (ends.of_error ran)

/-- What follows an action on the disk alone starts from the same structure. -/
theorem ends_onDisk_andThen {β : Type} {act : DiskM δ α} {next : α → AttachedM σ δ β}
    {last : β → Attached σ δ → Prop}
    (ends : Ends act disk
      (fun value after => Ends (next value) { memory, disk := after } last fails)
      fun error after => fails error { memory, disk := after }) :
    Ends (onDisk act >>= next) { memory, disk } last fails := by
  have first : Ends (onDisk act) { memory, disk }
      (fun value after => Ends (next value) after last fails) fails := ends_onDisk ends
  exact first.andThen fun _ _ rest => rest

/-- A change that may fail ends with the changed structure, or leaves it. -/
theorem ends_tryRevise {change : σ → Except Error σ} {returns : Unit → Attached σ δ → Prop}
    (returned : ∀ changed, change memory = .ok changed → returns () { memory := changed, disk })
    (stopped : ∀ error, change memory = .error error → fails error { memory, disk }) :
    Ends (tryRevise change) { memory, disk } returns fails := by
  cases ran : change memory with
  | ok changed => exact ends_of_ok (by simp only [tryRevise, ran]) (returned _ ran)
  | error error => exact ends_of_error (by simp only [tryRevise, ran]) (stopped _ ran)

/-- What follows a change that may fail starts from the changed structure. -/
theorem ends_tryRevise_andThen {β : Type} {change : σ → Except Error σ}
    {next : Unit → AttachedM σ δ β} {last : β → Attached σ δ → Prop}
    (continues : ∀ changed, change memory = .ok changed →
      Ends (next ()) { memory := changed, disk } last fails)
    (stops : ∀ error, change memory = .error error → fails error { memory, disk }) :
    Ends (tryRevise change >>= next) { memory, disk } last fails := by
  have revised : Ends (tryRevise change) { memory, disk }
      (fun _ after => Ends (next ()) after last fails) fails := ends_tryRevise continues stops
  exact revised.andThen fun _ _ rest => rest

end AttachedM

namespace DiskM

variable {disk : Disk δ} {returns : α → Disk δ → Prop} {fails : Error → Disk δ → Prop}

/-- Reporting a failure changes nothing but the log. -/
theorem ends_orReport {event : Error → Event} {act : DiskM δ α}
    (ends : Ends act disk returns fun error after =>
      fails error { after with log := after.log.push (event error) }) :
    Ends (orReport event act) disk returns fails := by
  cases ran : act disk with
  | ok value after => exact ends_of_ok (by simp only [orReport, ran]) (ends.of_ok ran)
  | error error after => exact ends_of_error (by simp only [orReport, ran]) (ends.of_error ran)

/-- Damage that is found is returned, and every other failure stays one. -/
theorem ends_findDamage {act : DiskM δ α} {returns : Except (Nat × Cause) α → Disk δ → Prop}
    (ends : Ends act disk (fun value after => returns (.ok value) after) fun error after =>
      match error.damage? with
      | some damage => returns (.error damage) after
      | none => fails error after) :
    Ends (findDamage act) disk returns fails := by
  cases ran : act disk with
  | ok value after => exact ends_of_ok (by simp only [findDamage, ran]) (ends.of_ok ran)
  | error error after =>
    have found := ends.of_error ran
    cases damaged : error.damage? with
    | some damage =>
      simp only [damaged] at found
      exact ends_of_ok (by simp only [findDamage, ran, damaged]) found
    | none =>
      simp only [damaged] at found
      exact ends_of_error (by simp only [findDamage, ran, damaged]) found

/-- An action on a structure of its own ends with what the structure became. -/
theorem ends_accumulate {start : σ} {act : AttachedM σ δ Unit} {returns : σ → Disk δ → Prop}
    (ends : Ends act { memory := start, disk } (fun _ after => returns after.memory after.disk)
      fun error after => fails error after.disk) :
    Ends (accumulate start act) disk returns fails := by
  cases ran : act { memory := start, disk } with
  | ok value after => exact ends_of_ok (by simp only [accumulate, ran]) (ends.of_ok ran)
  | error error after => exact ends_of_error (by simp only [accumulate, ran]) (ends.of_error ran)

end DiskM

end JournaledVolume
