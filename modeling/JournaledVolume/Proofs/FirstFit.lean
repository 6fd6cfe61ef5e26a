import JournaledVolume.Proofs.Occupancy

/-!
# Where an allocation is placed

The free blocks of a bitmap fall into runs that are as long as they can be. A search for a number of
free blocks takes the front of the first run that is long enough. When there is none, it takes the
longest run, and of equally long ones the first; so a run that is shorter than asked for shows that
no place would have been large enough.

A search cuts every run that it looks at, and goes on where the run ends. `Passed` says what it
knows of the runs behind it.
-/

namespace JournaledVolume

namespace Bits

variable {bits : Bits} {value : Bool} {start stop index other count : Nat}

/-- The bits before one that a search finds are not what it looks for. -/
theorem test_of_found (found : bits.find? value start stop = some index) (behind : start ≤ other)
    (before : other < index) : bits.test other = !value := by
  have passed : other <
      (find?.go bits value (min stop bits.size) start).getD (min stop bits.size) := by
    rw [show find?.go bits value (min stop bits.size) start = some index from found]
    exact before
  exact test_of_passed behind passed

/-- A run of clear bits that ends early ends at a set bit. -/
theorem test_zeroRun_end (held : stop ≤ bits.size)
    (early : start + bits.zeroRun start stop < stop) :
    bits.test (start + bits.zeroRun start stop) = true := by
  have room : ¬ min stop bits.size ≤ start := by omega
  have whole : min stop bits.size = stop := Nat.min_eq_left held
  rw [zeroRun, if_neg room, whole] at early ⊢
  cases found : bits.find? true start stop with
  | none =>
    rw [found, Option.getD_none] at early
    omega
  | some index =>
    obtain ⟨behind, _, _, hit⟩ := find?_eq_some found
    rw [Option.getD_some, Nat.add_sub_cancel' behind]
    exact hit

/-- Clear bits belong to the run of clear bits that starts with them. -/
theorem le_zeroRun (held : stop ≤ bits.size) (inside : start + count ≤ stop)
    (isClear : ∀ index, start ≤ index → index < start + count → bits.test index = false) :
    count ≤ bits.zeroRun start stop := by
  by_contra short
  have early : start + bits.zeroRun start stop < stop := by omega
  have hit := test_zeroRun_end held early
  have miss := isClear (start + bits.zeroRun start stop) (by omega) (by omega)
  rw [hit] at miss
  exact nomatch miss

end Bits

namespace Bitmap

variable {bitmap : Bitmap} {start count position first block : Nat} {best : Option Run}
  {run other : Run}

/-- Whether a run is as good as another one: it is longer, or as long and not behind it. -/
def Run.AsGood (run other : Run) : Prop :=
  other.length < run.length ∨ (other.length = run.length ∧ run.start ≤ other.start)

namespace Run

/-- What is as good as a run is as good as those that the run is as good as. -/
theorem AsGood.trans {third : Run} (first : run.AsGood other) (second : other.AsGood third) :
    run.AsGood third := by
  unfold AsGood at first second ⊢
  omega

/-- The longer of two runs is one of them. -/
theorem longer_mem (best : Option Run) (run : Run) :
    longer best run = run ∨ longer best run ∈ best := by
  cases best with
  | none => exact .inl rfl
  | some seen =>
    rw [longer]
    split
    · exact .inl rfl
    · exact .inr rfl

/-- The longer of two runs is as good as both of them, if the run that was seen first is not behind
the other. -/
theorem asGood_longer (before : ∀ seen ∈ best, seen.start ≤ run.start) :
    (longer best run).AsGood run ∧ ∀ seen ∈ best, (longer best run).AsGood seen := by
  cases best with
  | none => exact ⟨.inr ⟨rfl, le_rfl⟩, nofun⟩
  | some seen =>
    have ahead := before seen rfl
    rw [longer]
    split
    · next less =>
      refine ⟨.inr ⟨rfl, le_rfl⟩, ?_⟩
      rintro _ ⟨⟩
      exact .inl less
    · next more =>
      refine ⟨?_, fun other same => .inr ?_⟩
      · rcases Nat.lt_or_eq_of_le (Nat.le_of_not_lt more) with less | same
        · exact .inl less
        · exact .inr ⟨same, ahead⟩
      · cases same
        exact ⟨rfl, le_rfl⟩

end Run

/-- Whether a run is a run of free blocks, among those from `start` on, that is as long as it can
be. -/
structure FreeRun (bitmap : Bitmap) (start : Nat) (run : Run) : Prop where
  /-- The run is not empty. -/
  positive : 0 < run.length
  /-- It does not begin before `start`. -/
  behind : start ≤ run.start
  /-- It lies in the bitmap. -/
  inside : run.start + run.length ≤ bitmap.total
  /-- Its blocks are free. -/
  free : ∀ block, run.start ≤ block → block < run.start + run.length →
    bitmap.bits.test block = false
  /-- It cannot be longer to the left. -/
  left : run.start = start ∨ bitmap.bits.test (run.start - 1) = true
  /-- It cannot be longer to the right. -/
  right : run.start + run.length = bitmap.total ∨
    bitmap.bits.test (run.start + run.length) = true

/-- Whether a run of free blocks is the first one with room for `count` blocks. -/
structure FirstFit (bitmap : Bitmap) (start count : Nat) (run : Run) : Prop where
  /-- The run is as long as it can be. -/
  freeRun : bitmap.FreeRun start run
  /-- It has the room. -/
  enough : count ≤ run.length
  /-- Every other run with the room comes behind it. -/
  first : ∀ other, bitmap.FreeRun start other → count ≤ other.length → run.start ≤ other.start

/-- Whether a run of free blocks is the longest one, and the first of those that are as long. -/
structure Longest (bitmap : Bitmap) (start : Nat) (run : Run) : Prop where
  /-- The run is as long as it can be. -/
  freeRun : bitmap.FreeRun start run
  /-- It is as good as every other run. -/
  longest : ∀ other, bitmap.FreeRun start other → run.AsGood other

/-- What a search for `count` free blocks from `start` on should return. -/
inductive Picks (bitmap : Bitmap) (start count : Nat) : Option Run → Prop where
  /-- The front of the first run that is long enough. -/
  | fitting {run : Run} (fits : bitmap.FirstFit start count run) :
    Picks bitmap start count (some ⟨run.start, count⟩)
  /-- The longest run, when none is long enough. -/
  | longest {run : Run} (longest : bitmap.Longest start run) (short : run.length < count) :
    Picks bitmap start count (some run)
  /-- Nothing, when no block is free. -/
  | full (taken : ∀ run, ¬ bitmap.FreeRun start run) : Picks bitmap start count none

/-- Free blocks that begin where a run of free blocks cannot be longer begin such a run. -/
theorem freeRun_zeroRun (held : bitmap.total ≤ bitmap.bits.size) (behind : start ≤ first)
    (before : first < bitmap.total) (isClear : bitmap.bits.test first = false)
    (left : first = start ∨ bitmap.bits.test (first - 1) = true) :
    bitmap.FreeRun start ⟨first, bitmap.bits.zeroRun first bitmap.total⟩ := by
  have bound := Bits.zeroRun_le bitmap.bits first bitmap.total
  have inside : first + bitmap.bits.zeroRun first bitmap.total ≤ bitmap.total := by omega
  refine ⟨Bits.zeroRun_pos before (by omega) isClear, behind, inside, ?_, left, ?_⟩
  · exact fun block after within => Bits.test_of_zeroRun after within
  · rcases Nat.lt_or_eq_of_le inside with early | whole
    · exact .inr (Bits.test_zeroRun_end held early)
    · exact .inl whole

/-- Free blocks belong to a run of free blocks that is as long as it can be. -/
theorem exists_freeRun (held : bitmap.total ≤ bitmap.bits.size) (positive : 0 < count)
    (behind : start ≤ first) (inside : first + count ≤ bitmap.total)
    (free : ∀ block, first ≤ block → block < first + count → bitmap.bits.test block = false) :
    ∃ run, bitmap.FreeRun start run ∧ count ≤ run.length := by
  have begins {first count : Nat} (positive : 0 < count) (behind : start ≤ first)
      (inside : first + count ≤ bitmap.total)
      (free : ∀ block, first ≤ block → block < first + count → bitmap.bits.test block = false)
      (left : first = start ∨ bitmap.bits.test (first - 1) = true) :
      ∃ run, bitmap.FreeRun start run ∧ count ≤ run.length := by
    have isClear : bitmap.bits.test first = false := free first le_rfl (by omega)
    exact ⟨_, freeRun_zeroRun held behind (by omega) isClear left,
      Bits.le_zeroRun held inside free⟩
  induction first generalizing count with
  | zero => exact begins positive behind inside free (.inl (Nat.le_zero.1 behind).symm)
  | succ before ih =>
    by_cases left : before + 1 = start ∨ bitmap.bits.test before = true
    · exact begins positive behind inside free left
    · -- The block to the left is free as well, so the blocks are a part of more free blocks.
      rw [not_or, Bool.not_eq_true] at left
      have more : ∀ block, before ≤ block → block < before + (count + 1) →
          bitmap.bits.test block = false := by
        intro block after within
        by_cases here : block = before
        · rw [here]
          exact left.2
        · exact free block (by omega) (by omega)
      obtain ⟨run, isRun, enough⟩ := ih (Nat.succ_pos count) (by omega) (by omega) more
      exact ⟨run, isRun, Nat.le_of_succ_le enough⟩

/-- A free block belongs to a run of free blocks. -/
theorem exists_freeRun_of_free (held : bitmap.total ≤ bitmap.bits.size) (behind : start ≤ block)
    (before : block < bitmap.total) (isFree : bitmap.bits.test block = false) :
    ∃ run, bitmap.FreeRun start run := by
  have free : ∀ other, block ≤ other → other < block + 1 → bitmap.bits.test other = false := by
    intro other after within
    rwa [show other = block by omega]
  obtain ⟨run, isRun, _⟩ := exists_freeRun held Nat.one_pos behind before free
  exact ⟨run, isRun⟩

/-- Where no block is free there is no run of free blocks. -/
theorem not_freeRun
    (full : ∀ block, start ≤ block → block < bitmap.total → bitmap.bits.test block = true)
    (run : Run) : ¬ bitmap.FreeRun start run := by
  intro isRun
  have first : run.start < run.start + run.length := Nat.lt_add_of_pos_right isRun.positive
  have hit := full run.start isRun.behind (first.trans_le isRun.inside)
  rw [isRun.free run.start le_rfl first] at hit
  exact nomatch hit

/-- A run of free blocks that does not begin before a search begins with the first free block that
the search finds, or behind it. -/
theorem FreeRun.le_start (isRun : bitmap.FreeRun start run)
    (found : bitmap.bits.find? false position bitmap.total = some first)
    (late : position ≤ run.start) : first ≤ run.start := by
  by_contra early
  have hit := Bits.test_of_found found late (Nat.lt_of_not_le early)
  rw [isRun.free run.start le_rfl (Nat.lt_add_of_pos_right isRun.positive)] at hit
  exact nomatch hit

namespace FreeRun

variable (isRun : bitmap.FreeRun start run)

include isRun

/-- The first block of a run is free. -/
theorem test_start : bitmap.bits.test run.start = false :=
  isRun.free run.start le_rfl (Nat.lt_add_of_pos_right isRun.positive)

/-- A run ends before every set bit behind its beginning. -/
theorem end_le (behind : run.start ≤ block)
    (bound : bitmap.total ≤ block ∨ bitmap.bits.test block = true) :
    run.start + run.length ≤ block := by
  by_contra within
  rcases bound with beyond | hit
  · have inside := isRun.inside
    omega
  · have miss := isRun.free block behind (by omega)
    rw [hit] at miss
    exact nomatch miss

/-- A run begins where another one does, or not within it. -/
theorem start_eq (isOther : bitmap.FreeRun start other) (behind : run.start ≤ other.start)
    (within : other.start < run.start + run.length) : other.start = run.start := by
  by_contra differs
  have before := isRun.behind
  rcases isOther.left with first | hit
  · omega
  · have miss := isRun.free (other.start - 1) (by omega) (by omega)
    rw [hit] at miss
    exact nomatch miss

/-- Two runs that begin together are the same. -/
theorem eq_of_start (isOther : bitmap.FreeRun start other) (same : other.start = run.start) :
    other = run := by
  have shorter := isRun.end_le (by omega) (isOther.right.imp Eq.ge id)
  have longer := isOther.end_le (by omega) (isRun.right.imp Eq.ge id)
  obtain ⟨begins, length⟩ := run
  obtain ⟨begins', length'⟩ := other
  simp only [Run.mk.injEq] at same shorter longer ⊢
  omega

end FreeRun

/-- What a search knows that has come to a place without finding enough room: all runs of free
blocks that begin before this place are too short, and the longest of them is known. -/
structure Passed (bitmap : Bitmap) (start count position : Nat) (best : Option Run) : Prop where
  /-- No run of free blocks lies across the place. -/
  border : position = start ∨
    (start < position ∧ (bitmap.total ≤ position ∨ bitmap.bits.test position = true))
  /-- The runs before the place are too short. -/
  short : ∀ run, bitmap.FreeRun start run → run.start < position → run.length < count
  /-- The best run is one of them. -/
  known : ∀ seen ∈ best, bitmap.FreeRun start seen ∧ seen.start < position
  /-- It is as good as all of them. -/
  longest : ∀ run, bitmap.FreeRun start run → run.start < position → ∃ seen ∈ best,
    seen.AsGood run

/-- A search begins without having passed anything. -/
theorem Passed.nothing (bitmap : Bitmap) (start count : Nat) :
    bitmap.Passed start count start none := by
  have before (run : Run) (isRun : bitmap.FreeRun start run) : ¬ run.start < start :=
    Nat.not_lt.2 isRun.behind
  exact ⟨.inl rfl, fun run isRun early => absurd early (before run isRun), nofun,
    fun run isRun early => absurd early (before run isRun)⟩

namespace Passed

variable (passed : bitmap.Passed start count position best)

include passed

/-- A search that finds no free block any more has found the longest run, or there is none. -/
theorem picks (missing : bitmap.bits.find? false position bitmap.total = none)
    (held : bitmap.total ≤ bitmap.bits.size) : bitmap.Picks start count best := by
  have before : ∀ run, bitmap.FreeRun start run → run.start < position := by
    intro run isRun
    have positive := isRun.positive
    have inside := isRun.inside
    by_contra late
    have hit := Bits.find?_eq_none_iff.1 missing run.start (by omega) (by omega) (by omega)
    rw [isRun.test_start] at hit
    exact nomatch hit
  cases best with
  | none =>
    refine .full fun run isRun => ?_
    obtain ⟨_, none, _⟩ := passed.longest run isRun (before run isRun)
    exact nomatch none
  | some seen =>
    have isRun := (passed.known seen rfl).1
    refine .longest ⟨isRun, fun run isRun => ?_⟩ (passed.short seen isRun (before seen isRun))
    obtain ⟨_, ⟨⟩, better⟩ := passed.longest run isRun (before run isRun)
    exact better

variable (found : bitmap.bits.find? false position bitmap.total = some first)

include found

/-- The next free block begins a run of free blocks. -/
theorem freeRun (held : bitmap.total ≤ bitmap.bits.size) :
    bitmap.FreeRun start ⟨first, bitmap.bits.zeroRun first bitmap.total⟩ := by
  obtain ⟨behind, before, _, isClear⟩ := Bits.find?_eq_some found
  have begins : start ≤ position := by
    rcases passed.border with same | ⟨late, _⟩
    · exact same.ge
    · exact late.le
  refine freeRun_zeroRun held (begins.trans behind) before isClear ?_
  rcases Nat.lt_or_eq_of_le behind with later | here
  · exact .inr (Bits.test_of_found found (by omega) (by omega))
  · rcases passed.border with same | ⟨_, beyond | hit⟩
    · exact .inl (here.symm.trans same)
    · omega
    · rw [here, isClear] at hit
      exact nomatch hit

/-- A run that has room for all blocks is the first one that has. -/
theorem firstFit (held : bitmap.total ≤ bitmap.bits.size)
    (enough : bitmap.bits.zeroRun first (min bitmap.total (first + count)) = count) :
    bitmap.FirstFit start count ⟨first, bitmap.bits.zeroRun first bitmap.total⟩ := by
  have bound := Bits.zeroRun_le bitmap.bits first (min bitmap.total (first + count))
  have before := (Bits.find?_eq_some found).2.1
  refine ⟨passed.freeRun found held, Bits.le_zeroRun held (by omega) ?_, ?_⟩
  · intro block behind within
    exact Bits.test_of_zeroRun behind (by rwa [enough])
  · intro other isOther room
    by_cases early : other.start < position
    · have short := passed.short other isOther early
      omega
    · exact isOther.le_start found (Nat.le_of_not_lt early)

/-- A run without enough room is one that is as long as it can be. -/
theorem freeRun_of_short (held : bitmap.total ≤ bitmap.bits.size)
    (short : bitmap.bits.zeroRun first (min bitmap.total (first + count)) ≠ count) :
    bitmap.FreeRun start
        ⟨first, bitmap.bits.zeroRun first (min bitmap.total (first + count))⟩ ∧
      bitmap.bits.zeroRun first (min bitmap.total (first + count)) < count := by
  have bound := Bits.zeroRun_le bitmap.bits first (min bitmap.total (first + count))
  have before := (Bits.find?_eq_some found).2.1
  have less : bitmap.bits.zeroRun first (min bitmap.total (first + count)) < count := by omega
  have isRun := passed.freeRun found held
  have inside := isRun.inside
  -- The run was not cut: where it ends before its limit a block is taken, and else the bitmap ends.
  have shorter : first + bitmap.bits.zeroRun first bitmap.total ≤
      first + bitmap.bits.zeroRun first (min bitmap.total (first + count)) := by
    rcases Nat.lt_or_ge (first + bitmap.bits.zeroRun first (min bitmap.total (first + count)))
      (min bitmap.total (first + count)) with early | whole
    · have hit := Bits.test_zeroRun_end (by omega) early
      exact isRun.end_le (Nat.le_add_right _ _) (.inr hit)
    · exact isRun.end_le (Nat.le_add_right _ _) (.inl (by omega))
  have longer : bitmap.bits.zeroRun first (min bitmap.total (first + count)) ≤
      bitmap.bits.zeroRun first bitmap.total :=
    Bits.le_zeroRun held (by omega) fun block behind within => Bits.test_of_zeroRun behind within
  have same : bitmap.bits.zeroRun first (min bitmap.total (first + count)) =
      bitmap.bits.zeroRun first bitmap.total := by omega
  rw [same] at less ⊢
  exact ⟨isRun, less⟩

/-- A search that passes a run without enough room knows the better of it and the best before. -/
theorem step {length : Nat} (isRun : bitmap.FreeRun start ⟨first, length⟩)
    (short : length < count) :
    bitmap.Passed start count (first + length) (some (Run.longer best ⟨first, length⟩)) := by
  have positive : 0 < length := isRun.positive
  have behind : position ≤ first := (Bits.find?_eq_some found).1
  have begins : start ≤ first := isRun.behind
  have latest : ∀ run, bitmap.FreeRun start run → run.start < first + length →
      run.start < position ∨ run = ⟨first, length⟩ := by
    intro run other within
    by_cases early : run.start < position
    · exact .inl early
    · have late := other.le_start found (Nat.le_of_not_lt early)
      exact .inr (isRun.eq_of_start other (isRun.start_eq other late within))
  refine ⟨.inr ⟨by omega, isRun.right.imp Eq.ge id⟩, ?_, ?_, ?_⟩
  · intro run other within
    rcases latest run other within with early | rfl
    · exact passed.short run other early
    · exact short
  · rintro _ ⟨⟩
    rcases Run.longer_mem best ⟨first, length⟩ with new | old
    · rw [new]
      exact ⟨isRun, Nat.lt_add_of_pos_right positive⟩
    · obtain ⟨known, before⟩ := passed.known _ old
      exact ⟨known, by omega⟩
  · intro run other within
    have ahead : ∀ seen ∈ best, seen.start ≤ first := by
      intro seen old
      have before := (passed.known seen old).2
      omega
    have found : ∀ seen ∈ best, seen.start ≤ (⟨first, length⟩ : Run).start := ahead
    obtain ⟨new, old⟩ := Run.asGood_longer found
    refine ⟨_, rfl, ?_⟩
    rcases latest run other within with early | rfl
    · obtain ⟨seen, known, better⟩ := passed.longest run other early
      exact (old seen known).trans better
    · exact new

end Passed

/-- A search for free blocks picks what it should. -/
theorem picks_findRun? (held : bitmap.total ≤ bitmap.bits.size) (positive : 0 < count)
    (start : Nat) : bitmap.Picks start count (bitmap.findRun? start count) := by
  have search (position : Nat) (best : Option Run)
      (passed : bitmap.Passed start count position best) :
      bitmap.Picks start count (findRun?.go bitmap count positive position best) := by
    fun_induction findRun?.go bitmap count positive position best with
    | case1 position best missing => exact passed.picks missing held
    | case2 position best first found hit length_pos length enough =>
      rw [enough]
      exact .fitting (passed.firstFit found held enough)
    | case3 position best first found hit length_pos length short ih =>
      obtain ⟨isRun, less⟩ := passed.freeRun_of_short found held short
      exact ih (passed.step found isRun less)
  rw [findRun?, dif_pos positive]
  exact search start none (.nothing bitmap start count)

namespace Picks

variable {found : Option Run} (picks : bitmap.Picks start count found)

include picks

/-- When a run has the room, the front of the first one that has it is picked. -/
theorem fits (enough : ∃ run, bitmap.FreeRun start run ∧ count ≤ run.length) :
    ∃ first, bitmap.FirstFit start count first ∧ found = some ⟨first.start, count⟩ := by
  obtain ⟨run, isRun, room⟩ := enough
  cases picks with
  | @fitting first fits => exact ⟨first, fits, rfl⟩
  | longest longest short =>
    have worse := longest.longest run isRun
    unfold Run.AsGood at worse
    omega
  | full taken => exact (taken run isRun).elim

/-- When no run has the room but a block is free, the longest run is picked. -/
theorem longest_of_short (short : ∀ run, bitmap.FreeRun start run → run.length < count)
    (some : ∃ run, bitmap.FreeRun start run) :
    ∃ longest, bitmap.Longest start longest ∧ found = .some longest := by
  cases picks with
  | @fitting first fits =>
    have less := short first fits.freeRun
    have enough := fits.enough
    omega
  | @longest run longest _ => exact ⟨run, longest, rfl⟩
  | full taken =>
    obtain ⟨run, isRun⟩ := some
    exact (taken run isRun).elim

/-- When no block is free, nothing is picked. -/
theorem eq_none (taken : ∀ run, ¬ bitmap.FreeRun start run) : found = none := by
  cases picks with
  | fitting fits => exact (taken _ fits.freeRun).elim
  | longest longest _ => exact (taken _ longest.freeRun).elim
  | full _ => rfl

/-- A run that is shorter than asked for is picked only when no run has the room. -/
theorem short_of_lt (less : (found.getD ⟨0, 0⟩).length < count) :
    ∀ run, bitmap.FreeRun start run → run.length < count := by
  intro run isRun
  cases picks with
  | fitting _ => exact (Nat.lt_irrefl _ less).elim
  | longest longest short =>
    have worse := longest.longest run isRun
    unfold Run.AsGood at worse
    omega
  | full taken => exact (taken run isRun).elim

end Picks

end Bitmap

namespace Allocator

variable {allocator after : Allocator} {count : Nat} {run : Bitmap.Run}

/-- An allocation returns the run that the search found, or an empty one. -/
theorem run_of_allocate (allocates : allocator.allocate count = .ok (run, after)) :
    run = (allocator.bitmap.findRun? 0 count).getD ⟨0, 0⟩ := by
  cases found : allocator.bitmap.findRun? 0 count with
  | none =>
    rw [allocate, found] at allocates
    cases allocates
    rfl
  | some first =>
    cases marks : allocator.bitmap.mark first.start first.length with
    | error error =>
      simp only [allocate, found, marks] at allocates
      cases allocates
    | ok bitmap =>
      simp only [allocate, found, marks] at allocates
      cases allocates
      rfl

/-- A block of the volume is in use when its bit is set. -/
theorem Consistent.mem_inUse {block : Nat} (consistent : allocator.Consistent)
    (inside : block < allocator.geometry.blockCount) :
    block ∈ allocator.inUse ↔ allocator.bitmap.bits.test block = true :=
  Bitmap.mem_markedBlocks.trans (and_iff_right (consistent.total.symm ▸ inside))

/-- In a bitmap that holds a bit for each of its blocks, a search for free blocks returns the front
of the first run that is long enough, if there is one, and the longest run otherwise; of equally
long ones the first, and nothing when no block is free. An allocation takes the run that a search
from block zero returns, and a run shorter than asked for shows that no place has the room. -/
theorem first_fit_or_longest (positive : 0 < count) :
    (∀ bitmap : Bitmap, bitmap.total ≤ bitmap.bits.size → ∀ start,
      ((∃ run, bitmap.FreeRun start run ∧ count ≤ run.length) →
        ∃ first, bitmap.FirstFit start count first ∧
          bitmap.findRun? start count = some ⟨first.start, count⟩) ∧
      ((∀ run, bitmap.FreeRun start run → run.length < count) →
        (∃ block, start ≤ block ∧ block < bitmap.total ∧ bitmap.bits.test block = false) →
        ∃ longest, bitmap.Longest start longest ∧ bitmap.findRun? start count = some longest) ∧
      ((∀ block, start ≤ block → block < bitmap.total → bitmap.bits.test block = true) →
        bitmap.findRun? start count = none)) ∧
    ∀ allocator, Reachable allocator →
      ∃ run after, allocator.allocate count = .ok (run, after) ∧
        ((∃ free, allocator.bitmap.FreeRun 0 free ∧ count ≤ free.length) →
          ∃ first, allocator.bitmap.FirstFit 0 count first ∧ run = ⟨first.start, count⟩) ∧
        ((∀ free, allocator.bitmap.FreeRun 0 free → free.length < count) →
          (∃ block, block < allocator.geometry.blockCount ∧ block ∉ allocator.inUse) →
          allocator.bitmap.Longest 0 run) ∧
        ((∀ block, block < allocator.geometry.blockCount → block ∈ allocator.inUse) →
          run = ⟨0, 0⟩) ∧
        (run.length < count → ∀ start, start + count ≤ allocator.geometry.blockCount →
          ¬ Disjoint (Finset.Ico start (start + count)) allocator.inUse) := by
  refine ⟨fun bitmap held start => ?_, fun allocator reachable => ?_⟩
  · have picks := Bitmap.picks_findRun? held positive start
    refine ⟨picks.fits, fun short ⟨block, behind, before, isFree⟩ => ?_, fun full => ?_⟩
    · exact picks.longest_of_short short
        (Bitmap.exists_freeRun_of_free held behind before isFree)
    · exact picks.eq_none (Bitmap.not_freeRun full)
  · have consistent := reachable.consistent
    have held := consistent.counted.held
    have total := consistent.total
    have picks := Bitmap.picks_findRun? held positive 0
    obtain ⟨run, after, allocates, _⟩ := consistent.exists_allocate count
    have found := run_of_allocate allocates
    refine ⟨run, after, allocates, fun enough => ?_, fun short free => ?_, fun full => ?_,
      fun less start inside apart => ?_⟩
    · obtain ⟨first, fits, same⟩ := picks.fits enough
      rw [same] at found
      exact ⟨first, fits, found⟩
    · obtain ⟨block, inside, unused⟩ := free
      rw [consistent.mem_inUse inside, Bool.not_eq_true] at unused
      have free := Bitmap.exists_freeRun_of_free held (Nat.zero_le block) (total ▸ inside) unused
      obtain ⟨longest, isLongest, same⟩ := picks.longest_of_short short free
      rw [same] at found
      rwa [found]
    · have taken : ∀ block, 0 ≤ block → block < allocator.bitmap.total →
          allocator.bitmap.bits.test block = true := by
        rw [total]
        exact fun block _ inside => (consistent.mem_inUse inside).1 (full block inside)
      rwa [picks.eq_none (Bitmap.not_freeRun taken)] at found
    · have free : ∀ block, start ≤ block → block < start + count →
          allocator.bitmap.bits.test block = false := by
        intro block behind before
        have unused := Finset.disjoint_left.1 apart (Finset.mem_Ico.2 ⟨behind, before⟩)
        rwa [consistent.mem_inUse (by omega), Bool.not_eq_true] at unused
      obtain ⟨free, isRun, enough⟩ :=
        Bitmap.exists_freeRun held positive (Nat.zero_le start) (total ▸ inside) free
      rw [found] at less
      have short := picks.short_of_lt less free isRun
      omega

/-- A packed allocator of 64 blocks, of which the eleventh is in use. -/
def Sample.packedSplit : Bytes :=
  LittleEndian.encode64 64 ++ LittleEndian.encode32 0 ++
    [0, 4, 0, 0, 0, 0, 0, 0] ++ List.replicate 500 0xFF

/-- The allocator that is unpacked. -/
def Sample.split : Allocator where
  geometry := { blockSize := 512, blockCount := 64 }
  bitmap := { total := 64, marked := 1, bits := ⟨#[0, 4, 0, 0, 0, 0, 0, 0]⟩ }
  sums := #[0]
  dirty := true

/-- No 60 blocks in a row are free, so an allocation of 60 blocks takes the longer of the two runs
of free blocks. -/
theorem first_fit_or_longest_sample : Reachable Sample.split ∧
    Sample.split.bitmap.findRun? 0 60 = some ⟨11, 53⟩ ∧
    Sample.split.bitmap.Longest 0 ⟨11, 53⟩ ∧
    ∃ after, Sample.split.allocate 60 = .ok (⟨11, 53⟩, after) ∧
      ∀ start, start + 60 ≤ 64 → ¬ Disjoint (Finset.Ico start (start + 60)) {10} := by
  have outcome : (match unpack 512 Sample.packedSplit with
      | .ok allocator _ => some allocator
      | .error _ _ => none) = some Sample.split := by decide +kernel
  have reachable : Reachable Sample.split := by
    cases unpacks : unpack 512 Sample.packedSplit with
    | error error rest =>
      rw [unpacks] at outcome
      exact nomatch outcome
    | ok allocator rest =>
      rw [unpacks] at outcome
      cases outcome
      exact .unpacked unpacks
  have finds : Sample.split.bitmap.findRun? 0 60 = some ⟨11, 53⟩ := by decide +kernel
  have used : Sample.split.inUse = {10} := by decide +kernel
  have positive : 0 < 60 := by decide
  obtain ⟨searches, allocations⟩ := first_fit_or_longest positive
  obtain ⟨fitting, longest, _⟩ := searches Sample.split.bitmap (by decide) 0
  obtain ⟨run, after, allocates, _, _, _, shortage⟩ := allocations Sample.split reachable
  have found := run_of_allocate allocates
  rw [finds, Option.getD_some] at found
  subst found
  refine ⟨reachable, finds, ?_, after, allocates, ?_⟩
  · have short : ∀ run, Sample.split.bitmap.FreeRun 0 run → run.length < 60 := by
      intro run isRun
      by_contra enough
      obtain ⟨first, _, same⟩ := fitting ⟨run, isRun, Nat.le_of_not_lt enough⟩
      rw [finds, Option.some.injEq, Bitmap.Run.mk.injEq] at same
      omega
    obtain ⟨run, isLongest, same⟩ := longest short ⟨0, by decide, by decide, by decide⟩
    cases finds.symm.trans same
    exact isLongest
  · rw [← used]
    exact shortage (by decide)

end Allocator

end JournaledVolume
