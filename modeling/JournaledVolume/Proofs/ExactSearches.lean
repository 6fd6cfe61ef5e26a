import JournaledVolume.Proofs.FirstFit
import Mathlib.Order.Bounds.Basic

/-!
# Searches and counts, bit by bit

Searches and counts take whole bytes where they can, and a search for a run passes over the runs
that are too short. What they return is what looking at every single bit would return: the least
place, the greatest length or the number of places, among the bits that the bytes hold. Two searches
for free blocks were written apart from each other, one on bare bits and one on a bitmap; they agree
on where the room is.
-/

namespace JournaledVolume

/-- Whether what a search found is the least of some places, or nothing when there is none. -/
structure FindsLeast (places : Set Nat) (found : Option Nat) : Prop where
  /-- A place is found exactly if it is the least one. -/
  place : ∀ index, found = some index ↔ IsLeast places index
  /-- Nothing is found exactly if there is no place. -/
  nothing : found = none ↔ places = ∅

/-- A search that finds a least place, or nothing where there is no place. -/
theorem FindsLeast.of_found {places : Set Nat} {found : Option Nat}
    (hit : ∀ index, found = some index → IsLeast places index)
    (miss : found = none → places = ∅) : FindsLeast places found := by
  cases found with
  | none =>
    have empty := miss rfl
    refine ⟨fun index => ⟨nofun, fun least => ?_⟩, ⟨miss, fun _ => rfl⟩⟩
    exact absurd (empty ▸ least.1) (Set.notMem_empty index)
  | some first =>
    have least := hit first rfl
    refine ⟨fun index => ⟨hit index, fun other => congrArg some (least.unique other)⟩,
      ⟨nofun, fun empty => ?_⟩⟩
    exact absurd (empty ▸ least.1) (Set.notMem_empty first)

namespace Bits

variable {bits : Bits} {value : Bool} {start stop first position count index : Nat}

/-- The places from `start` on and below `stop` that the bytes hold and whose bit has a value. -/
def places (bits : Bits) (value : Bool) (start stop : Nat) : Set Nat :=
  {index | start ≤ index ∧ index < min stop bits.size ∧ bits.test index = value}

/-- The places from `start` on where `count` clear bits begin, all of them below `stop` and held by
the bytes. -/
def clearRuns (bits : Bits) (start stop count : Nat) : Set Nat :=
  {first | start ≤ first ∧ first + count ≤ min stop bits.size ∧
    ∀ index, first ≤ index → index < first + count → bits.test index = false}

/-- A search for a bit finds the first one. -/
theorem findsLeast_find? : FindsLeast (bits.places value start stop)
    (bits.find? value start stop) := by
  refine .of_found (fun index found => ?_) fun missing => ?_
  · obtain ⟨behind, before, held, hit⟩ := find?_eq_some found
    refine ⟨⟨behind, Nat.lt_min.2 ⟨before, held⟩, hit⟩, fun other known => ?_⟩
    by_contra earlier
    have miss := test_of_found found known.1 (Nat.lt_of_not_le earlier)
    rw [known.2.2] at miss
    cases value <;> exact nomatch miss
  · refine Set.eq_empty_iff_forall_notMem.2 fun index known => ?_
    obtain ⟨before, held⟩ := Nat.lt_min.1 known.2.1
    have miss := find?_eq_none_iff.1 missing index known.1 before held
    rw [known.2.2] at miss
    cases value <;> exact nomatch miss

/-- A run of clear bits ends with the bytes anyway. -/
theorem zeroRun_min_size (bits : Bits) (start stop : Nat) :
    bits.zeroRun start (min stop bits.size) = bits.zeroRun start stop := by
  rw [zeroRun, zeroRun, Nat.min_assoc, Nat.min_self]

/-- A run of clear bits does not leave the bytes. -/
theorem zeroRun_le_held (bits : Bits) (start stop : Nat) :
    bits.zeroRun start stop ≤ min stop bits.size - start := by
  rw [← zeroRun_min_size]
  exact zeroRun_le bits start _

/-- The length of a run of clear bits is the greatest number of bits from `start` on that are all
clear. -/
theorem isGreatest_zeroRun : IsGreatest
    {length | ∀ index, start ≤ index → index < start + length →
      index < min stop bits.size ∧ bits.test index = false}
    (bits.zeroRun start stop) := by
  have bound := zeroRun_le_held bits start stop
  constructor
  · intro index behind within
    exact ⟨by omega, test_of_zeroRun behind within⟩
  · intro length clear
    rcases Nat.eq_zero_or_pos length with rfl | positive
    · exact Nat.zero_le _
    · have last := (clear (start + length - 1) (by omega) (by omega)).1
      rw [← zeroRun_min_size]
      refine le_zeroRun (Nat.min_le_right _ _) (by omega) fun index behind within => ?_
      exact (clear index behind within).2

/-- The number of set bits is the number of places where the bit is set. -/
theorem ones_eq_card : bits.ones start stop =
    ((Finset.Ico start (min stop bits.size)).filter fun index => bits.test index = true).card := by
  have listed :
      (Finset.Ico start (min stop bits.size)).filter (fun index => bits.test index = true) =
        ((List.range' start (min stop bits.size - start)).filter bits.test).toFinset := by
    ext index
    simp only [Finset.mem_filter, Finset.mem_Ico, List.mem_toFinset, List.mem_filter,
      List.mem_range'_1]
    refine and_congr_left fun _ => ?_
    omega
  have once := (List.nodup_range' (s := start) (n := min stop bits.size - start)).filter bits.test
  rw [listed, List.toFinset_card_of_nodup once, ones, ones_go_eq (Nat.min_le_right _ _),
    Nat.zero_add, List.countP_eq_length_filter]

/-- The number of clear bits is the number of places where the bit is clear. -/
theorem clears_eq_card : bits.clears start stop =
    ((Finset.Ico start (min stop bits.size)).filter fun index => bits.test index = false).card := by
  have parts := Finset.card_filter_add_card_filter_not
    (s := Finset.Ico start (min stop bits.size)) fun index => bits.test index = true
  simp only [Bool.not_eq_true, Nat.card_Ico] at parts
  have counted : bits.ones start (min stop bits.size) = bits.ones start stop := by
    rw [ones, ones, Nat.min_assoc, Nat.min_self]
  rw [clears, counted, ones_eq_card]
  split
  · omega
  · omega

/-- Clear bits do not begin before the first clear bit. -/
theorem le_of_mem_clearRuns (positive : 0 < count)
    (found : bits.find? false position stop = some first)
    (known : index ∈ bits.clearRuns position stop count) : first ≤ index := by
  by_contra early
  have hit := test_of_found found known.1 (Nat.lt_of_not_le early)
  rw [known.2.2 index le_rfl (Nat.lt_add_of_pos_right positive)] at hit
  exact nomatch hit

/-- Where no bit is clear, no clear bits begin. -/
theorem clearRuns_of_none (positive : 0 < count)
    (missing : bits.find? false position stop = none) : bits.clearRuns position stop count = ∅ := by
  refine Set.eq_empty_iff_forall_notMem.2 fun index known => ?_
  obtain ⟨behind, inside, clear⟩ := known
  have hit := find?_eq_none_iff.1 missing index behind (by omega) (by omega)
  rw [clear index le_rfl (Nat.lt_add_of_pos_right positive)] at hit
  exact nomatch hit

/-- Where the first clear bit is too late, no clear bits begin. -/
theorem clearRuns_of_late (positive : 0 < count)
    (found : bits.find? false position stop = some first) (late : stop < first + count) :
    bits.clearRuns position stop count = ∅ := by
  refine Set.eq_empty_iff_forall_notMem.2 fun index known => ?_
  have behind := le_of_mem_clearRuns positive found known
  have inside := known.2.1
  omega

/-- Where the first clear bit begins enough of them, they are the first that do. -/
theorem isLeast_clearRuns (positive : 0 < count)
    (found : bits.find? false position stop = some first)
    (enough : bits.zeroRun first (min stop (first + count)) = count) :
    IsLeast (bits.clearRuns position stop count) first := by
  have bound := zeroRun_le_held bits first (min stop (first + count))
  obtain ⟨behind, before, held, _⟩ := find?_eq_some found
  refine ⟨⟨behind, by omega, fun index after within => ?_⟩, fun index known => ?_⟩
  · exact test_of_zeroRun after (by rwa [enough])
  · exact le_of_mem_clearRuns positive found known

/-- Where the first clear bit begins too few of them, so does every place up to their end. -/
theorem clearRuns_of_short (found : bits.find? false position stop = some first)
    (short : bits.zeroRun first (min stop (first + count)) < count) :
    bits.clearRuns position stop count =
      bits.clearRuns (first + bits.zeroRun first (min stop (first + count))) stop count := by
  obtain ⟨behind, before, held, _⟩ := find?_eq_some found
  have positive : 0 < count := Nat.zero_lt_of_lt short
  ext index
  refine ⟨fun known => ⟨?_, known.2⟩, fun known => ⟨by have late := known.1; omega, known.2⟩⟩
  -- Clear bits that begin earlier would go on behind the end of the run.
  have late := le_of_mem_clearRuns positive found known
  obtain ⟨_, inside, clear⟩ := known
  have bound := zeroRun_le_held bits first (min stop (first + count))
  by_contra early
  rw [← zeroRun_min_size] at short bound early
  rcases Nat.lt_or_ge (first + bits.zeroRun first (min (min stop (first + count)) bits.size))
    (min (min stop (first + count)) bits.size) with ends | whole
  · have hit := test_zeroRun_end (Nat.min_le_right _ _) ends
    rw [clear _ (by omega) (by omega)] at hit
    exact nomatch hit
  · omega

/-- A search for a run of clear bits finds the first place where enough of them begin. -/
theorem findsLeast_findRun? (positive : 0 < count) :
    FindsLeast (bits.clearRuns start stop count) (bits.findRun? start stop count) := by
  have search (stop : Nat) (held : stop ≤ bits.size) (position : Nat) :
      FindsLeast (bits.clearRuns position stop count)
        (findRun?.go bits count positive stop held position) := by
    fun_induction findRun?.go bits count positive stop held position with
    | case1 position missing =>
      exact .of_found nofun fun _ => clearRuns_of_none positive missing
    | case2 position first found hit run_pos late =>
      exact .of_found nofun fun _ => clearRuns_of_late positive found late
    | case3 position first found hit run_pos room run enough =>
      have limit : first + count = min stop (first + count) := by omega
      refine .of_found (fun index same => ?_) nofun
      cases same
      exact isLeast_clearRuns positive found (limit ▸ enough)
    | case4 position first found hit run_pos room run short ih =>
      have limit : first + count = min stop (first + count) := by omega
      have bound := zeroRun_le bits first (first + count)
      have less : bits.zeroRun first (first + count) < count := by omega
      have same := clearRuns_of_short found (limit ▸ less)
      rw [← limit] at same
      rw [same]
      exact ih
  have whole :
      bits.clearRuns start (min stop bits.size) count = bits.clearRuns start stop count := by
    rw [clearRuns, clearRuns, Nat.min_assoc, Nat.min_self]
  rw [findRun?, dif_pos positive, ← whole]
  exact search _ _ start

end Bits

namespace Bitmap

variable {bitmap : Bitmap} {start count place : Nat}

/-- A search for free blocks finds all of them at the first place where they begin, or fewer. -/
theorem findRun?_eq_some_iff (positive : 0 < count) :
    bitmap.findRun? start count = some ⟨place, count⟩ ↔
      IsLeast (bitmap.bits.clearRuns start bitmap.total count) place := by
  -- The best run that was passed is no answer, since it is too short.
  have search (position : Nat) (best : Option Run) (passed : ∀ seen ∈ best, seen.length < count) :
      findRun?.go bitmap count positive position best = some ⟨place, count⟩ ↔
        IsLeast (bitmap.bits.clearRuns position bitmap.total count) place := by
    fun_induction findRun?.go bitmap count positive position best with
    | case1 position best missing =>
      rw [Bits.clearRuns_of_none positive missing]
      constructor
      · intro same
        exact absurd (passed _ same) (Nat.lt_irrefl count)
      · exact fun least => absurd least.1 (Set.notMem_empty place)
    | case2 position best first found hit length_pos length enough =>
      have least := Bits.isLeast_clearRuns positive found enough
      rw [enough]
      constructor
      · intro same
        cases same
        exact least
      · intro other
        rw [least.unique other]
    | case3 position best first found hit length_pos length short ih =>
      have bound := Bits.zeroRun_le bitmap.bits first (min bitmap.total (first + count))
      have less : bitmap.bits.zeroRun first (min bitmap.total (first + count)) < count := by omega
      rw [Bits.clearRuns_of_short found less]
      apply ih
      rintro _ ⟨⟩
      rcases Run.longer_mem best ⟨first, length⟩ with new | old
      · rw [new]
        exact less
      · exact passed _ old
  rw [findRun?, dif_pos positive]
  exact search start none fun seen known => absurd known (Option.not_mem_none seen)

end Bitmap

/-- Searches and counts return what looking at every bit would return. Among the places from `start`
on and below `stop` that the bytes hold, a search for a bit finds the first one with the value, or
nothing when no bit has it; a run of clear bits is as long as it can be; and set and clear bits are
counted exactly. A search for a run of clear bits finds the first place where enough of them begin,
or nothing when there is no such place. On the bits of a bitmap it finds a place exactly if the
search of the bitmap finds all blocks asked for there. -/
theorem searches_exact :
    (∀ (bits : Bits) (start stop : Nat),
      (∀ value, FindsLeast (bits.places value start stop) (bits.find? value start stop)) ∧
      IsGreatest
        {length | ∀ index, start ≤ index → index < start + length →
          index < min stop bits.size ∧ bits.test index = false}
        (bits.zeroRun start stop) ∧
      bits.ones start stop = ((Finset.Ico start (min stop bits.size)).filter fun index =>
        bits.test index = true).card ∧
      bits.clears start stop = ((Finset.Ico start (min stop bits.size)).filter fun index =>
        bits.test index = false).card ∧
      ∀ count, 0 < count →
        FindsLeast (bits.clearRuns start stop count) (bits.findRun? start stop count)) ∧
    ∀ (bitmap : Bitmap) (start count place : Nat), 0 < count →
      (bitmap.bits.findRun? start bitmap.total count = some place ↔
        bitmap.findRun? start count = some ⟨place, count⟩) := by
  refine ⟨fun bits start stop => ⟨fun value => Bits.findsLeast_find?, Bits.isGreatest_zeroRun,
    Bits.ones_eq_card, Bits.clears_eq_card, fun count => Bits.findsLeast_findRun?⟩, ?_⟩
  intro bitmap start count place positive
  have least : FindsLeast (bitmap.bits.clearRuns start bitmap.total count)
      (bitmap.bits.findRun? start bitmap.total count) := Bits.findsLeast_findRun? positive
  exact (least.place place).trans (Bitmap.findRun?_eq_some_iff positive).symm

/-- A bitmap of 30 blocks in four bytes. Of its first three bytes one is full, one is half full and
one is empty, and block 29 is in use. -/
def Bitmap.Sample.mixed : Bitmap where
  total := 30
  marked := 13
  bits := ⟨#[0xFF, 0x0F, 0x00, 0x20]⟩

/-- The first 17 clear bits in a row begin in the half full byte, and both searches find them there;
no 18 do. -/
theorem searches_exact_sample :
    Bitmap.Sample.mixed.bits.findRun? 3 30 17 = some 12 ∧
    IsLeast (Bitmap.Sample.mixed.bits.clearRuns 3 30 17) 12 ∧
    Bitmap.Sample.mixed.findRun? 3 17 = some ⟨12, 17⟩ ∧
    Bitmap.Sample.mixed.bits.clearRuns 3 30 18 = ∅ := by
  have finds : Bitmap.Sample.mixed.bits.findRun? 3 30 17 = some 12 := by decide +kernel
  have misses : Bitmap.Sample.mixed.bits.findRun? 3 30 18 = none := by decide +kernel
  obtain ⟨searches, agree⟩ := searches_exact
  obtain ⟨_, _, _, _, runs⟩ := searches Bitmap.Sample.mixed.bits 3 30
  have place := (runs 17 (by decide)).place 12
  have nothing := (runs 18 (by decide)).nothing
  have same := agree Bitmap.Sample.mixed 3 17 12 (by decide)
  exact ⟨finds, place.1 finds, same.1 finds, nothing.1 misses⟩

end JournaledVolume
