import JournaledVolume.Proofs.Marking

/-!
# Searching for runs of free blocks

A search passes over whole bytes where it can. Still, no bit that it passes has the value that it
looks for, whether it finds one or comes to its end. Hence a run of clear bits is clear throughout,
and a search for a run of free blocks returns blocks of the bitmap that are all free.
-/

namespace JournaledVolume

namespace Bits

variable {bits : Bits} {value : Bool} {start stop index other : Nat}

/-- The eight bits of a byte that a search passes over at once are not what it looks for. -/
theorem test_of_skipped (aligned : index % 8 = 0)
    (skipped : bits.bytes[index / 8]? = some (if value then 0x00 else 0xFF))
    (behind : index ≤ other) (within : other < index + 8) : bits.test other = !value := by
  have place : other / 8 = index / 8 := by omega
  have small : other % 8 < 8 := Nat.mod_lt _ (by decide)
  rw [← place] at skipped
  rw [test_of_getElem? skipped]
  cases value with
  | true => exact Nat.zero_testBit _
  | false =>
    have ones : ∀ position < 8, (0xFF : UInt8).toNat.testBit position = true := by decide
    exact ones _ small

/-- No bit before the place at which a search ends is what it looks for. -/
theorem test_of_passed (behind : start ≤ other)
    (before : other < (find?.go bits value stop start).getD stop) : bits.test other = !value := by
  fun_induction find?.go bits value stop start with
  | case1 start inside whole ih =>
    by_cases near : other < start + 8
    · exact test_of_skipped whole.1 whole.2.2 behind near
    · exact ih (by omega) before
  | case2 start inside _ hit =>
    rw [Option.getD_some] at before
    omega
  | case3 start inside _ miss ih =>
    by_cases first : other = start
    · rw [first]
      cases value <;> simpa using miss
    · exact ih (by omega) before
  | case4 start outside =>
    rw [Option.getD_none] at before
    omega

/-- A search comes to its end exactly where no bit in its range is what it looks for. -/
theorem find?_eq_none_iff : bits.find? value start stop = none ↔
    ∀ index, start ≤ index → index < stop → index < bits.size → bits.test index = !value := by
  constructor
  · intro nothing index behind before held
    have ends : (find?.go bits value (min stop bits.size) start).getD (min stop bits.size) =
        min stop bits.size := by
      rw [show find?.go bits value (min stop bits.size) start = none from nothing]
      exact Option.getD_none
    have passed : index < (find?.go bits value (min stop bits.size) start).getD
        (min stop bits.size) := by omega
    exact test_of_passed behind passed
  · intro none
    cases found : bits.find? value start stop with
    | none => rfl
    | some index =>
      obtain ⟨behind, before, held, hit⟩ := find?_eq_some found
      have miss := none index behind before held
      rw [hit] at miss
      cases value <;> exact nomatch miss

/-- The bits of a run of clear bits are clear. -/
theorem test_of_zeroRun (behind : start ≤ index) (within : index < start + bits.zeroRun start stop) :
    bits.test index = false := by
  rw [zeroRun] at within
  split at within
  · omega
  · next room =>
    have bounded : min (min stop bits.size) bits.size = min stop bits.size := by omega
    rw [find?, bounded] at within
    have before : index < (find?.go bits true (min stop bits.size) start).getD
        (min stop bits.size) := by omega
    exact test_of_passed behind before

/-- A run of clear bits ends where it is told to, at the latest. -/
theorem zeroRun_le (bits : Bits) (start stop : Nat) : bits.zeroRun start stop ≤ stop - start := by
  rw [zeroRun]
  split
  · exact Nat.zero_le _
  · cases found : bits.find? true start (min stop bits.size) with
    | none =>
      rw [Option.getD_none]
      omega
    | some index =>
      have inside := (find?_eq_some found).2.1
      rw [Option.getD_some]
      omega

end Bits

namespace Bitmap

variable {bitmap : Bitmap} {start count position : Nat} {best : Option Run} {run : Run}

/-- Whether a run is one that a search for `count` free blocks may return: some blocks of the
bitmap, no more than `count`, all of them free. -/
structure Offers (bitmap : Bitmap) (count : Nat) (run : Run) : Prop where
  /-- The run is not empty. -/
  positive : 0 < run.length
  /-- It is not longer than asked for. -/
  short : run.length ≤ count
  /-- It lies in the bitmap. -/
  inside : run.start + run.length ≤ bitmap.total
  /-- Its blocks are free. -/
  free : ∀ block, run.start ≤ block → block < run.start + run.length →
    bitmap.bits.test block = false

/-- The clear bits behind a clear bit make up a run that may be returned. -/
theorem offers_zeroRun {first : Nat} (positive : 0 < count)
    (found : bitmap.bits.find? false position bitmap.total = some first) :
    bitmap.Offers count
      ⟨first, bitmap.bits.zeroRun first (min bitmap.total (first + count))⟩ := by
  obtain ⟨_, before, held, isClear⟩ := Bits.find?_eq_some found
  have room : first < min bitmap.total (first + count) := by omega
  have bound := Bits.zeroRun_le bitmap.bits first (min bitmap.total (first + count))
  refine ⟨Bits.zeroRun_pos room held isClear, ?_, ?_, ?_⟩
  · show bitmap.bits.zeroRun _ _ ≤ count
    omega
  · show first + bitmap.bits.zeroRun _ _ ≤ bitmap.total
    omega
  · exact fun block behind within => Bits.test_of_zeroRun behind within

/-- The longer of two runs that may be returned may be returned. -/
theorem offers_longer (earlier : ∀ run ∈ best, bitmap.Offers count run)
    (offers : bitmap.Offers count run) : bitmap.Offers count (Run.longer best run) := by
  cases best with
  | none => exact offers
  | some seen =>
    simp only [Run.longer]
    split
    · exact offers
    · exact earlier seen rfl

/-- A search for free blocks returns a run that it may return. -/
theorem offers_of_findRun? (found : bitmap.findRun? start count = some run) :
    bitmap.Offers count run := by
  -- The longest run seen so far may be returned at every step of the search.
  have search (positive : 0 < count) (position : Nat) (best : Option Run)
      (earlier : ∀ run ∈ best, bitmap.Offers count run) :
      ∀ run ∈ findRun?.go bitmap count positive position best, bitmap.Offers count run := by
    fun_induction findRun?.go bitmap count positive position best with
    | case1 => exact earlier
    | case2 position best first found hit length_pos length enough =>
      intro run same
      cases same
      exact offers_zeroRun positive found
    | case3 position best first found hit length_pos length short ih =>
      apply ih
      intro run same
      cases same
      exact offers_longer earlier (offers_zeroRun positive found)
  rw [findRun?] at found
  split at found
  · next positive => exact search positive start none nofun run found
  · exact nomatch found

end Bitmap

end JournaledVolume
