import JournaledVolume.Action

/-!
# Bits in bytes

Bit `i` is bit `i % 8` of byte `i / 8`, counted from the least significant. Searches and counts
run over a range of bits that is cut off at the end of the bytes. They take a whole byte at a time
where the range covers it, so that long full or empty stretches cost an eighth of the steps.
-/

namespace JournaledVolume

/-- Bits packed eight to a byte, the least significant bit of a byte first. -/
structure Bits where
  /-- The bytes that hold the bits. -/
  bytes : Array UInt8
deriving DecidableEq, Repr

namespace Bits

/-- The number of bits that the bytes hold. -/
def size (bits : Bits) : Nat := 8 * bits.bytes.size

/-- Clear bits in a number of bytes. -/
def zeros (byteCount : Nat) : Bits := ⟨Array.replicate byteCount 0⟩

/-- Whether a bit is set; a bit outside the bytes is not. -/
def test (bits : Bits) (index : Nat) : Bool :=
  match bits.bytes[index / 8]? with
  | some byte => byte.toNat.testBit (index % 8)
  | none => false

/-- A byte after one of its bits was set or cleared. -/
def writeByte (byte : UInt8) (position : Nat) (value : Bool) : UInt8 :=
  let mask : UInt8 := 1 <<< UInt8.ofNat position
  if value then byte ||| mask else byte &&& ~~~mask

/-- The bits after one of them was set or cleared; a bit outside the bytes has no effect. -/
def write (bits : Bits) (index : Nat) (value : Bool) : Bits :=
  ⟨bits.bytes.modify (index / 8) fun byte => writeByte byte (index % 8) value⟩

/-- Sets or clears one bit. -/
def put (value : Bool) (index : Nat) : Action Bits Unit := fun bits =>
  if index < bits.size then .ok () (bits.write index value)
  else .error ⟨.beyondBits, none⟩ bits

/-- Sets or clears `count` bits from `start` on. A range that leaves the bytes fails there and
keeps the bits written before. -/
def fill (value : Bool) : (start count : Nat) → Action Bits Unit
  | _, 0 => pure ()
  | start, count + 1 => do
    put value start
    fill value (start + 1) count

/-- The first bit from `start` on and below `stop` that has the value. -/
def find? (bits : Bits) (value : Bool) (start stop : Nat) : Option Nat :=
  go (min stop bits.size) start
where
  /-- Searches from `index` on; `stop` lies within the bytes. -/
  go (stop index : Nat) : Option Nat :=
    if index < stop then
      -- A byte of eight other bits is passed over at once.
      if index % 8 = 0 ∧ index + 8 ≤ stop ∧
          bits.bytes[index / 8]? = some (if value then 0x00 else 0xFF) then
        go stop (index + 8)
      else if bits.test index = value then some index
      else go stop (index + 1)
    else none
  termination_by stop - index

/-- The length of the run of clear bits from `start` on that ends at `stop` at the latest. -/
def zeroRun (bits : Bits) (start stop : Nat) : Nat :=
  let stop := min stop bits.size
  if stop ≤ start then 0 else (bits.find? true start stop).getD stop - start

/-- The number of set bits of a byte. -/
def onesOfByte (byte : UInt8) : Nat := (List.range 8).countP byte.toNat.testBit

/-- The number of set bits from `start` on and below `stop`. -/
def ones (bits : Bits) (start stop : Nat) : Nat :=
  go (min stop bits.size) start 0
where
  /-- Counts from `index` on, after `counted` set bits; `stop` lies within the bytes. -/
  go (stop index counted : Nat) : Nat :=
    if index < stop then
      if index % 8 = 0 ∧ index + 8 ≤ stop then
        go stop (index + 8) (counted + onesOfByte (bits.bytes.getD (index / 8) 0))
      else go stop (index + 1) (counted + (bits.test index).toNat)
    else counted
  termination_by stop - index

/-- The number of clear bits from `start` on and below `stop`. -/
def clears (bits : Bits) (start stop : Nat) : Nat :=
  let stop := min stop bits.size
  if stop ≤ start then 0 else (stop - start) - bits.ones start stop

variable {bits : Bits} {value : Bool} {start stop index : Nat}

/-- A bit that a search finds has the value and lies in the range searched. -/
theorem find?_go_eq_some (found : find?.go bits value stop start = some index) :
    start ≤ index ∧ index < stop ∧ bits.test index = value := by
  fun_induction find?.go bits value stop start with
  | case1 start _ _ ih =>
    obtain ⟨after, below, hit⟩ := ih found
    exact ⟨by omega, below, hit⟩
  | case2 start inside _ hit =>
    obtain rfl := Option.some.inj found
    exact ⟨Nat.le_refl _, inside, hit⟩
  | case3 start _ _ _ ih =>
    obtain ⟨after, below, hit⟩ := ih found
    exact ⟨by omega, below, hit⟩
  | case4 => simp at found

/-- A bit that a search finds has the value, lies in the range and is held by the bytes. -/
theorem find?_eq_some (found : bits.find? value start stop = some index) :
    start ≤ index ∧ index < stop ∧ index < bits.size ∧ bits.test index = value := by
  obtain ⟨after, below, hit⟩ := find?_go_eq_some found
  exact ⟨after, by omega, by omega, hit⟩

/-- A run of clear bits that starts at a clear bit and has room for one is not empty. -/
theorem zeroRun_pos (inside : start < stop) (held : start < bits.size)
    (isClear : bits.test start = false) : 0 < bits.zeroRun start stop := by
  have room : ¬ min stop bits.size ≤ start := by omega
  simp only [zeroRun, room, if_false]
  cases found : bits.find? true start (min stop bits.size) with
  | none => simp only [Option.getD_none]; omega
  | some index =>
    have hit := find?_eq_some found
    have : start ≠ index := by rintro rfl; simp [isClear] at hit
    simp only [Option.getD_some]
    omega

/-- The first place from `start` on where `count` clear bits lie below `stop`. -/
def findRun? (bits : Bits) (start stop count : Nat) : Option Nat :=
  if positive : 0 < count then go positive (min stop bits.size) (Nat.min_le_right _ _) start
  else some start
where
  /-- Searches from `position` on; `stop` lies within the bytes. -/
  go (positive : 0 < count) (stop : Nat) (held : stop ≤ bits.size) (position : Nat) :
      Option Nat :=
    match found : bits.find? false position stop with
    | none => none
    | some first =>
      have hit := find?_eq_some found
      have run_pos := zeroRun_pos (by omega : first < first + count) hit.2.2.1 hit.2.2.2
      if stop < first + count then none
      else
        let run := bits.zeroRun first (first + count)
        if run = count then some first else go positive stop held (first + run)
  termination_by stop - position
  decreasing_by omega

end Bits

end JournaledVolume
