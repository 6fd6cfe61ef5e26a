import JournaledVolume.Proofs.Pending
import Mathlib.Data.List.Nodup

/-!
# What an inspection accepts

An inspection keeps lists of the blocks it has seen, and looks each new block up in them.
`Usage.Takes` says of a part of the inspection which blocks it adds and that it accepts them exactly
when they fit what is there. Put together over all transactions, the inspection accepts exactly
those that are in order.
-/

namespace JournaledVolume

namespace Usage

/-- The usage with more blocks of the journal and more home blocks of the transaction at hand. -/
def add (usage : Usage) (blocks homes : List Address) : Usage :=
  { usage with
    claimed := blocks.reverse ++ usage.claimed
    homes := homes.reverse ++ usage.homes }

/-- Whether blocks of the journal and home blocks may be added. -/
structure Admits (fixed : Bitmap) (length : Nat) (usage : Usage) (blocks homes : List Address) :
    Prop where
  /-- The blocks differ. -/
  once : blocks.Nodup
  /-- The blocks may be named, and are used for nothing else. -/
  unused : ∀ block ∈ blocks, (block ≠ 0 ∧ block.toNat < length) ∧
    fixed.test block.toNat = false ∧ block ∉ usage.claimed ∧ block ∉ usage.overwritten
  /-- The home blocks differ. -/
  homes_once : homes.Nodup
  /-- The home blocks may be named, and are new to the transaction at hand. -/
  new : ∀ home ∈ homes, (home ≠ 0 ∧ home.toNat < length) ∧ home ∉ usage.homes

/-- Whether a part of an inspection adds these blocks, and refuses only for damage. -/
structure Takes (fixed : Bitmap) (length : Nat) (part : Usage → Except Error Usage)
    (blocks homes : List Address) : Prop where
  /-- The blocks are added exactly when they may be. -/
  ok_iff : ∀ usage after, part usage = .ok after ↔
    usage.Admits fixed length blocks homes ∧ after = usage.add blocks homes
  /-- Otherwise damage is reported. -/
  damage : ∀ usage error, part usage = .error error → error.damage?.isSome

variable {fixed : Bitmap} {length : Nat} {usage after : Usage}
  {blocks more homes others : List Address}

/-- Adding no blocks changes nothing. -/
@[simp]
theorem add_nil : usage.add [] [] = usage := rfl

/-- Adding blocks one after the other. -/
theorem add_add : (usage.add blocks homes).add more others =
    usage.add (blocks ++ more) (homes ++ others) := by
  simp only [add, List.reverse_append, List.append_assoc]

/-- Nothing may always be added. -/
theorem admits_nil : usage.Admits fixed length [] [] :=
  ⟨List.nodup_nil, nofun, List.nodup_nil, nofun⟩

/-- Blocks may be added together if they may be added one after the other. -/
theorem admits_append : usage.Admits fixed length (blocks ++ more) (homes ++ others) ↔
    usage.Admits fixed length blocks homes ∧
      (usage.add blocks homes).Admits fixed length more others := by
  constructor
  · rintro ⟨once, unused, homes_once, new⟩
    rw [List.nodup_append'] at once homes_once
    rw [List.forall_mem_append] at unused new
    refine ⟨⟨once.1, unused.1, homes_once.1, new.1⟩, once.2.1, ?_, homes_once.2.1, ?_⟩
    · intro block member
      obtain ⟨named, free, unclaimed, kept⟩ := unused.2 block member
      refine ⟨named, free, ?_, kept⟩
      simp only [add, List.mem_append, List.mem_reverse, not_or]
      constructor
      · intro early
        exact once.2.2 early member
      · exact unclaimed
    · intro home member
      obtain ⟨named, fresh⟩ := new.2 home member
      refine ⟨named, ?_⟩
      simp only [add, List.mem_append, List.mem_reverse, not_or]
      constructor
      · intro early
        exact homes_once.2.2 early member
      · exact fresh
  · rintro ⟨⟨once, unused, homes_once, new⟩, once', unused', homes_once', new'⟩
    simp only [add, List.mem_append, List.mem_reverse, not_or] at unused' new'
    refine ⟨?_, ?_, ?_, ?_⟩
    · rw [List.nodup_append']
      exact ⟨once, once', fun block early late => (unused' block late).2.2.1.1 early⟩
    · rw [List.forall_mem_append]
      refine ⟨unused, fun block member => ?_⟩
      obtain ⟨named, free, unclaimed, kept⟩ := unused' block member
      exact ⟨named, free, unclaimed.2, kept⟩
    · rw [List.nodup_append']
      exact ⟨homes_once, homes_once', fun home early late => (new' home late).2.1 early⟩
    · rw [List.forall_mem_append]
      exact ⟨new, fun home member => ⟨(new' home member).1, (new' home member).2.2⟩⟩

/-- A block that may be named is not zero and lies in the partition. -/
theorem named_iff {block : Address} :
    named length block = true ↔ block ≠ 0 ∧ block.toNat < length := decide_eq_true_iff

/-- What is wrong with a block that cannot be claimed, in the order in which it is found. -/
theorem claim_eq (outside : Cause) (block : Address) :
    claim fixed length outside block usage =
      if named length block = false then .error (.atBlock outside block.toNat)
      else if fixed.test block.toNat then .error (.atBlock .overlapsFixed block.toNat)
      else if block ∈ usage.claimed then .error (.atBlock .referencedTwice block.toNat)
      else if block ∈ usage.overwritten then .error (.atBlock .overwrittenEarlier block.toNat)
      else .ok (usage.add [block] []) := by
  cases inside : named length block with
  | false =>
    simp only [claim, inside]
    rfl
  | true =>
    simp only [claim, inside, if_true, Bool.true_eq_false, if_false]
    split_ifs <;> rfl

/-- What is wrong with a home block that cannot be targeted, in the order in which it is found. -/
theorem target_eq (home : Address) :
    target length home usage =
      if named length home = false then .error (.atBlock .homeOutOfRange home.toNat)
      else if home ∈ usage.homes then .error (.atBlock .homeRepeats home.toNat)
      else .ok (usage.add [] [home]) := by
  cases inside : named length home with
  | false =>
    simp only [target, inside]
    rfl
  | true =>
    simp only [target, inside, if_true, Bool.true_eq_false, if_false]
    split_ifs <;> rfl

/-- Claiming a block adds it. -/
theorem takes_claim {outside : Cause} (corrupted : outside.kind = .corrupted) (block : Address) :
    Takes fixed length (claim fixed length outside block) [block] [] := by
  constructor
  · intro usage after
    rw [claim_eq]
    have admitted : usage.Admits fixed length [block] [] ↔ named length block = true ∧
        fixed.test block.toNat = false ∧ block ∉ usage.claimed ∧ block ∉ usage.overwritten := by
      rw [named_iff]
      constructor
      · intro admits
        exact admits.unused block List.mem_cons_self
      · intro free
        exact ⟨List.nodup_singleton _, List.forall_mem_singleton.2 free, List.nodup_nil, nofun⟩
    rw [admitted]
    split_ifs with outside onFixed twice gone
    · simp [outside]
    · simp [onFixed]
    · simp [twice]
    · simp [gone]
    · simp [outside, onFixed, twice, gone, eq_comm]
  · intro usage error
    rw [claim_eq]
    split_ifs <;> rintro ⟨⟩
    · simp [Error.damage?, Error.atBlock, Error.kind, corrupted]
    all_goals rfl

/-- Targeting a block adds it to the home blocks. -/
theorem takes_target (home : Address) : Takes fixed length (target length home) [] [home] := by
  constructor
  · intro usage after
    rw [target_eq]
    have admitted : usage.Admits fixed length [] [home] ↔
        named length home = true ∧ home ∉ usage.homes := by
      rw [named_iff]
      constructor
      · intro admits
        exact admits.new home List.mem_cons_self
      · intro free
        exact ⟨List.nodup_nil, nofun, List.nodup_singleton _, List.forall_mem_singleton.2 free⟩
    rw [admitted]
    split_ifs with outside repeats
    · simp [outside]
    · simp [repeats]
    · simp [outside, repeats, eq_comm]
  · intro usage error
    rw [target_eq]
    split_ifs <;> rintro ⟨⟩ <;> rfl

/-- One part after another takes the blocks of both. -/
theorem Takes.bind {first second : Usage → Except Error Usage}
    (left : Takes fixed length first blocks homes) (right : Takes fixed length second more others) :
    Takes fixed length (fun usage => first usage >>= second) (blocks ++ more)
      (homes ++ others) := by
  constructor
  · intro usage after
    rw [admits_append, ← add_add]
    cases ran : first usage with
    | error error =>
      have refused : ¬ usage.Admits fixed length blocks homes := by
        intro admits
        have taken := (left.ok_iff _ _).2 ⟨admits, rfl⟩
        cases ran.symm.trans taken
      exact ⟨nofun, fun ⟨⟨admits, _⟩, _⟩ => (refused admits).elim⟩
    | ok between =>
      obtain ⟨admits, rfl⟩ := (left.ok_iff _ _).1 ran
      refine (right.ok_iff _ _).trans ?_
      simp only [admits, true_and]
  · intro usage error
    cases ran : first usage with
    | error error' =>
      rintro ⟨⟩
      exact left.damage _ _ ran
    | ok between => exact right.damage _ _

/-- A part that is done for each item takes the blocks of all items. -/
theorem Takes.foldlM {α : Type} {part : α → Usage → Except Error Usage}
    {claims targets : α → List Address}
    (takes : ∀ item, Takes fixed length (part item) (claims item) (targets item))
    (items : List α) :
    Takes fixed length (fun usage => items.foldlM (fun usage item => part item usage) usage)
      (items.flatMap claims) (items.flatMap targets) := by
  induction items with
  | nil =>
    refine ⟨fun usage after => ?_, nofun⟩
    simp only [List.foldlM_nil, List.flatMap_nil, add_nil, admits_nil, true_and, pure,
      Except.pure, Except.ok.injEq, eq_comm]
  | cons item items ih => exact (takes item).bind ih

/-- Both blocks of an entry are taken. -/
theorem takes_addEntry (entry : WanderEntry) :
    Takes fixed length (fun usage => addEntry fixed length usage entry) [entry.wandered]
      [entry.home] :=
  (takes_claim rfl entry.wandered).bind (takes_target entry.home)

/-- A log record is taken, with the blocks of its entries. -/
theorem takes_addRecord (record : Address × LogRecord) :
    Takes fixed length (addRecord fixed length record.1 record.2)
      (record.1 :: record.2.entries.map WanderEntry.wandered)
      (record.2.entries.map WanderEntry.home) := by
  have entries : Takes fixed length
      (fun usage => record.2.entries.foldlM (addEntry fixed length) usage)
      (record.2.entries.flatMap fun entry => [entry.wandered])
      (record.2.entries.flatMap fun entry => [entry.home]) :=
    Takes.foldlM takes_addEntry record.2.entries
  rw [← List.map_eq_flatMap, ← List.map_eq_flatMap] at entries
  exact (takes_claim rfl record.1).bind entries

/-- Takes the blocks of a transaction with its log records. -/
def addBlocks (fixed : Bitmap) (length : Nat) (logged : Logged) (usage : Usage) :
    Except Error Usage := do
  logged.records.foldlM (fun usage record => addRecord fixed length record.1 record.2 usage)
    (← claim fixed length .txHeaderOutOfRange logged.transaction.address usage)

/-- The blocks of a transaction are taken, and its home blocks. -/
theorem takes_addBlocks (logged : Logged) :
    Takes fixed length (addBlocks fixed length logged) logged.blocks logged.homes := by
  have header : Takes fixed length
      (claim fixed length .txHeaderOutOfRange logged.transaction.address)
      [logged.transaction.address] [] := takes_claim rfl _
  rw [Logged.homes, Logged.entries, List.map_flatMap]
  exact header.bind (Takes.foldlM takes_addRecord logged.records)

/-- A transaction is settled exactly when it overwrites no block of the journal. -/
theorem settle_eq_ok_iff : usage.settle = .ok after ↔
    (∀ home ∈ usage.homes, home ∉ usage.claimed) ∧
      after = { usage with homes := [], overwritten := usage.homes ++ usage.overwritten } := by
  unfold settle
  cases overlap : usage.homes.reverse.find? (· ∈ usage.claimed) with
  | none =>
    simp only [List.find?_eq_none, List.mem_reverse, decide_eq_true_eq] at overlap
    simp only [Except.ok.injEq, eq_comm, iff_and_self]
    exact fun _ => overlap
  | some block =>
    have known : block ∈ usage.homes := List.mem_reverse.1 (List.mem_of_find?_eq_some overlap)
    have claimed : block ∈ usage.claimed := by simpa using List.find?_some overlap
    exact ⟨nofun, fun ⟨apart, _⟩ => (apart block known claimed).elim⟩

/-- What stands against settling a transaction is damage. -/
theorem settle_damage {error : Error} (failed : usage.settle = .error error) :
    error.damage?.isSome := by
  unfold settle at failed
  split at failed
  · cases failed
    rfl
  · exact nomatch failed

/-- What an inspection knows behind transactions in order. -/
def behind (logged : List Logged) : Usage where
  claimed := (logged.flatMap Logged.blocks).reverse
  overwritten := (logged.flatMap Logged.homes).reverse

/-- Takes all blocks of a transaction and ends it. -/
def addLogged (usage : Usage) (fixed : Bitmap) (length : Nat) (logged : Logged) :
    Except Error Usage := do
  settle (← addBlocks fixed length logged usage)

/-- What it takes for one more transaction to be in order. -/
theorem inOrder_append_singleton {older : List Logged} {logged : Logged} :
    InOrder fixed length (older ++ [logged]) ↔ InOrder fixed length older ∧
      (behind older).Admits fixed length logged.blocks logged.homes ∧
      ∀ home ∈ logged.homes, home ∉ older.flatMap Logged.blocks ∧ home ∉ logged.blocks := by
  constructor
  · intro ordered
    have before : InOrder fixed length older := ordered.of_append
    obtain ⟨once, named, free, homes_named, homes_once, apart⟩ := ordered
    simp only [List.flatMap_append, List.flatMap_singleton, List.nodup_append',
      List.forall_mem_append, List.forall_mem_singleton]
      at once named free homes_named homes_once apart
    simp only [List.mem_append, not_or] at apart
    obtain ⟨_, unique, disjoint⟩ := once
    have unused : ∀ block ∈ logged.blocks, (block ≠ 0 ∧ block.toNat < length) ∧
        fixed.test block.toNat = false ∧ block ∉ (behind older).claimed ∧
          block ∉ (behind older).overwritten := by
      intro block known
      refine ⟨named.2 block known, free.2 block known, ?_, ?_⟩
      · intro claimed
        exact disjoint (List.mem_reverse.1 claimed) known
      · intro overwritten
        have early := apart.1 block (List.mem_reverse.1 overwritten)
        exact early.2 known
    have new : ∀ home ∈ logged.homes, (home ≠ 0 ∧ home.toNat < length) ∧
        home ∉ (behind older).homes := by
      intro home known
      exact ⟨homes_named.2 home known, List.not_mem_nil⟩
    exact ⟨before, ⟨unique, unused, homes_once.2, new⟩, apart.2⟩
  · rintro ⟨⟨once, named, free, homes_named, homes_once, apart⟩,
      ⟨unique, unused, distinct, new⟩, off⟩
    simp only [behind, List.mem_reverse] at unused
    refine ⟨?_, ?_, ?_, ?_, ?_, ?_⟩
    all_goals simp only [List.flatMap_append, List.flatMap_singleton, List.nodup_append',
      List.forall_mem_append, List.forall_mem_singleton]
    · exact ⟨once, unique, fun block early late => (unused block late).2.2.1 early⟩
    · exact ⟨named, fun block known => (unused block known).1⟩
    · exact ⟨free, fun block known => (unused block known).2.1⟩
    · exact ⟨homes_named, fun home known => (new home known).1⟩
    · exact ⟨homes_once, distinct⟩
    · simp only [List.mem_append, not_or]
      refine ⟨fun home known => ⟨apart home known, fun late => ?_⟩, off⟩
      have kept := (unused home late).2.2.2
      exact kept known

/-- Behind transactions in order, another one is taken exactly when all are in order with it. -/
theorem addLogged_behind {older : List Logged} {logged : Logged}
    (ordered : InOrder fixed length older) :
    (behind older).addLogged fixed length logged = .ok after ↔
      InOrder fixed length (older ++ [logged]) ∧ after = behind (older ++ [logged]) := by
  have takes : Takes fixed length (addBlocks fixed length logged) logged.blocks logged.homes :=
    takes_addBlocks logged
  rw [inOrder_append_singleton]
  unfold addLogged
  cases ran : addBlocks fixed length logged (behind older) with
  | error error =>
    refine ⟨nofun, fun ⟨⟨_, admits, _⟩, _⟩ => ?_⟩
    have taken := (takes.ok_iff _ _).2 ⟨admits, rfl⟩
    cases ran.symm.trans taken
  | ok between =>
    obtain ⟨admits, rfl⟩ := (takes.ok_iff _ _).1 ran
    refine settle_eq_ok_iff.trans ?_
    rw [and_iff_right ordered, and_iff_right admits]
    simp only [add, behind, List.append_nil, List.mem_append,
      List.mem_reverse, not_or, List.flatMap_append, List.flatMap_singleton, List.reverse_append,
      and_comm]

/-- Without transactions everything is in order. -/
theorem inOrder_nil : InOrder fixed length [] :=
  ⟨List.nodup_nil, nofun, nofun, nofun, nofun, nofun⟩

end Usage

end JournaledVolume
