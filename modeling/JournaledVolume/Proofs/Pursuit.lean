import JournaledVolume.Proofs.Chain

/-!
# Following pointers that cannot be trusted

The pointers of the journal make a graph of any shape: they may lead out of the partition, to blocks
that hold something else, or back to where they came from. `Links.Leads` says where they lead, with
no thought of any of this. A pursuit of the pointers ends at the address where it should stop,
behind an item that nothing follows, or at the first address where something is wrong, and what it
has passed until then is distinct.
-/

namespace JournaledVolume

/-- Items in a partition, each of which points to an address. -/
structure Links (partition : Partition) (α : Type) where
  /-- The item that is found at an address. -/
  read : Address → Option α
  /-- The address of an item. -/
  address : α → Address
  /-- Where an item points to. -/
  link : α → Address
  /-- What is found at an address has this address. -/
  address_of_read {block : Address} {item : α} (found : read block = some item) :
    address item = block
  /-- Items are found where pointers may lead. -/
  named_of_read {block : Address} {item : α} (found : read block = some item) :
    block ≠ 0 ∧ block.toNat < partition.length

namespace Links

variable {α κ : Type} {partition : Partition} {links : Links partition α} {final : α → Prop}
  {start next last stop : Address} {visited known : List Address} {item : α} {items path : List α}
  {defect : Defect} {failure : Option Defect}

/-- The pointers lead from one address to another, past items in order. -/
inductive Leads (links : Links partition α) : Address → List α → Address → Prop where
  /-- Without a step they lead where they are. -/
  | here {start : Address} : Leads links start [] start
  /-- An item leads on to where it points. -/
  | on {start last : Address} {item : α} {items : List α} (found : links.read start = some item)
    (leads : Leads links (links.link item) items last) : Leads links start (item :: items) last

/-- What is wrong with an address, in view of those that were visited. -/
inductive Flawed (links : Links partition α) (visited : List Address)
    (next : Address) : Defect → Prop where
  /-- The address was visited. -/
  | loops (old : next ∈ visited) : Flawed links visited next (.chainLoops next.toNat)
  /-- No pointer may lead there. -/
  | outside (new : next ∉ visited) (outside : next = 0 ∨ partition.length ≤ next.toNat) :
    Flawed links visited next (.outOfRange next.toNat)
  /-- The block holds something else. -/
  | untagged (new : next ∉ visited) (inside : next ≠ 0 ∧ next.toNat < partition.length)
    (unread : links.read next = none) :
    Flawed links visited next (.badMagic next.toNat)

/-- What is wrong with an address is reported as damage of its block. -/
theorem Flawed.reported (flawed : links.Flawed visited next defect) :
    defect.toError.kind = .corrupted ∧ defect.toError.block = some next.toNat := by
  cases flawed with
  | loops => exact ⟨rfl, rfl⟩
  | outside => exact ⟨rfl, rfl⟩
  | untagged => exact ⟨rfl, rfl⟩

/-- It only matters which addresses were visited. -/
theorem Flawed.congr (flawed : links.Flawed visited next defect)
    (same : next ∈ visited ↔ next ∈ known) : links.Flawed known next defect := by
  cases flawed with
  | loops old => exact .loops (same.1 old)
  | outside new outside => exact .outside (mt same.2 new) outside
  | untagged new inside unread => exact .untagged (mt same.2 new) inside unread

/-- What is found at an address, unless something is wrong with it. -/
def visit (links : Links partition α) (visited : List Address) (next : Address) :
    Except Defect α :=
  if next ∈ visited then .error (.chainLoops next.toNat)
  else if next = 0 ∨ partition.length ≤ next.toNat then .error (.outOfRange next.toNat)
  else
    match links.read next with
    | some item => .ok item
    | none => .error (.badMagic next.toNat)

/-- A visit succeeds where an item is found at a new address. -/
theorem visit_eq_ok : links.visit visited next = .ok item ↔
    next ∉ visited ∧ links.read next = some item := by
  unfold visit
  split
  · next old => simp [old]
  · next new =>
    split
    · next outside =>
      refine iff_of_false nofun fun found => ?_
      exact Partition.not_outside.2 (links.named_of_read found.2) outside
    · cases links.read next with
      | none => simp
      | some other => simp [new]

/-- A visit fails with what is wrong. -/
theorem visit_eq_error : links.visit visited next = .error defect ↔
    links.Flawed visited next defect := by
  constructor
  · intro fails
    unfold visit at fails
    split at fails
    · next old =>
      cases fails
      exact .loops old
    · next new =>
      split at fails
      · next outside =>
        cases fails
        exact .outside new outside
      · next named =>
        cases found : links.read next with
        | none =>
          simp only [found, Except.error.injEq] at fails
          rw [← fails]
          exact .untagged new (Partition.not_outside.1 named) found
        | some other => simp [found] at fails
  · intro flawed
    cases flawed with
    | loops old => rw [visit, if_pos old]
    | outside new outside => rw [visit, if_neg new, if_pos outside]
    | untagged new inside unread =>
      rw [visit, if_neg new, if_neg (Partition.not_outside.2 inside), unread]

/-- What a pursuit of the pointers passes, after addresses that were visited, and how it fails, if
it does. -/
inductive Pursuit (links : Links partition α) (final : α → Prop) (stop : Address) :
    (visited : List Address) → (next : Address) → List α → Option Defect → Prop where
  /-- The pursuit stops. -/
  | stopped {visited : List Address} : Pursuit links final stop visited stop [] none
  /-- Something is wrong with the next address. -/
  | failed {visited : List Address} {next : Address} {defect : Defect} (differs : next ≠ stop)
    (flawed : links.Flawed visited next defect) :
    Pursuit links final stop visited next [] (some defect)
  /-- Nothing follows the next item. -/
  | last {visited : List Address} {next : Address} {item : α} (differs : next ≠ stop)
    (new : next ∉ visited) (found : links.read next = some item) (ends : final item) :
    Pursuit links final stop visited next [item] none
  /-- The next item leads on. -/
  | on {visited : List Address} {next : Address} {item : α} {items : List α}
    {failure : Option Defect} (differs : next ≠ stop) (new : next ∉ visited)
    (found : links.read next = some item) (goes : ¬ final item)
    (pursuit : Pursuit links final stop (next :: visited) (links.link item) items
      failure) :
    Pursuit links final stop visited next (item :: items) failure

/-- Whether the pointers lead past distinct items, none of them where they should stop. -/
structure Passes (links : Links partition α) (stop start : Address) (items : List α)
    (last : Address) : Prop where
  /-- The pointers lead past the items. -/
  leads : links.Leads start items last
  /-- No item is passed twice. -/
  once : (items.map links.address).Nodup
  /-- The address to stop at is not passed. -/
  unstopped : stop ∉ items.map links.address

/-- How the pointers come to an end behind items that were passed. -/
inductive Closes (links : Links partition α) (final : α → Prop) (stop : Address)
    (visited : List Address) (items : List α) : (last : Address) → Option Defect → Prop where
  /-- They lead to the address to stop at. -/
  | stopped : Closes links final stop visited items stop none
  /-- Nothing follows the item that was passed last. -/
  | final {last : Address} {earlier : List α} {item : α} (spelled : items = earlier ++ [item])
    (ends : final item) : Closes links final stop visited items last none
  /-- Something is wrong with the address where they lead. -/
  | flawed {last : Address} {defect : Defect} (differs : last ≠ stop)
    (goes : ∀ item ∈ items, ¬ final item)
    (flawed : links.Flawed (items.map links.address ++ visited) last defect) :
    Closes links final stop visited items last (some defect)

/-- The pointers that lead on from an item close as they do behind it. -/
theorem Closes.cons (closes : links.Closes final stop (next :: visited) items last failure)
    (found : links.read next = some item) (goes : ¬ final item) :
    links.Closes final stop visited (item :: items) last failure := by
  cases closes with
  | stopped => exact .stopped
  | @final _ earlier behind spelled ends =>
    have whole : item :: items = (item :: earlier) ++ [behind] := by rw [spelled]; rfl
    exact .final whole ends
  | flawed differs others flawed =>
    have same : last ∈ items.map links.address ++ next :: visited ↔
        last ∈ (item :: items).map links.address ++ visited := by
      have place := links.address_of_read found
      simp only [List.map_cons, List.mem_append, List.mem_cons, place]
      tauto
    exact .flawed differs (List.forall_mem_cons.2 ⟨goes, others⟩) (flawed.congr same)

/-- The pointers end well, where they should stop or behind a last item, or at an address where
something is wrong. -/
theorem Closes.cases_end (closes : links.Closes final stop visited items last failure) :
    (failure = none ∧ (last = stop ∨ ∃ item ∈ items, final item)) ∨
      ∃ defect, failure = some defect ∧ last ≠ stop ∧
        links.Flawed (items.map links.address ++ visited) last defect := by
  cases closes with
  | stopped => exact .inl ⟨rfl, .inl rfl⟩
  | @final _ _ item spelled ends =>
    have passed : item ∈ items := by
      rw [spelled]
      exact List.mem_append_right _ List.mem_cons_self
    exact .inl ⟨rfl, .inr ⟨_, passed, ends⟩⟩
  | flawed differs _ flawed => exact .inr ⟨_, rfl, differs, flawed⟩

/-- A pursuit of pointers passes distinct items, and none that was visited, until the pointers come
to an end. -/
theorem Pursuit.exists_passes
    (pursuit : links.Pursuit final stop visited start items failure) :
    ∃ last, links.Passes stop start items last ∧
      (∀ item ∈ items, links.address item ∉ visited) ∧
      links.Closes final stop visited items last failure := by
  induction pursuit with
  | stopped => exact ⟨stop, ⟨.here, List.nodup_nil, List.not_mem_nil⟩, nofun, .stopped⟩
  | @failed _ next _ differs flawed =>
    have same := flawed.congr (by rfl)
    exact ⟨next, ⟨.here, List.nodup_nil, List.not_mem_nil⟩, nofun, .flawed differs nofun same⟩
  | @last _ next item differs new found ends =>
    have place := links.address_of_read found
    refine ⟨links.link item, ⟨.on found .here, by simp, ?_⟩, ?_, ?_⟩
    · simpa [place] using differs.symm
    · simpa [place] using new
    · exact .final (List.nil_append _).symm ends
  | @on _ next item items _ differs new found goes _ ih =>
    obtain ⟨last, passes, fresh, closes⟩ := ih
    have place := links.address_of_read found
    have apart : next ∉ items.map links.address := by
      intro again
      obtain ⟨other, passed, same⟩ := List.mem_map.1 again
      exact fresh other passed (same ▸ List.mem_cons_self)
    refine ⟨last, ⟨.on found passes.leads, ?_, ?_⟩, ?_, closes.cons found goes⟩
    · rw [List.map_cons, place]
      exact List.nodup_cons.2 ⟨apart, passes.once⟩
    · rw [List.map_cons, place]
      exact List.not_mem_cons_of_ne_of_not_mem differs.symm passes.unstopped
    · rw [List.forall_mem_cons, place]
      exact ⟨new, fun other passed known => fresh other passed (List.mem_cons_of_mem _ known)⟩

/-- Pointers lead nowhere else, or past the item that is found where they start. -/
theorem Leads.cases_start (leads : links.Leads start items last) :
    (items = [] ∧ last = start) ∨ ∃ item rest, items = item :: rest ∧
      links.read start = some item ∧ links.Leads (links.link item) rest last := by
  cases leads with
  | here => exact .inl ⟨rfl, rfl⟩
  | on found further => exact .inr ⟨_, _, rfl, found, further⟩

/-- Pointers lead no further than to an address where nothing is found. -/
theorem Leads.of_unread (leads : links.Leads start items last) (unread : links.read start = none) :
    last = start := by
  rcases leads.cases_start with ⟨_, same⟩ | ⟨_, _, _, found, _⟩
  · exact same
  · exact nomatch unread.symm.trans found

/-- The start is passed, or the pointers lead nowhere else. -/
theorem Leads.start_mem (leads : links.Leads start items last) :
    start ∈ last :: items.map links.address := by
  rcases leads.cases_start with ⟨_, rfl⟩ | ⟨item, rest, rfl, found, _⟩
  · exact List.mem_cons_self
  · rw [List.map_cons, links.address_of_read found]
    exact List.mem_cons_of_mem _ List.mem_cons_self

/-- What was passed leads to what was passed, or to where the pointers lead. -/
theorem Leads.link_mem (leads : links.Leads start items last)
    (passed : next ∈ items.map links.address) (found : links.read next = some item) :
    links.link item ∈ last :: items.map links.address := by
  induction leads with
  | here => exact nomatch passed
  | @on start last first rest here leads ih =>
    have further : links.link item ∈ last :: rest.map links.address := by
      rw [List.map_cons, links.address_of_read here] at passed
      rcases List.mem_cons.1 passed with rfl | later
      · obtain rfl : first = item := Option.some.inj (here.symm.trans found)
        exact leads.start_mem
      · exact ih later
    simp only [List.map_cons, List.mem_cons] at further ⊢
    tauto

/-- Pointers do not lead out of addresses that lead to each other only. -/
theorem Leads.mem_of_closed (leads : links.Leads start items last) (begins : start ∈ known)
    (closed : ∀ block ∈ known, ∀ item, links.read block = some item →
      links.link item ∈ known) : last ∈ known := by
  induction leads with
  | here => exact begins
  | on found _ ih => exact ih (closed _ begins _ found)

/-- Where the pointers come to something that is wrong, they never lead to the address to stop
at. -/
theorem Passes.not_leads (passes : links.Passes stop start items last) (differs : last ≠ stop)
    (flawed : links.Flawed (items.map links.address) last defect) :
    ¬ links.Leads start path stop := by
  intro leads
  have closed : ∀ block ∈ last :: items.map links.address, ∀ item,
      links.read block = some item → links.link item ∈ last :: items.map links.address := by
    intro block known item found
    rcases List.mem_cons.1 known with rfl | passed
    · have again : block ∈ items.map links.address := by
        cases flawed with
        | loops old => exact old
        | outside _ outside =>
          exact (Partition.not_outside.2 (links.named_of_read found) outside).elim
        | untagged _ _ unread => exact nomatch unread.symm.trans found
      exact passes.leads.link_mem again found
    · exact passes.leads.link_mem passed found
  rcases List.mem_cons.1 (leads.mem_of_closed passes.leads.start_mem closed) with same | passed
  · exact differs same.symm
  · exact passes.unstopped passed

/-- From the address to stop at, nothing is passed. -/
theorem Passes.eq_nil (passes : links.Passes stop stop items last) : items = [] := by
  rcases passes.leads.cases_start with ⟨nothing, _⟩ | ⟨item, rest, rfl, found, _⟩
  · exact nothing
  · have place := links.address_of_read found
    exact (passes.unstopped (List.mem_map.2 ⟨item, List.mem_cons_self, place⟩)).elim

/-- Up to the address to stop at, nothing is passed just where the pointers start there. -/
theorem Passes.eq_nil_iff (passes : links.Passes stop start items stop) :
    items = [] ↔ start = stop := by
  constructor
  · rintro rfl
    cases passes.leads
    rfl
  · rintro rfl
    exact passes.eq_nil

end Links

namespace Partition

variable {partition : Partition} {image : Image}

/-- A pointer that leads to a block leads where pointers may lead. -/
theorem named_of_follow {block : Address} {content : Bytes}
    (leads : partition.follow image block = some content) :
    block ≠ 0 ∧ block.toNat < partition.length := by
  unfold follow at leads
  split at leads
  · exact nomatch leads
  · next named => exact not_outside.1 named

/-- The transactions on disk, each of which points to the one committed before it. -/
def transactions (partition : Partition) (image : Image) : Links partition Transaction where
  read block := (partition.txHeaderAt image block).map fun header => ⟨block, header⟩
  address := Transaction.address
  link transaction := transaction.header.previous
  address_of_read found := by
    obtain ⟨header, _, rfl⟩ := Option.map_eq_some_iff.1 found
    rfl
  named_of_read found := by
    obtain ⟨header, held, _⟩ := Option.map_eq_some_iff.1 found
    obtain ⟨content, leads, _⟩ := Option.bind_eq_some_iff.1 held
    exact named_of_follow leads

/-- A transaction is found where its header is. -/
theorem read_transactions (block : Address) : (partition.transactions image).read block =
    (partition.txHeaderAt image block).map fun header => ⟨block, header⟩ := rfl

/-- The log records on disk, each of which points to the one behind it. -/
def records (partition : Partition) (image : Image) :
    Links partition (Address × LogRecord) where
  read block := (partition.recordAt image block).map fun record => (block, record)
  address := Prod.fst
  link item := item.2.next
  address_of_read found := by
    obtain ⟨record, _, rfl⟩ := Option.map_eq_some_iff.1 found
    rfl
  named_of_read found := by
    obtain ⟨record, held, _⟩ := Option.map_eq_some_iff.1 found
    obtain ⟨content, leads, _⟩ := Option.bind_eq_some_iff.1 held
    exact named_of_follow leads

/-- A log record is found with its address. -/
theorem read_records (block : Address) : (partition.records image).read block =
    (partition.recordAt image block).map fun record => (block, record) := rfl

end Partition

end JournaledVolume
