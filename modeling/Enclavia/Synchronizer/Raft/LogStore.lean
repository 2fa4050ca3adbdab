import Enclavia.Machine.Guarded
import Enclavia.Synchronizer.Raft.Openraft
import Mathlib.Data.List.Sort

/-! The in-memory log of a node (`raft/store.rs`), and the sequence with a purged front that it stands for. -/

namespace enclavia.synchronizer.raft

def LogId.compare : LogId → LogId → Ordering :=
  compareLex (compareOn fun id => id.leader_id.term)
    (compareLex (compareOn fun id => id.leader_id.node_id) (compareOn LogId.index))

/-- `Option<LogId>::next_index`. -/
def next_index (id : Option LogId) : Nat := id.elim 0 fun id => id.index.toNat + 1

inductive Bound where
  | Included (index : UInt64)
  | Excluded (index : UInt64)
  | Unbounded

structure RangeBounds where
  start : Bound
  last : Bound

namespace RangeBounds

def contains (range : RangeBounds) (index : UInt64) : Bool :=
  (match range.start with
    | .Included start => decide (start ≤ index)
    | .Excluded start => decide (start < index)
    | .Unbounded => true) &&
  (match range.last with
    | .Included last => decide (index ≤ last)
    | .Excluded last => decide (index < last)
    | .Unbounded => true)

/-- The ranges for which `BTreeMap::range` panics. -/
def inverted (range : RangeBounds) : Bool :=
  match range.start, range.last with
  | .Excluded start, .Excluded last => decide (last ≤ start)
  | .Included start, .Included last | .Included start, .Excluded last | .Excluded start, .Included last =>
    decide (last < start)
  | _, _ => false

end RangeBounds

structure LogState where
  last_purged_log_id : Option LogId
  last_log_id : Option LogId

structure LogStore where
  last_purged_log_id : Option LogId
  log : Std.ExtTreeMap UInt64 Entry
  committed : Option LogId
  vote : Option Vote

namespace LogStore

def default : LogStore := ⟨none, ∅, none, none⟩

variable (self : LogStore)

def try_get_log_entries (range : RangeBounds) : Option (List Entry) :=
  if range.inverted then none
  else some ((self.log.toList.filter fun stored => range.contains stored.1).map Prod.snd)

def get_log_state : LogState where
  last_purged_log_id := self.last_purged_log_id
  last_log_id :=
    match self.log.toList.getLast? with
    | none => self.last_purged_log_id
    | some (_, entry) => some entry.log_id

def append (entries : List Entry) : LogStore :=
  { self with log := entries.foldl (fun log entry => log.insert entry.log_id.index entry) self.log }

def truncate (log_id : LogId) : LogStore := { self with log := self.log.filter fun index _ => index < log_id.index }

def purge (log_id : LogId) : Option LogStore :=
  if self.last_purged_log_id.all fun purged => (purged.compare log_id).isLE then
    some { self with last_purged_log_id := some log_id, log := self.log.filter fun index _ => log_id.index < index }
  else none

def save_committed (committed : Option LogId) : LogStore := { self with committed }

def save_vote (vote : Vote) : LogStore := { self with vote := some vote }

inductive Call where
  | append (entries : List Entry)
  | truncate (log_id : LogId)
  | purge (log_id : LogId)
  | save_committed (committed : Option LogId)
  | save_vote (vote : Vote)

/-- `none` is the failed assertion of `purge`. -/
def call : Call → Option LogStore
  | .append entries => some (self.append entries)
  | .truncate log_id => some (self.truncate log_id)
  | .purge log_id => self.purge log_id
  | .save_committed committed => some (self.save_committed committed)
  | .save_vote vote => some (self.save_vote vote)

end LogStore

/-- A log whose front is gone: the id of the last entry that was purged, and the entries after it. -/
structure PurgedLog where
  purged : Option LogId
  entries : List Entry
  committed : Option LogId
  vote : Option Vote

namespace PurgedLog

def empty : PurgedLog := ⟨none, [], none, none⟩

variable (self : PurgedLog)

def last_log_id : Option LogId := (self.entries.getLast?.map Entry.log_id).or self.purged

def call : LogStore.Call → PurgedLog
  | .append entries => { self with entries := self.entries ++ entries }
  | .truncate log_id => { self with entries := self.entries.take (log_id.index.toNat - next_index self.purged) }
  | .purge log_id =>
    { self with
      purged := some log_id
      entries := self.entries.drop (log_id.index.toNat + 1 - next_index self.purged) }
  | .save_committed committed => { self with committed }
  | .save_vote vote => { self with vote := some vote }

def Contiguous (start : Nat) (entries : List Entry) : Prop :=
  ∀ i (h : i < entries.length), entries[i].log_id.index.toNat = start + i

/-- What openraft may call: it appends after the last entry, and purges up to an entry that is there, in the order of
the log ids. -/
def Allows : LogStore.Call → Prop
  | .append entries => Contiguous (next_index self.last_log_id) entries
  | .purge log_id =>
    (∀ purged ∈ self.purged, (purged.compare log_id).isLE ∧ purged.index ≤ log_id.index) ∧
      log_id.index.toNat < next_index self.last_log_id
  | _ => True

/-- Every call is one that openraft may make where it is made. -/
def AllowsAll : PurgedLog → List LogStore.Call → Prop
  | _, [] => True
  | self, c :: rest => self.Allows c ∧ AllowsAll (self.call c) rest

end PurgedLog

/-- The store answers as the log does. -/
structure LogStore.Refines (store : LogStore) (log : PurgedLog) : Prop where
  indices : store.log.keys.map UInt64.toNat = List.range' (next_index store.get_log_state.last_purged_log_id)
    (next_index store.get_log_state.last_log_id - next_index store.get_log_state.last_purged_log_id)
  entries : ∀ range, store.try_get_log_entries range =
    if range.inverted then none else some (log.entries.filter fun entry => range.contains entry.log_id.index)
  state : store.get_log_state = ⟨log.purged, log.last_log_id⟩
  committed : store.committed = log.committed
  vote : store.vote = log.vote

/-- The store holds the entries of the log, by their indices. -/
structure LogStore.Stores (store : LogStore) (log : PurgedLog) : Prop where
  purged : store.last_purged_log_id = log.purged
  stored : ∀ index entry, store.log[index]? = some entry ↔ entry ∈ log.entries ∧ entry.log_id.index = index
  contiguous : PurgedLog.Contiguous (next_index log.purged) log.entries
  committed : store.committed = log.committed
  vote : store.vote = log.vote

variable {store : LogStore} {log : PurgedLog} {start : Nat} {entries : List Entry} {entry : Entry} {index n : Nat}

namespace PurgedLog.Contiguous

variable (h : Contiguous start entries)
include h

theorem mem_take : entry ∈ entries.take (n - start) ↔ entry ∈ entries ∧ entry.log_id.index.toNat < n := by
  rw [List.mem_take_iff_getElem, List.mem_iff_getElem]
  constructor
  · rintro ⟨i, hi, rfl⟩
    have := h i (by omega)
    exact ⟨⟨i, by omega, rfl⟩, by omega⟩
  · rintro ⟨⟨i, hi, rfl⟩, hlt⟩
    have := h i hi
    exact ⟨i, by omega, rfl⟩

theorem mem_drop : entry ∈ entries.drop (n - start) ↔ entry ∈ entries ∧ n ≤ entry.log_id.index.toNat := by
  rw [List.mem_drop_iff_getElem, List.mem_iff_getElem]
  constructor
  · rintro ⟨i, hi, rfl⟩
    have := h (n - start + i) (by omega)
    exact ⟨⟨n - start + i, by omega, rfl⟩, by omega⟩
  · rintro ⟨⟨i, hi, rfl⟩, hle⟩
    have := h i hi
    exact ⟨i - (n - start), by omega, by congr 1; omega⟩

theorem take : Contiguous start (entries.take n) := by
  intro i hi
  rw [List.getElem_take]
  exact h i (by rw [List.length_take] at hi; omega)

theorem drop : Contiguous (start + n) (entries.drop n) := by
  intro i hi
  rw [List.getElem_drop, h]
  omega

theorem append {more : List Entry} (hmore : Contiguous (start + entries.length) more) :
    Contiguous start (entries ++ more) := by
  intro i hi
  rw [List.getElem_append]
  split
  · exact h i _
  · next hge =>
    rw [hmore]
    omega

theorem pairwise : (entries.map fun entry => (entry.log_id.index, entry)).Pairwise fun a b => a.1 < b.1 := by
  rw [List.pairwise_map, List.pairwise_iff_getElem]
  intro i j hi hj hij
  rw [UInt64.lt_iff_toNat_lt, h i hi, h j hj]
  omega

theorem map_index : entries.map (fun entry => entry.log_id.index.toNat) = List.range' start entries.length := by
  apply List.ext_getElem
  · simp
  · intro i hi hi'
    rw [List.length_map] at hi
    simp [h i hi]

end PurgedLog.Contiguous

theorem PurgedLog.next_index_last (h : PurgedLog.Contiguous (next_index log.purged) log.entries) :
    next_index log.last_log_id = next_index log.purged + log.entries.length := by
  unfold last_log_id
  rcases List.eq_nil_or_concat log.entries with hnil | ⟨front, last, hlast⟩
  · simp [hnil]
  · have := h front.length (by simp [hlast])
    simp [hlast] at this
    simp [hlast, next_index] at this ⊢
    omega

namespace LogStore.Stores

variable (h : store.Stores log)
include h

theorem next_index_last : next_index log.last_log_id = next_index log.purged + log.entries.length :=
  PurgedLog.next_index_last h.contiguous

theorem append_one (hentry : entry.log_id.index.toNat = next_index log.last_log_id) :
    (store.append [entry]).Stores (log.call (.append [entry])) := by
  rw [h.next_index_last] at hentry
  refine { h with stored := ?_, contiguous := ?_ }
  · intro index other
    change (store.log.insert entry.log_id.index entry)[index]? = some other ↔
      other ∈ log.entries ++ [entry] ∧ other.log_id.index = index
    rw [Std.ExtTreeMap.getElem?_insert]
    split
    · next heq =>
      obtain rfl := Std.LawfulEqCmp.eq_of_compare heq
      rw [Option.some_inj, List.mem_append, List.mem_singleton]
      constructor
      · rintro rfl
        exact ⟨.inr rfl, rfl⟩
      · rintro ⟨hmem | rfl, hindex⟩
        · obtain ⟨i, hi, rfl⟩ := List.mem_iff_getElem.mp hmem
          have := h.contiguous i hi
          rw [hindex] at this
          omega
        · rfl
    · next hne =>
      rw [h.stored, List.mem_append, List.mem_singleton]
      constructor
      · rintro ⟨hmem, hindex⟩
        exact ⟨.inl hmem, hindex⟩
      · rintro ⟨hmem | rfl, hindex⟩
        · exact ⟨hmem, hindex⟩
        · simp [hindex] at hne
  · apply h.contiguous.append
    intro i hi
    obtain rfl : i = 0 := by simpa using hi
    simpa using hentry

omit h in
theorem append {entries : List Entry} (h : store.Stores log)
    (hentries : PurgedLog.Contiguous (next_index log.last_log_id) entries) :
    (store.append entries).Stores (log.call (.append entries)) := by
  induction entries generalizing store log with
  | nil =>
    change store.Stores { log with entries := log.entries ++ [] }
    rw [List.append_nil]
    exact h
  | cons first rest ih =>
    have hfirst : (store.append [first]).Stores (log.call (.append [first])) :=
      h.append_one (hentries 0 (Nat.zero_lt_succ _))
    have hrest : PurgedLog.Contiguous (next_index (log.call (.append [first])).last_log_id) rest := by
      intro i hi
      have hlast := hfirst.next_index_last
      have := hentries (i + 1) (Nat.succ_lt_succ hi)
      have hbefore := h.next_index_last
      simp only [PurgedLog.call, List.length_append, List.length_singleton, List.getElem_cons_succ] at hlast this ⊢
      omega
    have hall := ih hfirst hrest
    simp only [PurgedLog.call, List.append_assoc] at hall
    exact hall

theorem keeps (keep : UInt64 → Bool) (index : UInt64) (entry : Entry) :
    (store.log.filter fun index _ => keep index)[index]? = some entry ↔
      (entry ∈ log.entries ∧ keep entry.log_id.index = true) ∧ entry.log_id.index = index := by
  rw [Std.ExtTreeMap.getElem?_filter', Option.filter_eq_some_iff, h.stored]
  constructor
  · rintro ⟨⟨hmem, rfl⟩, hkeep⟩
    exact ⟨⟨hmem, hkeep⟩, rfl⟩
  · rintro ⟨⟨hmem, hkeep⟩, rfl⟩
    exact ⟨⟨hmem, rfl⟩, hkeep⟩

theorem truncate (log_id : LogId) : (store.truncate log_id).Stores (log.call (.truncate log_id)) := by
  refine { h with stored := ?_, contiguous := h.contiguous.take }
  intro index entry
  have hkeeps := h.keeps (· < log_id.index) index entry
  rw [decide_eq_true_iff, UInt64.lt_iff_toNat_lt, ← h.contiguous.mem_take] at hkeeps
  exact hkeeps

theorem purge {log_id : LogId} (hallows : log.Allows (.purge log_id)) :
    ∃ after, store.purge log_id = some after ∧ after.Stores (log.call (.purge log_id)) := by
  obtain ⟨hordered, hlast⟩ := hallows
  have hassert : (store.last_purged_log_id.all fun purged => (purged.compare log_id).isLE) = true := by
    rw [h.purged, Option.all_eq_true]
    intro purged hpurged
    exact (hordered purged hpurged).1
  refine ⟨_, if_pos hassert, { h with purged := rfl, stored := ?_, contiguous := ?_ }⟩
  · intro index entry
    have hkeeps := h.keeps (log_id.index < ·) index entry
    rw [decide_eq_true_iff, UInt64.lt_iff_toNat_lt, ← Nat.succ_le_iff, ← h.contiguous.mem_drop] at hkeeps
    exact hkeeps
  · have hstart : next_index log.purged ≤ log_id.index.toNat + 1 := by
      cases hpurged : log.purged with
      | none => exact Nat.zero_le _
      | some purged => exact Nat.succ_le_succ (UInt64.le_iff_toNat_le.mp (hordered purged hpurged).2)
    have hdrop := h.contiguous.drop (n := log_id.index.toNat + 1 - next_index log.purged)
    rw [Nat.add_sub_cancel' hstart] at hdrop
    exact hdrop

theorem call {c : Call} (hallows : log.Allows c) : ∃ after, store.call c = some after ∧ after.Stores (log.call c) := by
  cases c with
  | append entries => exact ⟨_, rfl, h.append hallows⟩
  | truncate log_id => exact ⟨_, rfl, h.truncate log_id⟩
  | purge log_id => exact h.purge hallows
  | save_committed committed => exact ⟨_, rfl, { h with committed := rfl }⟩
  | save_vote vote => exact ⟨_, rfl, { h with vote := rfl }⟩

theorem toList_eq : store.log.toList = log.entries.map fun entry => (entry.log_id.index, entry) := by
  have hsorted : store.log.toList.Pairwise fun a b => a.1 < b.1 := by
    refine Std.ExtTreeMap.ordered_keys_toList.imp ?_
    intro a b hlt
    exact Std.compare_eq_lt.mp hlt
  have : Std.Irrefl fun a b : UInt64 × Entry => a.1 < b.1 := ⟨fun a => UInt64.lt_irrefl a.1⟩
  have : Std.Antisymm fun a b : UInt64 × Entry => a.1 < b.1 :=
    ⟨fun a b hab hba => absurd (UInt64.lt_trans hab hba) (UInt64.lt_irrefl a.1)⟩
  apply hsorted.eq_of_mem_iff h.contiguous.pairwise
  rintro ⟨index, entry⟩
  rw [Std.ExtTreeMap.mem_toList_iff_getElem?_eq_some, h.stored]
  simp [and_comm]

theorem state_eq : store.get_log_state = ⟨log.purged, log.last_log_id⟩ := by
  unfold get_log_state PurgedLog.last_log_id
  rw [h.toList_eq, List.getLast?_map, h.purged]
  cases log.entries.getLast? <;> rfl

theorem refines : store.Refines log where
  indices := by
    rw [h.state_eq, h.next_index_last, Nat.add_sub_cancel_left, ← h.contiguous.map_index,
      ← Std.ExtTreeMap.map_fst_toList_eq_keys, h.toList_eq, List.map_map, List.map_map]
    rfl
  entries range := by
    unfold try_get_log_entries
    rw [h.toList_eq, List.filter_map, List.map_map]
    congr 2
    exact List.map_id _
  state := h.state_eq
  committed := h.committed
  vote := h.vote

end LogStore.Stores

theorem LogStore.stores_default : LogStore.default.Stores .empty where
  purged := rfl
  stored := by simp [LogStore.default, PurgedLog.empty]
  contiguous := by
    intro i hi
    cases hi
  committed := rfl
  vote := rfl

theorem LogStore.exec_stores {calls : List LogStore.Call} (h : store.Stores log) (hallows : log.AllowsAll calls) :
    ∃ after, machine.exec LogStore.call store calls = some after ∧ after.Stores (calls.foldl PurgedLog.call log) := by
  induction calls generalizing store log with
  | nil => exact ⟨store, rfl, h⟩
  | cons c rest ih =>
    obtain ⟨next, hnext, hstores⟩ := h.call hallows.1
    obtain ⟨after, hafter, hall⟩ := ih hstores hallows.2
    exact ⟨after, machine.exec_cons.mpr ⟨next, hnext, hafter⟩, hall⟩

/-- Whatever openraft calls, the store answers as the log with a purged front does. -/
theorem LogStore.refines_purged_log (calls : List LogStore.Call) (hallows : PurgedLog.empty.AllowsAll calls) :
    ∃ store, machine.exec LogStore.call LogStore.default calls = some store ∧
      store.Refines (calls.foldl PurgedLog.call .empty) := by
  obtain ⟨store, hexec, hstores⟩ := LogStore.exec_stores LogStore.stores_default hallows
  exact ⟨store, hexec, hstores.refines⟩

/-- A log that is appended to, truncated, appended to again and purged. -/
theorem LogStore.refines_purged_log_rewritten :
    let id (term index : UInt64) : LogId := ⟨⟨term, 1⟩, index⟩
    let calls : List LogStore.Call :=
      [.append [⟨id 1 0, .Blank⟩, ⟨id 1 1, .Blank⟩], .truncate (id 1 1), .append [⟨id 2 1, .Blank⟩], .purge (id 1 0)]
    PurgedLog.empty.AllowsAll calls ∧
      ∃ store, machine.exec LogStore.call LogStore.default calls = some store ∧
        store.get_log_state.last_log_id = some (id 2 1) := by
  intro id calls
  have hallows : PurgedLog.empty.AllowsAll calls := by
    refine ⟨?_, trivial, ?_, ⟨?_, ?_⟩, trivial⟩
    · show ∀ i (h : i < 2), _
      decide
    · show ∀ i (h : i < 1), _
      decide
    · rintro purged ⟨⟩
    · decide
  obtain ⟨store, hexec, hrefines⟩ := LogStore.refines_purged_log calls hallows
  exact ⟨hallows, store, hexec, by rw [hrefines.state]; rfl⟩

end enclavia.synchronizer.raft
