import Enclavia.Machine.Guarded
import Enclavia.Synchronizer.Raft.NodeViews

namespace enclavia.synchronizer.raft

namespace StateMachineStore

/-- What `install_snapshot` does under the lock of the state. -/
def restore (codec : SnapshotCodec) (self : StateMachineStore) (snapshot : StoredSnapshot) :
    Except StorageError StateMachineStore :=
  match codec.from_reader snapshot.data with
  | .error message => .error (.read_snapshot snapshot.snapshot_meta message)
  | .ok restored =>
    .ok { self with state := (self.state.1.restore_from_snapshot restored,
      ⟨snapshot.snapshot_meta.last_log_id, snapshot.snapshot_meta.last_membership⟩) }

def hold (self : StateMachineStore) (snapshot : StoredSnapshot) : StateMachineStore :=
  { self with current_snapshot := some snapshot }

theorem install_snapshot_eq (codec : SnapshotCodec) (self : StateMachineStore) (snapshot : StoredSnapshot) :
    self.install_snapshot codec snapshot =
      match self.restore codec snapshot with
      | .error e => (.error e, self)
      | .ok store => (.ok (), store.hold snapshot) := by
  unfold install_snapshot restore
  cases codec.from_reader snapshot.data <;> rfl

end StateMachineStore

/-- A snapshot of `build_snapshot` or `install_snapshot` between its two locks, with how many were stored before. -/
structure Underway where
  stored : Nat
  work : StateMachineStore.Captured ⊕ StoredSnapshot

def Underway.data (pending : Underway) : List UInt8 := pending.work.elim (·.data) (·.data)

def Underway.applied (pending : Underway) : AppliedState :=
  pending.work.elim (fun captured => ⟨captured.last_applied, captured.last_membership⟩)
    fun snapshot => ⟨snapshot.snapshot_meta.last_log_id, snapshot.snapshot_meta.last_membership⟩

/-- One store, with the snapshots on their way to it. -/
structure Sections where
  store : StateMachineStore
  stored : Nat
  pending : List Underway

inductive Section where
  | apply (count : Nat)
  | capture
  | restore (snapshot : StoredSnapshot)
  | finish (i : Nat)

variable {store : StateMachineStore}

namespace Sections

variable (codec : SnapshotCodec) (log : List Entry)

def start : Sections := ⟨.default, 0, []⟩

/-- The work under one lock. -/
def step (s : Sections) : Section → Option Sections
  | .apply count => some { s with store := (s.store.apply (batch log s.store.state.2.last_applied_log count)).2 }
  | .capture =>
    match s.store.capture codec with
    | .error _ => some s
    | .ok captured => some { s with pending := s.pending ++ [⟨s.stored, .inl captured⟩] }
  | .restore snapshot =>
    if position log s.store.state.2.last_applied_log < position log snapshot.snapshot_meta.last_log_id then
      match s.store.restore codec snapshot with
      | .error _ => some s
      | .ok store => some { s with store, pending := s.pending ++ [⟨s.stored, .inr snapshot⟩] }
    else none
  | .finish i => s.pending[i]?.map fun pending =>
    { store := pending.work.elim (fun captured => (s.store.publish codec captured).2) s.store.hold
      stored := s.stored + 1
      pending := s.pending.eraseIdx i }

/-- How much of the log the stored snapshot covers. -/
def covered (s : Sections) : Nat :=
  position log (s.store.current_snapshot.bind fun snapshot => snapshot.snapshot_meta.last_log_id)

/-- A snapshot is the state after a prefix of the log, with the id of its last entry. -/
def Exact (snapshot : StoredSnapshot) : Prop :=
  ∃ n ≤ log.length, NodeViews.Captures codec (log.take n) snapshot.data
    ⟨snapshot.snapshot_meta.last_log_id, snapshot.snapshot_meta.last_membership⟩

/-- The snapshots of other nodes are exact, and none was stored since the one that is stored now was taken. -/
def Orderly (s : Sections) : Section → Prop
  | .restore snapshot => Exact codec log snapshot
  | .finish i => ∀ pending, s.pending[i]? = some pending → pending.stored = s.stored
  | _ => True

structure Inv (s : Sections) : Prop where
  state : ∃ n ≤ log.length, s.store.state = node_view (log.take n) ∧ s.covered log ≤ n ∧
    ∀ pending ∈ s.pending, ∃ k ≤ n, NodeViews.Captures codec (log.take k) pending.data pending.applied ∧
      (pending.stored = s.stored → s.covered log ≤ k)
  stamps : ∀ pending ∈ s.pending, pending.stored ≤ s.stored
  current : ∀ snapshot, s.store.current_snapshot = some snapshot → Exact codec log snapshot

variable {codec log} {s s' : Sections}

theorem Inv.start : Inv codec log .start where
  state := ⟨0, Nat.zero_le _, rfl, Nat.le_refl 0, nofun⟩
  stamps := nofun
  current := nofun

theorem position_captures (hids : (log.map Entry.log_id).Nodup) {n : Nat} (hn : n ≤ log.length) {data : List UInt8}
    {applied : AppliedState} (h : NodeViews.Captures codec (log.take n) data applied) :
    position log applied.last_applied_log = n := by
  rw [h.applied]
  exact position_last_log_id hids hn

theorem Inv.push (h : Inv codec log s) {n : Nat} (hn : n ≤ log.length) (hstate : store.state = node_view (log.take n))
    (hcurrent : store.current_snapshot = s.store.current_snapshot)
    (hnewer : position log s.store.state.2.last_applied_log ≤ n) (hids : (log.map Entry.log_id).Nodup)
    {more : List Underway}
    (hmore : ∀ pending ∈ more, pending.stored = s.stored ∧
      NodeViews.Captures codec (log.take n) pending.data pending.applied) :
    Inv codec log { s with store, pending := s.pending ++ more } := by
  obtain ⟨m, hm, hbefore, hcovered, hpending⟩ := h.state
  have hle : m ≤ n := by
    rw [hbefore] at hnewer
    have hm := position_last_log_id hids hm
    simp only [node_view] at hnewer
    omega
  have hsame : covered log { s with store, pending := s.pending ++ more } = s.covered log := by
    simp only [covered, hcurrent]
  refine ⟨⟨n, hn, hstate, by omega, ?_⟩, ?_, ?_⟩
  · rw [hsame]
    intro pending hmem
    rcases List.mem_append.mp hmem with hmem | hmem
    · obtain ⟨k, hk, hrest⟩ := hpending pending hmem
      exact ⟨k, by omega, hrest⟩
    · exact ⟨n, Nat.le_refl n, (hmore pending hmem).2, fun _ => by omega⟩
  · intro pending hmem
    rcases List.mem_append.mp hmem with hmem | hmem
    · exact h.stamps pending hmem
    · exact Nat.le_of_eq (hmore pending hmem).1
  · intro snapshot hsnapshot
    exact h.current snapshot (hcurrent ▸ hsnapshot)

theorem Inv.finish (h : Inv codec log s) (hids : (log.map Entry.log_id).Nodup) {i : Nat} {pending : Underway}
    (hi : s.pending[i]? = some pending) (horder : pending.stored = s.stored) {snapshot : StoredSnapshot}
    (hstate : store.state = s.store.state) (hcurrent : store.current_snapshot = some snapshot)
    (hdata : snapshot.data = pending.data)
    (hmeta : pending.applied = ⟨snapshot.snapshot_meta.last_log_id, snapshot.snapshot_meta.last_membership⟩) :
    Inv codec log ⟨store, s.stored + 1, s.pending.eraseIdx i⟩ ∧
      s.covered log ≤ covered log ⟨store, s.stored + 1, s.pending.eraseIdx i⟩ := by
  obtain ⟨n, hn, hbefore, -, hpending⟩ := h.state
  obtain ⟨k, hk, hcaptures, hcovered⟩ := hpending pending (List.mem_of_getElem? hi)
  have hat : covered log ⟨store, s.stored + 1, s.pending.eraseIdx i⟩ = k := by
    have hposition := position_captures hids (by omega) hcaptures
    rw [hmeta] at hposition
    simpa only [covered, hcurrent, Option.bind_some] using hposition
  have hstamps : ∀ other ∈ s.pending.eraseIdx i, other.stored ≤ s.stored := fun other hother =>
    h.stamps other (List.mem_of_mem_eraseIdx hother)
  refine ⟨⟨⟨n, hn, hstate.trans hbefore, by omega, ?_⟩, ?_, ?_⟩, hat ▸ hcovered horder⟩
  · -- the stamps of the others are behind now, so nothing is asked of what they cover
    intro other hother
    obtain ⟨j, hj, hother', -⟩ := hpending other (List.mem_of_mem_eraseIdx hother)
    refine ⟨j, hj, hother', fun heq => ?_⟩
    have hle := hstamps other hother
    simp only at heq
    omega
  · intro other hother
    exact Nat.le_succ_of_le (hstamps other hother)
  · intro other hother
    cases hcurrent.symm.trans hother
    exact ⟨k, by omega, hdata ▸ hmeta ▸ hcaptures⟩

theorem Inv.step (hcodec : codec.RoundTrips) (hids : (log.map Entry.log_id).Nodup) (h : Inv codec log s)
    {event : Section} (horderly : Orderly codec log s event) (hstep : s.step codec log event = some s') :
    Inv codec log s' ∧ s.covered log ≤ s'.covered log := by
  obtain ⟨n, hn, hstate, hrest⟩ := h.state
  have hposition : position log s.store.state.2.last_applied_log = n := by
    rw [hstate]
    exact position_last_log_id hids hn
  cases event with
  | apply count =>
    cases hstep
    have hnext : (s.store.apply (batch log s.store.state.2.last_applied_log count)).2.state =
        node_view (log.take (min (n + count) log.length)) := by
      simp only [StateMachineStore.apply]
      rw [hstate, NodeViews.batch_eq hids hn, run_apply_entry_node_view, ← List.take_add, List.take_eq_take_min]
    have hnone : ∀ pending ∈ ([] : List Underway), pending.stored = s.stored ∧
        NodeViews.Captures codec (log.take (min (n + count) log.length)) pending.data pending.applied := by simp
    have hinv := h.push (Nat.min_le_right _ _) hnext rfl (by omega) hids hnone
    rw [List.append_nil] at hinv
    exact ⟨hinv, Nat.le_refl _⟩
  | capture =>
    simp only [Sections.step, StateMachineStore.capture] at hstep
    cases hdata : codec.into_writer s.store.state.1.snapshot with
    | error message =>
      rw [hdata] at hstep
      cases hstep
      exact ⟨h, Nat.le_refl _⟩
    | ok data =>
      rw [hdata] at hstep
      cases hstep
      refine ⟨h.push hn hstate rfl (by omega) hids ?_, Nat.le_refl _⟩
      intro pending hpending
      obtain rfl := List.mem_singleton.mp hpending
      rw [hstate] at hdata
      exact ⟨rfl, hdata, by rw [hstate]; rfl⟩
  | restore snapshot =>
    obtain ⟨m, hm, hcaptures⟩ := horderly
    have hnewer := position_captures hids hm hcaptures
    simp only [Sections.step, StateMachineStore.restore, hcodec _ _ hcaptures.data, hposition, hnewer] at hstep
    split at hstep
    · cases hstep
      refine ⟨h.push hm ?_ ?_ (by omega) hids ?_, Nat.le_refl _⟩
      · simp only [StateMachine.restore_from_snapshot_snapshot, hcaptures.applied]
      · rfl
      · intro pending hpending
        obtain rfl := List.mem_singleton.mp hpending
        exact ⟨rfl, hcaptures⟩
    · cases hstep
  | finish i =>
    obtain ⟨pending, hi, rfl⟩ := Option.map_eq_some_iff.mp hstep
    have horder := horderly pending hi
    obtain ⟨stored, captured | snapshot⟩ := pending
    · exact h.finish hids hi horder rfl rfl rfl rfl
    · exact h.finish hids hi horder rfl rfl rfl rfl

end Sections

/-- Whatever the order of the critical sections, the stored snapshot covers more and more of the log, and is the state
at exactly its last entry, as long as no snapshot is stored between the two sections of another one. -/
theorem snapshot_never_goes_back {codec : SnapshotCodec} (hcodec : codec.RoundTrips) {log : List Entry}
    (hids : (log.map Entry.log_id).Nodup) {first second : List Section} {s s' : Sections}
    (hfirst : machine.exec (Sections.step codec log) .start first = some s)
    (hsecond : machine.exec (Sections.step codec log) s second = some s')
    (hmeets : machine.Meets (Sections.step codec log) (Sections.Orderly codec log) .start first)
    (hmeets' : machine.Meets (Sections.step codec log) (Sections.Orderly codec log) s second) :
    s.covered log ≤ s'.covered log ∧
      ∀ snapshot, s'.store.get_current_snapshot = some snapshot → Sections.Exact codec log snapshot := by
  have hinv : Sections.Inv codec log s :=
    machine.exec_preserves (fun _ _ _ h horderly hstep => (h.step hcodec hids horderly hstep).1) .start hmeets hfirst
  have hboth : Sections.Inv codec log s' ∧ s.covered log ≤ s'.covered log := by
    refine machine.exec_preserves (P := fun next => Sections.Inv codec log next ∧ s.covered log ≤ next.covered log)
      ?_ ⟨hinv, Nat.le_refl _⟩ hmeets' hsecond
    intro mid event next h horderly hstep
    obtain ⟨hnext, hle⟩ := h.1.step hcodec hids horderly hstep
    exact ⟨hnext, Nat.le_trans h.2 hle⟩
  exact ⟨hboth.2, hboth.1.current⟩

namespace race

def log : List Entry := [⟨⟨⟨1, 7⟩, 0⟩, .Blank⟩, ⟨⟨⟨1, 7⟩, 1⟩, .Blank⟩]

def codec : SnapshotCodec := .only StateMachine.new.snapshot

/-- The snapshot of a node that has applied both entries. -/
def newer : StoredSnapshot := ⟨⟨some ⟨⟨1, 7⟩, 1⟩, .empty, "leader"⟩, [1]⟩

theorem newer_exact : Sections.Exact codec log newer := ⟨2, by decide, by decide +kernel, rfl⟩

/-- How much of the log is covered after a run. -/
def covers (sections : List Section) : Option Nat :=
  (machine.exec (Sections.step codec log) .start sections).map (Sections.covered log)

def in_turn : List Section := [.apply 1, .capture, .finish 0, .restore newer, .finish 0]

end race

/-- A newer snapshot is installed while an older one is built. -/
theorem built_snapshot_overwrites_newer :
    race.covers [.apply 1, .capture, .restore race.newer, .finish 1] = some 2 ∧
    race.covers [.apply 1, .capture, .restore race.newer, .finish 1, .finish 0] = some 1 ∧
    Sections.Exact race.codec race.log race.newer :=
  ⟨by decide +kernel, by decide +kernel, race.newer_exact⟩

/-- The newer one is installed after the older one was built. -/
theorem snapshot_never_goes_back_in_turn : ∃ s,
    machine.exec (Sections.step race.codec race.log) .start race.in_turn = some s ∧
    Sections.start.covered race.log ≤ s.covered race.log ∧
    ∀ snapshot, s.store.get_current_snapshot = some snapshot → Sections.Exact race.codec race.log snapshot := by
  have hmeets : machine.Meets (Sections.step race.codec race.log) (Sections.Orderly race.codec race.log) .start
      race.in_turn := by
    refine ⟨trivial, ?_⟩
    rintro _ ⟨⟩
    refine ⟨trivial, ?_⟩
    rintro _ ⟨⟩
    refine ⟨?_, ?_⟩
    · rintro _ ⟨⟩
      rfl
    rintro _ ⟨⟩
    refine ⟨race.newer_exact, ?_⟩
    rintro _ ⟨⟩
    refine ⟨?_, fun _ _ => trivial⟩
    rintro _ ⟨⟩
    rfl
  obtain ⟨s, hs⟩ := Option.isSome_iff_exists.mp
    (show (machine.exec (Sections.step race.codec race.log) .start race.in_turn).isSome = true by decide +kernel)
  have hnil : machine.exec (Sections.step race.codec race.log) .start [] = some .start := rfl
  exact ⟨s, hs, snapshot_never_goes_back (SnapshotCodec.only_round_trips _) (by decide) hnil hs trivial hmeets⟩

end enclavia.synchronizer.raft
