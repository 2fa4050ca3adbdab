import Mathlib.Data.List.Nodup
import Enclavia.Synchronizer.Raft.StateMachineStore

namespace enclavia.synchronizer.raft

def Entry.op (entry : Entry) : Option ReplicatedOp :=
  match entry.payload with
  | .Normal op => some op
  | _ => none

def Entry.stored_membership (entry : Entry) : Option StoredMembership :=
  match entry.payload with
  | .Membership membership => some ⟨some entry.log_id, membership⟩
  | _ => none

def ops (log : List Entry) : List ReplicatedOp := log.filterMap Entry.op

def last_log_id (log : List Entry) : Option LogId := log.getLast?.map Entry.log_id

def last_membership (log : List Entry) : StoredMembership :=
  (log.filterMap Entry.stored_membership).getLast?.getD .empty

def node_view (log : List Entry) : StateMachine × AppliedState :=
  (replay (ops log), ⟨last_log_id log, last_membership log⟩)

def entry_result (sm : StateMachine) (entry : Entry) : ReplicatedOpResult :=
  match entry.op with
  | some op => (apply_one sm op).1
  | none => StateMachineStore.blank_result

theorem apply_entry_node_view (log : List Entry) (entry : Entry) :
    StateMachineStore.apply_entry (node_view log) entry =
      (entry_result (replay (ops log)) entry, node_view (log ++ [entry])) := by
  obtain ⟨log_id, payload⟩ := entry
  simp only [node_view, ops, last_log_id, last_membership, List.filterMap_append, List.filterMap_cons,
    List.filterMap_nil, List.getLast?_concat]
  cases payload with
  | Blank => simp [StateMachineStore.apply_entry, entry_result, Entry.op, Entry.stored_membership]
  | Normal op =>
    simp [StateMachineStore.apply_entry, entry_result, Entry.op, Entry.stored_membership, replay_concat]
  | Membership membership =>
    simp [StateMachineStore.apply_entry, entry_result, Entry.op, Entry.stored_membership]

theorem run_apply_entry_node_view (log entries : List Entry) :
    machine.run StateMachineStore.apply_entry (node_view log) entries = node_view (log ++ entries) := by
  induction entries generalizing log with
  | nil => rw [List.append_nil, machine.run_nil]
  | cons entry entries ih => rw [machine.run_cons, apply_entry_node_view, ih, List.append_assoc, List.singleton_append]

variable {entry : Entry} {result : ReplicatedOpResult}

theorem results_apply_entry_node_view {log entries : List Entry}
    (hmem : (entry, result) ∈ entries.zip (machine.results StateMachineStore.apply_entry (node_view log) entries)) :
    ∃ before, before ++ [entry] <+: log ++ entries ∧ result = entry_result (replay (ops before)) entry := by
  induction entries generalizing log with
  | nil => cases hmem
  | cons head entries ih =>
    rw [machine.results_cons, apply_entry_node_view, List.zip_cons_cons] at hmem
    rcases List.mem_cons.mp hmem with heq | hmem
    · obtain ⟨rfl, rfl⟩ := Prod.mk.inj heq
      exact ⟨log, ⟨entries, by rw [List.append_assoc, List.singleton_append]⟩, rfl⟩
    · obtain ⟨before, hbefore, hresult⟩ := ih hmem
      rw [List.append_assoc, List.singleton_append] at hbefore
      exact ⟨before, hbefore, hresult⟩

def position (log : List Entry) : Option LogId → Nat
  | none => 0
  | some last => (log.map Entry.log_id).idxOf last + 1

def batch (log : List Entry) (last_applied : Option LogId) (count : Nat) : List Entry :=
  (log.drop (position log last_applied)).take count

theorem idxOf_log_id {log front : List Entry} (hids : (log.map Entry.log_id).Nodup)
    (hfront : front ++ [entry] <+: log) : (log.map Entry.log_id).idxOf entry.log_id = front.length := by
  obtain ⟨rest, rfl⟩ := hfront
  have hidx := hids.idxOf_getElem front.length (by simp)
  simpa using hidx

theorem position_last_log_id {log : List Entry} (hids : (log.map Entry.log_id).Nodup) {n : Nat}
    (hn : n ≤ log.length) : position log (last_log_id (log.take n)) = n := by
  cases n with
  | zero => rfl
  | succ n =>
    have htake : log.take n ++ [log[n]] = log.take (n + 1) := List.take_append_getElem hn
    have hlast : last_log_id (log.take (n + 1)) = some log[n].log_id := by
      rw [← htake, last_log_id, List.getLast?_concat, Option.map_some]
    rw [hlast, position, idxOf_log_id hids (htake ▸ List.take_prefix (n + 1) log), List.length_take]
    omega

theorem front_eq {log front front' : List Entry} (hids : (log.map Entry.log_id).Nodup) (h : front ++ [entry] <+: log)
    (h' : front' ++ [entry] <+: log) : front = front' := by
  have hlen : (front ++ [entry]).length = (front' ++ [entry]).length := by
    rw [List.length_append, List.length_append, ← idxOf_log_id hids h, ← idxOf_log_id hids h']
  have heq := (List.prefix_of_prefix_length_le h h' (Nat.le_of_eq hlen)).eq_of_length hlen
  exact List.append_cancel_right heq

/-- The stores of the replicas of one committed log, the captures still being published, and every
snapshot built so far. -/
structure NodeViews (Replica : Type) where
  store : Replica → StateMachineStore
  captured : List StateMachineStore.Captured
  built : List StoredSnapshot

inductive NodeViews.Action (Replica : Type) where
  | apply (r : Replica) (count : Nat)
  | capture (r : Replica)
  | publish (r : Replica) (i : Nat)
  | install_snapshot (r : Replica) (i : Nat)
  | restart (r : Replica)

namespace NodeViews

variable {Replica : Type} [DecidableEq Replica]

def start : NodeViews Replica := ⟨fun _ => .default, [], []⟩

def set (views : NodeViews Replica) (r : Replica) (store : StateMachineStore) : NodeViews Replica :=
  { views with store := Function.update views.store r store }

def step (codec : SnapshotCodec) (log : List Entry) (views : NodeViews Replica) :
    Action Replica → List (Replica × Entry × ReplicatedOpResult) × NodeViews Replica
  | .apply r count =>
    let entries := batch log (views.store r).state.2.last_applied_log count
    let (results, store) := (views.store r).apply entries
    ((entries.zip results).map (Prod.mk r), views.set r store)
  | .capture r =>
    match (views.store r).capture codec with
    | .error _ => ([], views)
    | .ok captured => ([], { views with captured := views.captured ++ [captured] })
  | .publish r i =>
    match views.captured[i]? with
    | none => ([], views)
    | some captured =>
      let (snapshot, store) := (views.store r).publish codec captured
      ([], { views.set r store with built := views.built ++ [snapshot] })
  | .install_snapshot r i =>
    match views.built[i]? with
    | none => ([], views)
    | some snapshot => ([], views.set r ((views.store r).install_snapshot codec snapshot).2)
  | .restart r => ([], views.set r .default)

structure Captures (codec : SnapshotCodec) (log : List Entry) (data : List UInt8) (applied : AppliedState) :
    Prop where
  data : codec.into_writer (node_view log).1.snapshot = .ok data
  applied : applied = (node_view log).2

/-- Every store, every capture and every snapshot is the view of a prefix of the committed log, and
what a store hands out as its current snapshot was built. -/
structure Follows (codec : SnapshotCodec) (log : List Entry) (views : NodeViews Replica) : Prop where
  store : ∀ r, ∃ n ≤ log.length, (views.store r).state = node_view (log.take n)
  captured : ∀ captured ∈ views.captured, ∃ n ≤ log.length,
    Captures codec (log.take n) captured.data ⟨captured.last_applied, captured.last_membership⟩
  built : ∀ snapshot ∈ views.built, ∃ n ≤ log.length, Captures codec (log.take n) snapshot.data
    ⟨snapshot.snapshot_meta.last_log_id, snapshot.snapshot_meta.last_membership⟩
  current : ∀ r snapshot, (views.store r).get_current_snapshot = some snapshot → snapshot ∈ views.built

variable {codec : SnapshotCodec} {log : List Entry} {views : NodeViews Replica}

omit [DecidableEq Replica] in
theorem Follows.start : (start : NodeViews Replica).Follows codec log where
  store _ := ⟨0, Nat.zero_le _, rfl⟩
  captured _ h := by cases h
  built _ h := by cases h
  current _ _ h := by cases h

private theorem Follows.set (hviews : views.Follows codec log) (r : Replica) {store : StateMachineStore}
    (hstore : ∃ n ≤ log.length, store.state = node_view (log.take n))
    (hcurrent : ∀ snapshot, store.get_current_snapshot = some snapshot → snapshot ∈ views.built) :
    (views.set r store).Follows codec log where
  store r' := by
    by_cases hr : r' = r
    · subst hr
      simpa only [NodeViews.set, Function.update_self] using hstore
    · simpa only [NodeViews.set, Function.update_of_ne hr] using hviews.store r'
  captured := hviews.captured
  built := hviews.built
  current r' := by
    by_cases hr : r' = r
    · subst hr
      simpa only [NodeViews.set, Function.update_self] using hcurrent
    · simpa only [NodeViews.set, Function.update_of_ne hr] using hviews.current r'

omit [DecidableEq Replica] in
private theorem Follows.build (hviews : views.Follows codec log) (snapshot : StoredSnapshot)
    (hsnapshot : ∃ n ≤ log.length, Captures codec (log.take n) snapshot.data
      ⟨snapshot.snapshot_meta.last_log_id, snapshot.snapshot_meta.last_membership⟩) :
    Follows codec log { views with built := views.built ++ [snapshot] } where
  store := hviews.store
  captured := hviews.captured
  built other hother := by
    rcases List.mem_append.mp hother with hother | hother
    · exact hviews.built other hother
    · obtain rfl := List.mem_singleton.mp hother
      exact hsnapshot
  current r other hother := List.mem_append_left _ (hviews.current r other hother)

theorem batch_eq (hids : (log.map Entry.log_id).Nodup) {n : Nat} (hn : n ≤ log.length) (count : Nat) :
    batch log (node_view (log.take n)).2.last_applied_log count = (log.drop n).take count := by
  rw [batch, node_view, position_last_log_id hids hn]

private theorem take_add_batch (n count : Nat) :
    log.take n ++ (log.drop n).take count = log.take (n + count) := List.take_add.symm

theorem Follows.step (hcodec : codec.RoundTrips) (hids : (log.map Entry.log_id).Nodup)
    (hviews : views.Follows codec log) (action : Action Replica) :
    (views.step codec log action).2.Follows codec log := by
  cases action with
  | apply r count =>
    obtain ⟨n, hn, hstate⟩ := hviews.store r
    refine hviews.set r ⟨min (n + count) log.length, Nat.min_le_right _ _, ?_⟩ (hviews.current r)
    simp only
    rw [hstate, batch_eq hids hn, run_apply_entry_node_view, take_add_batch, List.take_eq_take_min]
  | capture r =>
    simp only [NodeViews.step, StateMachineStore.capture]
    obtain ⟨n, hn, hstate⟩ := hviews.store r
    cases hdata : codec.into_writer (views.store r).state.1.snapshot with
    | error message => exact hviews
    | ok data =>
      refine { hviews with captured := ?_ }
      intro captured hcaptured
      rcases List.mem_append.mp hcaptured with hcaptured | hcaptured
      · exact hviews.captured captured hcaptured
      · obtain rfl := List.mem_singleton.mp hcaptured
        rw [hstate] at hdata ⊢
        exact ⟨n, hn, hdata, rfl⟩
  | publish r i =>
    simp only [NodeViews.step]
    cases hi : views.captured[i]? with
    | none => exact hviews
    | some captured =>
      have hbuilt := hviews.build ((views.store r).publish codec captured).1
        (hviews.captured captured (List.mem_of_getElem? hi))
      refine hbuilt.set r (hviews.store r) ?_
      rintro snapshot ⟨⟩
      exact List.mem_append_right _ (List.mem_singleton_self _)
  | install_snapshot r i =>
    simp only [NodeViews.step]
    cases hi : views.built[i]? with
    | none => exact hviews
    | some snapshot =>
      obtain ⟨n, hn, hdata, happlied⟩ := hviews.built snapshot (List.mem_of_getElem? hi)
      simp only [StateMachineStore.install_snapshot, hcodec _ _ hdata]
      refine hviews.set r ⟨n, hn, ?_⟩ ?_
      · simp only [StateMachine.restore_from_snapshot_snapshot, happlied]
      · rintro other ⟨⟩
        exact List.mem_of_getElem? hi
  | restart r => exact hviews.set r ⟨0, Nat.zero_le _, rfl⟩ nofun

theorem Follows.reported (hids : (log.map Entry.log_id).Nodup) (hviews : views.Follows codec log)
    {action : Action Replica} {r : Replica} (hreport : (r, entry, result) ∈ (views.step codec log action).1) :
    ∃ before, before ++ [entry] <+: log ∧ result = entry_result (replay (ops before)) entry := by
  cases action with
  | apply r' count =>
    obtain ⟨n, hn, hstate⟩ := hviews.store r'
    simp only [NodeViews.step, StateMachineStore.apply, hstate, batch_eq hids hn] at hreport
    obtain ⟨pair, hpair, heq⟩ := List.mem_map.mp hreport
    obtain ⟨-, rfl⟩ := Prod.mk.inj heq
    obtain ⟨before, hbefore, hresult⟩ := results_apply_entry_node_view hpair
    rw [take_add_batch] at hbefore
    exact ⟨before, hbefore.trans (List.take_prefix _ _), hresult⟩
  | capture r' | publish r' i | install_snapshot r' i =>
    simp only [NodeViews.step] at hreport
    split at hreport <;> cases hreport
  | restart r' => cases hreport

theorem run_follows (hcodec : codec.RoundTrips) (hids : (log.map Entry.log_id).Nodup)
    (actions : List (Action Replica)) : (machine.run (step codec log) start actions).Follows codec log :=
  machine.run_preserves (step codec log) (fun _ action hviews => hviews.step hcodec hids action)
    Follows.start actions

theorem run_reported (hcodec : codec.RoundTrips) (hids : (log.map Entry.log_id).Nodup)
    (hviews : views.Follows codec log) {actions : List (Action Replica)} {r : Replica}
    (hreport : (r, entry, result) ∈ (machine.results (step codec log) views actions).flatten) :
    ∃ before, before ++ [entry] <+: log ∧ result = entry_result (replay (ops before)) entry := by
  induction actions generalizing views with
  | nil => cases hreport
  | cons action actions ih =>
    rw [machine.results_cons, List.flatten_cons, List.mem_append] at hreport
    rcases hreport with hreport | hreport
    · exact hviews.reported hids hreport
    · exact ih (hviews.step hcodec hids action) hreport

end NodeViews

/-- The replicas of one committed log, whichever batches they apply, whichever snapshots they build
and install and in whatever order: each holds the fold of the log up to the entry it says it applied
last and the last membership up to there, and an entry has one result wherever it is applied. -/
theorem node_views_consistent {Replica : Type} [DecidableEq Replica] {codec : SnapshotCodec}
    (hcodec : codec.RoundTrips) {log : List Entry} (hids : (log.map Entry.log_id).Nodup)
    (actions : List (NodeViews.Action Replica)) :
    (∀ r, ∃ n ≤ log.length,
      let (sm, applied) := ((machine.run (NodeViews.step codec log) .start actions).store r).state
      applied.last_applied_log = last_log_id (log.take n) ∧ sm = replay (ops (log.take n)) ∧
        applied.last_membership = last_membership (log.take n)) ∧
    ∀ r r' entry result result',
      (r, entry, result) ∈ (machine.results (NodeViews.step codec log) .start actions).flatten →
      (r', entry, result') ∈ (machine.results (NodeViews.step codec log) .start actions).flatten →
      result = result' := by
  refine ⟨?_, ?_⟩
  · intro r
    obtain ⟨n, hn, hstate⟩ := (NodeViews.run_follows hcodec hids actions).store r
    exact ⟨n, hn, by rw [hstate]; exact ⟨rfl, rfl, rfl⟩⟩
  · intro r r' entry result result' hresult hresult'
    obtain ⟨before, hbefore, rfl⟩ := NodeViews.run_reported hcodec hids .start hresult
    obtain ⟨before', hbefore', rfl⟩ := NodeViews.run_reported hcodec hids .start hresult'
    rw [front_eq hids hbefore hbefore']

/-- A codec of one snapshot, which is written as one byte. -/
def SnapshotCodec.only (known : StateMachineSnapshot) : SnapshotCodec where
  into_writer snapshot := if snapshot = known then .ok [1] else .error "unknown snapshot"
  from_reader data := if data = [1] then .ok known else .error "unknown data"
  leader_id_text leader_id := s!"T{leader_id.term}-N{leader_id.node_id}"

theorem SnapshotCodec.only_round_trips (known : StateMachineSnapshot) : (only known).RoundTrips := by
  intro snapshot data hdata
  simp only [only] at hdata ⊢
  split at hdata
  · rename_i heq
    cases hdata
    rw [heq, if_pos rfl]
  · cases hdata

namespace sample

private def key : PcrKey := ⟨Vector.replicate 32 1⟩

def committed_log : List Entry :=
  [⟨⟨⟨1, 7⟩, 0⟩, .Blank⟩,
    ⟨⟨⟨1, 7⟩, 1⟩, .Membership ⟨[{7}], ∅⟩⟩,
    ⟨⟨⟨1, 7⟩, 2⟩, .Normal (.Register key ⟨Vector.replicate 32 2⟩ (Vector.replicate 65 4))⟩,
    ⟨⟨⟨1, 7⟩, 3⟩, .Normal (.Pin key ⟨0⟩ ⟨Vector.replicate 32 3⟩)⟩]

def hydration : List (NodeViews.Action Bool) :=
  [.apply true 3, .capture true, .publish true 0, .install_snapshot false 0, .apply false 5, .apply true 1]

end sample

/-- One node is hydrated from the snapshot of the other and applies the rest of the log. -/
theorem node_views_consistent_hydration :
    (∀ r, ∃ n ≤ sample.committed_log.length,
      let (sm, applied) := ((machine.run (NodeViews.step
        (.only (replay (ops (sample.committed_log.take 3))).snapshot) sample.committed_log) .start
        sample.hydration).store r).state
      applied.last_applied_log = last_log_id (sample.committed_log.take n) ∧
        sm = replay (ops (sample.committed_log.take n)) ∧
        applied.last_membership = last_membership (sample.committed_log.take n)) ∧
    ∃ state, (machine.results (NodeViews.step (.only (replay (ops (sample.committed_log.take 3))).snapshot)
        sample.committed_log) .start sample.hydration).flatten.filterMap
      (fun report => if report.2.1.log_id.index = 3 then some (report.1, report.2.2) else none) =
        [(false, .Applied state), (true, .Applied state)] := by
  refine ⟨(node_views_consistent (SnapshotCodec.only_round_trips _) (by decide) sample.hydration).1, ?_⟩
  exact ⟨⟨⟨Vector.replicate 32 3⟩, ⟨1⟩, Vector.replicate 65 4⟩, by decide +kernel⟩

end enclavia.synchronizer.raft
