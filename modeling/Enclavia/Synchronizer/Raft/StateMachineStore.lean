import Enclavia.Synchronizer.Snapshot
import Enclavia.Synchronizer.Raft.Openraft

namespace enclavia.synchronizer.raft

/-- The bookkeeping that openraft asks of a state machine, beside the state machine. -/
structure AppliedState where
  last_applied_log : Option LogId
  last_membership : StoredMembership

/-- A snapshot: its metadata and the CBOR encoding of a `StateMachineSnapshot`. -/
structure StoredSnapshot where
  snapshot_meta : SnapshotMeta
  data : List UInt8

/-- What ciborium and openraft supply to the store: the encoding of a snapshot, and the text of a
leader id. -/
structure SnapshotCodec where
  into_writer : StateMachineSnapshot → Except String (List UInt8)
  from_reader : List UInt8 → Except String StateMachineSnapshot
  leader_id_text : LeaderId → String

def SnapshotCodec.RoundTrips (codec : SnapshotCodec) : Prop :=
  ∀ snapshot data, codec.into_writer snapshot = .ok data → codec.from_reader data = .ok snapshot

inductive StorageError where
  | read_state_machine (message : String)
  | read_snapshot (snapshot_meta : SnapshotMeta) (message : String)

structure StateMachineStore where
  state : StateMachine × AppliedState
  snapshot_idx : UInt64
  current_snapshot : Option StoredSnapshot

namespace StateMachineStore

def default : StateMachineStore where
  state := (StateMachine.new, ⟨none, .empty⟩)
  snapshot_idx := 0
  current_snapshot := none

def blank_result : ReplicatedOpResult := .Applied ⟨⟨Vector.replicate 32 0⟩, ⟨0⟩, Vector.replicate 65 0⟩

def apply_entry (state : StateMachine × AppliedState) (entry : Entry) :
    ReplicatedOpResult × (StateMachine × AppliedState) :=
  let applied := { state.2 with last_applied_log := some entry.log_id }
  match entry.payload with
  | .Blank => (blank_result, (state.1, applied))
  | .Normal op =>
    let (result, sm) := apply_one state.1 op
    (result, (sm, applied))
  | .Membership membership =>
    (blank_result, (state.1, { applied with last_membership := ⟨some entry.log_id, membership⟩ }))

def apply (self : StateMachineStore) (entries : List Entry) : List ReplicatedOpResult × StateMachineStore :=
  (machine.results apply_entry self.state entries, { self with state := machine.run apply_entry self.state entries })

structure Captured where
  data : List UInt8
  last_applied : Option LogId
  last_membership : StoredMembership

def capture (codec : SnapshotCodec) (self : StateMachineStore) : Except StorageError Captured :=
  match codec.into_writer self.state.1.snapshot with
  | .error message => .error (.read_state_machine message)
  | .ok data => .ok ⟨data, self.state.2.last_applied_log, self.state.2.last_membership⟩

def snapshot_id (codec : SnapshotCodec) (last_applied : Option LogId) (snapshot_idx : UInt64) : String :=
  match last_applied with
  | some last => s!"{codec.leader_id_text last.leader_id}-{last.index}-{snapshot_idx}"
  | none => s!"--{snapshot_idx}"

def publish (codec : SnapshotCodec) (self : StateMachineStore) (captured : Captured) :
    StoredSnapshot × StateMachineStore :=
  let snapshot_idx := self.snapshot_idx + 1
  let snapshot : StoredSnapshot :=
    { snapshot_meta :=
        { last_log_id := captured.last_applied
          last_membership := captured.last_membership
          snapshot_id := snapshot_id codec captured.last_applied snapshot_idx }
      data := captured.data }
  (snapshot, { self with snapshot_idx, current_snapshot := some snapshot })

def build_snapshot (codec : SnapshotCodec) (self : StateMachineStore) :
    Except StorageError StoredSnapshot × StateMachineStore :=
  match self.capture codec with
  | .error e => (.error e, self)
  | .ok captured =>
    let (snapshot, self) := self.publish codec captured
    (.ok snapshot, self)

def install_snapshot (codec : SnapshotCodec) (self : StateMachineStore) (snapshot : StoredSnapshot) :
    Except StorageError Unit × StateMachineStore :=
  match codec.from_reader snapshot.data with
  | .error message => (.error (.read_snapshot snapshot.snapshot_meta message), self)
  | .ok restored =>
    (.ok (), { self with
      state := (self.state.1.restore_from_snapshot restored,
        ⟨snapshot.snapshot_meta.last_log_id, snapshot.snapshot_meta.last_membership⟩)
      current_snapshot := some snapshot })

def get_current_snapshot (self : StateMachineStore) : Option StoredSnapshot := self.current_snapshot

end StateMachineStore

end enclavia.synchronizer.raft
