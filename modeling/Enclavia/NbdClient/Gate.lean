import Enclavia.NbdClient.Region

open enclavia.synchronizer

namespace enclavia.nbd_client

structure ReadWatch where
  payload_offset : Nat
  accept_from_seq : Nat

/-- The acceptable contents of the region: the pinned ones in pin order, those whose pins are in flight by
the handles of their writes, and the reads in flight by their handles. -/
structure RegionWatch where
  history : List (Nat × Bytes32)
  pending : Std.ExtTreeMap UInt64 (Nat × Bytes32)
  reads : Std.ExtTreeMap UInt64 ReadWatch
  next_seq : Nat

namespace RegionWatch

def new (boot_commitment : Bytes32) : RegionWatch where
  history := [(0, boot_commitment)]
  pending := ∅
  reads := ∅
  next_seq := 1

variable (self : RegionWatch)

def newest : Nat := (self.history.getLast?.map Prod.fst).getD 0

def watch_read (handle : UInt64) (payload_offset : Nat) : RegionWatch :=
  { self with reads := self.reads.insert handle ⟨payload_offset, self.newest⟩ }

def begin_pending (handle : UInt64) (commitment : Bytes32) : RegionWatch :=
  { self with
    next_seq := (self.next_seq + 1) % UInt64.size
    pending := self.pending.insert handle (self.next_seq, commitment) }

def prune (floor : Nat) : List (Nat × Bytes32) → List (Nat × Bytes32)
  | first :: second :: rest => if first.1 ≥ floor then first :: second :: rest else prune floor (second :: rest)
  | history => history

def floor (seq : Nat) : Nat := ((self.reads.toList.map fun read => read.2.accept_from_seq).min?).getD seq

def commit (handle : UInt64) : RegionWatch :=
  match self.pending[handle]? with
  | none => self
  | some (seq, commitment) =>
    { self with
      pending := self.pending.erase handle
      history := prune (self.floor seq) (self.history ++ [(seq, commitment)]) }

def read_payload_offset (handle : UInt64) : Option Nat := self.reads[handle]?.map ReadWatch.payload_offset

def is_fresh (accept_from_seq : Nat) (hash : Bytes32) : Bool :=
  self.history.any (fun entry => entry.1 ≥ accept_from_seq && entry.2 = hash) ||
    self.pending.toList.any (fun entry => entry.2.1 ≥ accept_from_seq && entry.2.2 = hash)

def verify_read (handle : UInt64) (region : List UInt8) : Except String Unit × RegionWatch :=
  match self.reads[handle]? with
  | none => (.ok (), self)
  | some watch =>
    let after := { self with reads := self.reads.erase handle }
    if self.is_fresh watch.accept_from_seq (commitment_of_region region) then (.ok (), after)
    else
      (.error (s!"superblock region read (handle {handle}) does not match any pinned state at least as fresh as its " ++
        s!"issue time: the host is serving stale device content (rollback); refusing to serve"), after)

def drop_read (handle : UInt64) : RegionWatch := { self with reads := self.reads.erase handle }

end RegionWatch

inductive PinStatus where
  | Pending
  | Ok
  | Failed (reason : String)

inductive GateCheck where
  | NotGated
  | Hold
  | Pass
  | Fail (reason : String)

structure PinGate where
  inner : Std.ExtTreeMap UInt64 PinStatus

namespace PinGate

def new : PinGate := ⟨∅⟩

variable (self : PinGate)

def begin (handle : UInt64) : PinGate := ⟨self.inner.insert handle .Pending⟩

def finish_ok (handle : UInt64) : PinGate := ⟨self.inner.insert handle .Ok⟩

def finish_err (handle : UInt64) (reason : String) : PinGate := ⟨self.inner.insert handle (.Failed reason)⟩

def check (handle : UInt64) : GateCheck × PinGate :=
  match self.inner[handle]? with
  | none => (.NotGated, self)
  | some .Pending => (.Hold, self)
  | some .Ok => (.Pass, ⟨self.inner.erase handle⟩)
  | some (.Failed reason) => (.Fail reason, self)

end PinGate

structure PinJob where
  handle : UInt64
  commitment : Bytes32

end enclavia.nbd_client
