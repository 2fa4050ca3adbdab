import Enclavia.Synchronizer.StateMachine

namespace enclavia.synchronizer

structure ControlPubkeyBytes where
  bytes : ControlPubkey
deriving DecidableEq

structure StateMachineSnapshot where
  state : Std.ExtTreeMap PcrKey KeyState
  attested : Std.ExtTreeMap PcrKey ControlPubkeyBytes
  transition_authorizations : Std.ExtTreeSet (PcrKey × PcrKey) compare_pair
  retired : Std.ExtTreeSet PcrKey
  revoked_links : Std.ExtTreeMap PcrKey (Std.ExtTreeSet Bytes32)
deriving DecidableEq

namespace StateMachine

def snapshot (self : StateMachine) : StateMachineSnapshot where
  state := self.state
  attested := self.attested.map fun _ pubkey => ⟨pubkey⟩
  transition_authorizations := self.transition_authorizations
  retired := self.retired
  revoked_links := self.revoked_links

def restore_from_snapshot (_self : StateMachine) (snapshot : StateMachineSnapshot) : StateMachine where
  state := snapshot.state
  attested := snapshot.attested.map fun _ pubkey => pubkey.bytes
  transition_authorizations := snapshot.transition_authorizations
  retired := snapshot.retired
  revoked_links := snapshot.revoked_links

theorem restore_from_snapshot_snapshot (sm other : StateMachine) :
    other.restore_from_snapshot sm.snapshot = sm := by
  have hattested : (sm.attested.map fun _ pubkey => ControlPubkeyBytes.mk pubkey).map
      (fun _ pubkey => pubkey.bytes) = sm.attested := by
    apply Std.ExtTreeMap.ext_getElem?
    intro key
    rw [Std.ExtTreeMap.getElem?_map, Std.ExtTreeMap.getElem?_map, Option.map_map]
    cases sm.attested[key]? <;> rfl
  simp only [restore_from_snapshot, snapshot, hattested]

end StateMachine

end enclavia.synchronizer
