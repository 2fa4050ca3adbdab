import Enclavia.Synchronizer.Raft.Network

open interaction

namespace enclavia.synchronizer.raft

inductive JoinEffect where
  | self_is_committed_voter
  | call (peer : String) (payload : MeshPayload)
  | cluster_is_initialized
  | observed_peer_pubkey (peer : String)
  | initialize_cluster (members : Voters)

@[reducible] def JoinAnswer : JoinEffect → Type
  | .self_is_committed_voter => Bool
  | .call _ _ => Option MeshPayload
  | .cluster_is_initialized => Bool
  | .observed_peer_pubkey _ => Option ControlPubkey
  | .initialize_cluster _ => Except RaftHandleError Unit

abbrev JoinProc := Program JoinEffect JoinAnswer

abbrev JoinEvent := Event JoinAnswer

def MIN_INITIAL_CLUSTER_MEMBERS : Nat := MIN_CLUSTER_NODES

def join_payload (self_name : String) : MeshPayload := .request (.Join { slot_name := self_name })

def send_join (peer self_name : String) : JoinProc (Option JoinReply) :=
  .act (.call peer (join_payload self_name)) fun reply => .ret (reply.bind MeshPayload.decode_join_reply)

def peer_names (handle : RaftHandle) : List String :=
  handle.configured_names.toList.filter (· != handle.self_record.name)

def keyed_by_id (records : List MemberRecord) : Voters :=
  .ofList (records.map fun record => (instance_node_id record.pubkey, record))

def do_initialize (records : List MemberRecord) : JoinProc Bool :=
  if (keyed_by_id records).size < MIN_INITIAL_CLUSTER_MEMBERS then .ret false
  else .act (.initialize_cluster (keyed_by_id records)) fun
    | .ok () => .ret true
    | .error _ => .ret false

def collect_records : List String → List MemberRecord → JoinProc (Option (List MemberRecord))
  | [], records => .ret (some records)
  | peer :: peers, records => .act (.observed_peer_pubkey peer) fun
    | some pubkey => collect_records peers (records ++ [{ name := peer, pubkey }])
    | none => .ret none

def try_initialize_fresh (handle : RaftHandle) : JoinProc Bool :=
  .act .cluster_is_initialized fun initialized =>
    if initialized then .ret true
    else (collect_records (peer_names handle) [handle.self_record]).bind fun
      | some records => do_initialize records
      | none => .ret false

def probe (self_name : String) : List String → Bool → Nat → JoinProc (Bool × Nat)
  | [], observed_cluster, peers_reporting_no_cluster => .ret (observed_cluster, peers_reporting_no_cluster)
  | peer :: peers, observed_cluster, peers_reporting_no_cluster => (send_join peer self_name).bind fun
    | some .Admitted | some (.NotLeader _) | some (.Unavailable _) =>
      probe self_name peers true peers_reporting_no_cluster
    | some (.Refused _) => probe self_name peers true peers_reporting_no_cluster
    | some .NoCluster => probe self_name peers observed_cluster (peers_reporting_no_cluster + 1)
    | none => probe self_name peers observed_cluster peers_reporting_no_cluster

def discover_and_join_pass (handle : RaftHandle) : JoinProc Bool :=
  .act .self_is_committed_voter fun voter =>
    if voter then .ret true
    else
      let peers := peer_names handle
      (probe handle.self_record.name peers false 0).bind fun (observed_cluster, peers_reporting_no_cluster) =>
        .act .cluster_is_initialized fun initialized =>
          if observed_cluster || initialized then .ret false
          else if handle.is_smallest_name && peers_reporting_no_cluster == peers.length then
            (try_initialize_fresh handle).bind fun _ => .ret false
          else .ret false

def reported_no_cluster (self_name peer : String) : JoinEvent :=
  ⟨.call peer (join_payload self_name), some (.join_reply .NoCluster)⟩

def reports_no_cluster : JoinEvent → Bool
  | ⟨.call _ _, some (.join_reply .NoCluster)⟩ => true
  | _ => false

theorem reply_of_reports_no_cluster {peer : String} {payload reply : MeshPayload}
    (h : reports_no_cluster ⟨.call peer payload, some reply⟩ = true) : reply = .join_reply .NoCluster := by
  cases reply with
  | join_reply reply =>
    cases reply with
    | NoCluster => rfl
    | Admitted | Refused error | NotLeader hint | Unavailable message => cases h
  | request message | raft_reply reply | forward_reply reply | undecodable error => cases h

def Unfounded (history : List JoinEvent) : Prop :=
  ∀ event ∈ history, ∀ members, event.1 ≠ .initialize_cluster members

/-- What stands when a pass founds a cluster: this is the smallest name, every peer has reported in
this pass that it has seen none, the members are at least the minimum but no more than the names,
and it is the first time. -/
structure Confirmed (handle : RaftHandle) (history : List JoinEvent) (members : Voters) : Prop where
  smallest : handle.is_smallest_name = true
  no_cluster : ∀ peer ∈ peer_names handle, reported_no_cluster handle.self_record.name peer ∈ history
  enough : MIN_INITIAL_CLUSTER_MEMBERS ≤ members.size
  complete : members.size ≤ (peer_names handle).length + 1
  first : Unfounded history

def AsksConfirmed (handle : RaftHandle) (history : List JoinEvent) : JoinEffect → Prop
  | .call _ payload => payload = join_payload handle.self_record.name
  | .initialize_cluster members => Confirmed handle history members
  | _ => True

def Probing (self_name : String) (_ : List JoinEvent) : JoinEffect → Prop
  | .call _ payload => payload = join_payload self_name
  | .initialize_cluster _ => False
  | _ => True

theorem unfounded_of_probing {α : Type} {p q : JoinProc α} {self_name : String} {trace : List JoinEvent}
    (hasks : p.Asks (Probing self_name) []) (hrun : p.Run trace q) : Unfounded trace := by
  intro event hevent members heffect
  obtain ⟨before, after, rfl⟩ := List.append_of_mem hevent
  have hprobing := hasks.of_run hrun
  rw [heffect] at hprobing
  exact hprobing

theorem Unfounded.append {first second : List JoinEvent} (hfirst : Unfounded first) (hsecond : Unfounded second) :
    Unfounded (first ++ second) := by
  intro event hevent
  rcases List.mem_append.mp hevent with h | h
  · exact hfirst event h
  · exact hsecond event h

section Pass

variable {handle : RaftHandle} {history trace : List JoinEvent} {self_name peer : String} {peers : List String}
  {records records' : List MemberRecord} {observed_cluster observed' : Bool} {count count' : Nat}

theorem send_join_no_cluster (h : (send_join peer self_name).Returns trace (some .NoCluster)) :
    reported_no_cluster self_name peer ∈ trace := by
  obtain ⟨answer, rest, rfl, hrest⟩ := Program.returns_act.mp h
  obtain ⟨rfl, hreply⟩ := Program.returns_ret.mp hrest
  obtain ⟨payload, hanswer, hdecode⟩ := Option.bind_eq_some_iff.mp hreply
  cases payload with
  | join_reply reply =>
    cases hdecode
    cases hanswer
    exact List.mem_singleton_self _
  | request message | raft_reply reply | forward_reply reply | undecodable error => cases hdecode

theorem probe_asks : (probe self_name peers observed_cluster count).Asks (Probing self_name) history := by
  induction peers generalizing history observed_cluster count with
  | nil => trivial
  | cons peer peers ih =>
    refine Program.Asks.bind ⟨rfl, fun _ => trivial⟩ ?_
    intro trace reply _
    split <;> exact ih

theorem probe_returns (h : (probe self_name peers observed_cluster count).Returns trace (observed', count')) :
    count' ≤ count + peers.length ∧
      (count' = count + peers.length → ∀ peer ∈ peers, reported_no_cluster self_name peer ∈ trace) := by
  induction peers generalizing trace observed_cluster count with
  | nil =>
    obtain ⟨-, hvalue⟩ := Program.returns_ret.mp h
    cases hvalue
    exact ⟨Nat.le_refl _, nofun⟩
  | cons peer peers ih =>
    obtain ⟨first, second, reply, rfl, hjoin, hrest⟩ := Program.returns_bind.mp h
    rw [List.length_cons]
    -- Any other answer leaves the count behind for good.
    have hbehind : ∀ observed, (probe self_name peers observed count).Returns second (observed', count') →
        count' ≤ count + (peers.length + 1) ∧ (count' = count + (peers.length + 1) →
          ∀ other ∈ peer :: peers, reported_no_cluster self_name other ∈ first ++ second) := by
      intro observed hprobe
      have hle := (ih hprobe).1
      exact ⟨by omega, fun hcount => by omega⟩
    split at hrest
    · exact hbehind _ hrest
    · exact hbehind _ hrest
    · exact hbehind _ hrest
    · exact hbehind _ hrest
    · have hreported := send_join_no_cluster hjoin
      obtain ⟨hle, hall⟩ := ih hrest
      refine ⟨by omega, ?_⟩
      intro hcount other hother
      rcases List.mem_cons.mp hother with rfl | hother
      · exact List.mem_append_left _ hreported
      · exact List.mem_append_right _ (hall (by omega) other hother)
    · exact hbehind _ hrest

theorem collect_records_asks (self_name : String) :
    (collect_records peers records).Asks (Probing self_name) history := by
  induction peers generalizing history records with
  | nil => trivial
  | cons peer peers ih =>
    refine ⟨trivial, ?_⟩
    intro answer
    cases answer with
    | none => trivial
    | some pubkey => exact ih

theorem collect_records_returns (h : (collect_records peers records).Returns trace (some records')) :
    records'.length = records.length + peers.length := by
  induction peers generalizing trace records with
  | nil =>
    obtain ⟨-, hvalue⟩ := Program.returns_ret.mp h
    cases hvalue
    rfl
  | cons peer peers ih =>
    obtain ⟨answer, rest, rfl, hrest⟩ := Program.returns_act.mp h
    cases answer with
    | none => cases (Program.returns_ret.mp hrest).2
    | some pubkey =>
      have hlength := ih hrest
      rw [List.length_append, List.length_singleton] at hlength
      rw [List.length_cons]
      omega

theorem size_keyed_by_id_le : (keyed_by_id records).size ≤ records.length := by
  refine Nat.le_trans Std.ExtTreeMap.size_ofList_le (Nat.le_of_eq ?_)
  rw [List.length_map]

theorem do_initialize_asks (hsmallest : handle.is_smallest_name = true)
    (hreported : ∀ peer ∈ peer_names handle, reported_no_cluster handle.self_record.name peer ∈ history)
    (hfirst : Unfounded history) (hlength : records.length = (peer_names handle).length + 1) :
    Program.Asks (AsksConfirmed handle) history <| do_initialize records := by
  unfold do_initialize
  split
  · trivial
  · next hsize =>
    refine ⟨⟨hsmallest, hreported, Nat.not_lt.mp hsize, hlength ▸ size_keyed_by_id_le, hfirst⟩, ?_⟩
    intro answer
    cases answer <;> trivial

theorem probing_confirmed {effect : JoinEffect} (h : Probing handle.self_record.name history effect) :
    AsksConfirmed handle history effect := by
  cases effect with
  | call peer payload => exact h
  | initialize_cluster members => exact absurd h not_false
  | self_is_committed_voter | cluster_is_initialized | observed_peer_pubkey peer => trivial

theorem try_initialize_fresh_asks (hsmallest : handle.is_smallest_name = true)
    (hreported : ∀ peer ∈ peer_names handle, reported_no_cluster handle.self_record.name peer ∈ history)
    (hfirst : Unfounded history) :
    (try_initialize_fresh handle).Asks (AsksConfirmed handle) history := by
  refine ⟨trivial, fun initialized => ?_⟩
  cases initialized with
  | true => trivial
  | false =>
    refine Program.Asks.bind ((collect_records_asks _).mono fun _ _ => probing_confirmed) ?_
    intro trace collected hcollect
    cases collected with
    | none => trivial
    | some records =>
      have hcollected : Unfounded trace :=
        unfounded_of_probing (collect_records_asks handle.self_record.name) hcollect
      have hasked : Unfounded [⟨.cluster_is_initialized, false⟩] := by simp [Unfounded]
      refine do_initialize_asks hsmallest ?_ ((hfirst.append hasked).append hcollected) ?_
      · intro peer hpeer
        exact List.mem_append_left _ (List.mem_append_left _ (hreported peer hpeer))
      · rw [collect_records_returns hcollect, List.length_singleton, Nat.add_comm]

theorem discover_and_join_pass_asks :
    (discover_and_join_pass handle).Asks (AsksConfirmed handle) [] := by
  refine ⟨trivial, fun voter => ?_⟩
  cases voter with
  | true => trivial
  | false =>
    refine Program.Asks.bind (probe_asks.mono fun _ _ => probing_confirmed) ?_
    rintro trace ⟨observed_cluster, count⟩ hprobe
    refine ⟨trivial, fun initialized => ?_⟩
    beta_reduce
    split
    · trivial
    · split
      · next hall =>
        obtain ⟨hsmallest, hcount⟩ : handle.is_smallest_name = true ∧ count = (peer_names handle).length := by
          simpa using hall
        have hreported := (probe_returns hprobe).2 (by rw [hcount, Nat.zero_add])
        have hprobed : Unfounded trace := unfounded_of_probing probe_asks hprobe
        refine Program.Asks.bind (try_initialize_fresh_asks hsmallest ?_ ?_) fun _ _ _ => trivial
        · intro peer hpeer
          exact List.mem_append_left _ (List.mem_append_right _ (hreported peer hpeer))
        · refine Unfounded.append (Unfounded.append ?_ hprobed) ?_ <;> simp [Unfounded]
      · trivial

end Pass

end enclavia.synchronizer.raft
