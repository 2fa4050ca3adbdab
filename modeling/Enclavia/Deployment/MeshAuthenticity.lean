import Enclavia.Deployment.World

open interaction enclavia.protocol enclavia.synchronizer

namespace enclavia.deployment

variable {Blob Instance Session : Type}

namespace Deployment

/-- The other end of the session is another instance of the same image that holds the key and has
made its document for this session in a mesh handshake. -/
def GenuinePeer (D : Deployment Blob Instance Session)
    (trace : Trace Session TransportError (Plaintext Blob) (Reply Blob)) (s : Session) (r : Role)
    (self : Instance) (pubkey : ControlPubkey) : Prop :=
  ∃ peer doc, D.ends s r.other = some (peer, .mesh) ∧ peer ≠ self ∧ D.identity peer = D.identity self ∧
    (D.mesh_identity peer).pubkey = pubkey ∧ doc.user_data = some pubkey.toList ∧ D.MadeAt trace s r.other doc

def AnnouncesKey (D : Deployment Blob Instance Session) (message : Plaintext Blob)
    (pubkey : ControlPubkey) : Prop :=
  ∃ nsm_doc identity_sig doc, mesh.MeshFrame.decode message = .ok (.Authenticate nsm_doc identity_sig) ∧
    D.verifier.lib.validate_at_doc_timestamp nsm_doc = .ok doc ∧ doc.user_data = some pubkey.toList

theorem AnnouncesKey.unique {D : Deployment Blob Instance Session} {message : Plaintext Blob}
    {pubkey pubkey' : ControlPubkey} (h : D.AnnouncesKey message pubkey)
    (h' : D.AnnouncesKey message pubkey') : pubkey = pubkey' := by
  obtain ⟨nsm_doc, identity_sig, doc, hdecode, hdoc, hdata⟩ := h
  obtain ⟨nsm_doc', identity_sig', doc', hdecode', hdoc', hdata'⟩ := h'
  rw [hdecode] at hdecode'
  cases hdecode'
  rw [hdoc] at hdoc'
  cases hdoc'
  rw [hdata, Option.some.injEq] at hdata'
  exact Vector.toList_inj.mp hdata'

variable {D : Deployment Blob Instance Session} [DecidableEq Session]
  {trace : Trace Session TransportError (Plaintext Blob) (Reply Blob)} {peer : mesh.PeerIdentity}

theorem mesh_read_frame (hvalid : D.network.Valid trace) {s : Session} {r : Role} {self : Instance}
    (hok : (D.mesh_program self r).run.Returns (localTrace trace s r) (.ok peer)) :
    ∃ message, (s, r, SessionEvent.received message) ∈ trace ∧
      (∀ other, (s, r, SessionEvent.received other) ∈ trace → other = message) ∧
      D.AnnouncesKey message peer.mesh_pubkey ∧
      ∃ doc identity, D.ReadAt trace s r doc ∧ doc.nonce = some (D.hash s) ∧
        PinIdentity.from_doc_pcrs doc.pcrs = .ok identity ∧ identity.key = (D.identity self).key ∧
        doc.user_data = some peer.mesh_pubkey.toList := by
  obtain ⟨hash, own_doc, message, peer_doc, peer_sig, now_ms, htrace, hdecode, hverify⟩ :=
    mesh.mutual_authenticate_returns.mp hok
  obtain ⟨hfacts, hadmits, -⟩ := mesh.Verifier.verify_peer_ok.mp hverify
  obtain ⟨doc, identity, hdoc, -, hnonce, hidentity, hkey, hdata, -⟩ :=
    (attest.session_facts_ok D.production).mp hfacts
  have hhandshaken : (s, r, SessionEvent.handshaken hash) ∈ trace := by
    rw [← Network.mem_localTrace, htrace]
    simp
  rw [hash_of_handshaken hvalid hhandshaken] at hnonce
  rw [mesh.PcrAllowlist.self_only_admits, hkey, PcrKey.mk.injEq] at hadmits
  have hall : (localTrace trace s r).filterMap Event.received = [message] := by
    rw [htrace]
    cases r <;> rfl
  have hreceived : (s, r, SessionEvent.received message) ∈ trace := by
    rw [← Network.mem_localTrace, htrace]
    cases r <;> simp [mesh.exchange_events]
  refine ⟨message, hreceived, ?_, ⟨peer_doc, peer_sig, doc, hdecode, hdoc, hdata⟩, doc, identity,
    ⟨message, hreceived, peer_doc, mesh.MeshFrame.decode_authenticate_mem hdecode, hdoc⟩, hnonce,
    hidentity, hadmits, hdata⟩
  intro other hother
  have hmem : other ∈ (localTrace trace s r).filterMap Event.received :=
    List.mem_filterMap.mpr ⟨_, Network.mem_localTrace.mpr hother, rfl⟩
  rw [hall] at hmem
  exact List.mem_singleton.mp hmem

theorem mesh_accepts (hvalid : D.network.Valid trace) {s : Session} {r : Role} {self : Instance}
    (hend : D.ends s r = some (self, .mesh))
    (hok : (D.mesh_program self r).run.Returns (localTrace trace s r) (.ok peer)) :
    ∃ r' i doc, D.ends s r' = some (i, .mesh) ∧ D.identity i = D.identity self ∧
      (D.mesh_identity i).pubkey = peer.mesh_pubkey ∧ doc.user_data = some peer.mesh_pubkey.toList ∧
      D.ReadAt trace s r doc ∧ D.MadeAt trace s r' doc := by
  obtain ⟨message, -, -, -, doc, identity, hread, hnonce, hidentity, hkey, hdata⟩ := mesh_read_frame hvalid hok
  have himage : D.image self = .synchronizer := D.ends_run s r self .mesh hend
  have hsame {i : Instance} (hi : D.identity i = identity) : D.identity i = D.identity self :=
    identity_of_key (hi ▸ hkey)
  obtain ⟨r', i, p, hend', hi, hannounces, hmade⟩ | ⟨i, -, hi, hother⟩ :=
    session_document hvalid hread hnonce hidentity
  · have hsync := (image_of_identity (hsame hi)).trans himage
    have hruns := D.ends_run s r' i p hend'
    rw [hdata] at hannounces
    cases p with
    | mesh =>
      rw [Announces, Option.some.injEq] at hannounces
      exact ⟨r', i, doc, hend', hsame hi, (Vector.toList_inj.mp hannounces).symm, hdata, hread, hmade⟩
    | listener => cases hannounces
    | client | server kind rounds => cases hruns.1.symm.trans hsync
  · have hsync := (image_of_identity (hsame hi)).trans himage
    obtain hforeign | ⟨hcustomer, -⟩ := hother
    · cases hforeign.symm.trans hsync
    · cases hcustomer.symm.trans hsync

/-- In every run, an end that a mesh handshake succeeded at has a genuine peer exactly when the
frame it read does not announce its own key. -/
theorem mutual_authenticate_genuine_peer_iff (hvalid : D.network.Valid trace) {s : Session} {r : Role}
    {self : Instance} (hend : D.ends s r = some (self, .mesh)) {peer : mesh.PeerIdentity}
    (hok : (D.mesh_program self r).run.Returns (localTrace trace s r) (.ok peer)) :
    D.GenuinePeer trace s r self peer.mesh_pubkey ↔
      ∀ message, (s, r, SessionEvent.received message) ∈ trace →
        ¬D.AnnouncesKey message (D.mesh_identity self).pubkey := by
  obtain ⟨message, hreceived, honly, hannounces, -⟩ := mesh_read_frame hvalid hok
  constructor
  · rintro ⟨i, doc, -, hne, -, hkey, -⟩ message' hreceived' hown
    obtain rfl := honly message' hreceived'
    have hsame := hkey.trans (hannounces.unique hown)
    exact hne (D.mesh_pubkey_injective i self hsame)
  · intro hother
    obtain ⟨r', i, doc, hend', hidentity, hkey, hdata, -, hmade⟩ := mesh_accepts hvalid hend hok
    have hne : i ≠ self := by
      rintro rfl
      exact hother message hreceived (hkey ▸ hannounces)
    have hrole : r' = r.other := by
      refine Role.eq_other_of_ne ?_
      rintro rfl
      rw [hend, Option.some.injEq, Prod.mk.injEq] at hend'
      exact hne hend'.1.symm
    subst hrole
    exact ⟨i, doc, hend', hne, hidentity, hkey, hdata, hmade⟩

end Deployment

inductive Term where
  | document (doc : AttestationDoc)
  | signature (key : ControlPubkey) (hash : List UInt8)

namespace Term

def lib : DocLibrary Term where
  validate_at_doc_timestamp
    | .document doc => .ok doc
    | .signature _ _ => .error (.Malformed, "not a document")
  decode_attestation_document
    | .document doc => .ok doc
    | .signature _ _ => .error "not a document"
  validate_expected_nonce doc nonce := if doc.nonce = some nonce then .ok () else .error "nonce mismatch"
  validate_expected_nonce_ok := expected_nonce_ok

def p256 : mesh.P256 Term where
  from_sec1_bytes _ := true
  from_slice
    | .document _ => false
    | .signature _ _ => true
  verify key hash
    | .document _ => false
    | .signature key' hash' => key == key' && hash == hash'

def verifier : mesh.Verifier Term := ⟨lib, p256, ⟨false, false⟩⟩

end Term

namespace sample

inductive Enclave where
  | A
  | B
  | customer

inductive Link where
  | answered
  | dialed
  | misrouted
  | served
deriving DecidableEq

def image : Enclave → Image
  | .A => .synchronizer
  | .B => .synchronizer
  | .customer => .customer

def measurement : Enclave → UInt8
  | .A => 1
  | .B => 1
  | .customer => 2

def pcrs (i : Enclave) : DocPcrs :=
  Std.ExtTreeMap.ofList ([0, 1, 2].map fun index => (index, List.replicate PCR_LEN (measurement i))) compare

def identity (i : Enclave) : PinIdentity :=
  ⟨Vector.replicate _ (Vector.replicate _ (measurement i)), ZERO_USER_PCRS⟩

def tag : Enclave → UInt8
  | .A => 1
  | .B => 2
  | .customer => 3

def pubkey (i : Enclave) : ControlPubkey :=
  Vector.ofFn fun n => if n.val = 0 then 0x04 else if n.val = 1 then tag i else 0

theorem pubkey_first (i : Enclave) : (pubkey i)[0] = 0x04 := by simp [pubkey]

theorem pubkey_injective {i j : Enclave} (h : pubkey i = pubkey j) : i = j := by
  have htag : tag i = tag j := by simpa [pubkey] using congrArg (fun key => key[1]) h
  cases i <;> cases j <;> first | rfl | exact absurd htag (by decide)

def hash : Link → List UInt8
  | .answered => [0]
  | .dialed => [1]
  | .misrouted => [2]
  | .served => [3]

def ends : Link → Role → Option (Enclave × Protocol)
  | .answered, .Initiator => some (.A, .mesh)
  | .answered, .Responder => none
  | .dialed, .Initiator => some (.A, .mesh)
  | .dialed, .Responder => some (.B, .mesh)
  | .misrouted, .Initiator => some (.A, .mesh)
  | .misrouted, .Responder => some (.B, .listener)
  | .served, .Initiator => some (.customer, .client)
  | .served, .Responder => some (.B, .listener)

theorem measured_node : PinIdentity.from_doc_pcrs (pcrs .A) = .ok (identity .A) := by decide +kernel

theorem image_ne : (identity .A).image_pcrs ≠ (identity .customer).image_pcrs := by decide +kernel

theorem key_ne : (identity .A).key ≠ (identity .customer).key := by
  change (PinIdentity.uniform 1).key ≠ (PinIdentity.uniform 2).key
  rw [PinIdentity.uniform_one_key, PinIdentity.uniform_two_key]
  decide

def world : Deployment Term Enclave Link where
  verifier := Term.verifier
  production := rfl
  image := image
  pcrs := pcrs
  identity := identity
  measured i := by
    cases i <;> first | exact measured_node | decide +kernel
  image_measured i j h := by
    cases i <;> cases j <;> first | rfl | exact absurd h image_ne | exact absurd h.symm image_ne
  key_collision_free i j h := by
    cases i <;> cases j <;> first | rfl | exact absurd h key_ne | exact absurd h.symm key_ne
  mesh_identity i := ⟨pubkey i, fun hash => .signature (pubkey i) hash⟩
  mesh_pubkey_injective _ _ := pubkey_injective
  signature_no_document := nofun
  control_pubkey := pubkey
  server_policy _ := [(identity .B).image_pcrs]
  hash := hash
  hash_injective s s' := by cases s <;> cases s' <;> decide
  ends := ends
  ends_run s r i p h := by
    cases s <;> cases r <;> simp only [ends, Option.some.injEq, Prod.mk.injEq, reduceCtorEq] at h <;>
      obtain ⟨rfl, rfl⟩ := h <;> simp only [Protocol.RunsOn, image, and_self]

def document (i : Enclave) (s : Link) (data : Option (List UInt8)) : Term :=
  .document ⟨0, pcrs i, some (hash s), data⟩

def mesh_frame (i : Enclave) (s : Link) : mesh.MeshFrame Term :=
  .Authenticate (document i s (some (pubkey i).toList)) (.signature (pubkey i) (hash s))

theorem verify_peer_mesh_frame (i : Enclave) (s : Link) :
    Term.verifier.verify_peer (.self_only ⟨(identity i).key⟩) (hash s)
      (document i s (some (pubkey i).toList)) (.signature (pubkey i) (hash s)) 0 =
        .ok ⟨⟨(identity i).key⟩, pubkey i⟩ := by
  refine mesh.Verifier.verify_peer_ok.mpr ⟨?_, ?_, ?_⟩
  · refine (attest.session_facts_ok rfl).mpr ⟨_, identity i, rfl, ?_, rfl, world.measured i, rfl, rfl, ?_⟩
    · show ¬DocLibrary.abs_diff 0 0 > _
      decide
    · exact pubkey_first i
  · rw [mesh.PcrAllowlist.self_only_admits]
  · simp [mesh.verify_mesh_identity, Term.verifier, Term.p256]

def attest_events (i : Enclave) (s : Link) : List (SessionEvent Term) :=
  [.handshaken (hash s), .in_time "local attest" mesh.ATTEST_TIMEOUT,
    .attested (hash s) (some (pubkey i).toList) (document i s (some (pubkey i).toList))]

def read_events (i : Enclave) (s : Link) : List (SessionEvent Term) :=
  [.in_time "peer Authenticate read" mesh.PEER_AUTH_READ_TIMEOUT, .received (mesh_frame i s).encode]

def echoed_events (s : Link) : List (SessionEvent Term) :=
  attest_events .A s ++ [.sent (mesh_frame .A s).encode] ++ (read_events .A s ++ [.told 0])

theorem echoed_returns (s : Link) :
    (world.mesh_program .A .Initiator).run.Returns (echoed_events s) (.ok ⟨⟨(identity .A).key⟩, pubkey .A⟩) :=
  mesh.mutual_authenticate_returns.mpr ⟨hash s, _, (mesh_frame .A s).encode, _, _, 0, rfl,
    mesh.MeshFrame.decode_encode _, verify_peer_mesh_frame .A s⟩

theorem echoed_valid : world.network.Valid (atEnd .answered .Initiator (echoed_events .answered)) := by
  refine Network.Valid.of_permitted ?_ ?_
  · rintro s r ⟨event, hmem⟩
    obtain ⟨rfl, rfl, -⟩ := Network.mem_atEnd.mp hmem
    refine ⟨_, .ret (), Deployment.network_party rfl, ?_⟩
    rw [Network.localTrace_atEnd, if_pos ⟨rfl, rfl⟩]
    exact (echoed_returns .answered).run_bind _
  · refine ⟨?_, trivial, ?_, trivial, trivial, ?_, trivial, trivial⟩
    · rintro _ ⟨⟩
      rfl
    · rintro _ ⟨⟩
      exact ⟨.A, .mesh, _, rfl, rfl, rfl, rfl, rfl⟩
    · exact Deployment.Derivable.of_mem (List.mem_singleton_self _)

/-- `A` takes the host that echoes its own frame for a peer. -/
theorem mutual_authenticate_accepts_own_frame :
    ∃ trace peer, world.network.Valid trace ∧ world.ends .answered .Initiator = some (.A, .mesh) ∧
      (world.mesh_program .A .Initiator).run.Returns (localTrace trace .answered .Initiator) (.ok peer) ∧
      peer.mesh_pubkey = (world.mesh_identity .A).pubkey ∧ world.ends .answered .Responder = none ∧
      ¬world.GenuinePeer trace .answered .Initiator .A peer.mesh_pubkey := by
  refine ⟨_, ⟨⟨(identity .A).key⟩, pubkey .A⟩, echoed_valid, rfl, ?_, rfl, rfl, ?_⟩
  · rw [Network.localTrace_atEnd, if_pos ⟨rfl, rfl⟩]
    exact echoed_returns .answered
  · rintro ⟨i, doc, hend, -⟩
    cases hend

def dialed_trace : Trace Link TransportError (Plaintext Term) (Reply Term) :=
  atEnd .dialed .Initiator (attest_events .A .dialed ++ [.sent (mesh_frame .A .dialed).encode]) ++
    atEnd .dialed .Responder (attest_events .B .dialed ++ read_events .A .dialed ++
      [.sent (mesh_frame .B .dialed).encode, .told 0]) ++
    atEnd .dialed .Initiator (read_events .B .dialed ++ [.told 0])

theorem dialed_initiator_returns :
    (world.mesh_program .A .Initiator).run.Returns (localTrace dialed_trace .dialed .Initiator)
      (.ok ⟨⟨(identity .B).key⟩, pubkey .B⟩) :=
  mesh.mutual_authenticate_returns.mpr ⟨hash .dialed, _, (mesh_frame .B .dialed).encode, _, _, 0, rfl,
    mesh.MeshFrame.decode_encode _, verify_peer_mesh_frame .B .dialed⟩

theorem dialed_responder_returns :
    (world.mesh_program .B .Responder).run.Returns (localTrace dialed_trace .dialed .Responder)
      (.ok ⟨⟨(identity .A).key⟩, pubkey .A⟩) :=
  mesh.mutual_authenticate_returns.mpr ⟨hash .dialed, _, (mesh_frame .A .dialed).encode, _, _, 0, rfl,
    mesh.MeshFrame.decode_encode _, verify_peer_mesh_frame .A .dialed⟩

theorem dialed_valid : world.network.Valid dialed_trace := by
  refine Network.Valid.of_permitted ?_ ?_
  · rintro s r ⟨event, hmem⟩
    simp only [dialed_trace, List.mem_append, Network.mem_atEnd] at hmem
    obtain (⟨rfl, rfl, -⟩ | ⟨rfl, rfl, -⟩) | ⟨rfl, rfl, -⟩ := hmem
    · exact ⟨_, .ret (), Deployment.network_party rfl, dialed_initiator_returns.run_bind _⟩
    · exact ⟨_, .ret (), Deployment.network_party rfl, dialed_responder_returns.run_bind _⟩
    · exact ⟨_, .ret (), Deployment.network_party rfl, dialed_initiator_returns.run_bind _⟩
  · have hhandshake (hash' : List UInt8) (h : (.ok (hash .dialed) : Except String _) = .ok hash') :
        hash' = world.hash .dialed := by
      cases h
      rfl
    refine ⟨hhandshake, trivial, ?_, trivial, hhandshake, trivial, ?_, trivial, rfl, trivial, trivial, trivial,
      rfl, trivial, trivial⟩
    · rintro _ ⟨⟩
      exact ⟨.A, .mesh, _, rfl, rfl, rfl, rfl, rfl⟩
    · rintro _ ⟨⟩
      exact ⟨.B, .mesh, _, rfl, rfl, rfl, rfl, rfl⟩

/-- The one instance has dialed the other. -/
theorem mutual_authenticate_genuine_peer_dialed :
    world.GenuinePeer dialed_trace .dialed .Initiator .A (pubkey .B) := by
  refine (Deployment.mutual_authenticate_genuine_peer_iff dialed_valid rfl dialed_initiator_returns).mpr ?_
  intro message hmem hown
  have hreceived : message ∈ (localTrace dialed_trace .dialed .Initiator).filterMap Event.received :=
    List.mem_filterMap.mpr ⟨_, Network.mem_localTrace.mpr hmem, rfl⟩
  obtain rfl : message = (mesh_frame .B .dialed).encode := List.mem_singleton.mp hreceived
  obtain ⟨nsm_doc, identity_sig, doc, hdecode, hdoc, hdata⟩ := hown
  rw [mesh.MeshFrame.decode_encode] at hdecode
  cases hdecode
  cases hdoc
  cases pubkey_injective (Vector.toList_inj.mp (Option.some.inj hdata))

end sample

end enclavia.deployment
