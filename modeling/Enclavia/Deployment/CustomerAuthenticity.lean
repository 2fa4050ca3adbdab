import Enclavia.Deployment.MeshAuthenticity

open interaction enclavia.protocol enclavia.synchronizer

namespace enclavia.deployment

namespace Deployment

variable {Blob Instance Session : Type} {D : Deployment Blob Instance Session} [DecidableEq Session]
  {trace : Trace Session TransportError (Plaintext Blob) (Reply Blob)} {s : Session}

def PolicyOfSynchronizers (D : Deployment Blob Instance Session) (customer : Instance) : Prop :=
  ∀ i, (D.identity i).image_pcrs ∈ D.server_policy customer → D.image i = .synchronizer

theorem mesh_responder_silent (hvalid : D.network.Valid trace) {i customer : Instance}
    (hmesh : D.ends s .Responder = some (i, .mesh)) (hclient : D.ends s .Initiator = some (customer, .client))
    {message : Plaintext Blob} {sent : Except TransportError Unit} :
    (s, Role.Responder, (⟨.write message, sent⟩ : SessionEvent Blob)) ∉ trace := by
  intro hmem
  obtain ⟨i', p, before, hend, hbefore, hsends, -⟩ := event_speaks hvalid hmem
  rw [hmesh] at hend
  cases hend
  obtain ⟨read, nsm_doc, identity_sig, hread, hdecode⟩ := hsends rfl
  have hreceived : (s, Role.Responder, SessionEvent.received read) ∈ trace :=
    Network.mem_localTrace.mp (hbefore.subset hread)
  obtain ⟨result, hwritten⟩ := hvalid.received_from_party hreceived (network_party hclient)
  obtain ⟨i', p, before, hend, -, hframe, -⟩ := event_speaks hvalid hwritten
  rw [Role.other, hclient] at hend
  cases hend
  obtain ⟨doc, rfl⟩ := hframe
  rw [Frame.authenticate, mesh.MeshFrame.decode_customer_authenticate] at hdecode
  cases hdecode

theorem client_accepts (hvalid : D.network.Valid trace) {customer : Instance}
    (hend : D.ends s .Initiator = some (customer, .client)) (hpolicy : D.PolicyOfSynchronizers customer)
    {protocol : PeerProtocol}
    (hok : (D.client_program customer).run.Returns (localTrace trace s .Initiator) (.ok protocol)) :
    ∃ i doc, D.ends s .Responder = some (i, .listener) ∧
      (D.identity i).image_pcrs ∈ D.server_policy customer ∧
      D.ReadAt trace s .Initiator doc ∧ D.MadeAt trace s .Responder doc := by
  obtain ⟨hash, own_doc, message, server_doc, version, capabilities, now_ms, pcrs, htrace, hdecode, hverify, -⟩ :=
    client.connect_and_authenticate_returns.mp hok
  obtain ⟨doc, identity, hdoc, -, hnonce, hidentity, rfl, hexpected⟩ :=
    (verify_server_attestation_ok D.production).mp hverify
  have hhandshaken : (s, Role.Initiator, SessionEvent.handshaken hash) ∈ trace := by
    rw [← Network.mem_localTrace, htrace]
    simp
  have hreceived : (s, Role.Initiator, SessionEvent.received message) ∈ trace := by
    rw [← Network.mem_localTrace, htrace]
    simp
  rw [hash_of_handshaken hvalid hhandshaken] at hnonce
  have hread : D.ReadAt trace s .Initiator doc :=
    ⟨message, hreceived, server_doc, Frame.decode_authenticate_mem hdecode, hdoc⟩
  obtain ⟨r, i, p, hmaker, hi, hannounces, hmade⟩ | ⟨i, -, hi, hother⟩ :=
    session_document hvalid hread hnonce hidentity
  · have hpcrs : (D.identity i).image_pcrs ∈ D.server_policy customer := hi ▸ hexpected
    have hruns := D.ends_run s r i p hmaker
    rw [hpolicy i hpcrs] at hruns
    have hrole : r = Role.Initiator.other := by
      refine Role.eq_other_of_ne ?_
      rintro rfl
      rw [hend] at hmaker
      cases hmaker
      cases hruns.1
    subst hrole
    cases p with
    | mesh =>
      obtain ⟨sent, hwritten⟩ := hvalid.received_from_party hreceived (network_party hmaker)
      exact absurd hwritten (mesh_responder_silent hvalid hmaker hend)
    | listener => exact ⟨i, doc, hmaker, hpcrs, hread, hmade⟩
    | client | server kind rounds => cases hruns.1
  · have hsync := hpolicy i (hi ▸ hexpected)
    obtain hforeign | ⟨hcustomer, -⟩ := hother
    · cases hforeign.symm.trans hsync
    · cases hcustomer.symm.trans hsync

theorem listener_accepts (hvalid : D.network.Valid trace) {node : Instance}
    (hend : D.ends s .Responder = some (node, .listener)) {session_key : PcrKey} {pubkey : ControlPubkey}
    (hok : D.listener_program.run.Returns (localTrace trace s .Responder) (.ok (some (session_key, pubkey)))) :
    ∃ doc : AttestationDoc, D.ReadAt trace s .Responder doc ∧ doc.user_data = some pubkey.toList ∧
      ((∃ i p, D.ends s .Initiator = some (i, p) ∧ (p = .client ∨ p = .mesh) ∧
          session_key = ⟨(D.identity i).key⟩ ∧ D.MadeAt trace s .Initiator doc) ∨
        (∃ i, D.image i = .foreign ∧ session_key = ⟨(D.identity i).key⟩ ∧ doc.pcrs = D.pcrs i ∧
          doc.nonce = some (D.hash s))) := by
  obtain ⟨hash, message, nsm_doc, version, capabilities, now_ms, own_doc, htrace, hdecode, hfacts⟩ :=
    listener.handle_connection_returns.mp hok
  obtain ⟨doc, identity, hdoc, -, hnonce, hidentity, hkey, hdata, -⟩ :=
    (attest.session_facts_ok D.production).mp hfacts
  have hhandshaken : (s, Role.Responder, SessionEvent.handshaken hash) ∈ trace := by
    rw [← Network.mem_localTrace, htrace]
    simp
  have hreceived : (s, Role.Responder, SessionEvent.received message) ∈ trace := by
    rw [← Network.mem_localTrace, htrace]
    simp
  rw [hash_of_handshaken hvalid hhandshaken] at hnonce
  have hlength : ∀ digest : Vector UInt8 32, some pubkey.toList ≠ some digest.toList := by
    intro digest h
    have hlen := congrArg List.length (Option.some.inj h)
    rw [Vector.length_toList, Vector.length_toList] at hlen
    cases hlen
  have hread : D.ReadAt trace s .Responder doc :=
    ⟨message, hreceived, nsm_doc, Frame.decode_authenticate_mem hdecode, hdoc⟩
  refine ⟨doc, hread, hdata, ?_⟩
  obtain ⟨r, i, p, hmaker, hi, hannounces, hmade⟩ | ⟨i, hpcrs, hi, hforeign | ⟨-, payload, hlink⟩⟩ :=
    session_document hvalid hread hnonce hidentity
  · rw [hdata] at hannounces
    have hprotocol : p = .client ∨ p = .mesh := by
      cases p with
      | mesh => exact .inr rfl
      | listener => cases hannounces
      | client => exact .inl rfl
      | server kind rounds =>
        obtain ⟨nonce, hnonce'⟩ := hannounces
        exact absurd hnonce' (hlength nonce)
    have hrole : r = Role.Responder.other := by
      refine Role.eq_other_of_ne ?_
      rintro rfl
      rw [hend] at hmaker
      cases hmaker
      obtain h | h := hprotocol <;> cases h
    subst hrole
    exact .inl ⟨i, p, hmaker, hprotocol, hi ▸ hkey, hmade⟩
  · exact .inr ⟨i, hforeign, hi ▸ hkey, hpcrs, hnonce⟩
  · exact absurd (hdata.symm.trans hlink) (hlength _)

/-- In every run: the document that a customer accepts was made by a listener at the other end,
the document that the listener accepts was made at the other end by a customer or by a mesh
dialer, or by a foreign image, and the document that the mesh accepts was made by the mesh; each
for this session, and by the instance it is taken to be from. -/
theorem session_documents_authentic (hvalid : D.network.Valid trace) :
    (∀ s customer protocol, D.ends s .Initiator = some (customer, .client) →
      D.PolicyOfSynchronizers customer →
      (D.client_program customer).run.Returns (localTrace trace s .Initiator) (.ok protocol) →
      ∃ i doc, D.ends s .Responder = some (i, .listener) ∧
        (D.identity i).image_pcrs ∈ D.server_policy customer ∧
        D.ReadAt trace s .Initiator doc ∧ D.MadeAt trace s .Responder doc) ∧
    (∀ s node session_key pubkey, D.ends s .Responder = some (node, .listener) →
      D.listener_program.run.Returns (localTrace trace s .Responder) (.ok (some (session_key, pubkey))) →
      ∃ doc : AttestationDoc, D.ReadAt trace s .Responder doc ∧ doc.user_data = some pubkey.toList ∧
        ((∃ i p, D.ends s .Initiator = some (i, p) ∧ (p = .client ∨ p = .mesh) ∧
            session_key = ⟨(D.identity i).key⟩ ∧ D.MadeAt trace s .Initiator doc) ∨
          (∃ i, D.image i = .foreign ∧ session_key = ⟨(D.identity i).key⟩ ∧ doc.pcrs = D.pcrs i ∧
            doc.nonce = some (D.hash s)))) ∧
    (∀ s r self peer, D.ends s r = some (self, .mesh) →
      (D.mesh_program self r).run.Returns (localTrace trace s r) (.ok peer) →
      ∃ r' i doc, D.ends s r' = some (i, .mesh) ∧ D.identity i = D.identity self ∧
        D.ReadAt trace s r doc ∧ D.MadeAt trace s r' doc) := by
  refine ⟨?_, ?_, ?_⟩
  · intro s customer protocol hend hpolicy hok
    exact client_accepts hvalid hend hpolicy hok
  · intro s node session_key pubkey hend hok
    exact listener_accepts hvalid hend hok
  · intro s r self peer hend hok
    obtain ⟨r', i, doc, hmaker, hidentity, -, -, hread, hmade⟩ := mesh_accepts hvalid hend hok
    exact ⟨r', i, doc, hmaker, hidentity, hread, hmade⟩

end Deployment

namespace sample

def serve_events (s : Link) (message : Plaintext Term) : List (SessionEvent Term) :=
  [.handshaken (hash s), .received message, .told 0, .attested (hash s) none (document .B s none),
    .sent (Frame.authenticate (document .B s none)).encode]

theorem serve_returns {i : Enclave} {s : Link} {message : Plaintext Term} {version : UInt32}
    {capabilities : List String} (hdecode : Frame.decode message =
      .ok (.Authenticate (document i s (some (pubkey i).toList)) version capabilities)) :
    world.listener_program.run.Returns (serve_events s message)
      (.ok (some (⟨(identity i).key⟩, pubkey i))) := by
  refine listener.handle_connection_returns.mpr ⟨hash s, message, _, version, capabilities, 0, _, rfl, hdecode, ?_⟩
  refine (attest.session_facts_ok rfl).mpr ⟨_, identity i, rfl, ?_, rfl, world.measured i, rfl, rfl, pubkey_first i⟩
  show ¬DocLibrary.abs_diff 0 0 > _
  decide

def misrouted_trace : Trace Link TransportError (Plaintext Term) (Reply Term) :=
  atEnd .misrouted .Initiator (attest_events .A .misrouted ++ [.sent (mesh_frame .A .misrouted).encode]) ++
    atEnd .misrouted .Responder (serve_events .misrouted (mesh_frame .A .misrouted).encode)

theorem misrouted_returns :
    world.listener_program.run.Returns (localTrace misrouted_trace .misrouted .Responder)
      (.ok (some (⟨(identity .A).key⟩, pubkey .A))) :=
  serve_returns (mesh.MeshFrame.customer_decode_authenticate _ _)

theorem misrouted_valid : world.network.Valid misrouted_trace := by
  refine Network.Valid.of_permitted ?_ ?_
  · rintro s r ⟨event, hmem⟩
    simp only [misrouted_trace, List.mem_append, Network.mem_atEnd] at hmem
    obtain ⟨rfl, rfl, -⟩ | ⟨rfl, rfl, -⟩ := hmem
    · obtain ⟨q, hrun⟩ := ((echoed_returns .misrouted).run_bind fun _ => .ret ()).of_append
      exact ⟨_, q, Deployment.network_party rfl, hrun⟩
    · exact ⟨_, .ret (), Deployment.network_party rfl, misrouted_returns.run_bind _⟩
  · refine ⟨?_, trivial, ?_, trivial, ?_, rfl, trivial, ?_, trivial, trivial⟩
    · rintro _ ⟨⟩
      rfl
    · rintro _ ⟨⟩
      exact ⟨.A, .mesh, _, rfl, rfl, rfl, rfl, rfl⟩
    · rintro _ ⟨⟩
      rfl
    · rintro _ ⟨⟩
      exact ⟨.B, .listener, _, rfl, rfl, rfl, rfl, rfl⟩

/-- The document that `A` made for a mesh handshake binds a customer session of `B`. -/
theorem handle_connection_accepts_mesh_document :
    ∃ trace doc, world.network.Valid trace ∧ world.ends .misrouted .Initiator = some (.A, .mesh) ∧
      world.MadeAt trace .misrouted .Initiator doc ∧
      world.ends .misrouted .Responder = some (.B, .listener) ∧ world.ReadAt trace .misrouted .Responder doc ∧
      world.listener_program.run.Returns (localTrace trace .misrouted .Responder)
        (.ok (some (⟨(identity .A).key⟩, pubkey .A))) := by
  refine ⟨misrouted_trace, ⟨0, pcrs .A, some (hash .misrouted), some (pubkey .A).toList⟩, misrouted_valid, rfl,
    ⟨document .A .misrouted (some (pubkey .A).toList), ?_, rfl⟩, rfl,
    ⟨(mesh_frame .A .misrouted).encode, ?_, document .A .misrouted (some (pubkey .A).toList),
      List.mem_cons_self, rfl⟩, misrouted_returns⟩
  · exact List.mem_append_left _ (Network.mem_atEnd.mpr ⟨rfl, rfl, by simp [attest_events, world]⟩)
  · exact List.mem_append_right _ (Network.mem_atEnd.mpr ⟨rfl, rfl, by simp [serve_events]⟩)

def customer_frame : Frame Term := .authenticate (document .customer .served (some (pubkey .customer).toList))

def connect_events : List (SessionEvent Term) :=
  [.handshaken (hash .served), .attested (hash .served) (some (pubkey .customer).toList)
    (document .customer .served (some (pubkey .customer).toList)), .sent customer_frame.encode]

def verify_events : List (SessionEvent Term) :=
  [.received (Frame.authenticate (document .B .served none)).encode, .system_told 0]

def served_trace : Trace Link TransportError (Plaintext Term) (Reply Term) :=
  atEnd .served .Initiator connect_events ++
    atEnd .served .Responder (serve_events .served customer_frame.encode) ++
    atEnd .served .Initiator verify_events

theorem served_client_returns :
    (world.client_program .customer).run.Returns (localTrace served_trace .served .Initiator)
      (.ok (.from_advertised PROTOCOL_VERSION SUPPORTED_CAPABILITIES)) := by
  refine client.connect_and_authenticate_returns.mpr ⟨hash .served, _, _, document .B .served none, _, _, 0,
    (identity .B).image_pcrs, rfl, Frame.decode_encode _, ?_, rfl⟩
  refine (verify_server_attestation_ok rfl).mpr
    ⟨_, identity .B, rfl, ?_, rfl, world.measured .B, rfl, List.mem_singleton_self _⟩
  show ¬DocLibrary.abs_diff 0 0 > _
  decide

theorem served_listener_returns :
    world.listener_program.run.Returns (localTrace served_trace .served .Responder)
      (.ok (some (⟨(identity .customer).key⟩, pubkey .customer))) :=
  serve_returns (Frame.decode_encode _)

theorem served_valid : world.network.Valid served_trace := by
  refine Network.Valid.of_permitted ?_ ?_
  · rintro s r ⟨event, hmem⟩
    simp only [served_trace, List.mem_append, Network.mem_atEnd] at hmem
    obtain (⟨rfl, rfl, -⟩ | ⟨rfl, rfl, -⟩) | ⟨rfl, rfl, -⟩ := hmem
    · exact ⟨_, .ret (), Deployment.network_party rfl, served_client_returns.run_bind _⟩
    · exact ⟨_, .ret (), Deployment.network_party rfl, served_listener_returns.run_bind _⟩
    · exact ⟨_, .ret (), Deployment.network_party rfl, served_client_returns.run_bind _⟩
  · refine ⟨?_, ?_, trivial, ?_, rfl, trivial, ?_, trivial, rfl, trivial, trivial⟩
    · rintro _ ⟨⟩
      rfl
    · rintro _ ⟨⟩
      exact ⟨.customer, .client, _, rfl, rfl, rfl, rfl, rfl⟩
    · rintro _ ⟨⟩
      rfl
    · rintro _ ⟨⟩
      exact ⟨.B, .listener, _, rfl, rfl, rfl, rfl, rfl⟩

theorem policy_of_synchronizers : world.PolicyOfSynchronizers .customer := by
  intro i hmem
  have hpcrs : (identity i).image_pcrs = (identity .B).image_pcrs := List.mem_singleton.mp hmem
  exact world.image_measured i .B hpcrs

/-- A customer is served by a listener of its policy. -/
theorem session_documents_authentic_served :
    (∃ i doc, world.ends .served .Responder = some (i, .listener) ∧
      (world.identity i).image_pcrs ∈ world.server_policy .customer ∧
      world.ReadAt served_trace .served .Initiator doc ∧ world.MadeAt served_trace .served .Responder doc) ∧
    ∃ doc : AttestationDoc, world.ReadAt served_trace .served .Responder doc ∧
      doc.user_data = some (pubkey .customer).toList := by
  obtain ⟨hclient, hlistener, -⟩ := Deployment.session_documents_authentic served_valid
  obtain ⟨doc, hread, hdata, -⟩ := hlistener .served .B _ _ rfl served_listener_returns
  exact ⟨hclient .served .customer _ rfl policy_of_synchronizers served_client_returns, doc, hread, hdata⟩

end sample

end enclavia.deployment
